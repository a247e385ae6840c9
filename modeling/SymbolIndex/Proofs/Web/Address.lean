-- SUMMARY: Addresses behind one base: with a shorter path they are still of one server.
import Mathlib.Data.List.TakeWhile
import Mathlib.Tactic.ByContra
import SymbolIndex.Web.Exchange

/-!
# Addresses behind a base

An address is read to its end, but the scheme and the authority are settled once a path
has begun. So what stands behind the first name of the path is of no account for them,
unless the base names no host, and the first name of the path is taken for one.
-/

namespace SymbolIndex.Url

/-! ## Up to a character -/

section Lists

variable {p : α → Bool} {c : α}

theorem dropWhile_append_cons (hc : p c = false) (xs ys : List α) :
    (xs ++ c :: ys).dropWhile p = xs.dropWhile p ++ c :: ys := by
  induction xs with
  | nil => simp [hc]
  | cons x xs ih => cases hx : p x <;> simp [hx, ih]

theorem takeWhile_append_cons (hc : p c = false) (xs ys : List α) :
    (xs ++ c :: ys).takeWhile p = xs.takeWhile p := by
  induction xs with
  | nil => simp [hc]
  | cons x xs ih => cases hx : p x <;> simp [hx, ih]

end Lists

/-! ## Cleaning -/

def isBlank (c : Char) : Bool := c.toNat ≤ 0x20

def isKept (c : Char) : Bool := c ≠ '\t' && c ≠ '\n' && c ≠ '\r'

/-- What cleaning leaves in front of a slash. -/
def cleanedFront (cs : List Char) : List Char := (cs.dropWhile isBlank).filter isKept

/-- What cleaning leaves behind a slash. -/
def cleanedBehind (cs : List Char) : List Char :=
  (cs.reverse.dropWhile isBlank).reverse.filter isKept

theorem cleaned_append_slash (xs ys : List Char) :
    cleaned (xs ++ '/' :: ys) = cleanedFront xs ++ '/' :: cleanedBehind ys := by
  have hblank : isBlank '/' = false := by decide
  have hkept : isKept '/' = true := by decide
  show ((((xs ++ '/' :: ys).dropWhile isBlank).reverse.dropWhile isBlank).reverse).filter isKept = _
  rw [dropWhile_append_cons hblank, List.reverse_append, List.reverse_cons, List.append_assoc,
    List.singleton_append, dropWhile_append_cons hblank]
  simp [cleanedFront, cleanedBehind, hkept]

theorem cleanedBehind_append_slash (xs ys : List Char) :
    cleanedBehind (xs ++ '/' :: ys) = xs.filter isKept ++ '/' :: cleanedBehind ys := by
  have hblank : isBlank '/' = false := by decide
  have hkept : isKept '/' = true := by decide
  rw [cleanedBehind, List.reverse_append, List.reverse_cons, List.append_assoc,
    List.singleton_append, dropWhile_append_cons hblank]
  simp [cleanedBehind, hkept]

/-! ## Scheme and authority -/

theorem splitScheme?_append_slash (xs ys : List Char) :
    splitScheme? (xs ++ '/' :: ys) =
      (splitScheme? xs).map fun read => (read.1, read.2 ++ '/' :: ys) := by
  have hslash : isSchemeChar '/' = false := by decide
  unfold splitScheme?
  rw [dropWhile_append_cons hslash, takeWhile_append_cons hslash]
  cases xs with
  | nil => rfl
  | cons x xs =>
      rw [List.cons_append, List.head?_cons, List.head?_cons]
      cases List.dropWhile isSchemeChar (x :: xs) with
      | nil => rfl
      | cons c rest =>
          rw [List.cons_append]
          by_cases hcolon : c = ':'
          · subst hcolon
            cases halpha : x.isAlpha <;> simp [halpha]
          · simp [hcolon]

/-- What is read for the authority behind the scheme of the web. -/
def writtenAuthority (cs : List Char) : List Char :=
  (cs.dropWhile (isSlash .special)).takeWhile fun c => !isSlash .special c

theorem authority_readBody? (cs : List Char) :
    (readBody? "http" cs).map (·.authority) =
      (authority? "http" (writtenAuthority cs)).map fun read => some read.1 := by
  have hkind : kindOf "http" = .special := by decide
  unfold readBody? readAuthority? writtenAuthority
  simp only [hkind]
  cases authority? "http" ((cs.dropWhile (isSlash .special)).takeWhile fun c =>
    !isSlash .special c) <;> rfl

/-- The authority is settled behind a slash of the path, unless no host has come yet. -/
theorem writtenAuthority_append_slash (xs : List Char) :
    (∃ written, ∀ ys, writtenAuthority ((xs ++ '/' :: ys).takeWhile fun c => !isTail c) =
      written) ∨
    ∀ ys, writtenAuthority ((xs ++ '/' :: ys).takeWhile fun c => !isTail c) =
      writtenAuthority (ys.takeWhile fun c => !isTail c) := by
  have hslash : isSlash .special '/' = true := by decide
  have hpath : (!isSlash .special '/') = false := by decide
  have htail : (!isTail '/') = true := by decide
  by_cases hall : ∀ c ∈ xs, (!isTail c) = true
  · have hread : ∀ ys, (xs ++ '/' :: ys).takeWhile (fun c => !isTail c) =
        xs ++ '/' :: ys.takeWhile (fun c => !isTail c) := fun ys => by
      rw [List.takeWhile_append_of_pos hall,
        List.takeWhile_cons_of_pos (p := fun c => !isTail c) htail]
    by_cases hslashes : ∀ c ∈ xs, isSlash .special c = true
    · refine .inr fun ys => ?_
      rw [hread, writtenAuthority, writtenAuthority, List.dropWhile_append_of_pos hslashes,
        List.dropWhile_cons_of_pos hslash]
    · refine .inl ⟨writtenAuthority xs, fun ys => ?_⟩
      rw [hread, writtenAuthority, List.dropWhile_append, if_neg ?_,
        takeWhile_append_cons (p := fun c => !isSlash .special c) hpath, writtenAuthority]
      simpa using hslashes
  · refine .inl ⟨writtenAuthority (xs.takeWhile fun c => !isTail c), fun ys => ?_⟩
    rw [List.takeWhile_append, if_neg ?_]
    intro hlength
    exact hall (List.takeWhile_eq_self_iff.1 ((List.takeWhile_prefix _).eq_of_length hlength))

theorem scheme_of_readAuthority? {scheme : String} {cs : List Char} {url : Url}
    (h : readAuthority? scheme cs = some url) : url.scheme = scheme := by
  unfold readAuthority? at h
  dsimp only at h
  obtain ⟨read, -, hurl⟩ := Option.bind_eq_some_iff.1 h
  rw [← Option.some.inj hurl]

theorem scheme_of_readFile? {cs : List Char} {url : Url} (h : readFile? cs = some url) :
    url.scheme = "file" := by
  unfold readFile? at h
  extract_lets isHere behind written at h
  split at h
  case isTrue => rw [← Option.some.inj h]
  case isFalse =>
    obtain ⟨host, -, hurl⟩ := Option.bind_eq_some_iff.1 h
    rw [← Option.some.inj hurl]

theorem scheme_of_readBody? {scheme : String} {cs : List Char} {url : Url}
    (h : readBody? scheme cs = some url) : url.scheme = scheme := by
  unfold readBody? at h
  split at h
  case h_1 hkind =>
    have hfile : scheme = "file" := by
      by_contra hother
      unfold kindOf at hkind
      rw [if_neg hother] at hkind
      split at hkind <;> cases hkind
    rw [scheme_of_readFile? h, hfile]
  case h_2 => exact scheme_of_readAuthority? h
  case h_3 => exact scheme_of_readAuthority? h
  case h_4 => rw [← Option.some.inj h]
  case h_5 => rw [← Option.some.inj h]

/-! ## Behind one base -/

/-- Of the web are the addresses with that scheme. -/
theorem exists_splitScheme?_of_parse? {text : String} {url : Url} (h : parse? text = some url) :
    ∃ rest, splitScheme? (cleaned text.toList) = some (url.scheme, rest) := by
  unfold parse? at h
  obtain ⟨⟨scheme, rest⟩, hsplit, hread⟩ := Option.bind_eq_some_iff.1 h
  obtain ⟨body, hbody, hurl⟩ := Option.bind_eq_some_iff.1 hread
  refine ⟨rest, ?_⟩
  rw [hsplit, ← Option.some.inj hurl, ← scheme_of_readBody? hbody]

theorem authority_parse? {text : String} {rest : List Char}
    (h : splitScheme? (cleaned text.toList) = some ("http", rest)) :
    (parse? text).map (·.authority) =
      (authority? "http" (writtenAuthority (rest.takeWhile fun c => !isTail c))).map
        fun read => some read.1 := by
  rw [← authority_readBody?, parse?, h]
  dsimp only [Option.bind_eq_bind, Option.bind_some]
  cases readBody? "http" (rest.takeWhile fun c => !isTail c) <;> rfl

/-- Behind a base that names a host on this machine a shorter path is an address too, of
the same scheme and authority. -/
theorem exists_parse?_collections {base rest : String} {url : Url}
    (h : parse? (base ++ ("/collections/" ++ rest)) = some url)
    (hscheme : url.scheme = "http") (hhost : Exchange.isLocal url.host = true) :
    ∃ url', parse? (base ++ "/collections") = some url' ∧ url'.scheme = url.scheme ∧
      url'.authority = url.authority := by
  have hlong : cleaned (base ++ ("/collections/" ++ rest)).toList = cleanedFront base.toList ++
      '/' :: ("collections".toList ++ '/' :: cleanedBehind rest.toList) := by
    have hkept : "collections".toList.filter isKept = "collections".toList := by decide
    rw [← hkept, ← cleanedBehind_append_slash, ← cleaned_append_slash]
    simp
  have hshort : cleaned (base ++ "/collections").toList =
      cleanedFront base.toList ++ '/' :: "collections".toList := by
    have hkept : cleanedBehind "collections".toList = "collections".toList := by decide
    conv_rhs => rw [← hkept]
    rw [← cleaned_append_slash]
    simp
  obtain ⟨read, hread⟩ := exists_splitScheme?_of_parse? h
  rw [hlong, splitScheme?_append_slash] at hread
  obtain ⟨⟨scheme, front⟩, hfront, heq⟩ := Option.map_eq_some_iff.1 hread
  obtain ⟨rfl, rfl⟩ := Prod.mk.inj heq
  rw [hscheme] at hfront
  have hlongSplit : splitScheme? (cleaned (base ++ ("/collections/" ++ rest)).toList) =
      some ("http", front ++ '/' :: ("collections".toList ++ '/' :: cleanedBehind rest.toList)) := by
    rw [hlong, splitScheme?_append_slash, hfront]
    rfl
  have hshortSplit : splitScheme? (cleaned (base ++ "/collections").toList) =
      some ("http", front ++ '/' :: "collections".toList) := by
    rw [hshort, splitScheme?_append_slash, hfront]
    rfl
  have hauthority := authority_parse? hlongSplit
  have hauthority' := authority_parse? hshortSplit
  rw [h, Option.map_some] at hauthority
  rcases writtenAuthority_append_slash front with ⟨written, hsame⟩ | hlost
  · rw [hsame] at hauthority hauthority'
    rw [← hauthority'] at hauthority
    obtain ⟨url', hurl', heq⟩ := Option.map_eq_some_iff.1 hauthority.symm
    obtain ⟨read, hread⟩ := exists_splitScheme?_of_parse? hurl'
    rw [hshortSplit] at hread
    refine ⟨url', hurl', ?_, heq⟩
    rw [hscheme, ← (Prod.mk.inj (Option.some.inj hread)).1]
  · -- the first name of the path is the host, and not this machine
    have hwritten : writtenAuthority (("collections".toList ++ '/' ::
        cleanedBehind rest.toList).takeWhile fun c => !isTail c) = "collections".toList := rfl
    have hname : authority? "http" "collections".toList =
        some ({ host := "collections" }, []) := by decide +kernel
    rw [hlost, hwritten, hname, Option.map_some] at hauthority
    rw [host, Option.some.inj hauthority] at hhost
    exact absurd hhost (by decide)

/-! ## Servers -/

section Servers

variable {u v : Url}

theorem addFields_nil (u : Url) : u.addFields [] = u := rfl

theorem scheme_withoutUser (u : Url) : u.withoutUser.scheme = u.scheme := rfl

theorem host_withoutUser (u : Url) : u.withoutUser.host = u.host := by
  unfold host withoutUser
  cases u.authority with
  | none => rfl
  | some authority =>
      simp only [Option.map_some, Option.getD_some]
      split <;> rfl

theorem withoutUser_authority_eq (h : v.authority = u.authority) :
    v.withoutUser.authority = u.withoutUser.authority := by
  unfold withoutUser
  rw [h]

theorem host_eq (h : v.authority = u.authority) : v.host = u.host := by
  unfold host
  rw [h]

/-- Scheme and authority tell the server. -/
theorem reaches_eq (hscheme : v.scheme = u.scheme) (hauthority : v.authority = u.authority)
    (x : Exchange) : x.reaches v = x.reaches u := by
  unfold Exchange.reaches port?
  rw [host_eq hauthority, hauthority, hscheme]

/-- They also tell what can be asked, up to the length. -/
theorem isRequestable_of_eq (hscheme : v.scheme = u.scheme)
    (hauthority : v.authority = u.authority) (hlength : v.render.utf8ByteSize ≤ lengthLimit)
    (h : u.isRequestable = true) : v.isRequestable = true := by
  unfold isRequestable at h ⊢
  rw [host_eq hauthority, hscheme, Bool.and_eq_true]
  exact ⟨(Bool.and_eq_true _ _ ▸ h).1, decide_eq_true hlength⟩

end Servers

end SymbolIndex.Url
