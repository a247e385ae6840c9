-- SUMMARY: Paths written as text: their parts are the texts between the slashes, and a joined path is written with one slash more.
import SymbolIndex.Proofs.File.Joining
import SymbolIndex.Proofs.Text.Utf8

/-!
# Written paths

Where a path is text, what stands between its slashes can be read off the characters
as well as off the bytes. A relative path is joined to it behind a slash, which is the
one that the text ends with, if it does.
-/

namespace SymbolIndex

/-! ## Encoded texts -/

namespace Utf8

theorem scan_encode (s : String) : scan (encode s) = s.toList.map some := by
  rw [encode_eq]
  induction s.toList with
  | nil => simp
  | cons c cs ih =>
      obtain ⟨b, tail, heq, hstep⟩ := exists_step_encodeChar c (cs.flatMap String.utf8EncodeChar)
      rw [List.flatMap_cons, heq, scan_cons, hstep, ih, List.map_cons]

theorem decode?_encode (s : String) : decode? (encode s) = some s := by
  have hall : ∀ cs : List Char, (cs.map some).mapM id = some cs := by
    intro cs
    induction cs with
    | nil => rfl
    | cons c cs ih =>
        rw [List.map_cons, List.mapM_cons, ih]
        rfl
  rw [decode?, scan_encode, hall, Option.map_some, String.ofList_toList]

end Utf8

namespace Path

/-! ## Slashes -/

theorem slash_mem_encode {cs : List Char} : slash ∈ Utf8.encode (.ofList cs) ↔ '/' ∈ cs := by
  have hslash : Char.ofNat slash.toNat = '/' := by decide
  rw [← Utf8.mem_decodeChars_iff (by decide), Utf8.decodeChars_encode, String.toList_ofList, hslash]

theorem getLast?_ofString_iff {s : String} :
    (ofString s).bytes.getLast? = some slash ↔ s.toList.getLast? = some '/' := by
  have hslash : Char.ofNat slash.toNat = '/' := by decide
  rw [ofString, ← Utf8.getLast?_decodeChars_iff (by decide), Utf8.decodeChars_encode, hslash]

/-- What stands between two slashes, as bytes. -/
def encodePart (part : List Char) : Bytes := Utf8.encode (.ofList part)

theorem encodePart_eq_nil_iff {part : List Char} : encodePart part = [] ↔ part = [] := by
  rw [← Utf8.decodeChars_eq_nil_iff, encodePart, Utf8.decodeChars_encode, String.toList_ofList]

theorem splitAt_append_of_notMem [DecidableEq α] {sep : α} {xs ys part : List α}
    {parts : List (List α)} (h : sep ∉ xs) (hys : Text.splitAt sep ys = part :: parts) :
    Text.splitAt sep (xs ++ ys) = (xs ++ part) :: parts := by
  induction xs with
  | nil => exact hys
  | cons x xs ih =>
      have hx : x ≠ sep := fun heq => h (heq ▸ List.mem_cons_self)
      rw [List.cons_append, Text.splitAt, if_neg hx, ih fun hmem => h (List.mem_cons_of_mem _ hmem)]
      rfl

theorem splitAt_encode (cs : List Char) :
    Text.splitAt slash (Utf8.encode (.ofList cs)) = (Text.splitAt '/' cs).map encodePart := by
  induction cs with
  | nil => decide +kernel
  | cons c cs ih =>
      have hencode : Utf8.encode (.ofList (c :: cs)) =
          String.utf8EncodeChar c ++ Utf8.encode (.ofList cs) := by
        rw [Utf8.encode_ofList, Utf8.encode_ofList, List.flatMap_cons]
      obtain ⟨part, parts, hparts⟩ :=
        List.exists_cons_of_ne_nil (Text.splitAt_ne_nil '/' cs)
      rw [hparts, List.map_cons] at ih
      by_cases hc : c = '/'
      · subst hc
        have hbytes : String.utf8EncodeChar '/' = [slash] := by decide
        rw [hencode, hbytes, List.singleton_append, Text.splitAt, if_pos rfl, ih, Text.splitAt,
          if_pos rfl, hparts, List.map_cons, List.map_cons, encodePart_eq_nil_iff.2 rfl]
      · have hsingle : String.utf8EncodeChar c = Utf8.encode (.ofList [c]) := by
          rw [Utf8.encode_ofList, List.flatMap_singleton]
        have hslash : slash ∉ String.utf8EncodeChar c := by
          rw [hsingle, slash_mem_encode, List.mem_singleton]
          exact Ne.symm hc
        rw [hencode, splitAt_append_of_notMem hslash ih, Text.splitAt, if_neg hc, hparts]
        dsimp only
        rw [List.map_cons, encodePart, encodePart, Utf8.encode_ofList, Utf8.encode_ofList,
          List.flatMap_cons]

theorem parts_ofString (s : String) :
    (ofString s).parts = (Text.splitAt '/' s.toList).map encodePart := by
  rw [parts, ofString, ← splitAt_encode, String.ofList_toList]

theorem isAbsolute_ofString_iff {s : String} :
    (ofString s).isAbsolute = true ↔ s.toList.head? = some '/' := by
  rw [isAbsolute, beq_iff_eq, ofString, Utf8.encode_eq]
  cases s.toList with
  | nil => simp
  | cons c cs =>
      obtain ⟨b, bs, hbytes⟩ := List.exists_cons_of_ne_nil (String.utf8EncodeChar_ne_nil (c := c))
      have hb : b = slash ↔ c = '/' := by
        constructor
        · rintro rfl
          have hmem : slash ∈ Utf8.encode (.ofList [c]) := by
            rw [Utf8.encode_ofList, List.flatMap_singleton, hbytes]
            exact List.mem_cons_self
          exact (List.mem_singleton.1 (slash_mem_encode.1 hmem)).symm
        · rintro rfl
          have hslash : String.utf8EncodeChar '/' = [slash] := by decide
          rw [hslash] at hbytes
          exact (List.cons.inj hbytes).1.symm
      simp [hbytes, hb]

/-! ## Joined to a text -/

/-- The text without a slash at its end. -/
def unslashed (s : String) : String :=
  if s.toList.getLast? = some '/' then .ofList s.toList.dropLast else s

theorem unslashed_cases (s : String) :
    s = unslashed s ∧ s.toList.getLast? ≠ some '/' ∨ s = unslashed s ++ "/" := by
  unfold unslashed
  split
  case isTrue hlast =>
    obtain ⟨cs, hcs⟩ := List.getLast?_eq_some_iff.1 hlast
    refine .inr ?_
    rw [← String.toList_inj, String.toList_append, String.toList_ofList, hcs, List.dropLast_concat]
    rfl
  case isFalse hlast => exact .inl ⟨rfl, hlast⟩

theorem ne_nil_of_ne_empty {s : String} (hs : s ≠ "") : (ofString s).bytes ≠ [] := by
  intro hnil
  refine hs (String.toList_inj.1 ?_)
  rw [← Utf8.decodeChars_encode, show Utf8.encode s = [] from hnil]
  simp

/-- What is joined to a text stands behind a slash, a new one or the last one of the text. -/
theorem join_ofString {s : String} (hs : s ≠ "") {q : Path} (hq : q.isAbsolute = false) :
    (ofString s).join q = ⟨Utf8.encode (unslashed s) ++ slash :: q.bytes⟩ := by
  have hne := ne_nil_of_ne_empty hs
  unfold join
  rw [hq, Bool.false_or, if_neg (by simpa using hne)]
  rcases unslashed_cases s with ⟨heq, hlast⟩ | heq
  · rw [if_neg (by simpa using mt getLast?_ofString_iff.1 hlast), ← heq]
    rfl
  · have hlast : s.toList.getLast? = some '/' := by
      rw [heq, String.toList_append]
      exact List.getLast?_concat
    have hslash : Utf8.encode "/" = [slash] := by decide +kernel
    rw [if_pos (by simpa using getLast?_ofString_iff.2 hlast), ofString]
    conv_lhs => rw [heq]
    rw [Utf8.encode_append, hslash, List.append_assoc, List.singleton_append]

theorem parts_join_ofString {s : String} (hs : s ≠ "") {q : Path} (hq : q.isAbsolute = false) :
    ((ofString s).join q).parts = (ofString (unslashed s)).parts ++ q.parts := by
  rw [join_ofString hs hq]
  exact Text.splitAt_append_sep slash _ _

/-- A slash at the end of a text begins a blank part. -/
theorem parts_ofString_cases (s : String) :
    (ofString s).parts = (ofString (unslashed s)).parts ∧ s.toList.getLast? ≠ some '/' ∨
      (ofString s).parts = (ofString (unslashed s)).parts ++ [[]] := by
  rcases unslashed_cases s with ⟨heq, hlast⟩ | heq
  · exact .inl ⟨congrArg (fun t => (ofString t).parts) heq, hlast⟩
  · have hslash : Utf8.encode "/" = [slash] := by decide +kernel
    refine .inr ?_
    conv_lhs => rw [heq]
    rw [parts, ofString, Utf8.encode_append, hslash, Text.splitAt_append_sep]
    rfl

end Path

end SymbolIndex
