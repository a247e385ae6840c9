-- SUMMARY: Skipping passes over any JSON value, however deep, and stops behind it.
import SymbolIndex.Json.Skip
import SymbolIndex.Proofs.Json.Grammar

/-!
# Skipped values

Skipping keeps the open brackets on a stack in place of a recursion. A value is passed
over inside any brackets, after which skipping goes on as it does behind an item. By that,
a bracket is passed over if its items are, and a value by induction on its grammar.
-/

namespace SymbolIndex.Json

/-! ## Numbers -/

theorem skipDigits_append {ds rest : Bytes} (hds : ∀ d ∈ ds, isDigit d = true)
    (hrest : startsWithDigit rest = false) : skipDigits (ds ++ rest) = rest := by
  rw [skipDigits, List.dropWhile_append_of_pos hds]
  cases rest with
  | nil => rfl
  | cons b rest => exact List.dropWhile_cons_of_neg (by simpa [startsWithDigit] using hrest)

theorem AreDigits.exists_cons {ds : Bytes} (h : AreDigits ds) :
    ∃ d tail, ds = d :: tail ∧ isDigit d = true ∧ ∀ c ∈ tail, isDigit c = true := by
  obtain ⟨d, tail, rfl⟩ := List.exists_cons_of_ne_nil h.1
  exact ⟨d, tail, rfl, h.2 d List.mem_cons_self, fun c hc => h.2 c (List.mem_cons_of_mem _ hc)⟩

/-- The digits of an exponent are passed over, behind a sign or none. -/
theorem skipExponent_append {sign ds rest : Bytes}
    (hsign : sign = [] ∨ sign = [byte '+'] ∨ sign = [byte '-']) (hds : AreDigits ds)
    (hrest : startsWithDigit rest = false) : skipExponent (sign ++ ds ++ rest) = .ok rest := by
  obtain ⟨d, tail, rfl, hd, htail⟩ := hds.exists_cons
  have hskip : skipDigits (tail ++ rest) = rest := skipDigits_append htail hrest
  rcases hsign with rfl | rfl | rfl
  · have hplus : d ≠ byte '+' := ne_of_isDigit hd (by decide)
    have hminus : d ≠ byte '-' := ne_of_isDigit hd (by decide)
    simp [skipExponent, hplus, hminus, hd, hskip]
  · simp [skipExponent, hd, hskip]
  · simp [skipExponent, hd, hskip]

theorem IsExponent.startsWithDigit {bs rest : Bytes} (h : IsExponent bs)
    (hrest : Json.startsWithDigit rest = false) : Json.startsWithDigit (bs ++ rest) = false := by
  rcases h with rfl | ⟨letter, sign, ds, hletter, -, -, rfl⟩
  · exact hrest
  · rcases hletter with rfl | rfl <;> rfl

theorem skipNumberTail_exponent {bs rest : Bytes} (h : IsExponent bs) (hrest : EndsInteger rest) :
    skipNumberTail (bs ++ rest) = .ok rest := by
  rcases h with rfl | ⟨letter, sign, ds, hletter, hsign, hds, rfl⟩
  · cases rest with
    | nil => rfl
    | cons b rest =>
        obtain ⟨-, hpoint, hexponent⟩ := hrest b rfl
        simp [skipNumberTail, hpoint, hexponent]
  · have hskip := skipExponent_append hsign hds hrest.startsWithDigit
    have hstarts : letter ≠ byte '.' ∧ startsExponent letter = true := by
      rcases hletter with rfl | rfl <;> decide
    rw [List.cons_append, skipNumberTail, if_neg hstarts.1, if_pos hstarts.2, hskip]

/-- A fraction is followed by what may follow the whole digits. -/
theorem skipFraction_append {ds exponent rest : Bytes} (hds : AreDigits ds)
    (hexponent : IsExponent exponent) (hrest : EndsInteger rest) :
    skipFraction (ds ++ (exponent ++ rest)) = .ok rest := by
  obtain ⟨d, tail, rfl, hd, htail⟩ := hds.exists_cons
  have hall : ∀ c ∈ d :: tail, isDigit c = true := List.forall_mem_cons.2 ⟨hd, htail⟩
  have hskip : skipDigits (d :: tail ++ (exponent ++ rest)) = exponent ++ rest :=
    skipDigits_append hall (hexponent.startsWithDigit hrest.startsWithDigit)
  have htail := skipNumberTail_exponent hexponent hrest
  have hstarts : startsWithDigit (d :: tail ++ (exponent ++ rest)) = true := hd
  rw [skipFraction, hstarts, hskip]
  rcases hexponent with rfl | ⟨letter, sign, ds', hletter, hsign, hds', rfl⟩
  · cases rest with
    | nil => rfl
    | cons b rest =>
        have hb : startsExponent b = false := (hrest b rfl).2.2
        simp [hb]
  · have hletter' : startsExponent letter = true := by rcases hletter with rfl | rfl <;> decide
    have hexponent := skipExponent_append hsign hds' hrest.startsWithDigit
    simpa [hletter'] using hexponent

theorem skipNumberTail_append {fraction exponent rest : Bytes} (hfraction : IsFraction fraction)
    (hexponent : IsExponent exponent) (hrest : EndsInteger rest) :
    skipNumberTail (fraction ++ (exponent ++ rest)) = .ok rest := by
  rcases hfraction with rfl | ⟨ds, hds, rfl⟩
  · exact skipNumberTail_exponent hexponent hrest
  · rw [List.cons_append, skipNumberTail, if_pos rfl]
    exact skipFraction_append hds hexponent hrest

theorem numeral_zero : numeral 0 = [byte '0'] := by decide

/-- A number above zero starts with a digit that is not zero. -/
theorem numeral_of_pos {n : Nat} (hn : 0 < n) :
    ∃ d ds, numeral n = d :: ds ∧ d ≠ byte '0' ∧ isDigit d = true ∧
      ∀ c ∈ ds, isDigit c = true := by
  obtain ⟨d, ds, hds, hd⟩ := head_toDigits hn
  have hdigits : ∀ c ∈ d :: ds, c.isDigit = true := fun c hc =>
    Nat.isDigit_of_mem_toDigits (by decide) (by decide) (hds ▸ hc)
  have hrange := toNat_of_isDigit (hdigits d List.mem_cons_self)
  refine ⟨byte d, ds.map byte, by rw [numeral, hds, List.map_cons], fun hzero => ?_,
    isDigit_byte (hdigits d List.mem_cons_self), fun c hc => ?_⟩
  · have hnat := congrArg UInt8.toNat hzero
    rw [toNat_byte (by omega), toNat_byte (by decide)] at hnat
    exact hd (Char.toNat_inj.1 hnat)
  · obtain ⟨c', hc', rfl⟩ := List.mem_map.1 hc
    exact isDigit_byte (hdigits c' (List.mem_cons_of_mem _ hc'))

theorem numeral_head (n : Nat) : ∃ d ds, numeral n = d :: ds ∧ isDigit d = true := by
  rcases Nat.eq_zero_or_pos n with rfl | hn
  · exact ⟨_, _, numeral_zero, by decide⟩
  · obtain ⟨d, ds, hds, -, hd, -⟩ := numeral_of_pos hn
    exact ⟨d, ds, hds, hd⟩

/-- Any number behind its sign is passed over. -/
theorem skipNumber_append {n : Nat} {fraction exponent rest : Bytes}
    (hfraction : IsFraction fraction) (hexponent : IsExponent exponent)
    (hrest : EndsInteger rest) :
    skipNumber (numeral n ++ (fraction ++ exponent) ++ rest) = .ok rest := by
  have htail := skipNumberTail_append hfraction hexponent hrest
  have hstarts : startsWithDigit (fraction ++ (exponent ++ rest)) = false := by
    rcases hfraction with rfl | ⟨ds, -, rfl⟩
    · exact hexponent.startsWithDigit hrest.startsWithDigit
    · rfl
  rw [List.append_assoc, List.append_assoc]
  rcases Nat.eq_zero_or_pos n with rfl | hn
  · rw [numeral_zero, List.singleton_append, skipNumber, if_pos rfl, hstarts,
      if_neg Bool.false_ne_true, htail]
  · obtain ⟨d, ds, hds, hzero, hd, hall⟩ := numeral_of_pos hn
    rw [hds, List.cons_append, skipNumber, if_neg hzero, if_pos hd, skipDigits_append hall hstarts,
      htail]

/-! ## Strings -/

theorem shortEscape?_of_mem {letter : Char} {code : Nat} (h : (letter, code) ∈ escapes) :
    shortEscape? (byte letter) = some (.ofNat code) := by
  have hall : (escapes.all fun e => shortEscape? (byte e.1) == some (.ofNat e.2)) = true := by
    decide
  exact eq_of_beq (List.all_eq_true.1 hall _ h)

theorem SpellsHex.fourHex {n : Nat} {digits : Bytes} (h : SpellsHex n digits) (rest : Bytes) :
    fourHex (digits ++ rest) = .ok (n, rest) := by
  cases h with
  | digits ha hb hc hd => simp [Json.fourHex, ha, hb, hc, hd]

theorem skipStringFrom_plain {b : UInt8} (hb : isPlain b = true) (fuel : Nat) (bs : Bytes) :
    skipStringFrom (fuel + 1) (b :: bs) = skipStringFrom (fuel + 1) bs := by
  rw [skipStringFrom, skipStringFrom, List.dropWhile_cons_of_pos hb]

theorem skipStringFrom_escape {escape bs : Bytes} (h : skipEscape escape = .ok bs) (fuel : Nat) :
    skipStringFrom (fuel + 1) (byte '\\' :: escape) = skipStringFrom fuel bs := by
  have hslash : isPlain (byte '\\') = false := by decide
  have hquote : byte '\\' ≠ byte '"' := by decide
  rw [skipStringFrom, List.dropWhile_cons_of_neg (by simp [hslash])]
  simp [hquote, h, bind, Except.bind]

theorem skipStringFrom_append {body : Bytes} (h : IsContent body) {fuel : Nat}
    (hfuel : body.length < fuel) (rest : Bytes) :
    skipStringFrom fuel (body ++ byte '"' :: rest) = .ok rest := by
  induction h generalizing fuel with
  | nil =>
      obtain ⟨fuel, rfl⟩ := Nat.exists_eq_add_of_lt hfuel
      rfl
  | @plain b text hb _ ih =>
      rw [List.length_cons] at hfuel
      cases fuel with
      | zero => exact absurd hfuel (Nat.not_lt_zero _)
      | succ fuel =>
          rw [List.cons_append, skipStringFrom_plain hb]
          exact ih (by omega)
  | @letter letter code text hl _ ih =>
      simp only [List.length_cons] at hfuel
      cases fuel with
      | zero => exact absurd hfuel (Nat.not_lt_zero _)
      | succ fuel =>
          have hskip : skipEscape (byte letter :: (text ++ byte '"' :: rest)) =
              .ok (text ++ byte '"' :: rest) := by
            simp [skipEscape, shortEscape?_of_mem hl]
          rw [List.cons_append, List.cons_append, skipStringFrom_escape hskip]
          exact ih (by omega)
  | @unicode n digits text hd _ ih =>
      simp only [List.length_cons, List.length_append, List.cons_append] at hfuel
      cases fuel with
      | zero => exact absurd hfuel (Nat.not_lt_zero _)
      | succ fuel =>
          have hshort : shortEscape? (byte 'u') = none := by decide
          have hskip : skipEscape (byte 'u' :: (digits ++ (text ++ byte '"' :: rest))) =
              .ok (text ++ byte '"' :: rest) := by
            simp [skipEscape, hshort, hd.fourHex, Except.map]
          rw [List.cons_append, List.cons_append, List.append_assoc, List.cons_append,
            skipStringFrom_escape hskip]
          exact ih (by omega)

/-- A string behind its first quote is passed over. -/
theorem skipString_append {body : Bytes} (h : IsContent body) (rest : Bytes) :
    skipString (body ++ byte '"' :: rest) = .ok rest := by
  refine skipStringFrom_append h ?_ rest
  rw [List.length_append]
  omega

/-! ## The stack of open brackets -/

theorem Bracket.closing_ne_comma (bracket : Bracket) : bracket.closing ≠ byte ',' := by
  cases bracket <;> decide

theorem Bracket.not_isBlank_closing (bracket : Bracket) : isBlank bracket.closing = false := by
  cases bracket <;> rfl

theorem Bracket.closing_endsInteger (bracket : Bracket) (rest : Bytes) :
    EndsInteger (bracket.closing :: rest) :=
  endsInteger_cons (by cases bracket <;> decide) rest

/-- What is passed over in front of the value of an item. -/
def Bracket.enter : Bracket → Bytes → Except Fault Bytes
  | list => .ok
  | object => skipKey

/-- Skipping as it goes on inside brackets, behind an item or behind an opening. -/
def skipOn (fuel : Nat) (afterItem : Bool) (around : List Bracket) (bs : Bytes) :
    Except Fault Bytes := do
  let (still, rest) ← skipClosings (bs.length + 1) afterItem around bs
  match still with
  | [] => .ok rest
  | bracket :: _ => do skipInside fuel still (← bracket.enter rest)

/-- Each closing bracket takes a byte, so the bytes are as many steps as it takes. -/
theorem skipClosings_fuel {fuel fuel' : Nat} {afterItem : Bool} {around : List Bracket} {bs : Bytes}
    (h : bs.length < fuel) (h' : bs.length < fuel') :
    skipClosings fuel afterItem around bs = skipClosings fuel' afterItem around bs := by
  induction fuel generalizing fuel' afterItem around bs with
  | zero => exact absurd h (Nat.not_lt_zero _)
  | succ fuel ih =>
      cases fuel' with
      | zero => exact absurd h' (Nat.not_lt_zero _)
      | succ fuel' =>
          cases around with
          | nil => rfl
          | cons bracket above =>
              have hle := length_skipBlanks_le bs
              unfold skipClosings
              cases hbs : skipBlanks bs with
              | nil => rfl
              | cons b tail =>
                  rw [hbs, List.length_cons] at hle
                  have htail : skipClosings fuel true above tail =
                      skipClosings fuel' true above tail := ih (by omega) (by omega)
                  dsimp only
                  rw [htail]

theorem skipInside_opening {bs rest : Bytes} {opened : Option Bracket}
    (h : skipOpening (skipBlanks bs) = .ok (opened, rest)) (hle : rest.length ≤ bs.length)
    (fuel : Nat) (around : List Bracket) :
    skipInside (fuel + 1) around bs = skipOn fuel opened.isNone (opened.toList ++ around) rest := by
  have hfuel : skipClosings (bs.length + 2) opened.isNone (opened.toList ++ around) rest =
      skipClosings (rest.length + 1) opened.isNone (opened.toList ++ around) rest :=
    skipClosings_fuel (by omega) (by omega)
  rw [skipInside, h, skipOn, ← hfuel]
  dsimp only [bind, Except.bind]
  cases skipClosings (bs.length + 2) opened.isNone (opened.toList ++ around) rest with
  | error fault => rfl
  | ok x =>
      obtain ⟨still, rest⟩ := x
      cases still with
      | nil => rfl
      | cons bracket above => cases bracket <;> rfl

theorem skipOn_nil (fuel : Nat) (afterItem : Bool) (bs : Bytes) :
    skipOn fuel afterItem [] bs = .ok bs := rfl

section

variable {bracket : Bracket} {bs tail : Bytes} {b : UInt8}

/-- Behind a comma comes the next item. -/
theorem skipOn_comma (h : skipBlanks bs = byte ',' :: tail) (fuel : Nat) (above : List Bracket) :
    skipOn fuel true (bracket :: above) bs =
      (bracket.enter tail >>= skipInside fuel (bracket :: above)) := by
  rw [skipOn, skipClosings.eq_def]
  simp [h, bind, Except.bind]

/-- Behind the closing bracket comes what the brackets around it have. -/
theorem skipOn_closing (h : skipBlanks bs = bracket.closing :: tail) (fuel : Nat)
    (afterItem : Bool) (above : List Bracket) :
    skipOn fuel afterItem (bracket :: above) bs = skipOn fuel true above tail := by
  have hle := length_skipBlanks_le bs
  rw [h, List.length_cons] at hle
  have hfuel : skipClosings bs.length true above tail =
      skipClosings (tail.length + 1) true above tail :=
    skipClosings_fuel (by omega) (by omega)
  rw [skipOn, skipClosings.eq_def, skipOn]
  simp [h, bracket.closing_ne_comma, hfuel]

/-- Behind an opening bracket comes the first item, unless the bracket is closed. -/
theorem skipOn_first (h : skipBlanks bs = b :: tail) (hb : b ≠ bracket.closing) (fuel : Nat)
    (above : List Bracket) :
    skipOn fuel false (bracket :: above) bs =
      (bracket.enter (b :: tail) >>= skipInside fuel (bracket :: above)) := by
  rw [skipOn, skipClosings.eq_def]
  simp [h, hb, bind, Except.bind]

end

/-! ## Items in brackets -/

/-- Behind blanks, the text begins with a byte that does not close the bracket. -/
def Opens (closing : UInt8) (text : Bytes) : Prop :=
  ∃ before b tail, AreBlanks before ∧ isBlank b = false ∧ b ≠ closing ∧ text = before ++ b :: tail

theorem Opens.skipBlanks_append {closing : UInt8} {text : Bytes} (h : Opens closing text)
    (rest : Bytes) : ∃ b tail, skipBlanks (text ++ rest) = b :: tail ∧ b ≠ closing := by
  obtain ⟨before, b, tail, hbefore, hblank, hb, rfl⟩ := h
  refine ⟨b, tail ++ rest, ?_, hb⟩
  rw [List.append_assoc, Json.skipBlanks_append hbefore, List.cons_append, skipBlanks_cons hblank]

theorem Opens.length_pos {closing : UInt8} {text : Bytes} (h : Opens closing text) :
    0 < text.length := by
  obtain ⟨before, b, tail, -, -, -, rfl⟩ := h
  rw [List.length_append]
  exact Nat.lt_add_left _ (Nat.succ_pos _)

/-- The text is passed over inside any brackets, up to blanks at its end. -/
def Passes (text : Bytes) : Prop :=
  ∃ n after, AreBlanks after ∧ 0 < n ∧ n ≤ text.length ∧
    ∀ fuel around rest bs, EndsInteger rest → skipBlanks bs = skipBlanks (text ++ rest) →
      skipInside (fuel + n) around bs = skipOn fuel true around (after ++ rest)

/-- The text is passed over as an item of the bracket. -/
def PassesIn (bracket : Bracket) (text : Bytes) : Prop :=
  Opens bracket.closing text ∧
  ∃ n after, AreBlanks after ∧ n ≤ text.length ∧
    ∀ fuel around rest bs, EndsInteger rest → skipBlanks bs = skipBlanks (text ++ rest) →
      (bracket.enter bs >>= skipInside (fuel + n) (bracket :: around)) =
        skipOn fuel true (bracket :: around) (after ++ rest)

section

variable {α : Type} {bracket : Bracket} {bytes : α → Bytes} {xs : List α} {gap : Bytes}

theorem endsInteger_afterCommas (bytes : α → Bytes) (xs : List α) (hgap : AreBlanks gap)
    (bracket : Bracket) (rest : Bytes) :
    EndsInteger (afterCommas bytes xs ++ (gap ++ bracket.closing :: rest)) := by
  cases xs with
  | nil => exact (bracket.closing_endsInteger rest).append hgap
  | cons x xs => exact endsInteger_cons (by decide) _

/-- The items that are left, each behind its comma, and the closing bracket. -/
theorem skipOn_afterCommas (h : ∀ x ∈ xs, PassesIn bracket (bytes x)) (hgap : AreBlanks gap) :
    ∃ n ≤ (afterCommas bytes xs).length, ∀ fuel around before rest, AreBlanks before →
      skipOn (fuel + n) true (bracket :: around)
          (before ++ (afterCommas bytes xs ++ (gap ++ bracket.closing :: rest))) =
        skipOn fuel true around rest := by
  induction xs with
  | nil =>
      refine ⟨0, Nat.zero_le _, fun fuel around before rest hbefore => ?_⟩
      refine skipOn_closing ?_ fuel true around
      rw [skipBlanks_append hbefore, afterCommas, List.flatMap_nil, List.nil_append,
        skipBlanks_append hgap, skipBlanks_cons bracket.not_isBlank_closing]
  | cons x xs ih =>
      obtain ⟨-, n, after, hafter, hn, hpass⟩ := h x List.mem_cons_self
      obtain ⟨n', hn', hrest⟩ := ih fun y hy => h y (List.mem_cons_of_mem _ hy)
      refine ⟨n' + n, ?_, fun fuel around before rest hbefore => ?_⟩
      · rw [afterCommas_cons, List.cons_append, List.length_cons, List.length_append]
        omega
      · have hcomma : isBlank (byte ',') = false := by decide
        have hends := endsInteger_afterCommas bytes xs hgap bracket rest
        have hnext : skipBlanks (before ++ (afterCommas bytes (x :: xs) ++
              (gap ++ bracket.closing :: rest))) = byte ',' :: (bytes x ++
              (afterCommas bytes xs ++ (gap ++ bracket.closing :: rest))) := by
          rw [skipBlanks_append hbefore, afterCommas_cons, List.cons_append, List.cons_append,
            skipBlanks_cons hcomma, List.append_assoc]
        rw [skipOn_comma hnext, ← Nat.add_assoc, hpass (fuel + n') around _ _ hends rfl,
          hrest fuel around after rest hafter]

/-- A bracket with its items is passed over. -/
theorem passes_bracket (bracket : Bracket) {opening : UInt8} (hblank : isBlank opening = false)
    (hopening : ∀ rest, skipOpening (opening :: rest) = .ok (some bracket, rest))
    (h : ∀ x ∈ xs, PassesIn bracket (bytes x)) (hgap : AreBlanks gap) :
    Passes (opening :: separated bytes xs ++ (gap ++ [bracket.closing])) := by
  cases xs with
  | nil =>
      refine ⟨1, [], areBlanks_nil, Nat.one_pos, by simp, fun fuel around rest bs _ hbs => ?_⟩
      have hopen : skipBlanks bs = opening :: (gap ++ bracket.closing :: rest) := by
        rw [hbs, separated, List.append_assoc, List.cons_append, skipBlanks_cons hblank]
        simp
      have hle := length_skipBlanks_le bs
      rw [hopen, List.length_cons] at hle
      rw [skipInside_opening (hopen ▸ hopening _) (by omega), List.nil_append]
      refine skipOn_closing ?_ fuel false around
      rw [skipBlanks_append hgap, skipBlanks_cons bracket.not_isBlank_closing]
  | cons x xs =>
      obtain ⟨hopens, n, after, hafter, hn, hpass⟩ := h x List.mem_cons_self
      obtain ⟨n', hn', hrest⟩ :=
        skipOn_afterCommas (fun y hy => h y (List.mem_cons_of_mem _ hy)) hgap
      refine ⟨n' + n + 1, [], areBlanks_nil, Nat.succ_pos _, ?_,
        fun fuel around rest bs _ hbs => ?_⟩
      · simp only [separated, List.cons_append, List.length_cons, List.length_append]
        omega
      · set more := afterCommas bytes xs ++ (gap ++ bracket.closing :: rest) with hmore
        have hopen : skipBlanks bs = opening :: (bytes x ++ more) := by
          rw [hbs, separated, List.append_assoc, List.cons_append, skipBlanks_cons hblank, hmore]
          simp
        have hle := length_skipBlanks_le bs
        rw [hopen, List.length_cons] at hle
        obtain ⟨b, tail, hfirst, hb⟩ := hopens.skipBlanks_append more
        have hends : EndsInteger more := endsInteger_afterCommas bytes xs hgap bracket rest
        have hsame : skipBlanks (b :: tail) = skipBlanks (bytes x ++ more) := by
          rw [← hfirst, skipBlanks_skipBlanks]
        rw [← Nat.add_assoc, skipInside_opening (hopen ▸ hopening _) (by omega)]
        refine (skipOn_first hfirst hb _ around).trans ?_
        rw [← Nat.add_assoc, hpass (fuel + n') around more _ hends hsame,
          hrest fuel around after rest hafter, List.nil_append]

end

/-! ## Values -/

/-- A value without brackets is passed over at once. -/
theorem passes_scalar {b : UInt8} {core : Bytes} (hb : isBlank b = false)
    (h : ∀ rest, EndsInteger rest → skipOpening (b :: core ++ rest) = .ok (none, rest)) :
    Passes (b :: core) := by
  refine ⟨1, [], areBlanks_nil, Nat.one_pos, Nat.succ_pos _,
    fun fuel around rest bs hrest hbs => ?_⟩
  rw [List.cons_append, skipBlanks_cons hb, ← List.cons_append] at hbs
  have hle := length_skipBlanks_le bs
  rw [hbs, List.length_append] at hle
  rw [skipInside_opening (hbs ▸ h rest hrest) (by omega)]
  rfl

theorem passes_word {w : String} (h : w ∈ ["null", "true", "false"]) : Passes (wordBytes w) := by
  simp only [List.mem_cons, List.not_mem_nil, or_false] at h
  rcases h with rfl | rfl | rfl
  all_goals exact passes_scalar (by decide) fun rest _ => rfl

theorem skipOpening_digit {b : UInt8} (hb : isDigit b = true) (rest : Bytes) :
    skipOpening (b :: rest) = (skipNumber (b :: rest)).map (none, ·) := by
  have hne : ∀ c, isDigit (byte c) = false → b ≠ byte c := fun c => ne_of_isDigit hb
  simp [skipOpening, hb, hne 'n' (by decide), hne 't' (by decide), hne 'f' (by decide),
    hne '-' (by decide)]

theorem passes_number {bs : Bytes} (h : IsNumber bs) : Passes bs := by
  obtain ⟨sign, n, fraction, exponent, hsign, hfraction, hexponent, rfl⟩ := h
  obtain ⟨d, ds, hds, hd⟩ := numeral_head n
  have hskip : ∀ rest, EndsInteger rest →
      skipNumber (d :: (ds ++ (fraction ++ exponent)) ++ rest) = .ok rest := by
    intro rest hrest
    have h := skipNumber_append (n := n) hfraction hexponent hrest
    rwa [hds, List.cons_append] at h
  rw [hds, List.cons_append]
  rcases hsign with rfl | rfl
  · refine passes_scalar (isBlank_of_isDigit hd) fun rest hrest => ?_
    rw [List.cons_append, skipOpening_digit hd, ← List.cons_append, hskip rest hrest]
    rfl
  · refine passes_scalar (by decide) fun rest hrest => ?_
    have hminus : skipOpening (byte '-' :: (d :: (ds ++ (fraction ++ exponent)) ++ rest)) =
        (skipNumber (d :: (ds ++ (fraction ++ exponent)) ++ rest)).map (none, ·) := rfl
    rw [List.cons_append]
    exact hminus.trans (by rw [hskip rest hrest]; rfl)

theorem passes_string {body : Bytes} (h : IsContent body) : Passes (quoted body) := by
  refine passes_scalar (by decide) fun rest _ => ?_
  have hquote : skipOpening (byte '"' :: (body ++ [byte '"'] ++ rest)) =
      (skipString (body ++ [byte '"'] ++ rest)).map (none, ·) := rfl
  refine hquote.trans ?_
  rw [List.append_assoc, List.singleton_append, skipString_append h]
  rfl

theorem Passes.padded {before text after : Bytes} (hbefore : AreBlanks before) (h : Passes text)
    (hafter : AreBlanks after) : Passes (before ++ text ++ after) := by
  obtain ⟨n, after', hafter', hpos, hn, hpass⟩ := h
  refine ⟨n, after' ++ after, hafter'.append hafter, hpos, ?_,
    fun fuel around rest bs hrest hbs => ?_⟩
  · simp only [List.length_append]
    omega
  · rw [List.append_assoc, List.append_assoc, skipBlanks_append hbefore] at hbs
    rw [hpass fuel around (after ++ rest) bs (hrest.append hafter) hbs, List.append_assoc]

theorem Opens.padded {closing : UInt8} {before text : Bytes} (hbefore : AreBlanks before)
    (h : Opens closing text) (after : Bytes) : Opens closing (before ++ text ++ after) := by
  obtain ⟨before', b, tail, hbefore', hblank, hb, rfl⟩ := h
  exact ⟨before ++ before', b, tail ++ after, hbefore.append hbefore', hblank, hb, by simp⟩

/-- No value begins as a list ends. -/
theorem IsValue.opens {text : Bytes} (h : IsValue text) : Opens (byte ']') text := by
  have hhead : ∀ {b : UInt8} (tail : Bytes), isBlank b = false → b ≠ byte ']' →
      Opens (byte ']') (b :: tail) :=
    fun tail hblank hb => ⟨[], _, tail, areBlanks_nil, hblank, hb, rfl⟩
  induction h with
  | @word w hw =>
      simp only [List.mem_cons, List.not_mem_nil, or_false] at hw
      rcases hw with rfl | rfl | rfl
      all_goals exact hhead _ (by decide) (by decide)
  | number hn =>
      obtain ⟨sign, n, fraction, exponent, hsign, -, -, rfl⟩ := hn
      obtain ⟨d, ds, hds, hd⟩ := numeral_head n
      rw [hds]
      rcases hsign with rfl | rfl
      · exact hhead _ (isBlank_of_isDigit hd) (ne_of_isDigit hd (by decide))
      · exact hhead _ (by decide) (by decide)
  | string _ => exact hhead _ (by decide) (by decide)
  | list _ _ _ => exact hhead _ (by decide) (by decide)
  | object _ _ _ _ => exact hhead _ (by decide) (by decide)
  | padded hbefore _ _ ih => exact ih.padded hbefore _

theorem passesIn_list {text : Bytes} (hopens : Opens (byte ']') text) (h : Passes text) :
    PassesIn .list text := by
  obtain ⟨n, after, hafter, -, hn, hpass⟩ := h
  exact ⟨hopens, n, after, hafter, hn, fun fuel around rest bs hrest hbs =>
    hpass fuel (.list :: around) rest bs hrest hbs⟩

/-- A key and its colon are passed over. -/
theorem skipKey_append {key rest bs : Bytes} (hkey : IsString key)
    (hbs : skipBlanks bs = skipBlanks (key ++ byte ':' :: rest)) : skipKey bs = .ok rest := by
  obtain ⟨before, _, after, hbefore, ⟨body, hbody, rfl⟩, hafter, rfl⟩ := hkey
  have hquote : isBlank (byte '"') = false := by decide
  have hcolon : isBlank (byte ':') = false := by decide
  have hopen : skipBlanks bs = byte '"' :: (body ++ byte '"' :: (after ++ byte ':' :: rest)) := by
    rw [hbs, List.append_assoc, List.append_assoc, skipBlanks_append hbefore, quoted,
      List.cons_append, List.cons_append, skipBlanks_cons hquote]
    simp
  have hend : skipBlanks (after ++ byte ':' :: rest) = byte ':' :: rest := by
    rw [skipBlanks_append hafter, skipBlanks_cons hcolon]
  simp [skipKey, hopen, skipString_append hbody, hend, bind, Except.bind]

theorem passesIn_object {m : Bytes × Bytes} (hkey : IsString m.1) (h : Passes m.2) :
    PassesIn .object (pairBytes m) := by
  obtain ⟨n, after, hafter, -, hn, hpass⟩ := h
  have hopens : Opens (byte '\x7d') (pairBytes m) := by
    obtain ⟨before, _, after, hbefore, ⟨body, -, rfl⟩, -, hm⟩ := hkey
    rw [pairBytes, hm]
    exact ⟨before, byte '"', body ++ byte '"' :: (after ++ byte ':' :: m.2), hbefore, by decide,
      by decide, by simp [quoted]⟩
  refine ⟨hopens, n, after, hafter, ?_, fun fuel around rest bs hrest hbs => ?_⟩
  · rw [pairBytes, List.length_append, List.length_cons]
    omega
  · rw [pairBytes, List.append_assoc, List.cons_append] at hbs
    have hkey' : Bracket.object.enter bs = .ok (m.2 ++ rest) := skipKey_append hkey hbs
    rw [hkey']
    exact hpass fuel (.object :: around) rest _ hrest rfl

theorem IsValue.passes {text : Bytes} (h : IsValue text) : Passes text := by
  induction h with
  | word hw => exact passes_word hw
  | number hn => exact passes_number hn
  | string hbody => exact passes_string hbody
  | @list items gap hitems hgap ih =>
      exact passes_bracket .list (by decide) (fun _ => rfl)
        (fun item hitem => passesIn_list (hitems item hitem).opens (ih item hitem)) hgap
  | @object members gap hkeys _ hgap ih =>
      exact passes_bracket .object (by decide) (fun _ => rfl)
        (fun m hm => passesIn_object (hkeys m hm) (ih m hm)) hgap
  | padded hbefore _ hafter ih => exact ih.padded hbefore hafter

/-- Any value is passed over, up to blanks at its end. -/
theorem skipValue_append {text : Bytes} (h : IsValue text) :
    ∃ after, AreBlanks after ∧ ∀ rest, EndsInteger rest →
      skipValue (text ++ rest) = .ok (after ++ rest) := by
  obtain ⟨n, after, hafter, -, hn, hpass⟩ := h.passes
  refine ⟨after, hafter, fun rest hrest => ?_⟩
  obtain ⟨fuel, hfuel⟩ : ∃ fuel, (text ++ rest).length + 1 = fuel + n := by
    rw [List.length_append]
    exact ⟨text.length + rest.length + 1 - n, by omega⟩
  rw [skipValue, hfuel, hpass fuel [] rest _ hrest rfl, skipOn_nil]

end SymbolIndex.Json
