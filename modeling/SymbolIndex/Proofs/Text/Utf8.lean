-- SUMMARY: Decoding of UTF-8 piece by piece, and encoding undone by decoding.
import SymbolIndex.Text.Utf8

/-!
# Decoding in pieces

A byte that continues no sequence cuts every sequence off. So a text can be
decoded in pieces that start with such bytes, broken sequences at the end of a
piece included. Every well-formed sequence is decoded to the character that it
was written for.
-/

namespace SymbolIndex.Utf8

/-! ## Bytes that start anew -/

theorem isContinuation_of_follows3 {b0 b1 : UInt8} (h : follows3 b0 b1 = true) :
    isContinuation b1 = true := by
  unfold follows3 at h
  split at h
  · unfold isContinuation
    grind
  · split at h
    · unfold isContinuation
      grind
    · exact h

theorem isContinuation_of_follows4 {b0 b1 : UInt8} (h : follows4 b0 b1 = true) :
    isContinuation b1 = true := by
  unfold follows4 at h
  split at h
  · unfold isContinuation
    grind
  · split at h
    · unfold isContinuation
      grind
    · exact h

/-- A step never goes beyond a byte that continues nothing. -/
theorem step_append {b : UInt8} (hb : isContinuation b = false) (b0 : UInt8) (xs ys : Bytes) :
    step b0 (xs ++ b :: ys) = ((step b0 xs).1, (step b0 xs).2 ++ b :: ys) := by
  have h3 : follows3 b0 b = false :=
    Bool.eq_false_iff.2 fun h => Bool.eq_false_iff.1 hb (isContinuation_of_follows3 h)
  have h4 : follows4 b0 b = false :=
    Bool.eq_false_iff.2 fun h => Bool.eq_false_iff.1 hb (isContinuation_of_follows4 h)
  -- by the number of bytes in front of `b`, of which no step takes more than three
  rcases xs with _ | ⟨b1, _ | ⟨b2, _ | ⟨b3, xs⟩⟩⟩ <;>
    simp only [step, List.nil_append, List.cons_append, hb, h3, h4] <;> grind

theorem scan_append {b : UInt8} (hb : isContinuation b = false) (xs ys : Bytes) :
    scan (xs ++ b :: ys) = scan xs ++ scan (b :: ys) := by
  induction hn : xs.length using Nat.strongRecOn generalizing xs with
  | ind n ih =>
      cases xs with
      | nil => simp
      | cons b0 xs =>
          have hle := step_length_le b0 xs
          rw [List.length_cons] at hn
          rw [List.cons_append, scan_cons, scan_cons, step_append hb,
            ih (step b0 xs).2.length (by omega) (step b0 xs).2 rfl, List.cons_append]

theorem decodeChars_append {b : UInt8} (hb : isContinuation b = false) (xs ys : Bytes) :
    decodeChars (xs ++ b :: ys) = decodeChars xs ++ decodeChars (b :: ys) := by
  rw [decodeChars, scan_append hb, List.map_append]
  rfl

@[simp] theorem decodeChars_nil : decodeChars [] = [] := by simp [decodeChars]

theorem decodeChars_cons (b : UInt8) (rest : Bytes) :
    decodeChars (b :: rest) = (step b rest).1.getD replacement :: decodeChars (step b rest).2 := by
  simp [decodeChars, scan_cons]

theorem decodeChars_eq_nil_iff {bs : Bytes} : decodeChars bs = [] ↔ bs = [] := by
  cases bs with
  | nil => simp
  | cons b bs => simp [decodeChars_cons]

/-! ## Bytes below 128 -/

theorem isContinuation_of_lt {b : UInt8} (hb : b < 0x80) : isContinuation b = false := by
  unfold isContinuation
  grind

theorem step_of_lt {b : UInt8} (hb : b < 0x80) (rest : Bytes) :
    step b rest = (some (.ofNat b.toNat), rest) := by
  simp [step, hb]

theorem toNat_ofNat {n : Nat} (h : n < 0xD800 ∨ 0xDFFF < n ∧ n < 0x110000) :
    (Char.ofNat n).toNat = n := by
  have hvalid : n.isValidChar := h
  unfold Char.ofNat
  rw [dif_pos hvalid]
  rfl

theorem le_toNat_point2 {b0 b1 : UInt8} (h0 : 0xC2 ≤ b0) (hle : b0 ≤ 0xDF)
    (h1 : isContinuation b1 = true) : 0x80 ≤ (point2 b0 b1).toNat := by
  simp only [isContinuation, Bool.and_eq_true, decide_eq_true_eq, UInt8.le_iff_toNat_le,
    UInt8.reduceToNat] at h0 hle h1
  rw [point2, toNat_ofNat (by omega)]
  omega

theorem le_toNat_point3 {b0 b1 b2 : UInt8} (h0 : 0xE0 ≤ b0) (hle : b0 ≤ 0xEF)
    (h1 : follows3 b0 b1 = true) (h2 : isContinuation b2 = true) :
    0x80 ≤ (point3 b0 b1 b2).toNat := by
  have hb1 := isContinuation_of_follows3 h1
  have hlow : b0 = 0xE0 → 0xA0 ≤ b1 := by
    rintro rfl
    exact of_decide_eq_true (Bool.and_eq_true_iff.1 h1).1
  have hhigh : b0 = 0xED → b1 ≤ 0x9F := by
    rintro rfl
    exact of_decide_eq_true (Bool.and_eq_true_iff.1 h1).2
  simp only [isContinuation, Bool.and_eq_true, decide_eq_true_eq, UInt8.le_iff_toNat_le,
    ← UInt8.toNat_inj, UInt8.reduceToNat] at h0 hle hb1 h2 hlow hhigh
  rw [point3, toNat_ofNat (by omega)]
  omega

theorem le_toNat_point4 {b0 b1 b2 b3 : UInt8} (h0 : 0xF0 ≤ b0) (hle : b0 ≤ 0xF4)
    (h1 : follows4 b0 b1 = true) (h2 : isContinuation b2 = true)
    (h3 : isContinuation b3 = true) : 0x80 ≤ (point4 b0 b1 b2 b3).toNat := by
  have hb1 := isContinuation_of_follows4 h1
  have hlow : b0 = 0xF0 → 0x90 ≤ b1 := by
    rintro rfl
    exact of_decide_eq_true (Bool.and_eq_true_iff.1 h1).1
  have hhigh : b0 = 0xF4 → b1 ≤ 0x8F := by
    rintro rfl
    exact of_decide_eq_true (Bool.and_eq_true_iff.1 h1).2
  simp only [isContinuation, Bool.and_eq_true, decide_eq_true_eq, UInt8.le_iff_toNat_le,
    ← UInt8.toNat_inj, UInt8.reduceToNat] at h0 hle hb1 h2 h3 hlow hhigh
  rw [point4, toNat_ofNat (by omega)]
  omega

/-- No character below 128 comes from a longer sequence. -/
theorem le_toNat_of_step {b : UInt8} {rest : Bytes} {c : Char} (hb : 0x80 ≤ b)
    (h : (step b rest).1 = some c) : 0x80 ≤ c.toNat := by
  unfold step at h
  grind [le_toNat_point2, le_toNat_point3, le_toNat_point4]

theorem eq_of_ofNat_eq_step {b b0 : UInt8} {rest : Bytes} (hb : b < 0x80)
    (h : Char.ofNat b.toNat = (step b0 rest).1.getD replacement) : b = b0 := by
  have hlt : b.toNat < 0x80 := UInt8.lt_iff_toNat_lt.1 hb
  have hchar : (Char.ofNat b.toNat).toNat = b.toNat := toNat_ofNat (by omega)
  by_cases hb0 : b0 < 0x80
  · have hlt0 : b0.toNat < 0x80 := UInt8.lt_iff_toNat_lt.1 hb0
    rw [step_of_lt hb0, Option.getD_some] at h
    rw [h, toNat_ofNat (by omega)] at hchar
    exact UInt8.toNat_inj.1 hchar.symm
  · -- what the longer sequences and the broken ones give is above
    have hle : 0x80 ≤ ((step b0 rest).1.getD replacement).toNat := by
      cases hstep : (step b0 rest).1 with
      | none => decide
      | some c => exact le_toNat_of_step (UInt8.not_lt.1 hb0) hstep
    rw [← h, hchar] at hle
    omega

theorem step_suffix (b : UInt8) (rest : Bytes) : (step b rest).2 <:+ rest := by
  unfold step
  repeat' split
  all_goals simp [List.suffix_cons_iff]

/-- A character below 128 comes from its own byte alone. -/
theorem mem_decodeChars_iff {b : UInt8} (hb : b < 0x80) {bs : Bytes} :
    Char.ofNat b.toNat ∈ decodeChars bs ↔ b ∈ bs := by
  constructor
  · induction hn : bs.length using Nat.strongRecOn generalizing bs with
    | ind n ih =>
        intro hmem
        cases bs with
        | nil => simp at hmem
        | cons b0 rest =>
            have hle := step_length_le b0 rest
            rw [List.length_cons] at hn
            rw [decodeChars_cons, List.mem_cons] at hmem
            rcases hmem with hchar | hmem
            · rw [eq_of_ofNat_eq_step hb hchar]
              exact List.mem_cons_self
            · exact List.mem_cons_of_mem _
                ((step_suffix b0 rest).subset (ih _ (by omega) rfl hmem))
  · intro hmem
    obtain ⟨front, back, rfl⟩ := List.append_of_mem hmem
    rw [decodeChars_append (isContinuation_of_lt hb), decodeChars_cons, step_of_lt hb]
    simp

theorem getLast?_decodeChars_iff {b : UInt8} (hb : b < 0x80) {bs : Bytes} :
    (decodeChars bs).getLast? = some (Char.ofNat b.toNat) ↔ bs.getLast? = some b := by
  constructor
  · induction hn : bs.length using Nat.strongRecOn generalizing bs with
    | ind n ih =>
        intro hlast
        cases bs with
        | nil => simp at hlast
        | cons b0 rest =>
            have hle := step_length_le b0 rest
            rw [List.length_cons] at hn
            rw [decodeChars_cons] at hlast
            by_cases hnil : (step b0 rest).2 = []
            · rw [hnil, decodeChars_nil, List.getLast?_singleton, Option.some_inj] at hlast
              have heq := eq_of_ofNat_eq_step hb hlast.symm
              rw [← heq, step_of_lt hb] at hnil
              simp_all
            · have hchars : decodeChars (step b0 rest).2 ≠ [] :=
                fun h => hnil (decodeChars_eq_nil_iff.1 h)
              rw [List.getLast?_cons_of_ne_nil hchars] at hlast
              have hrest := ih _ (by omega) rfl hlast
              obtain ⟨front, hfront⟩ := step_suffix b0 rest
              rw [← hfront, ← List.cons_append, List.getLast?_append, hrest, Option.some_or]
  · intro hlast
    obtain ⟨front, rfl⟩ := List.getLast?_eq_some_iff.1 hlast
    rw [decodeChars_append (isContinuation_of_lt hb), decodeChars_cons, step_of_lt hb]
    simp

/-! ## Encoding -/

section

variable {n : Nat} {b0 b1 b2 b3 : UInt8} {rest : Bytes}

theorem isContinuation_of_toNat (h : b1.toNat = n % 64 + 0x80) : isContinuation b1 = true := by
  simp only [isContinuation, Bool.and_eq_true, decide_eq_true_eq, UInt8.le_iff_toNat_le,
    UInt8.reduceToNat, h]
  omega

theorem follows3_of_toNat (h0 : b0.toNat = n / 4096 + 0xE0) (h1 : b1.toNat = n / 64 % 64 + 0x80)
    (hn : 0x7ff < n) (hvalid : n < 0xD800 ∨ 0xDFFF < n) : follows3 b0 b1 = true := by
  simp only [follows3, beq_iff_eq]
  split
  · rename_i heq
    rw [heq] at h0
    simp only [UInt8.reduceToNat] at h0
    simp only [Bool.and_eq_true, decide_eq_true_eq, UInt8.le_iff_toNat_le, UInt8.reduceToNat, h1]
    omega
  · split
    · rename_i heq
      rw [heq] at h0
      simp only [UInt8.reduceToNat] at h0
      simp only [Bool.and_eq_true, decide_eq_true_eq, UInt8.le_iff_toNat_le, UInt8.reduceToNat, h1]
      omega
    · exact isContinuation_of_toNat h1

theorem follows4_of_toNat (h0 : b0.toNat = n / 262144 + 0xF0)
    (h1 : b1.toNat = n / 4096 % 64 + 0x80) (hn : 0xffff < n) (hn' : n < 0x110000) :
    follows4 b0 b1 = true := by
  simp only [follows4, beq_iff_eq]
  split
  · rename_i heq
    rw [heq] at h0
    simp only [UInt8.reduceToNat] at h0
    simp only [Bool.and_eq_true, decide_eq_true_eq, UInt8.le_iff_toNat_le, UInt8.reduceToNat, h1]
    omega
  · split
    · rename_i heq
      rw [heq] at h0
      simp only [UInt8.reduceToNat] at h0
      simp only [Bool.and_eq_true, decide_eq_true_eq, UInt8.le_iff_toNat_le, UInt8.reduceToNat, h1]
      omega
    · exact isContinuation_of_toNat h1

theorem step_one (h0 : b0.toNat = n) (hn : n ≤ 0x7f) : step b0 rest = (some (.ofNat n), rest) := by
  have hlow : b0 < 0x80 := by
    rw [UInt8.lt_iff_toNat_lt, h0]
    exact Nat.lt_succ_of_le hn
  rw [step_of_lt hlow, h0]

theorem step_two (h0 : b0.toNat = n / 64 + 0xC0) (h1 : b1.toNat = n % 64 + 0x80) (hn : 0x7f < n)
    (hn' : n ≤ 0x7ff) : step b0 (b1 :: rest) = (some (.ofNat n), rest) := by
  have hpoint : (b0.toNat - 0xC0) * 64 + (b1.toNat - 0x80) = n := by omega
  have hlead : ¬ b0 < 0x80 ∧ 0xC2 ≤ b0 ∧ b0 ≤ 0xDF := by
    simp only [UInt8.lt_iff_toNat_lt, UInt8.le_iff_toNat_le, UInt8.reduceToNat]
    omega
  simp [step, hlead, isContinuation_of_toNat h1, point2, hpoint]

theorem step_three (h0 : b0.toNat = n / 4096 + 0xE0) (h1 : b1.toNat = n / 64 % 64 + 0x80)
    (h2 : b2.toNat = n % 64 + 0x80) (hn : 0x7ff < n) (hn' : n ≤ 0xffff)
    (hvalid : n < 0xD800 ∨ 0xDFFF < n) :
    step b0 (b1 :: b2 :: rest) = (some (.ofNat n), rest) := by
  have hpoint : ((b0.toNat - 0xE0) * 64 + (b1.toNat - 0x80)) * 64 + (b2.toNat - 0x80) = n := by
    omega
  have hlead : ¬ b0 < 0x80 ∧ ¬ b0 ≤ 0xDF ∧ 0xE0 ≤ b0 ∧ b0 ≤ 0xEF := by
    simp only [UInt8.lt_iff_toNat_lt, UInt8.le_iff_toNat_le, UInt8.reduceToNat]
    omega
  simp [step, hlead, follows3_of_toNat h0 h1 hn hvalid, isContinuation_of_toNat h2, point3, hpoint]

theorem step_four (h0 : b0.toNat = n / 262144 + 0xF0) (h1 : b1.toNat = n / 4096 % 64 + 0x80)
    (h2 : b2.toNat = n / 64 % 64 + 0x80) (h3 : b3.toNat = n % 64 + 0x80) (hn : 0xffff < n)
    (hn' : n < 0x110000) :
    step b0 (b1 :: b2 :: b3 :: rest) = (some (.ofNat n), rest) := by
  have hpoint : (((b0.toNat - 0xF0) * 64 + (b1.toNat - 0x80)) * 64 + (b2.toNat - 0x80)) * 64 +
      (b3.toNat - 0x80) = n := by
    omega
  have hlead : ¬ b0 < 0x80 ∧ ¬ b0 ≤ 0xDF ∧ ¬ b0 ≤ 0xEF ∧ 0xF0 ≤ b0 ∧ b0 ≤ 0xF4 := by
    simp only [UInt8.lt_iff_toNat_lt, UInt8.le_iff_toNat_le, UInt8.reduceToNat]
    omega
  simp [step, hlead, follows4_of_toNat h0 h1 hn hn', isContinuation_of_toNat h2,
    isContinuation_of_toNat h3, point4, hpoint]

end

/-- A written character is read in one step, with what follows it left over. -/
theorem exists_step_encodeChar (c : Char) (rest : Bytes) :
    ∃ b tail, String.utf8EncodeChar c ++ rest = b :: tail ∧ step b tail = (some c, rest) := by
  have hvalid : c.val.toNat < 0xD800 ∨ 0xDFFF < c.val.toNat ∧ c.val.toNat < 0x110000 := c.valid
  have hchar : c = .ofNat c.val.toNat := (Char.ofNat_toNat c).symm
  have hbyte : ∀ m, m < 256 → (UInt8.ofNat m).toNat = m := fun m => UInt8.toNat_ofNat_of_lt'
  unfold String.utf8EncodeChar
  dsimp only
  generalize c.val.toNat = n at hvalid hchar
  rw [hchar]
  by_cases h1 : n ≤ 0x7f
  · rw [if_pos h1]
    exact ⟨_, _, rfl, step_one (hbyte n (by omega)) h1⟩
  · rw [if_neg h1]
    by_cases h2 : n ≤ 0x7ff
    · rw [if_pos h2]
      refine ⟨_, _, rfl, step_two ?_ (hbyte _ (by omega)) (by omega) h2⟩
      rw [hbyte _ (by omega)]
      omega
    · rw [if_neg h2]
      by_cases h3 : n ≤ 0xffff
      · rw [if_pos h3]
        refine ⟨_, _, rfl, step_three ?_ (hbyte _ (by omega)) (hbyte _ (by omega)) (by omega) h3
          (by omega)⟩
        rw [hbyte _ (by omega)]
        omega
      · rw [if_neg h3]
        refine ⟨_, _, rfl, step_four ?_ (hbyte _ (by omega)) (hbyte _ (by omega))
          (hbyte _ (by omega)) (by omega) (by omega)⟩
        rw [hbyte _ (by omega)]
        omega

theorem decodeChars_encodeChar (c : Char) (rest : Bytes) :
    decodeChars (String.utf8EncodeChar c ++ rest) = c :: decodeChars rest := by
  obtain ⟨b, tail, heq, hstep⟩ := exists_step_encodeChar c rest
  rw [heq, decodeChars_cons, hstep]
  rfl

theorem toListLoop_eq (bytes : ByteArray) (i : Nat) (r : List UInt8) :
    ByteArray.toList.loop bytes i r = r.reverse ++ bytes.data.toList.drop i := by
  fun_induction ByteArray.toList.loop bytes i r with
  | case1 i r hi ih =>
      have hlt : i < bytes.data.toList.length := by simpa using hi
      have hget : bytes.get! i = bytes.data.toList[i] := by
        have hsize : i < bytes.data.size := by simpa using hi
        simp only [ByteArray.get!, getElem!_pos bytes.data i hsize, Array.getElem_toList]
      rw [ih, List.drop_eq_getElem_cons hlt, hget]
      simp
  | case2 i r hi =>
      have hle : bytes.data.toList.length ≤ i := by simpa using hi
      rw [List.drop_eq_nil_of_le hle, List.append_nil]

theorem encode_eq (s : String) : encode s = s.toList.flatMap String.utf8EncodeChar := by
  have hbytes : encode s = s.toByteArray.data.toList := by
    rw [encode, ByteArray.toList, toListLoop_eq]
    rfl
  rw [hbytes, ← String.utf8Encode_toList, List.utf8Encode, List.toList_data_toByteArray]

theorem encode_ofList (cs : List Char) :
    encode (.ofList cs) = cs.flatMap String.utf8EncodeChar := by
  rw [encode_eq, String.toList_ofList]

@[simp] theorem encode_append (s t : String) : encode (s ++ t) = encode s ++ encode t := by
  simp [encode_eq]

theorem utf8EncodeChar_of_lt {c : Char} (h : c.toNat < 0x80) :
    String.utf8EncodeChar c = [UInt8.ofNat c.toNat] := by
  have hle : c.val.toNat ≤ 0x7f := Nat.le_of_lt_succ h
  rw [String.utf8EncodeChar, if_pos hle]
  rfl

theorem decodeChars_encode (s : String) : decodeChars (encode s) = s.toList := by
  rw [encode_eq]
  induction s.toList with
  | nil => simp
  | cons c cs ih => rw [List.flatMap_cons, decodeChars_encodeChar, ih]

/-- What was encoded is decoded. -/
@[simp] theorem decode_encode (s : String) : decode (encode s) = s := by
  rw [decode, decodeChars_encode, String.ofList_toList]

end SymbolIndex.Utf8
