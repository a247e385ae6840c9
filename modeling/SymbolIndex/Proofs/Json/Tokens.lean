-- SUMMARY: Written integers and strings are read back, up to what stands behind them.
import SymbolIndex.Json.Value
import SymbolIndex.Proofs.Text.Utf8

/-!
# Tokens read back

Integers are written in decimal, and strings with escapes in place of quotes,
backslashes and control characters. The readers take exactly what was written
and leave what follows it.
-/

namespace SymbolIndex.Json

/-! ## ASCII -/

theorem toNat_byte {c : Char} (h : c.toNat < 256) : (byte c).toNat = c.toNat := by
  rw [byte, Char.toUInt8, UInt32.toNat_toUInt8]
  exact Nat.mod_eq_of_lt h

theorem encode_ascii {cs : List Char} (h : ∀ c ∈ cs, c.toNat < 0x80) :
    cs.flatMap String.utf8EncodeChar = cs.map byte := by
  induction cs with
  | nil => rfl
  | cons c cs ih =>
      have hc := h c List.mem_cons_self
      have hbyte : UInt8.ofNat c.toNat = byte c := by
        rw [← UInt8.toNat_inj, toNat_byte (by omega),
          UInt8.toNat_ofNat_of_lt' (Nat.lt_trans hc (by decide))]
      rw [List.flatMap_cons, List.map_cons, Utf8.utf8EncodeChar_of_lt hc, hbyte,
        ih fun c' hc' => h c' (List.mem_cons_of_mem _ hc')]
      rfl

/-! ## Numbers -/

theorem toNat_of_isDigit {c : Char} (h : c.isDigit = true) : 48 ≤ c.toNat ∧ c.toNat ≤ 57 := by
  simp only [Char.isDigit, Bool.and_eq_true, decide_eq_true_eq, UInt32.le_iff_toNat_le] at h
  exact h

theorem isDigit_byte {c : Char} (h : c.isDigit = true) : isDigit (byte c) = true := by
  have hrange := toNat_of_isDigit h
  have hbyte := toNat_byte (c := c) (by omega)
  simp only [isDigit, Bool.and_eq_true, decide_eq_true_eq, UInt8.le_iff_toNat_le, hbyte]
  exact hrange

theorem digitValue_byte {c : Char} (h : c.isDigit = true) :
    digitValue (byte c) = c.toNat - 48 := by
  have hrange := toNat_of_isDigit h
  rw [digitValue, toNat_byte (by omega)]

theorem le_ofDigitChars (ds : List Char) (n : Nat) : n ≤ Nat.ofDigitChars 10 ds n := by
  induction ds generalizing n with
  | nil => exact Nat.le_refl n
  | cons d ds ih =>
      rw [Nat.ofDigitChars_cons]
      have hrest := ih (10 * n + (d.toNat - '0'.toNat))
      omega

/-- Digits are read up to the first byte that is none. -/
theorem readDigits_append {limit n : Nat} {ds : List Char} {rest : Bytes}
    (hds : ∀ d ∈ ds, d.isDigit = true) (hrest : startsWithDigit rest = false)
    (hle : Nat.ofDigitChars 10 ds n ≤ limit) :
    readDigits limit n (ds.map byte ++ rest) = (Nat.ofDigitChars 10 ds n, ds.length, rest) := by
  induction ds generalizing n with
  | nil =>
      cases rest with
      | nil => rfl
      | cons b rest =>
          have hb : isDigit b = false := hrest
          simp [readDigits, hb]
  | cons d ds ih =>
      have hd := hds d List.mem_cons_self
      have hvalue : n * 10 + digitValue (byte d) = 10 * n + (d.toNat - '0'.toNat) := by
        rw [digitValue_byte hd, Nat.mul_comm]
        rfl
      rw [Nat.ofDigitChars_cons] at hle ⊢
      have hfits := Nat.le_trans (le_ofDigitChars ds _) hle
      rw [← hvalue] at hle hfits ⊢
      rw [List.map_cons, List.cons_append, readDigits, isDigit_byte hd, Bool.true_and,
        if_pos (by simpa using hfits),
        ih (fun d' hd' => hds d' (List.mem_cons_of_mem _ hd')) hle, List.length_cons]

/-- Nothing that could belong to an integer comes first. -/
def EndsInteger (rest : Bytes) : Prop :=
  ∀ b ∈ rest.head?, isDigit b = false ∧ b ≠ byte '.' ∧ startsExponent b = false

theorem EndsInteger.startsWithDigit {rest : Bytes} (h : EndsInteger rest) :
    startsWithDigit rest = false := by
  cases rest with
  | nil => rfl
  | cons b rest => exact (h b rfl).1

theorem EndsInteger.afterInteger {rest : Bytes} (h : EndsInteger rest) (positive : Bool)
    (n : Nat) : afterInteger positive n rest = .ok (integerNumber positive n, rest) := by
  cases rest with
  | nil => rfl
  | cons b rest =>
      obtain ⟨-, hpoint, hexponent⟩ := h b rfl
      rw [Json.afterInteger, if_neg hpoint, hexponent, if_neg Bool.false_ne_true]

/-- The first digit of a number is 0 only if there is no other one. -/
theorem head_toDigits {n : Nat} (hn : 0 < n) :
    ∃ d ds, Nat.toDigits 10 n = d :: ds ∧ d ≠ '0' := by
  induction n using Nat.strongRecOn with
  | ind n ih =>
      by_cases hlow : n < 10
      · have hdigits : ∀ m < 10, 0 < m → m.digitChar ≠ '0' := by decide
        exact ⟨_, [], Nat.toDigits_of_lt_base hlow, hdigits n hlow hn⟩
      · obtain ⟨d, ds, hds, hd⟩ := ih (n / 10) (by omega) (by omega)
        rw [Nat.toDigits_of_base_le (by decide) (Nat.not_lt.1 hlow), hds]
        exact ⟨d, _, rfl, hd⟩

theorem readNumber_toDigits {n : Nat} {rest : Bytes} (positive : Bool) (hn : n ≤ wordLimit)
    (hrest : EndsInteger rest) :
    readNumber positive ((Nat.toDigits 10 n).map byte ++ rest) =
      .ok (integerNumber positive n, rest) := by
  rcases Nat.eq_zero_or_pos n with rfl | hpos
  · rw [Nat.toDigits_zero]
    simp [readNumber, hrest.startsWithDigit, hrest.afterInteger]
  · obtain ⟨d, ds, hds, hd⟩ := head_toDigits hpos
    have hdigits : ∀ c ∈ d :: ds, c.isDigit = true := fun c hc =>
      Nat.isDigit_of_mem_toDigits (by decide) (by decide) (hds ▸ hc)
    have hdigit := hdigits d List.mem_cons_self
    have hzero : byte d ≠ byte '0' := by
      intro h
      have hrange := toNat_of_isDigit hdigit
      have hnat := congrArg UInt8.toNat h
      rw [toNat_byte (by omega), toNat_byte (by decide)] at hnat
      exact hd (Char.toNat_inj.1 hnat)
    have hvalue : Nat.ofDigitChars 10 ds (digitValue (byte d)) = n := by
      have h : Nat.ofDigitChars 10 (d :: ds) 0 = n := by
        rw [← hds, Nat.ofDigitChars_ten_toDigits]
      rw [digitValue_byte hdigit, ← h, Nat.ofDigitChars_cons, Nat.mul_zero, Nat.zero_add]
      rfl
    have hread : readDigits wordLimit (digitValue (byte d)) (ds.map byte ++ rest) =
        (n, ds.length, rest) := by
      rw [readDigits_append (fun c hc => hdigits c (List.mem_cons_of_mem _ hc))
        hrest.startsWithDigit (hvalue ▸ hn), hvalue]
    rw [hds, List.map_cons, List.cons_append, readNumber, if_neg hzero, isDigit_byte hdigit,
      if_pos rfl, hread]
    simp only [hrest.startsWithDigit, hrest.afterInteger, Bool.false_eq_true, if_false]

/-! ## Strings -/

/-- The bytes of the text as they stand between quotes. -/
def escapedBytes (cs : List Char) : Bytes :=
  cs.flatMap fun c => (escapedChar c).flatMap String.utf8EncodeChar

theorem encode_renderText (s : String) :
    Utf8.encode (renderText s) = byte '"' :: escapedBytes s.toList ++ [byte '"'] := by
  rw [renderText, Utf8.encode_ofList, List.flatMap_append, List.flatMap_cons, List.flatMap_assoc]
  rfl

/-- Bytes that stand for themselves are taken as they are. -/
theorem stringBytes_append {plain bs content rest : Bytes} {fuel : Nat}
    (hplain : ∀ b ∈ plain, isPlain b = true)
    (h : stringBytes fuel bs = .ok (content, rest)) :
    stringBytes fuel (plain ++ bs) = .ok (plain ++ content, rest) := by
  cases fuel with
  | zero => exact absurd h (by simp [stringBytes])
  | succ fuel =>
      unfold stringBytes at h ⊢
      rw [List.takeWhile_append_of_pos hplain, List.dropWhile_append_of_pos hplain]
      revert h
      cases bs.dropWhile isPlain with
      | nil => simp
      | cons b tail =>
          dsimp only
          split
          · intro h
            simp_all
          · split
            · cases escape tail with
              | error fault => simp [bind, Except.bind]
              | ok x =>
                  cases hs : stringBytes fuel x.2 with
                  | error fault => simp [bind, Except.bind, hs]
                  | ok y => simp_all [bind, Except.bind]
            · simp

/-- A character that is written as it is has no byte that a string treats
differently. -/
theorem isPlain_of_mem_utf8EncodeChar {c : Char} {b : UInt8} (hescaped : escapedChar c = [c])
    (hb : b ∈ String.utf8EncodeChar c) : isPlain b = true := by
  by_cases hlow : b < 0x80
  · have hchars : Utf8.decodeChars (String.utf8EncodeChar c) = [c] := by
      have h := Utf8.decodeChars_encodeChar c []
      rwa [List.append_nil, Utf8.decodeChars_nil] at h
    have hc : Char.ofNat b.toNat = c := by
      have hmem := (Utf8.mem_decodeChars_iff hlow).2 hb
      rw [hchars] at hmem
      exact List.mem_singleton.1 hmem
    have hascii : ∀ n < 128, escapedChar (.ofNat n) = [.ofNat n] → isPlain (.ofNat n) = true := by
      decide
    have h := hascii b.toNat (UInt8.lt_iff_toNat_lt.1 hlow)
    rw [hc, UInt8.ofNat_toNat] at h
    exact h hescaped
  · have hhigh : 128 ≤ b.toNat := Nat.not_lt.1 fun h => hlow (UInt8.lt_iff_toNat_lt.2 h)
    have hquote : b ≠ byte '"' := by
      rintro rfl
      exact absurd hhigh (by decide)
    have hslash : b ≠ byte '\\' := by
      rintro rfl
      exact absurd hhigh (by decide)
    have hcontrol : 0x20 ≤ b := UInt8.le_iff_toNat_le.2 (Nat.le_trans (by decide) hhigh)
    simp [isPlain, hquote, hslash, hcontrol]

theorem escape_unicode {n : Nat} (hn : n < 0x20) (rest : Bytes) :
    escape (byte 'u' :: byte '0' :: byte '0' :: byte (hexDigit (n / 16)) ::
      byte (hexDigit (n % 16)) :: rest) = .ok (String.utf8EncodeChar (.ofNat n), rest) := by
  have hhex : ∀ k < 16, hexValue? (byte (hexDigit k)) = some k := by decide
  have hfour : fourHex (byte '0' :: byte '0' :: byte (hexDigit (n / 16)) ::
      byte (hexDigit (n % 16)) :: rest) = .ok (n, rest) := by
    have hzero : hexValue? (byte '0') = some 0 := by decide
    have hvalue : ((0 * 16 + 0) * 16 + n / 16) * 16 + n % 16 = n := by omega
    simp only [fourHex, hzero, hhex _ (show n / 16 < 16 by omega),
      hhex _ (show n % 16 < 16 by omega), hvalue]
  have htrail : isTrailSurrogate n = false := by simp [isTrailSurrogate]; omega
  have hlead : isLeadSurrogate n = false := by simp [isLeadSurrogate]; omega
  have hshort : shortEscape? (byte 'u') = none := by decide
  simp only [escape, hshort, if_true, unicodeEscape, hfour, bind, Except.bind, htrail, hlead,
    Bool.false_eq_true, if_false]
  simp [Utf8.encode_eq]

/-- The letters of the escapes without a number. -/
def escapeLetters : List Char := ['"', '\\', 'b', 'f', 'n', 'r', 't']

/-- Escapes have one letter or a number, and only ASCII characters have one. -/
theorem escapedChar_cases {c : Char} (h : escapedChar c ≠ [c]) :
    (∃ e ∈ escapeLetters,
      escapedChar c = ['\\', e] ∧ shortEscape? (byte e) = some (.ofNat c.toNat)) ∧ c.toNat < 0x80 ∨
    escapedChar c = ['\\', 'u', '0', '0', hexDigit (c.toNat / 16), hexDigit (c.toNat % 16)] ∧
      c.toNat < 0x20 := by
  have hascii : c.toNat < 128 := by
    refine Nat.lt_of_not_le fun hhigh => h ?_
    have hne : ∀ d : Char, d.toNat < 128 → c ≠ d := by
      rintro d hd rfl
      omega
    unfold escapedChar
    rw [if_neg (hne _ (by decide)), if_neg (hne _ (by decide)), if_neg (hne _ (by decide)),
      if_neg (hne _ (by decide)), if_neg (hne _ (by decide)), if_neg (by omega),
      if_neg (by omega), if_neg (by omega)]
  -- the letters are searched by `any`: characters are finite, and a search for one that
  -- satisfies a proposition would go through all of them
  have hcases : ∀ n < 128, escapedChar (.ofNat n) ≠ [.ofNat n] →
      (escapeLetters.any fun e => escapedChar (.ofNat n) = ['\\', e] &&
        shortEscape? (byte e) = some (.ofNat n)) = true ∧ n < 0x80 ∨
      escapedChar (.ofNat n) = ['\\', 'u', '0', '0', hexDigit (n / 16), hexDigit (n % 16)] ∧
        n < 0x20 := by
    decide
  have hc := hcases c.toNat hascii
  rw [Char.ofNat_toNat] at hc
  simpa only [List.any_eq_true, Bool.and_eq_true, decide_eq_true_eq, Char.ofNat_toNat] using hc h

/-- A character that is not written as it is has an escape, which is read back. -/
theorem exists_escape {c : Char} (h : escapedChar c ≠ [c]) :
    ∃ tail, (escapedChar c).flatMap String.utf8EncodeChar = byte '\\' :: tail ∧
      ∀ rest, escape (tail ++ rest) = .ok (String.utf8EncodeChar c, rest) := by
  rcases escapedChar_cases h with ⟨⟨e, he, heq, hshort⟩, hlow⟩ | ⟨heq, hlow⟩
  · have hletters : (escapeLetters.all fun e => e.toNat < 0x80) = true := by decide
    have hletter : e.toNat < 0x80 := of_decide_eq_true (List.all_eq_true.1 hletters e he)
    refine ⟨[byte e], ?_, fun rest => ?_⟩
    · rw [heq, encode_ascii (by simpa using hletter)]
      rfl
    · rw [Utf8.utf8EncodeChar_of_lt hlow]
      simp [escape, hshort]
  · have hdigit : ∀ k < 16, (hexDigit k).toNat < 0x80 := by decide
    have h16 := hdigit (c.toNat / 16) (by omega)
    have h1 := hdigit (c.toNat % 16) (by omega)
    refine ⟨[byte 'u', byte '0', byte '0', byte (hexDigit (c.toNat / 16)),
      byte (hexDigit (c.toNat % 16))], ?_, fun rest => ?_⟩
    · rw [heq, encode_ascii (by simp [h16, h1])]
      rfl
    · have hescape := escape_unicode hlow rest
      rwa [Char.ofNat_toNat] at hescape

/-- Between quotes, every character is read back. -/
theorem stringBytes_escapedBytes {cs : List Char} {fuel : Nat} (rest : Bytes)
    (hfuel : cs.length < fuel) :
    stringBytes fuel (escapedBytes cs ++ byte '"' :: rest) =
      .ok (cs.flatMap String.utf8EncodeChar, rest) := by
  induction cs generalizing fuel with
  | nil =>
      obtain ⟨fuel, rfl⟩ := Nat.exists_eq_add_of_lt hfuel
      rfl
  | cons c cs ih =>
      rw [escapedBytes, List.flatMap_cons, List.flatMap_cons, List.append_assoc]
      rw [List.length_cons] at hfuel
      by_cases hplain : escapedChar c = [c]
      · have hbytes : [c].flatMap String.utf8EncodeChar = String.utf8EncodeChar c := by simp
        rw [hplain, hbytes]
        exact stringBytes_append (fun b hb => isPlain_of_mem_utf8EncodeChar hplain hb)
          (ih (by omega))
      · obtain ⟨tail, htail, hescape⟩ := exists_escape hplain
        cases fuel with
        | zero => exact absurd hfuel (by omega)
        | succ fuel =>
            have hslash : isPlain (byte '\\') = false := by decide
            have hquote : byte '\\' ≠ byte '"' := by decide
            have hrest : stringBytes fuel (escapedBytes cs ++ byte '"' :: rest) =
                .ok (cs.flatMap String.utf8EncodeChar, rest) := ih (by omega)
            rw [escapedBytes] at hrest
            rw [htail, List.cons_append, stringBytes, List.takeWhile_cons, List.dropWhile_cons,
              hslash]
            simp [hquote, hescape, hrest, bind, Except.bind]

theorem length_le_escapedBytes (cs : List Char) : cs.length ≤ (escapedBytes cs).length := by
  induction cs with
  | nil => exact Nat.le_refl 0
  | cons c cs ih =>
      have hpos : 0 < ((escapedChar c).flatMap String.utf8EncodeChar).length := by
        by_cases hplain : escapedChar c = [c]
        · simp [hplain, Char.utf8Size_pos]
        · obtain ⟨tail, htail, -⟩ := exists_escape hplain
          rw [htail]
          exact Nat.succ_pos _
      rw [escapedBytes] at ih ⊢
      rw [List.flatMap_cons, List.length_append, List.length_cons]
      omega

/-- A written string is read back. -/
theorem readString_renderText (s : String) (rest : Bytes) :
    readString (escapedBytes s.toList ++ byte '"' :: rest) = .ok (s, rest) := by
  have hlen := length_le_escapedBytes s.toList
  have hfuel : s.toList.length < (escapedBytes s.toList ++ byte '"' :: rest).length + 1 := by
    rw [List.length_append]
    omega
  rw [readString, stringBytes_escapedBytes rest hfuel, ← Utf8.encode_eq]
  simp [bind, Except.bind]

end SymbolIndex.Json
