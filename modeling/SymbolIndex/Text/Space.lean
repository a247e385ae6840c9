-- SUMMARY: White space in the sense of the Unicode property, and trimming by it.

/-! # White space

Every place that trims text (names, base types, configuration values, result
lines) uses the Unicode property `White_Space`, so a no-break space or an
ideographic space is trimmed like a blank. -/

namespace SymbolIndex.Text

/-! ## The property -/

/-- The characters with the Unicode property `White_Space`. -/
def isSpace (c : Char) : Bool :=
  (9 ≤ c.toNat && c.toNat ≤ 13) || c == ' ' || c.toNat == 0x85 || c.toNat == 0xA0 ||
    c.toNat == 0x1680 || (0x2000 ≤ c.toNat && c.toNat ≤ 0x200A) || c.toNat == 0x2028 ||
    c.toNat == 0x2029 || c.toNat == 0x202F || c.toNat == 0x205F || c.toNat == 0x3000

/-! ## Trimming -/

/-- Drops the longest tail all of whose members satisfy `p`. -/
def dropTail (p : α → Bool) (xs : List α) : List α :=
  (xs.reverse.dropWhile p).reverse

@[simp] theorem dropTail_nil (p : α → Bool) : dropTail p [] = [] := rfl

def trimStartChars (cs : List Char) : List Char := cs.dropWhile isSpace

def trimEndChars (cs : List Char) : List Char := dropTail isSpace cs

def trimChars (cs : List Char) : List Char := trimEndChars (trimStartChars cs)

/-- The text without the white space at its two ends. -/
def trim (s : String) : String := .ofList (trimChars s.toList)

/-- The text without the white space at its end. -/
def trimEnd (s : String) : String := .ofList (trimEndChars s.toList)

@[simp] theorem toList_trim (s : String) : (trim s).toList = trimChars s.toList := by
  simp [trim]

@[simp] theorem toList_trimEnd (s : String) : (trimEnd s).toList = trimEndChars s.toList := by
  simp [trimEnd]

end SymbolIndex.Text
