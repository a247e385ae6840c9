-- SUMMARY: Which bytes are JSON values, and which spell a given text, number, list or object.
import Mathlib.Data.List.DropRight
import SymbolIndex.Proofs.Json.RoundTrip

/-!
# Written values

`IsValue` is the grammar of JSON: any value, however deep, with any blanks, escapes and
numbers. The other predicates also say what is written. One text has many spellings, and
an object is spelled with its members in any order that the list of them has.
-/

namespace SymbolIndex.Json

/-! ## Blanks -/

def AreBlanks (bs : Bytes) : Prop := ∀ b ∈ bs, isBlank b = true

theorem areBlanks_nil : AreBlanks [] := fun _ hb => absurd hb List.not_mem_nil

theorem areBlanks_space : AreBlanks [byte ' '] := by
  intro b hb
  obtain rfl := List.mem_singleton.1 hb
  decide

theorem AreBlanks.append {xs ys : Bytes} (hx : AreBlanks xs) (hy : AreBlanks ys) :
    AreBlanks (xs ++ ys) := by
  intro b hb
  rcases List.mem_append.1 hb with hb | hb
  · exact hx b hb
  · exact hy b hb

theorem skipBlanks_append {before : Bytes} (h : AreBlanks before) (bs : Bytes) :
    skipBlanks (before ++ bs) = skipBlanks bs :=
  List.dropWhile_append_of_pos h

theorem skipBlanks_cons {b : UInt8} (h : isBlank b = false) (bs : Bytes) :
    skipBlanks (b :: bs) = b :: bs :=
  List.dropWhile_cons_of_neg (by simp [h])

theorem skipBlanks_skipBlanks (bs : Bytes) : skipBlanks (skipBlanks bs) = skipBlanks bs :=
  List.dropWhile_idempotent isBlank bs

theorem length_skipBlanks_le (bs : Bytes) : (skipBlanks bs).length ≤ bs.length :=
  (List.dropWhile_sublist isBlank).length_le

/-- What blanks belong to ends an integer if what comes behind them does. -/
theorem EndsInteger.append {before rest : Bytes} (hrest : EndsInteger rest)
    (h : AreBlanks before) : EndsInteger (before ++ rest) := by
  cases before with
  | nil => exact hrest
  | cons b before =>
      have hblank : ∀ c, isBlank c = true →
          isDigit c = false ∧ c ≠ byte '.' ∧ startsExponent c = false := by
        intro c hc
        simp only [isBlank, Bool.or_eq_true, decide_eq_true_eq] at hc
        rcases hc with ((rfl | rfl) | rfl) | rfl <;> decide
      intro c hc
      obtain rfl : b = c := by simpa using hc
      exact hblank b (h b List.mem_cons_self)

theorem endsInteger_cons {b : UInt8}
    (hb : isDigit b = false ∧ b ≠ byte '.' ∧ startsExponent b = false) (rest : Bytes) :
    EndsInteger (b :: rest) := by
  intro c hc
  obtain rfl : b = c := by simpa using hc
  exact hb

/-- A text of a kind, with any blanks around it. -/
def Padded (kind : Bytes → Prop) (bs : Bytes) : Prop :=
  ∃ before text after, AreBlanks before ∧ kind text ∧ AreBlanks after ∧
    bs = before ++ text ++ after

theorem Padded.behind_blanks {kind : Bytes → Prop} {before bs : Bytes} (h : Padded kind bs)
    (hbefore : AreBlanks before) : Padded kind (before ++ bs) := by
  obtain ⟨before', text, after, hbefore', hkind, hafter, rfl⟩ := h
  exact ⟨before ++ before', text, after, hbefore.append hbefore', hkind, hafter, by simp⟩

theorem padded_of_kind {kind : Bytes → Prop} {bs : Bytes} (h : kind bs) : Padded kind bs :=
  ⟨[], bs, [], areBlanks_nil, h, areBlanks_nil, by simp⟩

theorem padded_behind_blanks {kind : Bytes → Prop} {before bs : Bytes} (hbefore : AreBlanks before)
    (h : kind bs) : Padded kind (before ++ bs) :=
  (padded_of_kind h).behind_blanks hbefore

/-! ## Strings -/

/-- Letters behind a backslash, and the codes of the characters that they stand for. -/
def escapes : List (Char × Nat) :=
  [('"', 0x22), ('\\', 0x5C), ('/', 0x2F), ('b', 8), ('f', 12), ('n', 10), ('r', 13), ('t', 9)]

/-- Four hexadecimal digits with that value. -/
inductive SpellsHex : Nat → Bytes → Prop
  | digits {a b c d : UInt8} {i j k l : Nat} (ha : hexValue? a = some i)
      (hb : hexValue? b = some j) (hc : hexValue? c = some k) (hd : hexValue? d = some l) :
      SpellsHex (((i * 16 + j) * 16 + k) * 16 + l) [a, b, c, d]

/-- What stands behind a backslash for the bytes of one character. -/
inductive SpellsEscape : (content text : Bytes) → Prop
  | letter {letter : Char} {code : Nat} (h : (letter, code) ∈ escapes) :
      SpellsEscape [.ofNat code] [byte letter]
  | unicode {n : Nat} {digits : Bytes} (h : SpellsHex n digits)
      (hn : n < 0xD800 ∨ 0xDFFF < n) :
      SpellsEscape (String.utf8EncodeChar (.ofNat n)) (byte 'u' :: digits)
  | pair {lead trail : Nat} {digits digits' : Bytes} (hlead : SpellsHex lead digits)
      (hrange : 0xD800 ≤ lead ∧ lead ≤ 0xDBFF) (htrail : SpellsHex trail digits')
      (hrange' : 0xDC00 ≤ trail ∧ trail ≤ 0xDFFF) :
      SpellsEscape (String.utf8EncodeChar (.ofNat (surrogatePair lead trail)))
        (byte 'u' :: digits ++ byte '\\' :: byte 'u' :: digits')

/-- What stands between the quotes for those bytes. -/
inductive SpellsContent : (content text : Bytes) → Prop
  | nil : SpellsContent [] []
  | plain {b : UInt8} {content text : Bytes} (hb : isPlain b = true)
      (h : SpellsContent content text) : SpellsContent (b :: content) (b :: text)
  | escaped {c e content text : Bytes} (he : SpellsEscape c e) (h : SpellsContent content text) :
      SpellsContent (c ++ content) (byte '\\' :: e ++ text)

/-- What may stand between quotes, surrogates in any order included. -/
inductive IsContent : Bytes → Prop
  | nil : IsContent []
  | plain {b : UInt8} {text : Bytes} (hb : isPlain b = true) (h : IsContent text) :
      IsContent (b :: text)
  | letter {letter : Char} {code : Nat} {text : Bytes} (hl : (letter, code) ∈ escapes)
      (h : IsContent text) : IsContent (byte '\\' :: byte letter :: text)
  | unicode {n : Nat} {digits text : Bytes} (hd : SpellsHex n digits) (h : IsContent text) :
      IsContent (byte '\\' :: byte 'u' :: digits ++ text)

def quoted (body : Bytes) : Bytes := byte '"' :: body ++ [byte '"']

def IsString : Bytes → Prop := Padded fun text => ∃ body, IsContent body ∧ text = quoted body

def SpellsText (s : String) : Bytes → Prop :=
  Padded fun text => ∃ content body,
    SpellsContent content body ∧ s = Utf8.decode content ∧ text = quoted body

/-! ## Numbers -/

def numeral (n : Nat) : Bytes := (Nat.toDigits 10 n).map byte

def AreDigits (ds : Bytes) : Prop := ds ≠ [] ∧ ∀ d ∈ ds, isDigit d = true

/-- A point and digits, or nothing. -/
def IsFraction (bs : Bytes) : Prop := bs = [] ∨ ∃ ds, AreDigits ds ∧ bs = byte '.' :: ds

/-- A letter, a sign or none, and digits; or nothing. -/
def IsExponent (bs : Bytes) : Prop :=
  bs = [] ∨ ∃ letter sign ds, (letter = byte 'e' ∨ letter = byte 'E') ∧
    (sign = [] ∨ sign = [byte '+'] ∨ sign = [byte '-']) ∧ AreDigits ds ∧
    bs = letter :: (sign ++ ds)

def IsNumber (bs : Bytes) : Prop :=
  ∃ sign n fraction exponent, (sign = [] ∨ sign = [byte '-']) ∧ IsFraction fraction ∧
    IsExponent exponent ∧ bs = sign ++ (numeral n ++ (fraction ++ exponent))

def SpellsNat (n : Nat) : Bytes → Prop := Padded (· = numeral n)

/-! ## Values -/

def wordBytes (w : String) : Bytes := w.toList.map byte

theorem encode_word {w : String} (h : w.toList.all fun c => c.toNat < 0x80) :
    Utf8.encode w = wordBytes w :=
  (Utf8.encode_eq w).trans (encode_ascii fun c hc => of_decide_eq_true (List.all_eq_true.1 h c hc))

/-- A member of an object: its key and its value with a colon between them. -/
def pairBytes (m : Bytes × Bytes) : Bytes := m.1 ++ byte ':' :: m.2

/-- A JSON value with or without blanks around it. -/
inductive IsValue : Bytes → Prop
  | word {w : String} (h : w ∈ ["null", "true", "false"]) : IsValue (wordBytes w)
  | number {bs : Bytes} (h : IsNumber bs) : IsValue bs
  | string {body : Bytes} (h : IsContent body) : IsValue (quoted body)
  | list {items : List Bytes} {gap : Bytes} (hitems : ∀ item ∈ items, IsValue item)
      (hgap : AreBlanks gap) : IsValue (byte '[' :: separated id items ++ (gap ++ [byte ']']))
  | object {members : List (Bytes × Bytes)} {gap : Bytes} (hkeys : ∀ m ∈ members, IsString m.1)
      (hvalues : ∀ m ∈ members, IsValue m.2) (hgap : AreBlanks gap) :
      IsValue (byte '\x7b' :: separated pairBytes members ++ (gap ++ [byte '\x7d']))
  | padded {before bs after : Bytes} (hbefore : AreBlanks before) (h : IsValue bs)
      (hafter : AreBlanks after) : IsValue (before ++ bs ++ after)

/-- `null`, or the spelling of a value. -/
def SpellsOption (spells : α → Bytes → Prop) : Option α → Bytes → Prop
  | none => Padded (· = wordBytes "null")
  | some x => spells x

def SpellsList (spells : α → Bytes → Prop) (xs : List α) : Bytes → Prop :=
  Padded fun text => ∃ (items : List (α × Bytes)) (gap : Bytes),
    (∀ item ∈ items, spells item.1 item.2) ∧ AreBlanks gap ∧ xs = items.map Prod.fst ∧
    text = byte '[' :: separated Prod.snd items ++ (gap ++ [byte ']'])

/-- A member as it is written. -/
structure Member where
  name : String
  key : Bytes
  value : Bytes
  spelled : SpellsText name key

def Member.bytes (m : Member) : Bytes := m.key ++ byte ':' :: m.value

/-- An object that has the named values in that order. -/
def SpellsObject (members : List (String × Bytes)) : Bytes → Prop :=
  Padded fun text => ∃ (ms : List Member) (gap : Bytes),
    AreBlanks gap ∧ members = ms.map (fun m => (m.name, m.value)) ∧
    text = byte '\x7b' :: separated Member.bytes ms ++ (gap ++ [byte '\x7d'])

/-- The members spell the value under that name; without a value, nothing has the name. -/
def Gives (members : List (String × Bytes)) (name : String) (spells : α → Bytes → Prop) :
    Option α → Prop
  | none => name ∉ members.map Prod.fst
  | some x => ∃ value, (name, value) ∈ members ∧ spells x value

theorem Gives.map {members : List (String × Bytes)} {name : String} {spells : α → Bytes → Prop}
    {spells' : β → Bytes → Prop} {o : Option α} (h : Gives members name spells o) {f : α → β}
    (hf : ∀ x value, spells x value → spells' (f x) value) :
    Gives members name spells' (o.map f) := by
  cases o with
  | none => exact h
  | some x => exact h.imp fun value hvalue => hvalue.imp_right (hf x value)

end SymbolIndex.Json
