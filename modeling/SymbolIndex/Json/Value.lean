-- SUMMARY: JSON values, reading them, and their compact and indented texts.
import SymbolIndex.Json.Lexical

/-! # JSON values -/

namespace SymbolIndex

inductive Json where
  | null
  | boolean (value : Bool)
  | number (value : Json.Number)
  | text (value : String)
  | list (items : List Json)
  /-- Members in the order written. -/
  | object (members : List (String × Json))
  deriving Repr, Inhabited

namespace Json

/-! ## Looking inside -/

def ofNat (n : Nat) : Json := .number (.integer n)

def ofInt (n : Int) : Json := .number (.integer n)

def ofTexts (texts : List String) : Json := .list (texts.map .text)

/-- The value of a member; of several with one name the last one counts. -/
def field? (v : Json) (name : String) : Option Json :=
  match v with
  | object members => (members.reverse.find? (·.1 = name)).map Prod.snd
  | _ => none

def text? : Json → Option String
  | text value => some value
  | _ => none

def boolean? : Json → Option Bool
  | boolean value => some value
  | _ => none

/-- The texts of a list that holds nothing else. -/
def texts? : Json → Option (List String)
  | list items => items.mapM text?
  | _ => none

@[simp] theorem texts?_ofTexts (texts : List String) : (ofTexts texts).texts? = some texts := by
  induction texts with
  | nil => rfl
  | cons text texts ih => simp_all [ofTexts, texts?, text?]

def int? : Json → Option Int
  | number (.integer value) => some value
  | _ => none

/-- An integer that is not negative. -/
def nat? : Json → Option Nat
  | number (.integer value) => if 0 ≤ value then some value.toNat else none
  | _ => none

/-! ## Items and members -/

/-- Goes to the next item of a list. Gives `none` behind the closing bracket,
and otherwise the bytes that start with the item. -/
def nextItem (first : Bool) (bs : Bytes) : Except Fault (Option Bytes × Bytes) :=
  match skipBlanks bs with
  | [] => .error (.next .endInList [])
  | b :: rest =>
      if b = byte ']' then .ok (none, rest)
      else if first then .ok (some (b :: rest), b :: rest)
      else if b = byte ',' then
        match skipBlanks rest with
        | [] => .error (.next .endInValue [])
        | c :: rest =>
            if c = byte ']' then .error (.next .trailingComma (c :: rest))
            else .ok (some (c :: rest), c :: rest)
      else .error (.next .expectedListEnd (b :: rest))

/-- Reads the items of a list whose opening bracket has been read. -/
def itemsFrom (item : Reader α) : (fuel : Nat) → (first : Bool) → Reader (List α)
  | 0, _, bs => .error (.here .endInList bs)
  | fuel + 1, first, bs => do
      match ← nextItem first bs with
      | (none, rest) => .ok ([], rest)
      | (some bs, _) =>
          let (x, rest) ← item bs
          let (xs, rest) ← itemsFrom item fuel false rest
          .ok (x :: xs, rest)

def readItems (item : Reader α) : Reader (List α) := fun bs => itemsFrom item (bs.length + 1) true bs

/-- Goes to the next key of an object and reads it. Gives `none` behind the
closing brace. -/
def nextKey (first : Bool) : Reader (Option String) := fun bs =>
  match skipBlanks bs with
  | [] => .error (.next .endInObject [])
  | b :: rest =>
      if b = byte '\x7d' then .ok (none, rest)
      else if first then
        if b = byte '"' then do
          let (key, rest) ← readString rest
          .ok (some key, rest)
        else .error (.next .keyNotText (b :: rest))
      else if b = byte ',' then
        match skipBlanks rest with
        | [] => .error (.next .endInValue [])
        | c :: rest =>
            if c = byte '"' then do
              let (key, rest) ← readString rest
              .ok (some key, rest)
            else if c = byte '\x7d' then .error (.next .trailingComma (c :: rest))
            else .error (.next .keyNotText (c :: rest))
      else .error (.next .expectedObjectEnd (b :: rest))

/-- Reads the colon behind a key. -/
def colon (bs : Bytes) : Except Fault Bytes :=
  match skipBlanks bs with
  | [] => .error (.next .endInObject [])
  | b :: rest => if b = byte ':' then .ok rest else .error (.next .expectedColon (b :: rest))

/-- Reads the members of an object whose opening brace has been read. -/
def membersFrom (value : Reader α) : (fuel : Nat) → (first : Bool) → Reader (List (String × α))
  | 0, _, bs => .error (.here .endInObject bs)
  | fuel + 1, first, bs => do
      match ← nextKey first bs with
      | (none, rest) => .ok ([], rest)
      | (some key, rest) =>
          let (x, rest) ← value (← colon rest)
          let (xs, rest) ← membersFrom value fuel false rest
          .ok ((key, x) :: xs, rest)

def readMembers (value : Reader α) : Reader (List (String × α)) := fun bs =>
  membersFrom value (bs.length + 1) true bs

/-! ## Values -/

/-- Brackets may be nested this deep. -/
def nestingLimit : Nat := 127

/-- Reads a value that has at most `levels` brackets around each other. -/
def readValue (levels : Nat) : Reader Json := fun bs =>
  match skipBlanks bs with
  | [] => .error (.next .endInValue [])
  | b :: rest =>
      if b = byte 'n' then (word ("ull".toList.map byte) rest).map (.null, ·)
      else if b = byte 't' then (word ("rue".toList.map byte) rest).map (.boolean true, ·)
      else if b = byte 'f' then (word ("alse".toList.map byte) rest).map (.boolean false, ·)
      else if b = byte '-' then (readNumber false rest).map fun (n, rest) => (.number n, rest)
      else if isDigit b then (readNumber true (b :: rest)).map fun (n, rest) => (.number n, rest)
      else if b = byte '"' then (readString rest).map fun (s, rest) => (.text s, rest)
      else if b = byte '[' then
        match levels with
        | 0 => .error (.next .tooDeep (b :: rest))
        | levels + 1 => (readItems (readValue levels) rest).map fun (xs, rest) => (.list xs, rest)
      else if b = byte '\x7b' then
        match levels with
        | 0 => .error (.next .tooDeep (b :: rest))
        | levels + 1 => (readMembers (readValue levels) rest).map fun (ms, rest) => (.object ms, rest)
      else .error (.next .expectedValue (b :: rest))

/-- Reads a whole text; only blanks may follow. -/
def decode (reader : Reader α) (input : Bytes) : Except Failure α :=
  match reader input with
  | .error fault => .error (fault.inText input)
  | .ok (x, rest) =>
      match skipBlanks rest with
      | [] => .ok x
      | rest => .error ((Fault.next .trailingCharacters rest).inText input)

def parse (input : Bytes) : Except Failure Json := decode (readValue nestingLimit) input

/-! ## Texts -/

def hexDigit (n : Nat) : Char := Nat.digitChar n

/-- A character as it stands in a string. -/
def escapedChar (c : Char) : List Char :=
  if c = '"' then ['\\', '"']
  else if c = '\\' then ['\\', '\\']
  else if c = '\n' then ['\\', 'n']
  else if c = '\r' then ['\\', 'r']
  else if c = '\t' then ['\\', 't']
  else if c.toNat = 8 then ['\\', 'b']
  else if c.toNat = 12 then ['\\', 'f']
  else if c.toNat < 0x20 then
    ['\\', 'u', '0', '0', hexDigit (c.toNat / 16), hexDigit (c.toNat % 16)]
  else [c]

def renderText (s : String) : String := .ofList ('"' :: s.toList.flatMap escapedChar ++ ['"'])

def Number.render : Number → String
  | integer value => toString value
  | real value => Decimal.text value

mutual

/-- The text without blanks. -/
def render : Json → String
  | null => "null"
  | boolean value => toString value
  | number value => value.render
  | text value => renderText value
  | list items => "[" ++ ",".intercalate (renderItems items) ++ "]"
  | object members => "\x7b" ++ ",".intercalate (renderMembers members) ++ "\x7d"

def renderItems : List Json → List String
  | [] => []
  | v :: vs => v.render :: renderItems vs

def renderMembers : List (String × Json) → List String
  | [] => []
  | (key, v) :: ms => (renderText key ++ ":" ++ v.render) :: renderMembers ms

end

def indentation (depth : Nat) : String := .ofList (List.replicate (2 * depth) ' ')

/-- Lines between an opening and a closing bracket, one level deeper. -/
def indented (opening closing : String) (depth : Nat) (lines : List String) : String :=
  if lines.isEmpty then opening ++ closing
  else
    opening ++ "\n" ++ ",\n".intercalate (lines.map (indentation (depth + 1) ++ ·)) ++ "\n" ++
      indentation depth ++ closing

mutual

/-- The text with one item or member a line, each level indented by two blanks. -/
def renderIndented (depth : Nat) : Json → String
  | null => "null"
  | boolean value => toString value
  | number value => value.render
  | text value => renderText value
  | list items => indented "[" "]" depth (indentedItems (depth + 1) items)
  | object members => indented "\x7b" "\x7d" depth (indentedMembers (depth + 1) members)

def indentedItems (depth : Nat) : List Json → List String
  | [] => []
  | v :: vs => renderIndented depth v :: indentedItems depth vs

def indentedMembers (depth : Nat) : List (String × Json) → List String
  | [] => []
  | (key, v) :: ms =>
      (renderText key ++ ": " ++ renderIndented depth v) :: indentedMembers depth ms

end

end Json

end SymbolIndex
