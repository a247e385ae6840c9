-- SUMMARY: Reading JSON into typed values: texts, words, lists and records with known fields.
import SymbolIndex.Json.Skip
import SymbolIndex.Json.Value

/-! # Typed values

A record reads the fields it knows, in any order, skips the others, and keeps
what it started from for those that are missing. It also accepts a list with
the values of its fields in their order. -/

namespace SymbolIndex.Json

/-! ## Wrong types -/

/-- Reads as much of a value as it takes to describe it. -/
def found : Reader Found
  | [] => .error (.next .endInValue [])
  | b :: rest =>
      if b = byte 'n' then (word ("ull".toList.map byte) rest).map (.null, ·)
      else if b = byte 't' then (word ("rue".toList.map byte) rest).map (.boolean true, ·)
      else if b = byte 'f' then (word ("alse".toList.map byte) rest).map (.boolean false, ·)
      else if b = byte '-' then (readNumber false rest).map fun (n, rest) => (n.found, rest)
      else if isDigit b then (readNumber true (b :: rest)).map fun (n, rest) => (n.found, rest)
      else if b = byte '"' then (readString rest).map fun (s, rest) => (.text s, rest)
      else if b = byte '[' then .ok (.sequence, b :: rest)
      else if b = byte '\x7b' then .ok (.map, b :: rest)
      else .error (.next .expectedValue (b :: rest))

/-- The fault of a value that is not what was expected. -/
def mismatch (expected : String) (bs : Bytes) : Fault :=
  match found bs with
  | .ok (f, rest) => .here (.wrongType f expected) rest
  | .error fault => fault

/-! ## Scalars -/

/-- Reads a string. -/
def textAs (expected : String) : Reader String := fun bs =>
  match skipBlanks bs with
  | [] => .error (.next .endInValue [])
  | b :: rest => if b = byte '"' then readString rest else .error (mismatch expected (b :: rest))

/-- Accepts an integer from 0 to `limit`. -/
def bounded (limit : Nat) (expected : String) (n : Number) (rest : Bytes) :
    Except Fault (Nat × Bytes) :=
  match n with
  | .integer value =>
      if 0 ≤ value ∧ value ≤ limit then .ok (value.toNat, rest)
      else .error (.here (.outOfRange value expected) rest)
  | .real _ => .error (.here (.wrongType n.found expected) rest)

/-- Reads an integer from 0 to `limit`. -/
def unsigned (limit : Nat) (expected : String) : Reader Nat := fun bs =>
  match skipBlanks bs with
  | [] => .error (.next .endInValue [])
  | b :: rest =>
      if b = byte '-' then do
        let (n, rest) ← readNumber false rest
        bounded limit expected n rest
      else if isDigit b then do
        let (n, rest) ← readNumber true (b :: rest)
        bounded limit expected n rest
      else .error (mismatch expected (b :: rest))

/-- Reads `null` as nothing. -/
def optional (reader : Reader α) : Reader (Option α) := fun bs =>
  match skipBlanks bs with
  | b :: rest =>
      if b = byte 'n' then (word ("ull".toList.map byte) rest).map (none, ·)
      else (reader (b :: rest)).map fun (x, rest) => (some x, rest)
  | [] => (reader []).map fun (x, rest) => (some x, rest)

/-- Reads a list. -/
def sequence (item : Reader α) : Reader (List α) := fun bs =>
  match skipBlanks bs with
  | [] => .error (.next .endInValue [])
  | b :: rest =>
      if b = byte '[' then readItems item rest else .error (mismatch "a sequence" (b :: rest))

/-! ## Records -/

/-- A field of a record: its name, and how its value changes the record. -/
structure RecordField (σ : Type) where
  name : String
  read : Reader (σ → σ)

/-- A field that is set to the value read. -/
def RecordField.set (name : String) (reader : Reader α) (update : σ → α → σ) : RecordField σ :=
  ⟨name, fun bs => (reader bs).map fun (x, rest) => (fun s => update s x, rest)⟩

/-- The fault of a field that is there twice. It is noted behind the key, the
blanks that follow, and a closing brace. -/
def repeated (name : String) (bs : Bytes) : Fault :=
  match skipBlanks bs with
  | b :: rest =>
      .here (.repeatedField name) (if b = byte '\x7d' then rest else b :: rest)
  | [] => .here (.repeatedField name) []

/-- Reads members into the record `s`; `seen` are the fields read so far. -/
def fieldsFrom (fields : List (RecordField σ)) :
    (fuel : Nat) → (first : Bool) → (seen : List String) → (s : σ) → Reader σ
  | 0, _, _, _, bs => .error (.here .endInObject bs)
  | fuel + 1, first, seen, s, bs => do
      match ← nextKey first bs with
      | (none, rest) => .ok (s, rest)
      | (some key, rest) =>
          match fields.find? (·.name = key) with
          | none => fieldsFrom fields fuel false seen s (← skipValue (← colon rest))
          | some field =>
              if key ∈ seen then .error (repeated key rest)
              else
                let (change, rest) ← field.read (← colon rest)
                fieldsFrom fields fuel false (key :: seen) (change s) rest

/-- Reads the end of a list. -/
def listEnd (bs : Bytes) : Except Fault Bytes :=
  match skipBlanks bs with
  | [] => .error (.next .endInList [])
  | b :: rest =>
      if b = byte ']' then .ok rest
      else if b = byte ',' then
        match skipBlanks rest with
        | c :: rest =>
            .error (.next (if c = byte ']' then .trailingComma else .trailingCharacters) (c :: rest))
        | [] => .error (.next .trailingCharacters [])
      else .error (.next .trailingCharacters (b :: rest))

/-- Reads the values of the fields in their order; the list may end early. -/
def fieldItems : List (RecordField σ) → (first : Bool) → (s : σ) → Reader σ
  | [], _, s, bs => (listEnd bs).map (s, ·)
  | field :: fields, first, s, bs => do
      match ← nextItem first bs with
      | (none, rest) => .ok (s, rest)
      | (some bs, _) =>
          let (change, rest) ← field.read bs
          fieldItems fields false (change s) rest

/-- Reads a record. -/
def record (expected : String) (fields : List (RecordField σ)) (start : σ) : Reader σ := fun bs =>
  match skipBlanks bs with
  | [] => .error (.next .endInValue [])
  | b :: rest =>
      if b = byte '\x7b' then fieldsFrom fields (rest.length + 1) true [] start rest
      else if b = byte '[' then fieldItems fields true start rest
      else .error (mismatch expected (b :: rest))

end SymbolIndex.Json
