-- SUMMARY: Floating-point numbers in the fewest decimal digits that read back.

/-! # Shortest decimals

The text of a number has the fewest digits among the decimals that round to it,
and of those the digits nearest to it. The number is taken apart into
`m * 2 ^ q`; the decimals that round to it fill an interval around it, and each
grid of decimals `d * 10 ^ k` is tried from the coarsest to the finest. -/

namespace SymbolIndex.Decimal

/-! ## Binary form -/

/-- A finite number that is not negative: `significand * 2 ^ exponent`. -/
structure Binary where
  significand : Nat
  exponent : Int
  /-- The number below is half as far away as the one above. -/
  narrowBelow : Bool
  deriving DecidableEq, Repr

/-- The magnitude of a finite double. -/
def Binary.ofFloat (x : Float) : Binary :=
  let bits := x.toBits.toNat
  let fraction : Nat := bits % Nat.pow 2 52
  let biased : Nat := bits / Nat.pow 2 52 % Nat.pow 2 11
  if biased = 0 then ⟨fraction, -1074, false⟩
  else ⟨Nat.pow 2 52 + fraction, (biased : Int) - 1075, fraction = 0 && 1 < biased⟩

/-- A ratio of two numbers, the second one positive. -/
structure Ratio where
  num : Nat
  den : Nat
  deriving DecidableEq, Repr

def Ratio.scaled (n : Nat) (base : Nat) (exponent : Int) : Ratio :=
  if 0 ≤ exponent then ⟨n * base.pow exponent.toNat, 1⟩ else ⟨n, base.pow (-exponent).toNat⟩

def Ratio.lt (a b : Ratio) : Bool := a.num * b.den < b.num * a.den

def Ratio.le (a b : Ratio) : Bool := a.num * b.den ≤ b.num * a.den

namespace Binary

def value (b : Binary) : Ratio := .scaled b.significand 2 b.exponent

/-- The point halfway to the next number below. -/
def lower (b : Binary) : Ratio :=
  if b.narrowBelow then .scaled (4 * b.significand - 1) 2 (b.exponent - 2)
  else .scaled (2 * b.significand - 1) 2 (b.exponent - 1)

/-- The point halfway to the next number above. -/
def upper (b : Binary) : Ratio := .scaled (2 * b.significand + 1) 2 (b.exponent - 1)

/-- The decimal rounds to the number. Halfway points do if the significand is
even. -/
def covers (b : Binary) (r : Ratio) : Bool :=
  if b.significand % 2 = 0 then b.lower.le r && r.le b.upper
  else b.lower.lt r && r.lt b.upper

end Binary

/-! ## Digits -/

/-- `digits * 10 ^ exponent` -/
structure Digits where
  digits : Nat
  exponent : Int
  deriving DecidableEq, Repr

/-- The largest `k` with `10 ^ k` at most the ratio, which is positive. -/
def magnitude (r : Ratio) : Int :=
  if r.den ≤ r.num then ((Nat.toDigits 10 (r.num / r.den)).length : Int) - 1
  else
    match (List.range 400).find? fun j => r.den ≤ r.num * Nat.pow 10 (j + 1) with
    | some j => -((j : Int) + 1)
    | none => -400

/-- The decimal of the grid with step `10 ^ k` that rounds to the number, the
nearer one if two do; of two as near, the even one. -/
def Binary.onGrid? (b : Binary) (k : Int) : Option Nat :=
  let scaled : Ratio :=
    let v := b.value
    if 0 ≤ k then ⟨v.num, v.den * Nat.pow 10 k.toNat⟩ else ⟨v.num * Nat.pow 10 (-k).toNat, v.den⟩
  let below := scaled.num / scaled.den
  let rest := scaled.num % scaled.den
  let fits (d : Nat) : Bool := d ≠ 0 && b.covers (.scaled d 10 k)
  match fits below, fits (below + 1) with
  | false, false => none
  | true, false => some below
  | false, true => some (below + 1)
  | true, true =>
      if 2 * rest < scaled.den || (2 * rest = scaled.den && below % 2 = 0) then some below
      else some (below + 1)

/-- The digits without zeros at their end. -/
def Digits.reduced : (fuel : Nat) → Digits → Digits
  | 0, d => d
  | fuel + 1, d =>
      if d.digits % 10 = 0 && d.digits ≠ 0 then reduced fuel ⟨d.digits / 10, d.exponent + 1⟩ else d

/-- The shortest digits of a number that is not zero. -/
def Binary.shortest (b : Binary) : Digits :=
  let top := magnitude b.value
  let found := (List.range 18).findSome? fun (n : Nat) =>
    (b.onGrid? (top - n)).map fun d => Digits.mk d (top - n)
  (found.getD ⟨b.significand, b.exponent⟩).reduced 20

/-! ## Text -/

def zeros (n : Nat) : String := .ofList (List.replicate n '0')

/-- A sign, always, and the digits. -/
def exponentText (exponent : Int) : String :=
  (if exponent < 0 then "-" else "+") ++ toString exponent.natAbs

/-- Positional notation from `1e-5` up to below `1e16`, and otherwise one digit,
the others behind a point, and an exponent. -/
def Digits.text (d : Digits) : String :=
  let ds := Nat.toDigits 10 d.digits
  let point : Int := ds.length + d.exponent
  if 0 ≤ d.exponent && point ≤ 16 then .ofList ds ++ zeros d.exponent.toNat ++ ".0"
  else if 0 < point && point ≤ 16 then
    .ofList (ds.take point.toNat) ++ "." ++ .ofList (ds.drop point.toNat)
  else if -5 < point && point ≤ 0 then "0." ++ zeros (-point).toNat ++ .ofList ds
  else
    let tail := ds.drop 1
    .ofList (ds.take 1) ++ (if tail.isEmpty then "" else "." ++ .ofList tail) ++ "e" ++
      exponentText (point - 1)

/-- The text of a finite number. -/
def text (x : Float) : String :=
  let b := Binary.ofFloat x
  let sign := if x.toBits.toNat / Nat.pow 2 63 = 1 then "-" else ""
  sign ++ (if b.significand = 0 then "0.0" else b.shortest.text)

end SymbolIndex.Decimal
