-- SUMMARY: Elapsed time in minutes and seconds.

/-! # Durations -/

namespace SymbolIndex.Text

/-- A number in at least two digits. -/
def twoDigits (n : Nat) : String := (if n < 10 then "0" else "") ++ toString n

/-- Whole seconds below a minute, and minutes with two digits of seconds from
then on: `45s`, `3m07s`. -/
def elapsed (milliseconds : Nat) : String :=
  let seconds := milliseconds / 1000
  if seconds < 60 then toString seconds ++ "s"
  else toString (seconds / 60) ++ "m" ++ twoDigits (seconds % 60) ++ "s"

end SymbolIndex.Text
