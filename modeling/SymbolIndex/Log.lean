-- SUMMARY: Log lines, and computations that write them.
import SymbolIndex.Text.Quoted

/-! # Logging

A computation that logs gives its value together with the lines it wrote. The
lines never influence the value: `value_bind` and its kin let proofs look past
them. Where a line tells the time it leaves a gap for the clock to fill. -/

namespace SymbolIndex

/-! ## Lines -/

inductive LogLevel where
  | debug
  | info
  | warn
  | error
  deriving DecidableEq, Repr

namespace LogLevel

def name : LogLevel → String
  | debug => "DEBUG"
  | info => "INFO"
  | warn => "WARN"
  | error => "ERROR"

/-- Debug lines are written on request only. -/
def isShown (verbose : Bool) : LogLevel → Bool
  | debug => verbose
  | _ => true

end LogLevel

/-- A piece of a log line. -/
inductive LogPart where
  | text (s : String)
  /-- The time since the start of the run. -/
  | elapsed
  /-- A number of files, per second. -/
  | rate (files : Nat)
  deriving DecidableEq, Repr

structure LogLine where
  level : LogLevel
  parts : List LogPart
  deriving DecidableEq, Repr

/-- What a clock puts into the gaps of a line. -/
structure Clock where
  elapsed : String
  rate : Nat → String

/-- The character as a log shows it: one that a terminal would take for a command
is written by its number. -/
def LogPart.shownChar (c : Char) : List Char :=
  if c = '\x1b' then "\\x1b".toList
  else if c = '\x07' then "\\x07".toList
  else if c = '\x08' then "\\x08".toList
  else if c = '\x0c' then "\\x0c".toList
  else if c = '\x7f' then "\\x7f".toList
  else if 0x80 ≤ c.toNat && c.toNat ≤ 0x9F then Text.numericEscape c
  else [c]

def LogPart.render (clock : Clock) : LogPart → String
  | text s => .ofList (s.toList.flatMap shownChar)
  | elapsed => clock.elapsed
  | rate files => clock.rate files

/-- The line behind its time stamp. -/
def LogLine.render (clock : Clock) (line : LogLine) : String :=
  line.level.name ++ " " ++ String.join (line.parts.map (·.render clock))

/-! ## Computations -/

/-- A value and the lines written on the way to it. -/
structure Logged (α : Type) where
  value : α
  log : List LogLine
  deriving Repr

namespace Logged

/-- A value reached without a line. -/
def quiet (x : α) : Logged α := ⟨x, []⟩

@[simp] theorem value_quiet (x : α) : (quiet x).value = x := rfl

instance : Monad Logged where
  pure x := ⟨x, []⟩
  bind x f := ⟨(f x.value).value, x.log ++ (f x.value).log⟩

@[simp] theorem value_pure (x : α) : (pure x : Logged α).value = x := rfl

@[simp] theorem log_pure (x : α) : (pure x : Logged α).log = [] := rfl

@[simp] theorem value_bind (x : Logged α) (f : α → Logged β) :
    (x >>= f).value = (f x.value).value := rfl

@[simp] theorem log_bind (x : Logged α) (f : α → Logged β) :
    (x >>= f).log = x.log ++ (f x.value).log := rfl

@[simp] theorem value_foldlM (f : β → α → Logged β) (b : β) (xs : List α) :
    (xs.foldlM f b).value = xs.foldl (fun b a => (f b a).value) b := by
  induction xs generalizing b with
  | nil => rfl
  | cons x xs ih => rw [List.foldlM_cons, value_bind, ih, List.foldl_cons]

theorem value_mapMLoop (f : α → Logged β) (xs : List α) (done : List β) :
    (List.mapM.loop f xs done).value = done.reverse ++ xs.map fun x => (f x).value := by
  induction xs generalizing done with
  | nil => simp [List.mapM.loop]
  | cons x xs ih =>
      rw [List.mapM.loop, value_bind, ih, List.reverse_cons, List.append_assoc]
      rfl

@[simp] theorem value_mapM (f : α → Logged β) (xs : List α) :
    (xs.mapM f).value = xs.map fun x => (f x).value :=
  value_mapMLoop f xs []

end Logged

namespace LogLevel

/-- Writes one line. -/
def write (level : LogLevel) (text : String) : Logged Unit := ⟨(), [⟨level, [.text text]⟩]⟩

/-- Writes one line with gaps. -/
def writeParts (level : LogLevel) (parts : List LogPart) : Logged Unit := ⟨(), [⟨level, parts⟩]⟩

@[simp] theorem value_write (level : LogLevel) (text : String) : (level.write text).value = () :=
  rfl

@[simp] theorem value_writeParts (level : LogLevel) (parts : List LogPart) :
    (level.writeParts parts).value = () := rfl

end LogLevel

end SymbolIndex
