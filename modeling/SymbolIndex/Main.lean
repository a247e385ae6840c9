-- SUMMARY: The command line program.
import SymbolIndex.CommandLine.Run
import SymbolIndex.CommandLine.Snapshot
import SymbolIndex.Text.Duration

/-! # Program

The program reads a snapshot of the files from standard input and runs the
command that its arguments name. No server is within its reach, so commands
that need the store report it as unavailable. -/

open SymbolIndex

/-- The lines of a stream, without terminators. -/
partial def readLines (input : IO.FS.Stream) : IO (List String) := do
  let line ← input.getLine
  if line.isEmpty then return []
  let rest ← readLines input
  return Text.trimEnd line :: rest

/-- A clock for runs that take no time. -/
def stoppedClock : Clock := { elapsed := Text.elapsed 0, rate := toString }

def main (args : List String) : IO UInt32 := do
  let snapshot := Snapshot.ofLines (← readLines (← IO.getStdin))
  let world : CommandLine.Surroundings := { parse := snapshot.parse, files := snapshot.files }
  let (outcome, _) := CommandLine.run world args {}
  IO.print outcome.output
  for line in outcome.log do
    IO.eprintln (line.render stoppedClock)
  IO.eprint outcome.remark
  return .ofNat outcome.code
