-- SUMMARY: Command line arguments: options, their values, and words.

/-! # Arguments

Arguments are options and words. An option is `--name`, `--name=value` or a
letter behind a dash; behind `--` everything is a word. A value that looks like
an option has to be attached. Every option may be given once. -/

namespace SymbolIndex.CommandLine

/-! ## Single arguments -/

inductive Argument where
  | word (text : String)
  /-- `--` -/
  | separator
  | long (name : String) (value : Option String)
  | short (letters : List Char)
  deriving DecidableEq, Repr

def Argument.ofText (text : String) : Argument :=
  match text.toList with
  | ['-', '-'] => .separator
  | '-' :: '-' :: rest =>
      let name := rest.takeWhile (· ≠ '=')
      .long (.ofList name)
        (if name.length < rest.length then some (.ofList (rest.drop (name.length + 1))) else none)
  | '-' :: c :: rest => .short (c :: rest)
  | _ => .word text

/-! ## Options -/

inductive OptionKind where
  | flag
  | valued
  /-- The value may be left out and is then empty. -/
  | optional
  deriving DecidableEq, Repr

structure OptionSpec where
  name : String
  kind : OptionKind
  letter : Option Char := none
  /-- The values that the option takes. -/
  accepts : String → Bool := fun _ => true

/-- Why no command comes of the arguments. -/
inductive Stop where
  | usage
  | help
  | version
  deriving DecidableEq, Repr

/-- Options with their values, and words, in order. -/
structure Given where
  options : List (String × String) := []
  words : List String := []
  deriving DecidableEq, Repr

namespace Given

def value? (g : Given) (name : String) : Option String :=
  (g.options.find? (·.1 = name)).map Prod.snd

def has (g : Given) (name : String) : Bool := (g.value? name).isSome

/-- Adds an option that was not given before. -/
def addOption (g : Given) (spec : OptionSpec) (value : String) : Except Stop Given :=
  if spec.name = "help" then .error .help
  else if spec.name = "version" then .error .version
  else if g.has spec.name || !spec.accepts value then .error .usage
  else .ok { g with options := g.options ++ [(spec.name, value)] }

/-- Adds a word if there is room for it. -/
def addWord (g : Given) (room : Nat) (word : String) : Except Stop Given :=
  if g.words.length < room then .ok { g with words := g.words ++ [word] } else .error .usage

/-- Adds the flags that letters behind a dash stand for. -/
def addLetters (specs : List OptionSpec) (g : Given) (letters : List Char) : Except Stop Given :=
  letters.foldlM (fun g c =>
    match specs.find? (·.letter = some c) with
    | some spec => g.addOption spec ""
    | none => .error .usage) g

/-- Gives up waiting for the value of an option. -/
def close (g : Given) : (pending : Option OptionSpec) → Except Stop Given
  | none => .ok g
  | some spec => if spec.kind = .optional then g.addOption spec "" else .error .usage

end Given

/-! ## Reading -/

/-- Reads arguments with room for a number of words; without any the first word
ends the options. A pending option takes the next argument as its value. Gives
the arguments that are left. -/
def readArguments (specs : List OptionSpec) (room : Option Nat) :
    (pending : Option OptionSpec) → Given → List String → Except Stop (Given × List String)
  | pending, g, [] => do .ok (← g.close pending, [])
  | pending, g, arg :: rest =>
      match Argument.ofText arg, pending, room with
      | .word w, some spec, _ => do readArguments specs room none (← g.addOption spec w) rest
      | .word w, none, some n => do readArguments specs room none (← g.addWord n w) rest
      | .word _, none, none => .ok (g, arg :: rest)
      | .separator, _, some n => do
          .ok (← rest.foldlM (fun g w => g.addWord n w) (← g.close pending), [])
      | .separator, _, none => .error .usage
      | .short letters, _, _ => do
          let g ← g.close pending
          readArguments specs room none (← g.addLetters specs letters) rest
      | .long name attached, _, _ => do
          let g ← g.close pending
          match specs.find? (·.name = name) with
          | none => .error .usage
          | some spec =>
              match spec.kind, attached with
              | .flag, some _ => .error .usage
              | .flag, none => do readArguments specs room none (← g.addOption spec "") rest
              | _, some v => do readArguments specs room none (← g.addOption spec v) rest
              | _, none => readArguments specs room (some spec) g rest

end SymbolIndex.CommandLine
