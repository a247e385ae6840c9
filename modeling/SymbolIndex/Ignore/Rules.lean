-- SUMMARY: Ignore files: their lines as rules, and the verdict on a relative path.
import SymbolIndex.File.System
import SymbolIndex.Ignore.Pattern
import SymbolIndex.Text.Space

/-! # Ignore files

Each line of an ignore file is a rule, and the last rule that matches a path
decides. A rule without a slash, except at its end, matches at any depth. -/

namespace SymbolIndex.Ignore

/-! ## Rules -/

inductive Verdict where
  | ignored
  | kept
  deriving DecidableEq, Repr

structure Rule where
  pattern : Pattern
  verdict : Verdict
  onlyDirs : Bool
  deriving Repr

def Rule.matches (r : Rule) (path : Bytes) (isDir : Bool) : Bool :=
  (!r.onlyDirs || isDir) && r.pattern.accepts path

/-- The verdict of the last rule that matches. -/
def verdict? (rules : List Rule) (path : Bytes) (isDir : Bool) : Option Verdict :=
  (rules.reverse.find? (·.matches path isDir)).map (·.verdict)

/-- The verdict on a file, or else on the nearest directory above it that has
one. -/
def verdictUpward? (rules : List Rule) (relative : Path) : Option Verdict :=
  (verdict? rules relative.bytes false).or
    ((relative.above relative.components.length).findSome? fun p => verdict? rules p.bytes true)

/-! ## Lines -/

/-- A line in parts, before its pattern is read. -/
structure RuleText where
  pattern : List Char
  verdict : Verdict
  onlyDirs : Bool
  /-- The pattern starts at the directory of the file. -/
  anchored : Bool
  deriving DecidableEq, Repr

/-- Takes the marks off the front of a line: `!`, a slash, or a backslash that
takes the meaning of a mark away. -/
def takeFront (line : List Char) : RuleText :=
  match line with
  | '\\' :: '!' :: rest => ⟨'!' :: rest, .ignored, false, false⟩
  | '\\' :: '#' :: rest => ⟨'#' :: rest, .ignored, false, false⟩
  | _ =>
      let (verdict, line) :=
        match line with
        | '!' :: rest => (Verdict.kept, rest)
        | _ => (Verdict.ignored, line)
      match line with
      | '/' :: rest => ⟨rest, verdict, false, true⟩
      | _ => ⟨line, verdict, false, false⟩

/-- Takes a slash off the end, and a backslash before it. -/
def takeBack (r : RuleText) : RuleText :=
  if r.pattern.getLast? = some '/' then
    let body := r.pattern.dropLast
    { r with
      pattern := if body.getLast? = some '\\' then body.dropLast else body
      onlyDirs := true }
  else r

def startsDeep (cs : List Char) : Bool :=
  ['*', '*', '/'].isPrefixOf cs || cs == ['*', '*']

/-- The pattern for whole paths: at any depth unless it is anchored or has a
slash, and with something behind a `/**` at its end. -/
def RuleText.wholePattern (r : RuleText) : List Char :=
  let deep :=
    if !r.anchored && !r.pattern.contains '/' && !startsDeep r.pattern then
      ['*', '*', '/'] ++ r.pattern
    else r.pattern
  if ['/', '*', '*'].isSuffixOf deep then deep ++ ['/', '*'] else deep

/-- A line whose pattern cannot be read. -/
structure LineProblem where
  /-- From 1. -/
  line : Nat
  text : String
  problem : PatternProblem
  deriving DecidableEq, Repr

/-- The line without the white space at its end, unless that is escaped. -/
def trimLine (line : List Char) : List Char :=
  if ['\\', ' '].isSuffixOf line then line else Text.trimEndChars line

/-- The rule on a line. Comments and empty lines have none. -/
def Rule.ofLine? (number : Nat) (line : List Char) :
    Except LineProblem (Option Rule) :=
  if line.head? = some '#' then .ok none
  else
    let line := trimLine line
    if line.isEmpty then .ok none
    else
      let r := takeBack (takeFront line)
      match Pattern.ofText (.ofList r.wholePattern) with
      | .ok pattern => .ok (some ⟨pattern, r.verdict, r.onlyDirs⟩)
      | .error problem => .error ⟨number, .ofList line, problem⟩

/-! ## Files -/

/-- The rules of an ignore file, and what is wrong with it. -/
structure IgnoreFile where
  rules : List Rule := []
  problems : List LineProblem := []
  /-- The line at which the text stops being UTF-8; it and the rest are lost. -/
  brokenLine : Option Nat := none
  deriving Repr

/-- The lines of a file as bytes, without terminators. -/
def byteLines (content : Bytes) : List Bytes :=
  let parts := Text.splitAt 10 content
  let parts := if parts.getLast? = some [] then parts.dropLast else parts
  let ended := content.getLast? = some 10
  parts.zipIdx.map fun (part, i) =>
    if part.getLast? = some 13 && (ended || i + 1 < parts.length) then part.dropLast else part

def byteOrderMark : Char := '\uFEFF'

/-- Reads lines from the given number on. -/
def readLines : (number : Nat) → List Bytes → IgnoreFile
  | _, [] => {}
  | number, line :: lines =>
      match Utf8.decode? line with
      | none => { brokenLine := some number }
      | some text =>
          let cs := text.toList
          let cs := if number = 1 then cs.dropWhile (· = byteOrderMark) else cs
          let file := readLines (number + 1) lines
          match Rule.ofLine? number cs with
          | .ok none => file
          | .ok (some rule) => { file with rules := rule :: file.rules }
          | .error problem => { file with problems := problem :: file.problems }

def IgnoreFile.ofContent (content : Bytes) : IgnoreFile :=
  readLines 1 (byteLines content)

def LineProblem.message (file : Path) (p : LineProblem) : String :=
  file.display ++ ": line " ++ toString p.line ++ ": error parsing glob '" ++ p.text ++ "': " ++
    p.problem.message

/-- What is wrong with the file at a path, one problem a line; nothing if it is
in order. -/
def IgnoreFile.problemText? (f : IgnoreFile) (file : Path) : Option String :=
  let broken := f.brokenLine.map fun n =>
    file.display ++ ": line " ++ toString n ++ ": " ++ IoError.invalidUtf8.message
  match f.problems.map (·.message file) ++ broken.toList with
  | [] => none
  | texts => some ("\n".intercalate texts)

end SymbolIndex.Ignore
