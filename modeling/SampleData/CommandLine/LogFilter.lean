import SampleData.Text.Digits
import SampleData.Text.LetterTables
import SampleData.Text.Lowercase
import SampleData.Text.Pieces
import SampleData.Text.WhiteSpace

/-! # Log filters

The log level of the settings is a list of directives with commas between them. A directive is a level or the
name of a target, or a target with a span in brackets, a span alone, and behind each of these possibly an
equals sign and a level. A span may end in a field between braces.
-/
namespace SampleData.LogFilter

def levelNames : List String := ["off", "error", "warn", "info", "debug", "trace"]

/-- A number from zero to five, with a plus sign before it or not. -/
def isLevelNumber (cs : List Char) : Bool :=
  let digits := match cs with
    | '+' :: r => r
    | r => r
  !digits.isEmpty && digits.all Text.isDigit && Text.number digits ≤ 5

/-- A level by name, in letters of either case, or by number; nothing at all stands for the lowest. -/
def isLevel (cs : List Char) : Bool :=
  cs.isEmpty || levelNames.contains (String.ofList (cs.map Char.toLower)) || isLevelNumber cs

inductive Place where
  | start
  | name
  | span
  | field (empty : Bool)
  | afterField
  | afterSpan
  | level (start : Nat)

def isNameStart (c : Char) : Bool :=
  c == '-' || c == ':' || c == '_' || c.isAlphanum || Text.within Text.lettersAndNumerals c

/-- The place behind the character with number `i`. -/
def step (i : Nat) : Place → Char → Option Place
  | .start, c => if c = '[' then some .span else if isNameStart c then some .name else none
  | .name, c => if c = '=' then some (.level (i + 1)) else if c = '[' then some .span else some .name
  | .span, c =>
    if c = ']' then some .afterSpan else if c = '\x7b' then some (.field true) else some .span
  | .field empty, c =>
    if c = '\x7d' then (if empty then none else some .afterField) else some (.field false)
  | .afterField, c => if c = ']' then some .afterSpan else none
  | .afterSpan, c => if c = '=' then some (.level (i + 1)) else none
  | .level start, _ => some (.level start)

def walk (i : Nat) (place : Place) : List Char → Option Place
  | [] => some place
  | c :: cs =>
    match step i place c with
    | some place => walk (i + 1) place cs
    | none => none

/-- White space around a directive is skipped, but the level is sought at its place in the trimmed text. -/
def isDirective (part : List Char) : Bool :=
  match walk 0 .start (Text.trim part) with
  | some .name => true
  | some .afterSpan => true
  | some (.level start) => isLevel (part.drop start)
  | _ => false

def isValid (filter : String) : Bool :=
  filter.isEmpty || (Text.pieces ',' filter.toList).all isDirective

end SampleData.LogFilter
