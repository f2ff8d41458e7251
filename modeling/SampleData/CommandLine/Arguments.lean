import SampleData.Mask

/-! # Arguments

The words of the command line: flags, then a command, then the flags and operands of the command. The
flags of the program may also stand behind the command, where they win. A flag has its value behind an equals
sign or as the next word, and is given once in each of the two places. Behind two hyphens everything is an
operand. Words are looked at from left to right, and the first that asks for help or cannot be understood
decides.
-/
namespace SampleData

inductive Command where
  | fields
  | generate (provider field : String) (count : Nat)
  | expand (mask : String) (letter digit : Char) (count : Nat)
  | document (provider : String) (items : Nat)
  | checkDigit (number : String)
  deriving DecidableEq, Repr

structure Invocation where
  config : Option String
  locale : Option String
  seed : Option UInt64
  assetsDirectory : Option String
  command : Command
  deriving DecidableEq, Repr

namespace Arguments

inductive Stop where
  | usage
  | help
  | version
  deriving DecidableEq, Repr

inductive Verb where
  | fields
  | gen
  | code
  | json
  | luhn
  deriving DecidableEq, Repr

inductive Flag where
  | config
  | locale
  | seed
  | assetsDirectory
  | count
  | letter
  | digit
  | items
  deriving DecidableEq, Repr

def Flag.name : Flag → String
  | .config => "config"
  | .locale => "locale"
  | .seed => "seed"
  | .assetsDirectory => "assets-dir"
  | .count => "count"
  | .letter => "letter"
  | .digit => "digit"
  | .items => "items"

def Flag.short? : Flag → Option Char
  | .count => some 'n'
  | _ => none

def Verb.all : List Verb := [.fields, .gen, .code, .json, .luhn]

def Verb.name : Verb → String
  | .fields => "fields"
  | .gen => "gen"
  | .code => "code"
  | .json => "json"
  | .luhn => "luhn"

def Verb.ofName? (name : String) : Option Verb := Verb.all.find? (·.name == name)

def commonFlags : List Flag := [.config, .locale, .seed, .assetsDirectory]

/-- The flags that may stand behind a verb. -/
def Verb.flags : Verb → List Flag
  | .fields => commonFlags
  | .gen => commonFlags ++ [.count]
  | .code => commonFlags ++ [.letter, .digit, .count]
  | .json => commonFlags ++ [.items]
  | .luhn => commonFlags

def Verb.arity : Verb → Nat
  | .fields => 0
  | .gen => 2
  | .code => 1
  | .json => 1
  | .luhn => 1

structure Given where
  config : Option String := none
  locale : Option String := none
  seed : Option UInt64 := none
  assetsDirectory : Option String := none
  count : Option Nat := none
  letter : Option Char := none
  digit : Option Char := none
  items : Option Nat := none

/-- A whole number below `2 ^ 64`, with a plus sign before it or not. -/
def natural? (text : String) : Option Nat :=
  let digits := match text.toList with
    | '+' :: cs => cs
    | cs => cs
  if digits ≠ [] ∧ digits.all Text.isDigit ∧ Text.number digits < UInt64.size then
    some (Text.number digits)
  else none

def filled? (text : String) : Option String := if text.isEmpty then none else some text

def symbol? (text : String) : Option Char :=
  match text.toList with
  | [c] => some c
  | _ => none

def once {α : Type} (before value : Option α) : Option α :=
  match before with
  | some _ => none
  | none => value

def Given.give (g : Given) (text : String) : Flag → Option Given
  | .config => (once g.config (filled? text)).map fun v => { g with config := some v }
  | .locale => (once g.locale (some text)).map fun v => { g with locale := some v }
  | .seed => (once g.seed ((natural? text).map UInt64.ofNat)).map fun v => { g with seed := some v }
  | .assetsDirectory =>
    (once g.assetsDirectory (filled? text)).map fun v => { g with assetsDirectory := some v }
  | .count => (once g.count (natural? text)).map fun v => { g with count := some v }
  | .letter => (once g.letter (symbol? text)).map fun v => { g with letter := some v }
  | .digit => (once g.digit (symbol? text)).map fun v => { g with digit := some v }
  | .items => (once g.items (natural? text)).map fun v => { g with items := some v }

inductive Reading where
  | operand (text : String)
  | onlyOperands
  | flag (f : Flag) (value : Option String)
  | help
  | version
  | unknown

def readLong (flags : List Flag) (inFront : Bool) (cs : List Char) : Reading :=
  let name := String.ofList (cs.takeWhile (· ≠ '='))
  let value := match cs.dropWhile (· ≠ '=') with
    | [] => none
    | _ :: v => some (String.ofList v)
  match flags.find? (·.name == name) with
  | some f => .flag f value
  | none =>
    if value.isSome then .unknown
    else if name = "help" then .help
    else if inFront && name = "version" then .version
    else .unknown

def readShort (flags : List Flag) (inFront : Bool) (c : Char) (cs : List Char) : Reading :=
  match flags.find? (·.short? == some c) with
  | some f =>
    match cs with
    | [] => .flag f none
    | '=' :: v => .flag f (some (String.ofList v))
    | v => .flag f (some (String.ofList v))
  | none =>
    if c = 'h' then .help
    else if inFront && c = 'V' then .version
    else .unknown

def readWord (flags : List Flag) (inFront : Bool) (word : String) : Reading :=
  match word.toList with
  | ['-', '-'] => .onlyOperands
  | '-' :: '-' :: cs => readLong flags inFront cs
  | ['-'] => .operand word
  | '-' :: c :: cs => readShort flags inFront c cs
  | _ => .operand word

/-- Whether a word can be the value of the flag before it. -/
def isValue (word : String) : Bool :=
  match word.toList with
  | ['-'] => true
  | '-' :: _ => false
  | _ => true

def readRest (v : Verb) (g : Given) (operands : List String) :
    List String → Except Stop (Given × List String)
  | [] => .ok (g, operands)
  | word :: words =>
    match readWord v.flags false word with
    | .onlyOperands => .ok (g, operands ++ words)
    | .operand text =>
      if operands.length < v.arity then readRest v g (operands ++ [text]) words else .error .usage
    | .flag f (some value) =>
      match g.give value f with
      | some g => readRest v g operands words
      | none => .error .usage
    | .flag f none =>
      match words with
      | [] => .error .usage
      | value :: words =>
        if isValue value then
          match g.give value f with
          | some g => readRest v g operands words
          | none => .error .usage
        else .error .usage
    | .help => .error .help
    | .version => .error .usage
    | .unknown => .error .usage

def commandOf (g : Given) : Verb → List String → Except Stop Command
  | .fields, [] => .ok .fields
  | .gen, [provider, field] => .ok (.generate provider field (g.count.getD 1))
  | .code, [mask] =>
    .ok (.expand mask (g.letter.getD Placeholders.standard.letter)
      (g.digit.getD Placeholders.standard.digit) (g.count.getD 1))
  | .json, [provider] => .ok (.document provider (g.items.getD 5))
  | .luhn, [number] => .ok (.checkDigit number)
  | _, _ => .error .usage

/-- The settings behind the command win over those in front of it. -/
def invocation (front behind : Given) (command : Command) : Invocation where
  config := behind.config.or front.config
  locale := behind.locale.or front.locale
  seed := behind.seed.or front.seed
  assetsDirectory := behind.assetsDirectory.or front.assetsDirectory
  command := command

def readHelp : List String → Stop
  | [] => .help
  | [name] => if name = "help" ∨ (Verb.ofName? name).isSome then .help else .usage
  | _ => .usage

/-- Reads the words from the front on, where the flags given so far are `g`. -/
def readFrom (g : Given) : List String → Except Stop Invocation
  | [] => .error .usage
  | word :: words =>
    match readWord commonFlags true word with
    | .operand text =>
      match Verb.ofName? text with
      | some v => do
        let (behind, operands) ← readRest v {} [] words
        return invocation g behind (← commandOf behind v operands)
      | none => .error (if text = "help" then readHelp words else .usage)
    | .onlyOperands => .error .usage
    | .flag f (some value) =>
      match g.give value f with
      | some g => readFrom g words
      | none => .error .usage
    | .flag f none =>
      match words with
      | [] => .error .usage
      | value :: words =>
        if isValue value then
          match g.give value f with
          | some g => readFrom g words
          | none => .error .usage
        else .error .usage
    | .help => .error .help
    | .version => .error .version
    | .unknown => .error .usage

def read (words : List String) : Except Stop Invocation := readFrom {} words

end Arguments

end SampleData
