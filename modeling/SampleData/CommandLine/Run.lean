import SampleData.CommandLine.Arguments
import SampleData.CommandLine.LogFilter
import SampleData.CommandLine.Settings
import SampleData.Facade
import SampleData.Json.Printer

/-! # Running a command

A run takes the settings from the file and lets the flags override them, builds a facade, and prints what the
command asks for, line by line, until something fails. A failure is reported on a line of its own. What is shown
to someone who asks for help is a text of this library.
-/
namespace SampleData

inductive Failure where
  | settings (fault : SettingsFault)
  | logging
  | library (e : Error)

structure Report where
  lines : List String
  failure : Option Failure

structure Outcome where
  code : Nat
  stdout : String
  errorLine : Option String
  deriving DecidableEq, Repr

/-- The error as the failure line shows it. What the operating system or the reader of JSON says is left
out, together with the rest of the line. -/
def Error.shown : Error → String
  | .resourceNotFound domain locale =>
    "ResourceNotFound \x7b domain: " ++ Text.quoted domain ++ ", locale: " ++ Text.quoted locale ++ " \x7d)"
  | .invalidInput fault => "InvalidInput(" ++ Text.quoted fault.detail ++ "))"
  | .invalidProvider fault => "InvalidProvider(" ++ Text.quoted fault.detail ++ "))"
  | .unsupportedOption option value =>
    "UnsupportedOption \x7b option: " ++ Text.quoted option ++ ", value: " ++ Text.quoted value ++ " \x7d)"
  | .invalidBundle (.notJson locale domain) =>
    "InvalidBundle(\"" ++ Text.escaped (BundleFault.notJson locale domain).detail
  | .invalidBundle fault => "InvalidBundle(" ++ Text.quoted fault.detail ++ "))"
  | .unsupportedLocale locale => "UnsupportedLocale(" ++ Text.quoted locale ++ "))"
  | .io => "Io"

def SettingsFault.shown : SettingsFault → String
  | .notFound path => "NotFound(" ++ Text.quoted path ++ "))"
  | .unreadable => "Io"
  | .malformed => "Toml"

def Failure.line : Failure → String
  | .settings fault => "Error: Settings(" ++ fault.shown
  | .logging => "Error: Logging"
  | .library e => "Error: Core(" ++ e.shown

/-- No provider is registered in a run. -/
instance : Registrable Empty where
  typePath i := nomatch i
  declaredName i := nomatch i
  fieldNames i := nomatch i
  generate _ := fun i => nomatch i

namespace Invocation

def override (i : Invocation) (s : Settings) : Settings :=
  { s with
    locale := i.locale.getD s.locale
    seed := i.seed.or s.seed
    assetsDirectory := i.assetsDirectory.or s.assetsDirectory }

end Invocation

namespace Settings

variable {σ : Type}

def store (s : Settings) (disk : Disk) (workingDirectory : List String) : Store :=
  match s.assetsDirectory with
  | some path => .ofSource (.ofDirectory disk (Disk.locate workingDirectory path))
  | none => Assets.store

def facade [SeededSource σ] (s : Settings) (unseeded : String → σ) : Facade σ Empty :=
  .new ⟨s.locale, s.seed, unseeded⟩

end Settings

namespace Command

variable {σ : Type} [SeededSource σ]

/-- A value as it is printed: texts as they are. -/
def printed : Json → String
  | .str s => s
  | v => v.compact

def report {α : Type} (line : α → String) (answers : List α × Option Error) : Report :=
  ⟨answers.1.map line, answers.2.map .library⟩

def fieldsLine (p : Builtin) : Facade.Step σ Empty String := do
  return p.name ++ ": " ++ ", ".intercalate (← Facade.fields p.name)

def run (f : Facade σ Empty) (store : Store) : Command → Report
  | .fields => report id (Gen.answersFor fieldsLine Builtin.all (f, store))
  | .generate provider field count =>
    report printed (Gen.answers (Facade.generate provider field) count (f, store))
  | .expand mask letter digit count =>
    match Placeholders.ofSymbols letter digit with
    | .error fault => ⟨[], some (.library (.invalidInput fault))⟩
    | .ok _ =>
      report printed (Gen.answers (Facade.call .code (.customCode mask letter digit)) count (f, store))
  | .document provider items =>
    report Json.pretty (Gen.answers (Facade.json provider items) 1 (f, store))
  | .checkDigit number =>
    match Luhn.checkDigit number with
    | .ok c => ⟨[String.singleton c], none⟩
    | .error fault => ⟨[], some (.library (.invalidInput fault))⟩

end Command

namespace Report

def ofFailure (failure : Failure) : Report := ⟨[], some failure⟩

def outcome (r : Report) : Outcome where
  code := if r.failure.isSome then 1 else 0
  stdout := String.join (r.lines.map (· ++ "\n"))
  errorLine := r.failure.map Failure.line

end Report

namespace Invocation

variable {σ : Type} [SeededSource σ]

def run (disk : Disk) (workingDirectory : List String) (unseeded : String → σ) (i : Invocation) :
    Report :=
  match Settings.load disk workingDirectory i.config with
  | .error fault => .ofFailure (.settings fault)
  | .ok s =>
    let s := i.override s
    if LogFilter.isValid s.logLevel then
      i.command.run (s.facade unseeded) (s.store disk workingDirectory)
    else .ofFailure .logging

end Invocation

namespace CommandLine

def versionLine : String := "fixtura 0.1.0\n"

def usageText : String :=
  "fixtura [--config PATH] [--locale CODE] [--seed N] [--assets-dir DIR] COMMAND\n\n"
    ++ "  fields\n"
    ++ "  gen PROVIDER FIELD [-n N]\n"
    ++ "  code MASK [--letter C] [--digit C] [-n N]\n"
    ++ "  json PROVIDER [--items N]\n"
    ++ "  luhn DIGITS\n"

def run {σ : Type} [SeededSource σ] (disk : Disk) (workingDirectory : List String)
    (unseeded : String → σ) (words : List String) : Outcome :=
  match Arguments.read words with
  | .error .usage => ⟨2, "", none⟩
  | .error .help => ⟨0, usageText, none⟩
  | .error .version => ⟨0, versionLine, none⟩
  | .ok i => (i.run disk workingDirectory unseeded).outcome

end CommandLine

end SampleData
