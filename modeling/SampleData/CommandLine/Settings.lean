import SampleData.Locale.Profile
import SampleData.Store.Disk
import SampleData.Toml.Reader

/-! # Settings

What the program works with: a locale, a seed or none, a directory of bundles or none, and how it logs. The
settings file is a TOML document; what it leaves out has a default, and what it adds is ignored. Only a
file that was asked for has to be there.
-/
namespace SampleData

inductive LogFormat where
  | text
  | json
  deriving DecidableEq, Repr

structure Settings where
  locale : String
  seed : Option UInt64
  assetsDirectory : Option String
  logLevel : String
  logFormat : LogFormat

inductive SettingsFault where
  | notFound (path : String)
  | unreadable
  | malformed

namespace Settings

def standard : Settings := ⟨Locale.standard, none, none, "warn", .text⟩

def standardPath : String := "fixtura.toml"

/-- The text under a key, or nothing where the key is missing. -/
def textUnder (key : String) (es : Toml.Entries) : Except SettingsFault (Option String) :=
  match es.lookup key with
  | none => .ok none
  | some (.text s) => .ok (some s)
  | some _ => .error .malformed

def seedIn (es : Toml.Entries) : Except SettingsFault (Option UInt64) :=
  match es.lookup "seed" with
  | none => .ok none
  | some (.int n) => if 0 ≤ n then .ok (some (UInt64.ofNat n.toNat)) else .error .malformed
  | some _ => .error .malformed

/-- A value without any content. -/
def isHollow : Toml → Bool
  | .list items => items.isEmpty
  | .tables items => items.isEmpty
  | .table _ es => es.isEmpty
  | _ => false

def logFormat? : String → Except SettingsFault LogFormat
  | "text" => .ok .text
  | "json" => .ok .json
  | _ => .error .malformed

/-- The log format is a text or a table whose only key stands for it. -/
def logFormatIn (es : Toml.Entries) : Except SettingsFault LogFormat :=
  match es.lookup "log_format" with
  | none => .ok standard.logFormat
  | some (.text s) => logFormat? s
  | some (.table _ [(key, v)]) => if isHollow v then logFormat? key else .error .malformed
  | some _ => .error .malformed

def ofEntries (es : Toml.Entries) : Except SettingsFault Settings := do
  return {
    locale := (← textUnder "locale" es).getD standard.locale
    seed := ← seedIn es
    assetsDirectory := ← textUnder "assets_dir" es
    logLevel := (← textUnder "log_level" es).getD standard.logLevel
    logFormat := ← logFormatIn es }

def ofText (text : String) : Except SettingsFault Settings :=
  match Toml.read? text with
  | some es => ofEntries es
  | none => .error .malformed

def readFile (disk : Disk) (path : List String) : Except SettingsFault Settings :=
  match disk.read path with
  | .ok text => ofText text
  | .error _ => .error .unreadable

/-- The settings of the named file, or of the standard one where there is one. -/
def load (disk : Disk) (workingDirectory : List String) (named : Option String) :
    Except SettingsFault Settings :=
  let path := Disk.locate workingDirectory (named.getD standardPath)
  if disk.reaches path then readFile disk path
  else match named with
    | some path => .error (.notFound path)
    | none => .ok standard

end Settings

end SampleData
