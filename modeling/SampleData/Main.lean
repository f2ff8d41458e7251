import SampleData.CommandLine.Run
import SampleData.Random.Keystream

/-! # The program

Looks up the files that a run may read, runs the command on them, and prints what comes out of it.
-/
namespace SampleData.Program

/-- What lies at a path, nothing if nothing does. What cannot be read counts as a directory. -/
def entryAt (path : String) : IO (Option Entry) := do
  try
    return some (.file (← IO.FS.readBinFile path))
  catch
    | .noFileOrDirectory .. => return none
    | _ => return some .directory

def place (workingDirectory : List String) (path : String) : List String :=
  (Disk.locate workingDirectory path).foldl (fun here name =>
    if name = "" ∨ name = "." then here
    else if name = ".." then here.dropLast
    else here ++ [name]) []

/-- The part of the disk that consists of the given paths. -/
def diskOf (workingDirectory : List String) (paths : List String) : IO Disk := do
  let entries ← paths.filterMapM fun path => do
    return (← entryAt path).map fun e => (place workingDirectory path, e)
  return ⟨entries⟩

def domains : List String :=
  [Address.domain, Business.domain, Datetime.domain, Food.domain, Personal.domain, Science.domain,
   Prose.domain]

def bundlePaths (s : Settings) : List String :=
  match s.assetsDirectory with
  | none => []
  | some directory =>
    ([s.locale, Locale.standard].filter Source.isSafeName).flatMap fun locale =>
      domains.map fun domain => directory ++ "/" ++ locale ++ "/" ++ domain ++ ".json"

def pathsOf (workingDirectory : List String) (i : Invocation) : IO (List String) := do
  let settingsPath := i.config.getD Settings.standardPath
  let disk ← diskOf workingDirectory [settingsPath]
  match Settings.load disk workingDirectory i.config with
  | .ok s => return settingsPath :: bundlePaths (i.override s)
  | .error _ => return [settingsPath]

/-- Streams from a number that differs from run to run. -/
def entropy : IO (String → Keystream) := do
  let bytes ← IO.getRandomBytes 8
  let seed := bytes.data.foldl (fun n b => 256 * n + b.toUInt64) 0
  return Random.seeded seed

def run (words : List String) : IO Outcome := do
  let workingDirectory := (Text.pieces '/' (← IO.currentDir).toString.toList).map String.ofList
  let paths ← match Arguments.read words with
    | .ok i => pathsOf workingDirectory i
    | .error _ => pure []
  let disk ← diskOf workingDirectory paths
  return CommandLine.run disk workingDirectory (← entropy) words

end SampleData.Program

def main (words : List String) : IO UInt32 := do
  let outcome ← SampleData.Program.run words
  IO.print outcome.stdout
  match outcome.errorLine with
  | some line => IO.eprintln line
  | none => if outcome.code = 2 then IO.eprint SampleData.CommandLine.usageText
  return UInt32.ofNat outcome.code
