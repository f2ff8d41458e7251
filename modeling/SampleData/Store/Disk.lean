import SampleData.Text.Pieces

/-! # Files and directories

A disk is the list of what lies on it: each entry has a path, the names of the directories from the root
down and its own name, and is a file with its bytes or a directory. The directories on the way to an entry
are there as well. A path is walked name by name from the root, so a path through a file or with a name
that is too long cannot be read, while one through nothing leads nowhere. A path that is too long as a whole
is not walked at all. There are no symbolic links, and nothing is kept from reading by permissions.
-/
namespace SampleData

inductive Entry where
  | file (bytes : ByteArray)
  | directory

/-- The entries of a disk by path; of two entries with one path the first counts. -/
structure Disk where
  entries : List (List String × Entry)

/-- Why nothing was read: nothing is there, or what is there is no readable text. -/
inductive ReadFault where
  | missing
  | unreadable
  deriving DecidableEq, Repr

namespace Disk

def empty : Disk := ⟨[]⟩

def nameLimit : Nat := 255

def pathLimit : Nat := 4095

def find? (d : Disk) (path : List String) : Option Entry :=
  match d.entries.lookup path with
  | some e => some e
  | none =>
    if path = [] ∨ d.entries.any (fun e => path.isPrefixOf e.1) then some .directory else none

/-- Walks on from the directory `here`. `..` leads back to the directory around it, `.` and an empty
name stay. -/
def walk (d : Disk) (here : List String) : List String → Except ReadFault Entry
  | [] => .ok .directory
  | name :: rest =>
    if name = "" ∨ name = "." then d.walk here rest
    else if name = ".." then d.walk here.dropLast rest
    else if nameLimit < name.utf8ByteSize then .error .unreadable
    else match d.find? (here ++ [name]) with
      | none => .error .missing
      | some .directory => d.walk (here ++ [name]) rest
      | some (.file bytes) => if rest = [] then .ok (.file bytes) else .error .unreadable

def entryAt (d : Disk) (path : List String) : Except ReadFault Entry :=
  if pathLimit < (path.map (·.utf8ByteSize + 1)).foldr (· + ·) 0 then .error .unreadable else d.walk [] path

def reaches (d : Disk) (path : List String) : Bool :=
  match d.entryAt path with
  | .ok _ => true
  | .error _ => false

def read (d : Disk) (path : List String) : Except ReadFault String :=
  if path.any (·.toList.contains '\x00') then .error .unreadable
  else match d.entryAt path with
    | .error fault => .error fault
    | .ok .directory => .error .unreadable
    | .ok (.file bytes) =>
      match String.fromUTF8? bytes with
      | some text => .ok text
      | none => .error .unreadable

def put (d : Disk) (path : List String) (e : Entry) : Disk :=
  ⟨(path, e) :: d.entries.filter (·.1 != path)⟩

def remove (d : Disk) (path : List String) : Disk := ⟨d.entries.filter (·.1 != path)⟩

/-- The names on a written path, from the root on. A path that does not start with a slash continues the
working directory. -/
def locate (workingDirectory : List String) (path : String) : List String :=
  let names := (Text.pieces '/' path.toList).map String.ofList
  if path.toList.head? = some '/' then names else workingDirectory ++ names

end Disk

end SampleData
