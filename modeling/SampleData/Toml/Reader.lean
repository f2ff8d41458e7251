import SampleData.Toml.Scalar
import SampleData.Toml.Strings
import SampleData.Toml.Table

/-! # Reading TOML

A document is a sequence of assignments and headers, one on each line, with blanks, comments and empty lines
around them; the assignments behind a header go into the table it opens. Lines end with a line feed, which
a carriage return may precede; other control characters, tabs aside, stand nowhere. At most 79 lists and
tables may be written inside one another, and a dotted key has at most 79 parts.
-/
namespace SampleData.Toml

def maxDepth : Nat := 79

def skipBlank (cs : List Char) : List Char := cs.dropWhile isBlank

/-- The characters behind blanks, line breaks and comments; `inComment` tells that a comment is being
skipped. -/
def skipGap (inComment : Bool) : List Char → List Char
  | [] => []
  | c :: cs =>
    if c = '\n' then skipGap false cs
    else if inComment then skipGap true cs
    else if isBlank c then skipGap false cs
    else if c = '#' then skipGap true cs
    else c :: cs

/-- What stands behind the end of a line, where only blanks and a comment may come before it. -/
def readLineEnd (cs : List Char) : Option (List Char) :=
  let cs := skipBlank cs
  let cs := if cs.head? = some '#' then cs.dropWhile (· ≠ '\n') else cs
  match cs with
  | [] => some []
  | '\n' :: rest => some rest
  | _ => none

def isKeyChar (c : Char) : Bool := c.isAlphanum || c = '_' || c = '-'

def readSimpleKey (cs : List Char) : Option (String × List Char) :=
  match cs with
  | '"' :: rest => readLine '"' rest
  | '\'' :: rest => readLine '\'' rest
  | _ =>
    if (cs.takeWhile isKeyChar).isEmpty then none
    else some (String.ofList (cs.takeWhile isKeyChar), cs.dropWhile isKeyChar)

def readKey : Nat → List Char → Option (List String × List Char)
  | 0, _ => none
  | parts + 1, cs => do
    let (key, rest) ← readSimpleKey (skipBlank cs)
    match skipBlank rest with
    | '.' :: rest =>
      let (keys, rest) ← readKey parts rest
      return (key :: keys, rest)
    | rest => return ([key], rest)

mutual

/-- Reads a value; `depth` more lists or tables may be opened. The fuel bounds the calls. -/
def readValue : Nat → Nat → List Char → Option (Toml × List Char)
  | 0, _, _ => none
  | fuel + 1, depth, cs =>
    match cs with
    | '"' :: '"' :: '"' :: rest => (readLines '"' rest).map fun (s, r) => (.text s, r)
    | '"' :: rest => (readLine '"' rest).map fun (s, r) => (.text s, r)
    | '\'' :: '\'' :: '\'' :: rest => (readLines '\'' rest).map fun (s, r) => (.text s, r)
    | '\'' :: rest => (readLine '\'' rest).map fun (s, r) => (.text s, r)
    | 't' :: 'r' :: 'u' :: 'e' :: rest => some (.bool true, rest)
    | 'f' :: 'a' :: 'l' :: 's' :: 'e' :: rest => some (.bool false, rest)
    | '[' :: rest =>
      match depth with
      | 0 => none
      | depth + 1 => (readItems fuel depth rest).map fun (items, r) => (.list items, r)
    | '{' :: rest =>
      match depth with
      | 0 => none
      | depth + 1 =>
        match skipBlank rest with
        | '}' :: rest => some (.table .braces [], rest)
        | rest => (readPairs fuel depth [] rest).map fun (es, r) => (.table .braces es, r)
    | _ => readScalar cs

/-- Reads list items up to the closing bracket; a comma may stand behind the last one. -/
def readItems : Nat → Nat → List Char → Option (List Toml × List Char)
  | 0, _, _ => none
  | fuel + 1, depth, cs =>
    match skipGap false cs with
    | ']' :: rest => some ([], rest)
    | cs =>
      match readValue fuel depth cs with
      | none => none
      | some (item, rest) =>
        match skipGap false rest with
        | ']' :: rest => some ([item], rest)
        | ',' :: rest => (readItems fuel depth rest).map fun (items, r) => (item :: items, r)
        | _ => none

def readPairs : Nat → Nat → Entries → List Char → Option (Entries × List Char)
  | 0, _, _, _ => none
  | fuel + 1, depth, es, cs =>
    match readKey maxDepth cs with
    | some (path, '=' :: rest) =>
      match readValue fuel depth (skipBlank rest) with
      | none => none
      | some (v, rest) =>
        match assign v path es with
        | none => none
        | some es =>
          match skipBlank rest with
          | '}' :: rest => some (es, rest)
          | ',' :: rest => readPairs fuel depth es rest
          | _ => none
    | _ => none

end

def readLinesInto : Nat → List String → Entries → List Char → Option Entries
  | 0, _, _, _ => none
  | fuel + 1, here, doc, cs =>
    match skipBlank cs with
    | [] => some doc
    | '\n' :: rest => readLinesInto fuel here doc rest
    | '#' :: rest => readLinesInto fuel here doc (rest.dropWhile (· ≠ '\n'))
    | '[' :: '[' :: rest =>
      match readKey maxDepth rest with
      | some (path, ']' :: ']' :: rest) => do
        readLinesInto fuel path (← openAt openItem path doc) (← readLineEnd rest)
      | _ => none
    | '[' :: rest =>
      match readKey maxDepth rest with
      | some (path, ']' :: rest) => do
        readLinesInto fuel path (← openAt openTable path doc) (← readLineEnd rest)
      | _ => none
    | rest =>
      match readKey maxDepth rest with
      | some (path, '=' :: rest) => do
        let (v, rest) ← readValue (2 * rest.length + 2) maxDepth (skipBlank rest)
        readLinesInto fuel here (← within (assign v path) here doc) (← readLineEnd rest)
      | _ => none

def joinLineEnds : List Char → List Char
  | '\r' :: '\n' :: cs => '\n' :: joinLineEnds cs
  | c :: cs => c :: joinLineEnds cs
  | [] => []

def isAllowed (c : Char) : Bool :=
  c = '\t' || c = '\n' || (0x20 ≤ c.toNat && c.toNat ≠ 0x7f)

/-- Reads a document, which may start with a byte order mark. -/
def readChars? (cs : List Char) : Option Entries :=
  let cs := match cs with
    | c :: r => if c.toNat = 0xfeff then r else c :: r
    | [] => []
  let cs := joinLineEnds cs
  if cs.all isAllowed then readLinesInto (cs.length + 1) [] [] cs else none

def read? (text : String) : Option Entries := readChars? text.toList

end SampleData.Toml
