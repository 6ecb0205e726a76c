import Stencil.Toml.Moment
import Stencil.Toml.Quoted
import Stencil.Toml.Scalar
import Stencil.Toml.Table

/-! Reading TOML documents as JSON data: keys, values, headers, and the lines that hold them. A call
never spends more than two units of fuel without taking a character, so four units for each
character of the document are enough. -/

namespace Stencil.Toml

def skipSpace (cs : List Char) : List Char := cs.dropWhile isSpace

def skipComment : List Char → Option (List Char)
  | '#' :: cs =>
    let rest := cs.dropWhile isPlain
    match rest with
    | [] | '\n' :: _ | '\r' :: '\n' :: _ => some rest
    | _ => none
  | cs => some cs

def skipTrivia : Nat → List Char → Option (List Char)
  | 0, _ => none
  | fuel + 1, cs =>
    (skipComment (skipSpace cs)).bind fun cs =>
      match skipBreak cs with
      | some cs => skipTrivia fuel cs
      | none => some cs

def skipLineEnd (cs : List Char) : Option (List Char) :=
  (skipComment (skipSpace cs)).bind fun cs => if cs.isEmpty then some [] else skipBreak cs

def isBareKey (c : Char) : Bool := c.isAlphanum || c = '_' || c = '-'

def readKeyPart (fuel : Nat) : List Char → Option (String × List Char)
  | '"' :: cs => readLine true '"' fuel [] cs
  | '\'' :: cs => readLine false '\'' fuel [] cs
  | cs =>
    let bare := cs.takeWhile isBareKey
    if bare.isEmpty then none else some (String.ofList bare, cs.dropWhile isBareKey)

def readKey : Nat → List String → List Char → Option (List String × String × List Char)
  | 0, _, _ => none
  | fuel + 1, done, cs =>
    match readKeyPart fuel (skipSpace cs) with
    | none => none
    | some (part, cs) =>
      match skipSpace cs with
      | '.' :: cs => readKey fuel (part :: done) cs
      | cs => some (done.reverse, part, cs)

def isScalarChar (c : Char) : Bool :=
  c.isAlphanum || c = '+' || c = '-' || c = '.' || c = ':' || c = '_'

/-- A bare value. A date and a time may be joined by a blank. -/
def readBare (cs : List Char) : Option (Json × List Char) :=
  let word := cs.takeWhile isScalarChar
  let rest := cs.dropWhile isScalarChar
  let joined := match readDate word, rest with
    | some (_, []), ' ' :: c :: after =>
      if c.isDigit then
        some (word ++ ' ' :: (c :: after).takeWhile isScalarChar,
          (c :: after).dropWhile isScalarChar)
      else none
    | _, _ => none
  let (word, rest) := joined.getD (word, rest)
  match readScalar word with
  | some json => some (json, rest)
  | none => (readMoment word).map fun text => (ofMoment text, rest)

def skipEquals (fuel : Nat) (cs : List Char) : Option (List Char) :=
  match skipTrivia fuel cs with
  | some ('=' :: cs) => skipTrivia fuel cs
  | _ => none

def maxNesting : Nat := 80

mutual

def readValue : Nat → Nat → List Char → Option (Json × List Char)
  | 0, _, _ => none
  | fuel + 1, depth, cs =>
    match cs with
    | '"' :: cs => (readQuoted fuel '"' cs).map fun (s, cs) => (.string s, cs)
    | '\'' :: cs => (readQuoted fuel '\'' cs).map fun (s, cs) => (.string s, cs)
    | '[' :: cs => if depth = 0 then none else readItems fuel (depth - 1) [] cs
    | '\x7b' :: cs => if depth = 0 then none else readInline fuel (depth - 1) .empty cs
    | cs => readBare cs

def readItems : Nat → Nat → List Json → List Char → Option (Json × List Char)
  | 0, _, _, _ => none
  | fuel + 1, depth, done, cs =>
    match skipTrivia fuel cs with
    | none => none
    | some (']' :: cs) => some (.array done.reverse, cs)
    | some cs =>
      match readValue fuel depth cs with
      | none => none
      | some (item, cs) =>
        match skipTrivia fuel cs with
        | some (',' :: cs) => readItems fuel depth (item :: done) cs
        | some (']' :: cs) => some (.array (item :: done).reverse, cs)
        | _ => none

def readInline : Nat → Nat → Table → List Char → Option (Json × List Char)
  | 0, _, _, _ => none
  | fuel + 1, depth, done, cs =>
    match skipTrivia fuel cs with
    | none => none
    | some ('\x7d' :: cs) => some (.object done.toEntries, cs)
    | some cs =>
      match readKey fuel [] cs with
      | none => none
      | some (path, key, cs) =>
        match (skipEquals fuel cs).bind (readValue fuel depth) with
        | none => none
        | some (json, cs) =>
          match done.assign path key json with
          | none => none
          | some done =>
            match skipTrivia fuel cs with
            | some (',' :: cs) => readInline fuel depth done cs
            | some ('\x7d' :: cs) => some (.object done.toEntries, cs)
            | _ => none

end

structure Document where
  root : Table
  current : List String

namespace Document

def empty : Document := ⟨.empty, []⟩

def readHeader (fuel : Nat) (d : Document) (cs : List Char) : Option (Document × List Char) :=
  match cs with
  | '[' :: cs =>
    match readKey fuel [] cs with
    | some (path, key, ']' :: ']' :: cs) =>
      (d.root.openElement path key).map fun root => (⟨root, path ++ [key]⟩, cs)
    | _ => none
  | cs =>
    match readKey fuel [] cs with
    | some (path, key, ']' :: cs) =>
      (d.root.openTable path key).map fun root => (⟨root, path ++ [key]⟩, cs)
    | _ => none

def readAssignment (fuel : Nat) (d : Document) (cs : List Char) : Option (Document × List Char) :=
  match readKey fuel [] cs with
  | some (path, key, '=' :: cs) =>
    match readValue fuel maxNesting (skipSpace cs) with
    | none => none
    | some (json, cs) =>
      (d.root.under false (·.assign path key json) d.current).map fun root => ({ d with root }, cs)
  | _ => none

def readLines : Nat → Document → List Char → Option Document
  | 0, _, _ => none
  | fuel + 1, d, cs =>
    match skipTrivia fuel cs with
    | none => none
    | some [] => some d
    | some cs =>
      let line := match cs with
        | '[' :: cs => readHeader fuel d cs
        | cs => readAssignment fuel d cs
      match line with
      | none => none
      | some (d, cs) => (skipLineEnd cs).bind fun cs => readLines fuel d cs

end Document

def byteOrderMark : Char := '\ufeff'

def read (s : String) : Option (Entries Json) :=
  let cs := match s.toList with
    | c :: cs => if c = byteOrderMark then cs else c :: cs
    | [] => []
  (Document.readLines (4 * cs.length + 8) .empty cs).map fun d => d.root.toEntries

end Stencil.Toml
