import Stencil.Number.Decimal

/-! Quoted strings of TOML, in one line or several, with escapes or as they stand. -/

namespace Stencil.Toml

def isPlain (c : Char) : Bool := c = '\t' || (0x20 ≤ c.toNat && c.toNat ≠ 0x7F)

def isSpace (c : Char) : Bool := c = ' ' || c = '\t'

def escapes : List (Char × Char) := [
    ('b', '\x08'), ('t', '\t'), ('n', '\n'), ('f', '\x0c'), ('r', '\r'), ('e', '\x1b'), ('"', '"'),
      ('\\', '\\')]

def isScalarValue (n : Nat) : Bool := n < 0xD800 || (0xE000 ≤ n && n < 0x110000)

def readCode (width : Nat) (cs : List Char) : Option (Char × List Char) :=
  if cs.length < width then none
  else
    (baseValue 16 0 (cs.take width)).bind fun n =>
      if isScalarValue n then some (Char.ofNat n, cs.drop width) else none

def readEscape : List Char → Option (Char × List Char)
  | 'x' :: cs => readCode 2 cs
  | 'u' :: cs => readCode 4 cs
  | 'U' :: cs => readCode 8 cs
  | c :: cs => (escapes.lookup c).map fun c => (c, cs)
  | [] => none

def skipBreak : List Char → Option (List Char)
  | '\n' :: cs => some cs
  | '\r' :: '\n' :: cs => some cs
  | _ => none

def skipFolds : Nat → List Char → List Char
  | 0, cs => cs
  | fuel + 1, cs =>
    match skipBreak (cs.dropWhile isSpace) with
    | some cs => skipFolds fuel cs
    | none => cs.dropWhile isSpace

/-- Behind a backslash at the end of a line: the text from the next visible character on. -/
def skipFolded (fuel : Nat) (cs : List Char) : Option (List Char) :=
  (skipBreak (cs.dropWhile isSpace)).map (skipFolds fuel)

def readLine (escaped : Bool) (mark : Char) :
    Nat → List Char → List Char → Option (String × List Char)
  | 0, _, _ => none
  | fuel + 1, done, cs =>
    match cs with
    | [] => none
    | c :: rest =>
      if c = mark then some (String.ofList done.reverse, rest)
      else if escaped && c = '\\' then
        (readEscape rest).bind fun (c, rest) => readLine escaped mark fuel (c :: done) rest
      else if isPlain c then readLine escaped mark fuel (c :: done) rest
      else none

/-- A string of several lines up to three closing marks. Up to two more marks before them belong to
the string. -/
def readLines (escaped : Bool) (mark : Char) :
    Nat → List Char → List Char → Option (String × List Char)
  | 0, _, _ => none
  | fuel + 1, done, cs =>
    match cs with
    | [] => none
    | c :: rest =>
      if c = mark then
        let marks := cs.takeWhile (· = mark)
        let after := cs.dropWhile (· = mark)
        if marks.length < 3 then readLines escaped mark fuel (marks ++ done) after
        else if marks.length ≤ 5 then some (String.ofList (marks.drop 3 ++ done).reverse, after)
        else none
      else if escaped && c = '\\' then
        match skipFolded fuel rest with
        | some rest => readLines escaped mark fuel done rest
        | none =>
          (readEscape rest).bind fun (c, rest) => readLines escaped mark fuel (c :: done) rest
      else if isPlain c || c = '\n' then readLines escaped mark fuel (c :: done) rest
      else if c = '\r' && rest.head? = some '\n' then readLines escaped mark fuel (c :: done) rest
      else none

def readQuoted (fuel : Nat) (mark : Char) (cs : List Char) : Option (String × List Char) :=
  let escaped := mark = '"'
  match cs with
  | a :: b :: rest =>
    if a = mark && b = mark then
      let rest := (skipBreak rest).getD rest
      readLines escaped mark fuel [] rest
    else readLine escaped mark fuel [] cs
  | cs => readLine escaped mark fuel [] cs

end Stencil.Toml
