import Stencil.Json
import Stencil.Number.Shortest

/-! Writing JSON compactly. A float has the fewest digits that read back, with a decimal point; far
from one it has an exponent. -/

namespace Stencil

structure FloatFormat where
  least : Int
  greatest : Int
  tie : TieRule

/-- Exponents from -5 to 15 are written out; of two equally near digits the even one is taken. -/
def JsonNumber.format : FloatFormat := ⟨-5, 15, .toEven⟩

def Binary64.textIn (format : FloatFormat) (x : Binary64) : String :=
  let sign := if x.signed then "-" else ""
  if x.isZero then sign ++ "0.0"
  else
    let (digits, place) := x.shortest format.tie
    let ds := Nat.toDigits 10 digits
    let exponent : Int := place + ds.length - 1
    if format.least ≤ exponent && exponent ≤ format.greatest then
      let point := if 0 ≤ place then ".0" else ""
      sign ++ String.ofList (positional digits place) ++ point
    else
      let mantissa := match ds with
        | first :: second :: rest => first :: '.' :: second :: rest
        | ds => ds
      let exponentSign := if exponent < 0 then "-" else "+"
      sign ++ String.ofList mantissa ++ "e" ++ exponentSign ++ toString exponent.natAbs

def JsonNumber.text : JsonNumber → String
  | .int n => toString n
  | .float x => x.textIn format

namespace Json

def escape (c : Char) : List Char :=
  if c = '"' then ['\\', '"']
  else if c = '\\' then ['\\', '\\']
  else if c = '\x08' then ['\\', 'b']
  else if c = '\x0c' then ['\\', 'f']
  else if c = '\n' then ['\\', 'n']
  else if c = '\r' then ['\\', 'r']
  else if c = '\t' then ['\\', 't']
  else if c.toNat < 0x20 then ['\\', 'u'] ++ paddedHex c.toNat
  else [c]
where
  paddedHex (n : Nat) : List Char :=
    let digits := Nat.toDigits 16 n
    List.replicate (4 - digits.length) '0' ++ digits

def quoted (s : String) : String := String.ofList ('"' :: s.toList.flatMap escape ++ ['"'])

mutual

def text : Json → String
  | .null => "null"
  | .bool b => if b then "true" else "false"
  | .number n => n.text
  | .string s => quoted s
  | .array items => "[" ++ ",".intercalate (itemTexts items) ++ "]"
  | .object members => "\x7b" ++ ",".intercalate (memberTexts members) ++ "\x7d"

def itemTexts : List Json → List String
  | [] => []
  | item :: rest => text item :: itemTexts rest

def memberTexts : List (String × Json) → List String
  | [] => []
  | (key, value) :: rest => (quoted key ++ ":" ++ text value) :: memberTexts rest

end

end Json

end Stencil
