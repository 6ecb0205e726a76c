import Stencil.Json
import Stencil.Number.Decimal

/-! Bare scalars of TOML: truth values and numbers. Digits may be set apart by single underscores;
leading zeros are refused, and so is an integer beyond 64 bits and a float beyond the greatest
datum. -/

namespace Stencil.Toml

def digitGroup (isDigit : Char → Bool) : List Char → Option (List Char)
  | [] => none
  | [c] => if isDigit c then some [c] else none
  | c :: '_' :: rest => if isDigit c then (digitGroup isDigit rest).map (c :: ·) else none
  | c :: rest => if isDigit c then (digitGroup isDigit rest).map (c :: ·) else none

def wholeDigits (cs : List Char) : Option (List Char) :=
  match digitGroup Char.isDigit cs with
  | some ('0' :: _ :: _) => none
  | digits => digits

def readInteger (n : Int) : Option Json :=
  if fitsWord n then some (.number (.int n)) else none

def isBaseDigit (base : Nat) (c : Char) : Bool := (hexValue c).any (· < base)

def readBase (base : Nat) (cs : List Char) : Option Json :=
  (digitGroup (isBaseDigit base) cs).bind fun digits => (baseValue base 0 digits).bind fun n =>
    readInteger n

def ofFloat (x : Binary64) : Json := if x.isFinite then .number (.float x) else .null

def before (marks : List Char) (cs : List Char) : List Char × List Char :=
  (cs.takeWhile fun c => !marks.contains c, cs.dropWhile fun c => !marks.contains c)

def readExponent (cs : List Char) : Option Int :=
  let (sign, cs) := Decimal.splitSign cs
  (digitGroup Char.isDigit cs).map fun digits =>
    let n : Int := digitsValue 0 digits
    if sign = some true then -n else n

def readDecimal (signed : Bool) (cs : List Char) : Option Json :=
  let (whole, rest) := before ['.', 'e', 'E'] cs
  let finite (digits : List Char) (exponent : Int) : Option Json :=
    let x := (Decimal.finite signed (digitsValue 0 digits) exponent).toBinary64
    if x.isFinite then some (ofFloat x) else none
  (wholeDigits whole).bind fun whole =>
    match rest with
    | [] =>
      let n : Int := digitsValue 0 whole
      readInteger (if signed then -n else n)
    | '.' :: rest =>
      let (fraction, rest) := before ['e', 'E'] rest
      (digitGroup Char.isDigit fraction).bind fun fraction =>
        match rest with
        | [] => finite (whole ++ fraction) (-fraction.length)
        | _ :: rest =>
          (readExponent rest).bind fun n => finite (whole ++ fraction) (n - fraction.length)
    | _ :: rest => (readExponent rest).bind fun n => finite whole n

def readScalar (cs : List Char) : Option Json :=
  let (sign, rest) := Decimal.splitSign cs
  match sign, rest with
  | none, ['t', 'r', 'u', 'e'] => some (.bool true)
  | none, ['f', 'a', 'l', 's', 'e'] => some (.bool false)
  | none, '0' :: 'x' :: rest => readBase 16 rest
  | none, '0' :: 'o' :: rest => readBase 8 rest
  | none, '0' :: 'b' :: rest => readBase 2 rest
  | _, ['i', 'n', 'f'] => some (ofFloat (.infinity (sign = some true)))
  | _, ['n', 'a', 'n'] => some (ofFloat .nan)
  | _, rest => readDecimal (sign = some true) rest

end Stencil.Toml
