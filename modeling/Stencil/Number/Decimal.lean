import Stencil.Number.Binary64

/-! Digits of numerals, decimal numerals, and the binary data nearest to them. -/

namespace Stencil

def digitsValue (n : Nat) (cs : List Char) : Nat :=
  cs.foldl (fun n c => n * 10 + (c.toNat - '0'.toNat)) n

def hexValue (c : Char) : Option Nat :=
  if c.isDigit then some (c.toNat - '0'.toNat)
  else if 'a' ≤ c && c ≤ 'f' then some (c.toNat - 'a'.toNat + 10)
  else if 'A' ≤ c && c ≤ 'F' then some (c.toNat - 'A'.toNat + 10)
  else none

def baseValue (base n : Nat) : List Char → Option Nat
  | [] => some n
  | c :: cs =>
    (hexValue c).bind fun d => if d < base then baseValue base (n * base + d) cs else none

def paddedDigits (width n : Nat) : List Char :=
  let digits := Nat.toDigits 10 n
  List.replicate (width - digits.length) '0' ++ digits

inductive Decimal where
  | finite (signed : Bool) (digits : Nat) (exponent : Int)
  | infinite (signed : Bool)
  | nan
  deriving DecidableEq, Repr

namespace Decimal

def splitSign : List Char → Option Bool × List Char
  | '-' :: cs => (some true, cs)
  | '+' :: cs => (some false, cs)
  | cs => (none, cs)

def readExponent (cs : List Char) : Option Int :=
  let (sign, digits) := splitSign cs
  if digits.isEmpty || !digits.all Char.isDigit then none
  else
    let n : Int := digitsValue 0 digits
    some (if sign = some true then -n else n)

def readUnsigned (signed : Bool) (cs : List Char) : Option Decimal :=
  let whole := cs.takeWhile Char.isDigit
  let rest := cs.dropWhile Char.isDigit
  let (fraction, rest) := match rest with
    | '.' :: rest => (rest.takeWhile Char.isDigit, rest.dropWhile Char.isDigit)
    | rest => ([], rest)
  if whole.isEmpty && fraction.isEmpty then none
  else
    let digits := digitsValue 0 (whole ++ fraction)
    match rest with
    | [] => some (.finite signed digits (-fraction.length))
    | e :: rest =>
      if e = 'e' || e = 'E' then
        (readExponent rest).map fun n => .finite signed digits (n - fraction.length)
      else none

def read (s : String) : Option Decimal :=
  let (sign, cs) := splitSign s.toList
  let signed := sign = some true
  match String.ofList (cs.map Char.toLower) with
  | "nan" => some .nan
  | "inf" | "infinity" => some (.infinite signed)
  | _ => readUnsigned signed cs

/-- The quotient that a numeral stands for, unless it lies far beyond `10 ^ limit` or far below `10
^ -limit`. -/
inductive Size where
  | ratio (num den : Nat)
  | huge
  | tiny

def size (digits : Nat) (exponent : Int) (limit : Nat) : Size :=
  let places : Int := (Nat.toDigits 10 digits).length + exponent
  if digits = 0 || places < -limit then .tiny
  else if limit < places then .huge
  else if 0 ≤ exponent then .ratio (digits * Nat.pow 10 exponent.toNat) 1
  else .ratio digits (Nat.pow 10 (-exponent).toNat)

def toBinary64 : Decimal → Binary64
  | .nan => .nan
  | .infinite signed => .infinity signed
  | .finite signed digits exponent =>
    match size digits exponent 400 with
    | .tiny => .zero signed
    | .huge => .infinity signed
    | .ratio num den => .ofRatio signed num den

def toSingle : Decimal → Binary64
  | .nan => .nan
  | .infinite signed => .infinity signed
  | .finite signed digits exponent =>
    match size digits exponent 400 with
    | .tiny => .zero signed
    | .huge => .infinity signed
    | .ratio num den => .ofRatioSingle signed num den

end Decimal

end Stencil
