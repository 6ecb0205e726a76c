import Stencil.Json
import Stencil.Number.Decimal

/-! Numbers in JSON texts. A number without point and exponent that fits in 64 bits is an integer.
Any other is a float: its leading digits are gathered into 64 bits, those that do not fit are
dropped, and the sum is scaled by powers of ten in double precision, which may be off the nearest
datum by a step or two. -/

namespace Stencil.Json

structure Gathered where
  significand : Nat
  count : Nat
  rest : List Char

def gather (significand count : Nat) : List Char → Gathered
  | [] => ⟨significand, count, []⟩
  | c :: cs =>
    if c.isDigit then
      let next := significand * 10 + (c.toNat - '0'.toNat)
      if next < UInt64.size then gather next (count + 1) cs else ⟨significand, count, c :: cs⟩
    else ⟨significand, count, c :: cs⟩

def maxPower : Nat := 308

def powerOfTen (n : Nat) : Binary64 := .ofNat (Nat.pow 10 n)

def scaleDown (x : Binary64) (n : Nat) : Binary64 :=
  if n ≤ maxPower then x.div (powerOfTen n)
  else if x.isZero then x
  else scaleDown (x.div (powerOfTen maxPower)) (n - maxPower)
termination_by n
decreasing_by
  simp only [maxPower] at *
  omega

def scale (signed : Bool) (significand : Nat) (exponent : Int) : Option Binary64 :=
  let x := Binary64.ofNat significand
  let signedAs (x : Binary64) := if signed then x.neg else x
  if 0 ≤ exponent then
    if exponent ≤ maxPower then
      let y := x.mul (powerOfTen exponent.toNat)
      if y.isFinite then some (signedAs y) else none
    else if x.isZero then some (signedAs x) else none
  else some (signedAs (scaleDown x (-exponent).toNat))

def exponentLimit : Nat := 0x7fffffff

/-- What follows the letter of an exponent. An exponent beyond the limit makes zero, or a number too
great. -/
def readExponent (signed : Bool) (significand : Nat) (exponent : Int) (cs : List Char) :
    Option (JsonNumber × List Char) :=
  let (sign, cs) := Decimal.splitSign cs
  let digits := cs.takeWhile Char.isDigit
  let rest := cs.dropWhile Char.isDigit
  if digits.isEmpty then none
  else
    let down := sign = some true
    let n := digitsValue 0 digits
    if exponentLimit < n then
      if significand = 0 || down then some (.float (.zero signed), rest) else none
    else
      (scale signed significand (if down then exponent - n else exponent + n)).map fun x =>
        (.float x, rest)

def readTail (signed : Bool) (significand : Nat) (exponent : Int) (cs : List Char) :
    Option (JsonNumber × List Char) :=
  match cs with
  | 'e' :: cs | 'E' :: cs => readExponent signed significand exponent cs
  | cs => (scale signed significand exponent).map fun x => (.float x, cs)

def readFraction (signed : Bool) (significand : Nat) (exponent : Int) (cs : List Char) :
    Option (JsonNumber × List Char) :=
  let g := gather significand 0 cs
  if g.count = 0 && !(g.rest.head?.any Char.isDigit) then none
  else readTail signed g.significand (exponent - g.count) (g.rest.dropWhile Char.isDigit)

/-- A whole number, negative if signed. Zero with a sign, and what lies below the integers of 64
bits, is a float. -/
def wholeNumber (signed : Bool) (significand : Nat) : JsonNumber :=
  if !signed then .int significand
  else if 0 < significand && significand ≤ signedLimit then .int (-significand)
  else .float (Binary64.ofNat significand).neg

def readUnsigned (signed : Bool) (cs : List Char) : Option (JsonNumber × List Char) :=
  match cs with
  | [] => none
  | c :: after =>
    if !c.isDigit then none
    else if c = '0' && (after.head?.any Char.isDigit) then none
    else
      let g := gather 0 0 cs
      let dropped := (g.rest.takeWhile Char.isDigit).length
      match g.rest.dropWhile Char.isDigit with
      | '.' :: rest => readFraction signed g.significand dropped rest
      | rest =>
        if dropped = 0 && !(rest.head?.any fun c => c = 'e' || c = 'E') then
          some (wholeNumber signed g.significand, rest)
        else readTail signed g.significand dropped rest

def readNumber : List Char → Option (JsonNumber × List Char)
  | '-' :: cs => readUnsigned true cs
  | cs => readUnsigned false cs

end Stencil.Json
