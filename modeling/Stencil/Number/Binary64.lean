/-! Double-precision binary numbers, held as their 64 bits: a sign, eleven bits of exponent and 52
of fraction. A finite datum is `± significand · 2 ^ exponent`. Quotients of naturals are rounded to
the nearest datum, ties to even. -/

namespace Stencil

structure Binary64 where
  bits : UInt64
  deriving DecidableEq, Repr

namespace Binary64

def signUnit : Nat := 0x8000000000000000

def fieldUnit : Nat := 0x10000000000000

def signed (x : Binary64) : Bool := signUnit ≤ x.bits.toNat

def field (x : Binary64) : Nat := x.bits.toNat / fieldUnit % 2048

def fraction (x : Binary64) : Nat := x.bits.toNat % fieldUnit

def isNaN (x : Binary64) : Bool := x.field = 2047 && x.fraction ≠ 0

def isFinite (x : Binary64) : Bool := x.field ≠ 2047

def isZero (x : Binary64) : Bool := x.field = 0 && x.fraction = 0

def significand (x : Binary64) : Nat := if x.field = 0 then x.fraction else fieldUnit + x.fraction

def exponent (x : Binary64) : Int := max x.field 1 - 1075

def ofMagnitude (signed : Bool) (magnitude : Nat) : Binary64 :=
  ⟨UInt64.ofNat (magnitude + if signed then signUnit else 0)⟩

def zero (signed : Bool) : Binary64 := ofMagnitude signed 0

def infinity (signed : Bool) : Binary64 := ofMagnitude signed (2047 * fieldUnit)

def nan : Binary64 := ofMagnitude false (2047 * fieldUnit + fieldUnit / 2)

def neg (x : Binary64) : Binary64 := ⟨x.bits ^^^ UInt64.ofNat signUnit⟩

def equal (x y : Binary64) : Bool := !x.isNaN && (x = y || (x.isZero && y.isZero))

def scaled (num den : Nat) (e : Int) : Nat × Nat :=
  if 0 ≤ e then (num, den <<< e.toNat) else (num <<< (-e).toNat, den)

def roundQuotient (num den : Nat) : Nat :=
  let q := num / den
  let r := num % den
  if den < 2 * r || (den = 2 * r && q % 2 = 1) then q + 1 else q

def floorLog (num den : Nat) : Int :=
  let k : Int := num.log2 - den.log2
  let (n, d) := scaled num den k
  if n < d then k - 1 else k

/-- A positive quotient with `precision` binary digits, as `m · 2 ^ e` with `e` no less than
`least`. -/
def roundTo (precision : Nat) (least : Int) (num den : Nat) : Nat × Int :=
  let e := max least (floorLog num den + 1 - precision)
  let (n, d) := scaled num den e
  (roundQuotient n d, e)

def ofRatio (signed : Bool) (num den : Nat) : Binary64 :=
  if num = 0 then zero signed
  else
    let (m, e) := roundTo 53 (-1074) num den
    let magnitude := (e + 1074).toNat * fieldUnit + m
    if 2047 * fieldUnit ≤ magnitude then infinity signed else ofMagnitude signed magnitude

def ofNat (n : Nat) : Binary64 := ofRatio false n 1

def ratio (x : Binary64) : Nat × Nat :=
  if 0 ≤ x.exponent then (x.significand <<< x.exponent.toNat, 1)
    else (x.significand, 1 <<< (-x.exponent).toNat)

def mul (x y : Binary64) : Binary64 :=
  ofRatio (x.signed != y.signed) (x.ratio.1 * y.ratio.1) (x.ratio.2 * y.ratio.2)

def div (x y : Binary64) : Binary64 :=
  ofRatio (x.signed != y.signed) (x.ratio.1 * y.ratio.2) (x.ratio.2 * y.ratio.1)

def isWhole (x : Binary64) : Bool := x.ratio.1 % x.ratio.2 = 0

def ofRatioSingle (signed : Bool) (num den : Nat) : Binary64 :=
  if num = 0 then zero signed
  else
    let (m, e) := roundTo 24 (-149) num den
    let (n, d) := scaled m 1 (-e)
    if d <<< 128 ≤ n then infinity signed else ofRatio signed n d

end Binary64

end Stencil
