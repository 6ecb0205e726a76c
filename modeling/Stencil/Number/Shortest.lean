import Stencil.Number.Decimal

/-! The fewest decimal digits that read back as a given datum, and the nearest of those to it. -/

namespace Stencil

inductive TieRule where
  | up
  | toEven
  deriving DecidableEq, Repr

namespace Binary64

/-- The numbers that round to a positive finite datum lie between `low` and `high`, where `value` is
the datum itself, all in units of `2 ^ power`; the ends belong to them when `closed`. -/
structure Basin where
  low : Nat
  value : Nat
  high : Nat
  power : Int
  closed : Bool

def basin (x : Binary64) : Basin where
  low := 4 * x.significand - if x.fraction = 0 && 1 < x.field then 1 else 2
  value := 4 * x.significand
  high := 4 * x.significand + 2
  power := x.exponent - 2
  closed := x.significand % 2 = 0

def Basin.gridPoint (b : Basin) (tie : TieRule) (place : Int) : Option Nat :=
  let unit := Nat.pow 10 (-place).toNat <<< b.power.toNat
  let den := Nat.pow 10 place.toNat <<< (-b.power).toNat
  let below (m n : Nat) : Bool := m < n || (b.closed && m = n)
  let g := b.value * unit / den
  let left := b.value * unit - g * den
  let right := (g + 1) * den - b.value * unit
  match below (b.low * unit) (g * den), below ((g + 1) * den) (b.high * unit) with
  | true, true =>
    if left < right then some g
    else if right < left then some (g + 1)
    else match tie with
      | .up => some (g + 1)
      | .toEven => some (g + g % 2)
  | true, false => some g
  | false, true => some (g + 1)
  | false, false => none

def Basin.search (b : Basin) (tie : TieRule) : Nat → Int → Nat × Int
  | 0, place => (0, place)
  | fuel + 1, place =>
    match b.gridPoint tie place with
    | some digits => (digits, place)
    | none => b.search tie fuel (place - 1)

/-- Digits and exponent of ten of a positive finite datum. No decimal point of a double lies more
than 1074 places to the right of its last digit. -/
def shortest (tie : TieRule) (x : Binary64) : Nat × Int :=
  let places := (Nat.toDigits 10 (x.ratio.1 / x.ratio.2)).length
  x.basin.search tie (places + 1075) places

end Binary64

def positional (digits : Nat) (place : Int) : List Char :=
  if 0 ≤ place then Nat.toDigits 10 (digits * Nat.pow 10 place.toNat)
  else
    let width := (-place).toNat
    let unit := Nat.pow 10 width
    Nat.toDigits 10 (digits / unit) ++ '.' :: paddedDigits width (digits % unit)

end Stencil
