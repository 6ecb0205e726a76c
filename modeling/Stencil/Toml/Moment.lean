import Stencil.Json
import Stencil.Number.Decimal

/-! Dates and times of TOML, alone or joined, with or without an offset. As data they are a map of
one entry that holds their canonical text. -/

namespace Stencil.Toml

def readFixed (width : Nat) (cs : List Char) : Option (Nat × List Char) :=
  let digits := cs.take width
  if digits.length = width && digits.all Char.isDigit then
    some (digitsValue 0 digits, cs.drop width) else none

def isLeapYear (year : Nat) : Bool := year % 4 = 0 && (year % 100 ≠ 0 || year % 400 = 0)

def daysIn (year month : Nat) : Nat :=
  if month = 2 then (if isLeapYear year then 29 else 28)
  else if month = 4 || month = 6 || month = 9 || month = 11 then 30
  else 31

def skipChar (c : Char) : List Char → Option (List Char)
  | a :: rest => if a = c then some rest else none
  | [] => none

def padded (width n : Nat) : String := String.ofList (paddedDigits width n)

def readDate (cs : List Char) : Option (String × List Char) := do
  let (year, cs) ← readFixed 4 cs
  let cs ← skipChar '-' cs
  let (month, cs) ← readFixed 2 cs
  let cs ← skipChar '-' cs
  let (day, cs) ← readFixed 2 cs
  if 1 ≤ month && month ≤ 12 && 1 ≤ day && day ≤ daysIn year month then
    some (padded 4 year ++ "-" ++ padded 2 month ++ "-" ++ padded 2 day, cs)
  else none

def fractionText (digits : List Char) : String :=
  let kept := ((digits.take 9).reverse.dropWhile (· = '0')).reverse
  if kept.isEmpty then ".0" else "." ++ String.ofList kept

def readSeconds (cs : List Char) : Option (String × List Char) :=
  match cs with
  | ':' :: cs => do
    let (second, cs) ← readFixed 2 cs
    if 60 < second then none
    else
      match cs with
      | '.' :: cs =>
        let digits := cs.takeWhile Char.isDigit
        if digits.isEmpty then none
        else some (":" ++ padded 2 second ++ fractionText digits, cs.dropWhile Char.isDigit)
      | cs => some (":" ++ padded 2 second, cs)
  | cs => some ("", cs)

def readTime (cs : List Char) : Option (String × List Char) := do
  let (hour, cs) ← readFixed 2 cs
  let cs ← skipChar ':' cs
  let (minute, cs) ← readFixed 2 cs
  if hour ≤ 23 && minute ≤ 59 then
    let (seconds, cs) ← readSeconds cs
    some (padded 2 hour ++ ":" ++ padded 2 minute ++ seconds, cs)
  else none

def readOffset (cs : List Char) : Option String :=
  match cs with
  | [] => some ""
  | ['Z'] | ['z'] => some "Z"
  | sign :: cs =>
    if sign = '+' || sign = '-' then do
      let (hour, cs) ← readFixed 2 cs
      let cs ← skipChar ':' cs
      let (minute, cs) ← readFixed 2 cs
      if hour ≤ 23 && minute ≤ 59 && cs.isEmpty then
        let shown := if hour = 0 && minute = 0 then "+" else String.singleton sign
        some (shown ++ padded 2 hour ++ ":" ++ padded 2 minute)
      else none
    else none

def isDateSeparator (c : Char) : Bool := c = 'T' || c = 't' || c = ' '

def readMoment (cs : List Char) : Option String :=
  match readDate cs with
  | some (date, []) => some date
  | some (date, separator :: cs) =>
    if isDateSeparator separator then do
      let (time, cs) ← readTime cs
      let offset ← readOffset cs
      some (date ++ "T" ++ time ++ offset)
    else none
  | none =>
    match readTime cs with
    | some (time, []) => some time
    | _ => none

def momentKey : String := "$__toml_private_datetime"

def ofMoment (text : String) : Json := .object [(momentKey, .string text)]

end Stencil.Toml
