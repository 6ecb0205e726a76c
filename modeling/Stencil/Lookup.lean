import Stencil.Entries
import Stencil.Value

/-! Look-ups of variables by name, and the walk along dotted paths. -/

namespace Stencil

variable {F O : Type}

abbrev Context (F O : Type) := Entries (Value F O)

abbrev Lookup (F O : Type) := String → Option (Value F O)

/-- The first of several pairs with one name counts. -/
def Lookup.ofPairs (pairs : List (String × Value F O)) : Lookup F O := fun name => pairs.lookup name

def Lookup.ofContext (context : Context F O) : Lookup F O := fun name => Entries.find? context name

def Lookup.over (top base : Lookup F O) : Lookup F O := fun name => (top name).or (base name)

abbrev Resolver (F O : Type) := Value F O → String → Option (Value F O)

def checkedWord (n : Nat) : Option UInt64 := if n < UInt64.size then some (UInt64.ofNat n) else none

def readWord (word : UInt64) : List Char → Option UInt64
  | [] => some word
  | c :: rest =>
    if c.isDigit then
      (checkedWord (word.toNat * 10)).bind fun tens =>
        (checkedWord (tens.toNat + (c.toNat - '0'.toNat))).bind fun next => readWord next rest
    else none

def readIndex (segment : String) : Option Nat :=
  let digits := match segment.toList with
    | '+' :: cs => cs
    | cs => cs
  if digits.isEmpty then none else (readWord 0 digits).map UInt64.toNat

/-- The stock resolver: an object's member or else its item, a map's entry, a list's element. -/
def Resolver.dots [Host F O] : Resolver F O
  | .object o, segment => (Host.member o segment).or (Host.item o segment)
  | .map entries, segment => Entries.find? entries segment
  | .list items, segment => (readIndex segment).bind fun n => items[n]?
  | _, _ => none

end Stencil
