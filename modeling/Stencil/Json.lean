import Stencil.Entries
import Stencil.Value

/-! JSON data, and the values they stand for. -/

namespace Stencil

def signedLimit : Nat := 0x8000000000000000

def fitsSigned (n : Int) : Bool := -signedLimit ≤ n && n < signedLimit

def fitsWord (n : Int) : Bool := -signedLimit ≤ n && n < UInt64.size

inductive JsonNumber where
  | int (n : Int)
  | float (x : Binary64)
  deriving DecidableEq, Repr

/-- An object's members are kept in order of their keys, one a key. -/
inductive Json where
  | null
  | bool (b : Bool)
  | number (n : JsonNumber)
  | string (s : String)
  | array (items : List Json)
  | object (members : List (String × Json))
  deriving Inhabited

/-- Integers that take the 64th bit become floats. -/
def JsonNumber.toValue {F O : Type} : JsonNumber → Value F O
  | .int n => if fitsSigned n then .int n else .float (.ofRatio (n < 0) n.natAbs 1)
  | .float x => .float x

namespace Json

variable {F O : Type}

mutual

def toValue : Json → Value F O
  | .null => .none
  | .bool b => .bool b
  | .number n => n.toValue
  | .string s => .string s
  | .array items => .list (toValues items)
  | .object members => .map (toEntries members)

def toValues : List Json → List (Value F O)
  | [] => []
  | item :: rest => toValue item :: toValues rest

def toEntries : List (String × Json) → List (String × Value F O)
  | [] => []
  | (key, json) :: rest => (key, toValue json) :: toEntries rest

end

end Json

end Stencil
