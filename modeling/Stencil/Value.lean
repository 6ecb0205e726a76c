import Stencil.Fault
import Stencil.Number.Binary64

/-! Values that a template sees at run time. Filters and objects of the host are handles, of types
`F` and `O`; what they do is told by a `Host`. -/

namespace Stencil

inductive StockFilter where
  | upper
  | lower
  | capitalize
  | title
  | trim
  | length
  | first
  | last
  deriving DecidableEq, Repr

/-- A filter as a value. Stock filters handed out separately differ by their `copy`. -/
inductive Filter (F : Type) where
  | stock (filter : StockFilter) (copy : Nat)
  | host (handle : F)
  deriving DecidableEq, Repr

inductive Value (F O : Type) where
  | none
  | bool (b : Bool)
  | int (n : Int)
  | float (x : Binary64)
  | string (s : String)
  | list (items : List (Value F O))
  | map (entries : List (String × Value F O))
  | filter (f : Filter F)
  | object (o : O)
  deriving Inhabited

class Host (F O : Type) where
  call : F → Value F O → Except String (Value F O)
  text : O → String
  member : O → String → Option (Value F O)
  item : O → String → Option (Value F O)
  isTrue : O → Bool
  items : O → Option (List (Value F O))

instance : Host Empty Empty where
  call f := nomatch f
  text o := nomatch o
  member o := nomatch o
  item o := nomatch o
  isTrue o := nomatch o
  items o := nomatch o

namespace Value

variable {F O : Type}

def kind : Value F O → String
  | .none => "none"
  | .bool _ => "bool"
  | .int _ => "int"
  | .float _ => "float"
  | .string _ => "string"
  | .list _ => "list"
  | .map _ => "map"
  | .filter _ => "filter"
  | .object _ => "object"

def isTrue [Host F O] : Value F O → Bool
  | .none => false
  | .bool b => b
  | .int n => n ≠ 0
  | .float x => !x.isZero
  | .string s => !s.isEmpty
  | .list items => !items.isEmpty
  | .map entries => !entries.isEmpty
  | .filter _ => true
  | .object o => Host.isTrue F o

/-- The items a loop walks over: of a map its keys, of a text its characters. -/
def items? [Host F O] : Value F O → Option (List (Value F O))
  | .string s => some (s.toList.map fun c => .string (String.singleton c))
  | .list items => some items
  | .map entries => some (entries.map fun (key, _) => .string key)
  | .object o => Host.items o
  | _ => Option.none

def string? : Value F O → Option String
  | .string s => some s
  | _ => Option.none

def filter? : Value F O → Option (Filter F)
  | .filter f => some f
  | _ => Option.none

end Value

end Stencil
