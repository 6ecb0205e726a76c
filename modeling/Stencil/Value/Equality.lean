import Stencil.Value

/-! Equality of values. Handles are equal when they are the same handle, floats when they are equal
as numbers. -/

namespace Stencil.Value

variable {F O : Type} [BEq F] [BEq O]

def sameFilter : Filter F → Filter F → Bool
  | .stock a m, .stock b n => a = b && m = n
  | .host f, .host g => f == g
  | _, _ => false

mutual

def equal : Value F O → Value F O → Bool
  | .none, .none => true
  | .bool a, .bool b => a = b
  | .int a, .int b => a = b
  | .float x, .float y => x.equal y
  | .string a, .string b => a = b
  | .list a, .list b => equalItems a b
  | .map a, .map b => equalEntries a b
  | .filter f, .filter g => sameFilter f g
  | .object o, .object p => o == p
  | _, _ => false

def equalItems : List (Value F O) → List (Value F O) → Bool
  | [], [] => true
  | a :: as, b :: bs => equal a b && equalItems as bs
  | _, _ => false

def equalEntries : List (String × Value F O) → List (String × Value F O) → Bool
  | [], [] => true
  | (k, a) :: as, (l, b) :: bs => k = l && equal a b && equalEntries as bs
  | _, _ => false

end

end Stencil.Value
