import Stencil.Json

/-! Data that a host hands over in a shape of its own: numbers of any size, maps with keys of any
kind, tagged variants. It becomes JSON where JSON has a place for it. -/

namespace Stencil

inductive Data where
  | null
  | bool (b : Bool)
  | int (n : Int)
  | float (x : Binary64)
  | string (s : String)
  | list (items : List Data)
  | map (entries : List (Data × Data))
  | tagged (tag : String) (payload : Data)
  deriving Inhabited

inductive DataError where
  | numberOutOfRange
  | keyNotText
  deriving DecidableEq, Repr

def DataError.message : DataError → String
  | .numberOutOfRange => "number out of range"
  | .keyNotText => "key must be a string"

namespace Data

def keyText : Data → Except DataError String
  | .string s => .ok s
  | .int n => .ok (toString n)
  | .bool b => .ok (if b then "true" else "false")
  | _ => .error .keyNotText

mutual

/-- A float that is not finite is null, a tagged payload a map of one entry. -/
def toJson : Data → Except DataError Json
  | .null => .ok .null
  | .bool b => .ok (.bool b)
  | .int n => if fitsWord n then .ok (.number (.int n)) else .error .numberOutOfRange
  | .float x => .ok (if x.isFinite then .number (.float x) else .null)
  | .string s => .ok (.string s)
  | .list items => (itemsToJson items).map .array
  | .map entries => (entriesToJson entries).map fun members => .object (Entries.ofPairs members)
  | .tagged tag payload => (toJson payload).map fun json => .object [(tag, json)]

def itemsToJson : List Data → Except DataError (List Json)
  | [] => .ok []
  | item :: rest =>
    match toJson item with
    | .error e => .error e
    | .ok json => (itemsToJson rest).map (json :: ·)

def entriesToJson : List (Data × Data) → Except DataError (List (String × Json))
  | [] => .ok []
  | (key, value) :: rest =>
    match keyText key with
    | .error e => .error e
    | .ok key =>
      match toJson value with
      | .error e => .error e
      | .ok json => (entriesToJson rest).map ((key, json) :: ·)

end

def toValue {F O : Type} (data : Data) : Except DataError (Value F O) :=
  data.toJson.map Json.toValue

end Data

end Stencil
