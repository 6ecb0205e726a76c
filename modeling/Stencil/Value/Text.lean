import Stencil.Number.Shortest
import Stencil.Value

/-! The text of a value, as a template writes it out. -/

namespace Stencil

/-- A float in full, without an exponent. Whole numbers keep one decimal, others have the fewest
that read back. -/
def Binary64.text (x : Binary64) : String :=
  if x.isNaN then "NaN"
  else
    let sign := if x.signed then "-" else ""
    if !x.isFinite then sign ++ "inf"
    else if x.isWhole then sign ++ toString (x.ratio.1 / x.ratio.2) ++ ".0"
    else
      let (digits, place) := x.shortest .up
      sign ++ String.ofList (positional digits place)

namespace Value

variable {F O : Type} [Host F O]

mutual

def text : Value F O → String
  | .none => ""
  | .bool b => if b then "true" else "false"
  | .int n => toString n
  | .float x => x.text
  | .string s => s
  | .list items => "[" ++ ", ".intercalate (itemTexts items) ++ "]"
  | .map entries => "\x7b" ++ ", ".intercalate (entryTexts entries) ++ "\x7d"
  | .filter _ => "<filter>"
  | .object o => Host.text F o

def itemTexts : List (Value F O) → List String
  | [] => []
  | item :: rest => text item :: itemTexts rest

def entryTexts : List (String × Value F O) → List String
  | [] => []
  | (key, value) :: rest => (key ++ ": " ++ text value) :: entryTexts rest

end

end Value

end Stencil
