import Stencil.Fault
import Stencil.Text.Blank

/-! Names, and expressions, as in `user.name|trim|upper`: a variable, a dotted path from its value,
and filters for the outcome. -/

namespace Stencil

def isNameStart (c : Char) : Bool := c = '_' || c.isAlpha

def isNamePart (c : Char) : Bool := c = '_' || c.isAlphanum

def isName : List Char → Bool
  | [] => false
  | c :: cs => isNameStart c && cs.all isNamePart

def isIndex (cs : List Char) : Bool := !cs.isEmpty && cs.all Char.isDigit

def isSegment (cs : List Char) : Bool := isName cs || isIndex cs

/-- An expression whose variable and filters are named by an `α`, together with the text it was read
from. -/
structure Expression (α : Type) where
  source : String
  head : α
  path : List String
  filters : List α
  deriving DecidableEq, Repr

namespace Expression

/-- Blanks may stand around the whole and around each bar, but not next to a dot. -/
def read (cs : List Char) : Except SyntaxFault (Expression String) :=
  let text := Text.trim cs
  if text.isEmpty then .error .emptyExpression
  else
    let (path, filters) := Text.parts '|' text
    let (head, segments) := Text.parts '.' (Text.trim path)
    let filters := filters.map Text.trim
    if isName head && segments.all isSegment && filters.all isName then
      .ok ⟨String.ofList text, String.ofList head, segments.map String.ofList,
        filters.map String.ofList⟩
    else .error .invalidName

end Expression

end Stencil
