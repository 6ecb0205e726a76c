import Mathlib.Data.List.Forall2
import Stencil.Block

/-! Block trees that differ in the names of their loops alone. Two trees are compared under the
loops around them, which are paired, innermost first. -/

namespace Stencil

/-- The names refer to the same thing: to the items of the same pair of loops, or outside all loops
to what has this name. -/
inductive SameName : List (String × String) → String → String → Prop
  | free (name : String) : SameName [] name name
  | here (loops : List (String × String)) (name name' : String) :
    SameName ((name, name') :: loops) name name'
  | outer {loops : List (String × String)} {bound bound' name name' : String} (h : name ≠ bound)
    (h' : name' ≠ bound')
    (hsame : SameName loops name name') : SameName ((bound, bound') :: loops) name name'

/-- The expressions have the same path, and names that refer to the same things. The texts they were
read from may differ. -/
structure Expression.Renamed (loops : List (String × String)) (e e' : Expression String) :
    Prop where
  head : SameName loops e.head e'.head
  path : e.path = e'.path
  filters : List.Forall₂ (SameName loops) e.filters e'.filters

inductive Block.Renamed : List (String × String) → List Block → List Block → Prop
  | nil (loops : List (String × String)) : Renamed loops [] []
  | text {loops : List (String × String)} {rest rest' : List Block} (s : String)
    (hrest : Renamed loops rest rest') :
    Renamed loops (.text s :: rest) (.text s :: rest')
  | output {loops : List (String × String)} {e e' : Expression String} {rest rest' : List Block}
    (h : e.Renamed loops e')
    (hrest : Renamed loops rest rest') : Renamed loops (.output e :: rest) (.output e' :: rest')
  | branch {loops : List (String × String)} {condition condition' : Expression String}
    {body body' rest rest' : List Block}
    (h : condition.Renamed loops condition') (hbody : Renamed loops body body')
    (hrest : Renamed loops rest rest') :
    Renamed loops (.branch condition body :: rest) (.branch condition' body' :: rest')
  | loop {loops : List (String × String)} {name name' : String} {items items' : Expression String}
    {body body' rest rest' : List Block} (h : items.Renamed loops items')
    (hbody : Renamed ((name, name') :: loops) body body') (hrest : Renamed loops rest rest') :
    Renamed loops (.loop name items body :: rest) (.loop name' items' body' :: rest')

/-- What an error says apart from the names and expressions that it quotes from the template. -/
def RenderError.nameless : RenderError → RenderError
  | .missingVariable _ => .missingVariable ""
  | .unresolved _ segment => .unresolved "" segment
  | .notCallable _ => .notCallable ""
  | .filterFailed _ cause => .filterFailed "" cause
  | .notIterable _ kind => .notIterable "" kind
  | .writeFailed cause => .writeFailed cause
  | .outsideFrame slot => .outsideFrame slot

end Stencil
