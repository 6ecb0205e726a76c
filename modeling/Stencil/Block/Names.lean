import Stencil.Block
import Stencil.Entries

/-! The names of a block tree. A use of a name is free when no loop around it binds the name; the
items of a loop stand outside the loop. -/

namespace Stencil

def Expression.names (e : Expression String) : List String := e.head :: e.filters

def Expression.freeNames (bound : List String) (e : Expression String) : List String :=
  e.names.filter fun name => !bound.contains name

namespace Block

mutual

def freeUses (bound : List String) : Block → List String
  | .text _ => []
  | .output e => e.freeNames bound
  | .branch condition body => condition.freeNames bound ++ freeUsesAll bound body
  | .loop name items body => items.freeNames bound ++ freeUsesAll (name :: bound) body

def freeUsesAll (bound : List String) : List Block → List String
  | [] => []
  | block :: rest => freeUses bound block ++ freeUsesAll bound rest

end

def freeNames (body : List Block) : Names := Names.ofList (freeUsesAll [] body)

mutual

def names : Block → List String
  | .text _ => []
  | .output e => e.names
  | .branch condition body => condition.names ++ namesAll body
  | .loop name items body => name :: items.names ++ namesAll body

def namesAll : List Block → List String
  | [] => []
  | block :: rest => names block ++ namesAll rest

end

/-- The name is used in the block, inside loops over the names `around`, outermost first. A loop's
items stand outside it. -/
inductive Uses (name : String) : List String → Block → Prop
  | output {e : Expression String} (h : name ∈ e.names) : Uses name [] (.output e)
  | condition {condition : Expression String} {body : List Block} (h : name ∈ condition.names) :
    Uses name [] (.branch condition body)
  | branch {condition : Expression String} {body : List Block} {b : Block} {around : List String}
    (hb : b ∈ body) (h : Uses name around b) : Uses name around (.branch condition body)
  | items {bound : String} {items : Expression String} {body : List Block}
    (h : name ∈ items.names) :
    Uses name [] (.loop bound items body)
  | loop {bound : String} {items : Expression String} {body : List Block} {b : Block}
    {around : List String}
    (hb : b ∈ body) (h : Uses name around b) : Uses name (bound :: around) (.loop bound items body)

inductive Binds (name : String) : Block → Prop
  | here {items : Expression String} {body : List Block} : Binds name (.loop name items body)
  | branch {condition : Expression String} {body : List Block} {b : Block} (hb : b ∈ body)
    (h : Binds name b) :
    Binds name (.branch condition body)
  | loop {bound : String} {items : Expression String} {body : List Block} {b : Block}
    (hb : b ∈ body) (h : Binds name b) : Binds name (.loop bound items body)

/-- Some use of the name in the body stands in no loop that binds it. -/
def FreeIn (name : String) (body : List Block) : Prop :=
  ∃ b ∈ body, ∃ around, Uses name around b ∧ name ∉ around

def BoundIn (name : String) (body : List Block) : Prop := ∃ b ∈ body, Binds name b

end Block

end Stencil
