import Stencil.Program.Outline
import Stencil.Program.Lines

/-! Places and slots. A variable stands inside loops of its program, and it is well scoped when it
is that of the innermost loop over its name, or else one that is looked up. Slots belong to the
names that are looked up and to the tags of loops. -/

namespace Stencil

structure Place where
  around : List Variable
  var : Variable

/-- A loop's variable is that of the innermost loop over its name. Any other is among those looked
up, outside all loops over its name. -/
structure Place.Scoped (binds : List Variable) (p : Place) : Prop where
  bound : p.var.bound = true → p.around.find? (fun v => v.name = p.var.name) = some p.var
  free : p.var.bound = false → p.var ∈ binds ∧ ∀ v ∈ p.around, v.name ≠ p.var.name

namespace Node

mutual

/-- The variables of a node in the loops `around`, in the order of its lines. The variable of a loop
stands in the loop, its items stand outside. -/
def places (around : List Variable) : Node → List Place
  | .bind v => [⟨around, v⟩]
  | .emit pieces => (pieces.flatMap Piece.vars).map (Place.mk around)
  | .branch condition body => condition.vars.map (Place.mk around) ++ placesAll around body
  | .loop v items body =>
    ⟨v :: around, v⟩ :: items.vars.map (Place.mk around) ++ placesAll (v :: around) body

def placesAll (around : List Variable) : List Node → List Place
  | [] => []
  | node :: rest => places around node ++ placesAll around rest

end

mutual

def loops : Node → List Variable
  | .bind _ | .emit _ => []
  | .branch _ body => loopsAll body
  | .loop v _ body => v :: loopsAll body

def loopsAll : List Node → List Variable
  | [] => []
  | node :: rest => loops node ++ loopsAll rest

end

end Node

def Token.isLoop (t : Token) : Bool :=
  t.kind = .tag && (Text.words t.inner).head? = some "for".toList

def Sign.isLoop : Sign → Bool
  | .opening (.loop _ _) => true
  | _ => false

inductive Owner where
  | name (name : String)
  | loop (tag : Token)
  deriving DecidableEq, Repr

def owners (free : Names) (tokens : List Token) : List Owner :=
  free.map .name ++ (tokens.filter Token.isLoop).map .loop

end Stencil
