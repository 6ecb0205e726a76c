import Stencil.Program

/-! The lines of a program, one for each node, and under the line of a block its body one step
further in; the variables on them, and whether any of these is a look-up's target. -/

namespace Stencil

def Expression.vars (e : Expression Variable) : List Variable := e.head :: e.filters

def Piece.vars : Piece → List Variable
  | .literal _ => []
  | .output e => e.vars

namespace Node

mutual

def lines (indent : Nat) : Node → List (Nat × Statement)
  | .bind v => [(indent, .bind v)]
  | .emit pieces => [(indent, .emit pieces)]
  | .branch condition body => (indent, .branch condition) :: linesAll (indent + indentStep) body
  | .loop v items body => (indent, .loop v items) :: linesAll (indent + indentStep) body

def linesAll (indent : Nat) : List Node → List (Nat × Statement)
  | [] => []
  | node :: rest => lines indent node ++ linesAll indent rest

end

def procedure (base : Nat) (body : List Node) : List (Nat × Statement) :=
  (base, .define) :: (linesAll (base + indentStep) body ++ [(base + indentStep, .finish)])

mutual

def vars : Node → List Variable
  | .bind v => [v]
  | .emit pieces => pieces.flatMap Piece.vars
  | .branch condition body => condition.vars ++ varsAll body
  | .loop v items body => v :: items.vars ++ varsAll body

def varsAll : List Node → List Variable
  | [] => []
  | node :: rest => vars node ++ varsAll rest

end

mutual

def binds : Node → Bool
  | .bind _ => true
  | .emit _ => false
  | .branch _ body | .loop _ _ body => bindsAny body

def bindsAny : List Node → Bool
  | [] => false
  | node :: rest => binds node || bindsAny rest

end

end Node

def frameFor (vs : List Variable) : Nat := vs.foldl (fun size v => max size (v.slot + 1)) 0

end Stencil
