import Stencil.Block.Names
import Stencil.Listing.Assembly

/-! What a listing shows of a program: all but the slots of free variables and the texts that
expressions were read from. -/

namespace Stencil

/-- A variable as a listing shows it: the slot of a free one is not told. -/
def Variable.shown (v : Variable) : Variable := if v.bound then v else { v with slot := 0 }

def Expression.retell {α β : Type} (f : α → β) (e : Expression α) : Expression β :=
  ⟨"", f e.head, e.path, e.filters.map f⟩

def Piece.retell (f : Variable → Variable) : Piece → Piece
  | .literal s => .literal s
  | .output e => .output (e.retell f)

def Statement.retell (f : Variable → Variable) : Statement → Statement
  | .define => .define
  | .bind v => .bind (f v)
  | .emit pieces => .emit (pieces.map (Piece.retell f))
  | .branch condition => .branch (condition.retell f)
  | .loop v items => .loop (f v) (items.retell f)
  | .finish => .finish

def Statement.Named (s : Statement) : Prop := ∀ v ∈ s.vars, isName v.name.toList = true

def lineShown (line : Nat × Statement) : Nat × Statement := (line.1, line.2.retell Variable.shown)

namespace Node

mutual

def retell (f : Variable → Variable) : Node → Node
  | .bind v => .bind (f v)
  | .emit pieces => .emit (pieces.map (Piece.retell f))
  | .branch condition body => .branch (condition.retell f) (retellAll f body)
  | .loop v items body => .loop (f v) (items.retell f) (retellAll f body)

def retellAll (f : Variable → Variable) : List Node → List Node
  | [] => []
  | node :: rest => retell f node :: retellAll f rest

end

end Node

def Piece.block : Piece → Block
  | .literal s => .text s
  | .output e => .output (e.retell Variable.name)

namespace Node

mutual

def blocks : Node → List Block
  | .bind _ => []
  | .emit pieces => pieces.map Piece.block
  | .branch condition body => [.branch (condition.retell Variable.name) (blocksAll body)]
  | .loop v items body => [.loop v.name (items.retell Variable.name) (blocksAll body)]

def blocksAll : List Node → List Block
  | [] => []
  | node :: rest => blocks node ++ blocksAll rest

end

end Node

def Program.bare (p : Program) : Program := ⟨Node.retellAll id p.body, p.slots⟩

namespace Block

mutual

def bare : Block → Block
  | .text s => .text s
  | .output e => .output (e.retell id)
  | .branch condition body => .branch (condition.retell id) (bareAll body)
  | .loop name items body => .loop name (items.retell id) (bareAll body)

def bareAll : List Block → List Block
  | [] => []
  | b :: rest => bare b :: bareAll rest

end

end Block

def RenderError.bare : RenderError → RenderError
  | .notIterable _ kind => .notIterable "" kind
  | e => e

end Stencil
