import Mathlib.Data.List.Chain
import Stencil.Block.Grammar
import Stencil.Expression.Parts
import Stencil.Program.Lines

/-! Outlines. A template and its program are alike a row of signs: texts, expressions whose values
are written, and tags that open and close blocks. -/

namespace Stencil

inductive Sign where
  | text (s : String)
  | output (e : Expression String)
  | opening (opener : Opener)
  | closing (opener : Opener)

namespace Sign

def isOutput : Sign → Bool
  | .text _ | .output _ => true
  | .opening _ | .closing _ => false

def enclose (opener : Opener) (inside : List Sign) : List Sign :=
  .opening opener :: (inside ++ [.closing opener])

end Sign

namespace Token

def isOutput (t : Token) : Bool := t.kind = .text || t.kind = .expression

/-- The sign that a token stands for. A comment stands for none. -/
inductive Stands : Token → Sign → Prop
  | text {t : Token} (hkind : t.kind = .text) : Stands t (.text (String.ofList t.inner))
  | output {t : Token} {e : Expression String} (hkind : t.kind = .expression)
    (he : Expression.Reads t.inner e) :
    Stands t (.output e)
  | opening {t : Token} {opener : Opener} (h : Opens t opener) : Stands t (.opening opener)
  | closing {t : Token} {opener : Opener} (h : Closes t opener) : Stands t (.closing opener)

end Token

namespace Block

mutual

def outline : Block → List Sign
  | .text s => [.text s]
  | .output e => [.output e]
  | .branch condition body => Sign.enclose (.branch condition) (outlineAll body)
  | .loop name items body => Sign.enclose (.loop name items) (outlineAll body)

def outlineAll : List Block → List Sign
  | [] => []
  | b :: rest => outline b ++ outlineAll rest

end

end Block

def Piece.sign : Piece → Sign
  | .literal s => .text s
  | .output e => .output e.named

def Statement.pieces : Statement → List Piece
  | .emit pieces => pieces
  | _ => []

namespace Node

mutual

def outline : Node → List Sign
  | .bind _ => []
  | .emit pieces => pieces.map Piece.sign
  | .branch condition body => Sign.enclose (.branch condition.named) (outlineAll body)
  | .loop v items body => Sign.enclose (.loop v.name items.named) (outlineAll body)

def outlineAll : List Node → List Sign
  | [] => []
  | node :: rest => outline node ++ outlineAll rest

end

def pieces (body : List Node) : List Piece :=
  (linesAll indentStep body).flatMap fun line => line.2.pieces

def body? : Node → Option (List Node)
  | .branch _ body | .loop _ _ body => some body
  | .bind _ | .emit _ => none

inductive BodyIn (inner : List Node) : List Node → Prop
  | self : BodyIn inner inner
  | inside {node : Node} {body outer : List Node} (hnode : node ∈ outer)
    (hbody : node.body? = some body) (h : BodyIn inner body) : BodyIn inner outer

def isEmission : Node → Bool
  | .emit _ => true
  | _ => false

/-- No two emissions of a body stand together, and each emits something and no empty text. -/
structure Batched (body : List Node) : Prop where
  apart : body.IsChain fun node next => node.isEmission → next.isEmission = false
  filled {pieces : List Piece} : .emit pieces ∈ body → pieces ≠ []
  worded {pieces : List Piece} : .emit pieces ∈ body → .literal "" ∉ pieces

end Node

end Stencil
