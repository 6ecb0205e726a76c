import Stencil.Expression
import Stencil.Token

/-! The block tree of a template. Tokens are read from left to right; the blocks still open are
kept, innermost first, each with the blocks that were complete before it. -/

namespace Stencil

inductive Block where
  | text (s : String)
  | output (e : Expression String)
  | branch (condition : Expression String) (body : List Block)
  | loop (name : String) (items : Expression String) (body : List Block)

def maxDepth : Nat := 256

inductive Opener where
  | branch (condition : Expression String)
  | loop (name : String) (items : Expression String)
  deriving DecidableEq, Repr

namespace Opener

def word : Opener → List Char
  | .branch _ => ['i', 'f']
  | .loop _ _ => ['f', 'o', 'r']

def close (opener : Opener) (body : List Block) : Block :=
  match opener with
  | .branch condition => .branch condition body
  | .loop name items => .loop name items body

end Opener

inductive Tag where
  | opening (opener : Opener)
  | closing (word : List Char)
  deriving DecidableEq, Repr

namespace Tag

def readBranch : List (List Char) → Except SyntaxFault Tag
  | [condition] => (Expression.read condition).map fun e => .opening (.branch e)
  | _ => .error .badIf

def readLoop : List (List Char) → Except SyntaxFault Tag
  | [name, ['i', 'n'], items] =>
    if isName name then
      (Expression.read items).map fun e => .opening (.loop (String.ofList name) e)
    else .error .invalidName
  | _ => .error .badFor

def read : List (List Char) → Except SyntaxFault Tag
  | [] => .error .emptyTag
  | ['i', 'f'] :: rest => readBranch rest
  | ['f', 'o', 'r'] :: rest => readLoop rest
  | ('e' :: 'n' :: 'd' :: word) :: rest =>
    if rest.isEmpty then .ok (.closing word) else .error .badEnd
  | _ => .error .unknownTag

end Tag

structure OpenBlock where
  token : Token
  opener : Opener
  before : List Block

/-- A template read in part: the open blocks, innermost first, and the innermost body so far, latest
block first. -/
structure Reading where
  enclosing : List OpenBlock
  body : List Block

def SyntaxError.at (token : Token) (fault : SyntaxFault) : SyntaxError :=
  ⟨fault, String.ofList token.lexeme, token.start, token.stop⟩

namespace Reading

def start : Reading := ⟨[], []⟩

def add (r : Reading) (block : Block) : Reading := { r with body := block :: r.body }

def openBlock (r : Reading) (token : Token) (opener : Opener) : Except SyntaxFault Reading :=
  if r.enclosing.length < maxDepth then .ok ⟨⟨token, opener, r.body⟩ :: r.enclosing, []⟩
  else .error .tooDeep

def closeBlock (r : Reading) (word : List Char) : Except SyntaxFault Reading :=
  match r.enclosing with
  | [] => .error .tooManyEnds
  | b :: rest =>
    if b.opener.word = word then .ok ⟨rest, b.opener.close r.body.reverse :: b.before⟩
    else .error .mismatchedEnd

def apply (r : Reading) (token : Token) : Except SyntaxFault Reading :=
  match token.kind with
  | .text => .ok (r.add (.text (String.ofList token.inner)))
  | .comment => .ok r
  | .expression => (Expression.read token.inner).map fun e => r.add (.output e)
  | .tag =>
    match Tag.read (Text.words token.inner) with
    | .ok (.opening opener) => r.openBlock token opener
    | .ok (.closing word) => r.closeBlock word
    | .error fault => .error fault

def step (r : Reading) (token : Token) : Except SyntaxError Reading :=
  (r.apply token).mapError (SyntaxError.at token)

def steps (r : Reading) : List Token → Except SyntaxError Reading
  | [] => .ok r
  | token :: rest =>
    match r.step token with
    | .ok r => r.steps rest
    | .error e => .error e

theorem steps_append (r : Reading) (a b : List Token) :
    r.steps (a ++ b) = (r.steps a).bind fun r => r.steps b := by
  induction a generalizing r with
  | nil => rfl
  | cons token rest ih =>
    simp only [List.cons_append, steps]
    cases r.step token with
    | ok r => exact ih r
    | error e => rfl

def finish (r : Reading) : Except SyntaxError (List Block) :=
  match r.enclosing with
  | [] => .ok r.body.reverse
  | b :: _ => .error (SyntaxError.at b.token .unclosed)

end Reading

def Block.ofTokens (tokens : List Token) : Except SyntaxError (List Block) :=
  (Reading.start.steps tokens).bind Reading.finish

end Stencil
