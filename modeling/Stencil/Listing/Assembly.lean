import Stencil.Program.Lines

/-! Assembly of a listing into a program. Lines are taken from top to bottom; a line that opens a
block waits, innermost first, until a line further left ends its body. -/

namespace Stencil

inductive Header where
  | define
  | branch (condition : Expression Variable)
  | loop (v : Variable) (items : Expression Variable)
  deriving DecidableEq, Repr

structure OpenNode where
  number : Nat
  header : Header
  before : List Node

namespace OpenNode

def close (b : OpenNode) (body : List Node) : Except ListingError Node :=
  match b.header with
  | .define => .error (.unexpectedIndent b.number)
  | .branch condition => .ok (.branch condition body)
  | .loop v items => .ok (.loop v items body)

end OpenNode

/-- A listing assembled in part: the open blocks, the innermost body so far, and whether the return
was met. -/
structure Assembly where
  enclosing : List OpenNode
  body : List Node
  returned : Bool

namespace Assembly

def start : Assembly := ⟨[], [], false⟩

/-- Ends the blocks whose bodies stand further right than `indent`; the outermost body stands at
`outer`. -/
def unwind (outer indent : Nat) :
    List OpenNode → List Node → Except ListingError (List OpenNode × List Node)
  | [], body => .ok ([], body)
  | b :: rest, body =>
    if indent < outer + indentStep * (rest.length + 1) then
      match b.close body.reverse with
      | .ok node => unwind outer indent rest (node :: b.before)
      | .error e => .error e
    else .ok (b :: rest, body)

def place (number : Nat) (enclosing : List OpenNode) (body : List Node) :
    Statement → Except ListingError Assembly
  | .define => .ok ⟨⟨number, .define, body⟩ :: enclosing, [], false⟩
  | .branch condition => .ok ⟨⟨number, .branch condition, body⟩ :: enclosing, [], false⟩
  | .loop v items => .ok ⟨⟨number, .loop v items, body⟩ :: enclosing, [], false⟩
  | .bind v => .ok ⟨enclosing, .bind v :: body, false⟩
  | .emit pieces => .ok ⟨enclosing, .emit pieces :: body, false⟩
  | .finish => if enclosing.isEmpty then .ok ⟨[], body, true⟩ else .error (.unexpectedIndent number)

def step (outer : Nat) (a : Assembly) (number indent : Nat) (statement : Statement) :
    Except ListingError Assembly :=
  if a.returned then .error (.trailingCode number)
  else
    match unwind outer indent a.enclosing a.body with
    | .error e => .error e
    | .ok (enclosing, body) =>
      let column := outer + indentStep * enclosing.length
      if indent < column then .error .missingReturn
      else if column < indent then .error (.unexpectedIndent number)
      else place number enclosing body statement

def steps (outer : Nat) (a : Assembly) (number : Nat) :
    List (Nat × Statement) → Except ListingError Assembly
  | [] => .ok a
  | (indent, statement) :: rest =>
    match a.step outer number indent statement with
    | .ok a => a.steps outer (number + 1) rest
    | .error e => .error e

def finish (outer : Nat) (a : Assembly) : Except ListingError (List Node) :=
  if a.returned then .ok a.body.reverse
  else
    match unwind outer 0 a.enclosing a.body with
    | .ok _ => .error .missingReturn
    | .error e => .error e

end Assembly

def Statement.vars : Statement → List Variable
  | .define | .finish => []
  | .bind v => [v]
  | .emit pieces => pieces.flatMap Piece.vars
  | .branch condition => condition.vars
  | .loop v items => v :: items.vars

def Listing.materialize (l : Listing) : Except ListingError Program :=
  match l.check with
  | .error e => .error e
  | .ok () =>
    match l.lines with
    | (indent, .define) :: rest =>
      if indent = l.margin.base then
        let outer := l.margin.base + indentStep
        match (Assembly.start.steps outer 2 rest).bind (Assembly.finish outer) with
        | .ok body => .ok ⟨body, frameFor (rest.flatMap fun (_, statement) => statement.vars)⟩
        | .error e => .error e
      else .error .missingEntry
    | _ => .error .missingEntry

end Stencil
