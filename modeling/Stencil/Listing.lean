import Stencil.Expression

/-! The listing of a render procedure, one statement a line. Blocks are told by indentation alone. A
section keeps a place among the lines that can be filled when later lines stand already; it has an
indentation of its own, and sections may hold sections. Written out, a listing quotes texts, in
which it escapes the characters of a set `hidden`. -/

namespace Stencil

structure Variable where
  name : String
  slot : Nat
  bound : Bool
  deriving DecidableEq, Repr

def Variable.text (v : Variable) : String :=
  if v.bound then "l" ++ toString v.slot ++ "_" ++ v.name else "c_" ++ v.name

def Expression.text (hidden : Char → Bool) (e : Expression Variable) : String :=
  let calls := e.filters.reverse.map fun f => f.text ++ "("
  let value :=
    if e.path.isEmpty then e.head.text
    else "resolve(" ++ e.head.text ++ ", " ++ ", ".intercalate
      (e.path.map (Text.quotedBy hidden)) ++ ")"
  String.join calls ++ value ++ String.join (e.filters.map fun _ => ")")

inductive Piece where
  | literal (s : String)
  | output (e : Expression Variable)
  deriving DecidableEq, Repr

def Piece.text (hidden : Char → Bool) : Piece → String
  | .literal s => Text.quotedBy hidden s
  | .output e => "to_str(" ++ e.text hidden ++ ")"

/-- Pieces that are written together; a single one is appended. -/
def emission (hidden : Char → Bool) : List Piece → String
  | [piece] => "append_result(" ++ piece.text hidden ++ ")"
  | pieces => "extend_result([" ++ ", ".intercalate (pieces.map (Piece.text hidden)) ++ "])"

inductive Statement where
  | define
  | bind (v : Variable)
  | emit (pieces : List Piece)
  | branch (condition : Expression Variable)
  | loop (v : Variable) (items : Expression Variable)
  | finish
  deriving DecidableEq, Repr

def Statement.text (hidden : Char → Bool) : Statement → String
  | .define => "render(context, resolve):"
  | .bind v => v.text ++ " = context[" ++ Text.quotedBy hidden v.name ++ "]"
  | .emit pieces => emission hidden pieces
  | .branch condition => "if " ++ condition.text hidden ++ ":"
  | .loop v items => "for " ++ v.text ++ " in " ++ items.text hidden ++ ":"
  | .finish => "return result"

def indentStep : Nat := 4

/-- Where lines start: at first, and now; `overrun` remembers a step back past column zero. -/
structure Margin where
  base : Nat
  level : Nat
  overrun : Bool
  deriving DecidableEq, Repr

def Margin.at (column : Nat) : Margin := ⟨column, column, false⟩

inductive Chunk where
  | line (indent : Nat) (statement : Statement)
  | part (margin : Margin) (chunks : List Chunk)

structure Listing where
  margin : Margin
  chunks : List Chunk

namespace Listing

def empty : Listing := ⟨.at 0, []⟩

def line (l : Listing) (statement : Statement) : Listing :=
  { l with chunks := l.chunks ++ [.line l.margin.level statement] }

def indent (l : Listing) : Listing :=
  { l with margin.level := l.margin.level + indentStep }

def dedent (l : Listing) : Listing :=
  if indentStep ≤ l.margin.level then { l with margin.level := l.margin.level - indentStep }
  else { l with margin.overrun := true }

/-- Keeps a place at the current indentation. The section is found again by the number of chunks
before it. -/
def reserve (l : Listing) : Listing :=
  { l with chunks := l.chunks ++ [.part (.at l.margin.level) []] }

def handle (l : Listing) : Nat := l.chunks.length

def section? (l : Listing) (handle : Nat) : Except ListingError Listing :=
  match l.chunks[handle]? with
  | some (.part margin chunks) => .ok ⟨margin, chunks⟩
  | _ => .error (.missingSection handle)

def sectionAt (l : Listing) : List Nat → Except ListingError Listing
  | [] => .ok l
  | handle :: path => (l.section? handle).bind fun s => s.sectionAt path

def modifyAt (l : Listing) (path : List Nat) (f : Listing → Listing) :
    Except ListingError Listing :=
  match path with
  | [] => .ok (f l)
  | handle :: path =>
    (l.section? handle).bind fun s =>
      (s.modifyAt path f).map fun s =>
        { l with chunks := l.chunks.set handle (.part s.margin s.chunks) }

end Listing

def Margin.check (m : Margin) : Except ListingError Unit :=
  if m.overrun then .error .extraDedent
  else if m.level = m.base then .ok ()
  else .error (.unbalancedIndent m.base m.level)

namespace Chunk

mutual

def check : Chunk → Except ListingError Unit
  | .line _ _ => .ok ()
  | .part margin chunks =>
    match margin.check with
    | .ok () => checkAll chunks
    | .error e => .error e

def checkAll : List Chunk → Except ListingError Unit
  | [] => .ok ()
  | chunk :: rest =>
    match check chunk with
    | .ok () => checkAll rest
    | .error e => .error e

end

mutual

def lines : Chunk → List (Nat × Statement)
  | .line indent statement => [(indent, statement)]
  | .part _ chunks => linesAll chunks

def linesAll : List Chunk → List (Nat × Statement)
  | [] => []
  | chunk :: rest => lines chunk ++ linesAll rest

end

end Chunk

namespace Listing

def check (l : Listing) : Except ListingError Unit := (Chunk.part l.margin l.chunks).check

def lines (l : Listing) : List (Nat × Statement) := Chunk.linesAll l.chunks

def lineText (hidden : Char → Bool) (indent : Nat) (statement : Statement) : String :=
  String.ofList (List.replicate indent ' ') ++ statement.text hidden ++ "\n"

def linesText (hidden : Char → Bool) (lines : List (Nat × Statement)) : String :=
  String.join (lines.map fun (indent, statement) => lineText hidden indent statement)

def textWith (hidden : Char → Bool) (l : Listing) : String := linesText hidden l.lines

def renderWith (hidden : Char → Bool) (l : Listing) : Except ListingError String :=
  l.check.map fun _ => l.textWith hidden

def text (l : Listing) : String := l.textWith Text.isHidden

def render (l : Listing) : Except ListingError String := l.renderWith Text.isHidden

end Listing

end Stencil
