import Stencil.Source
import Stencil.Template
import Stencil.Token.Split

/-! Compilation and rendering by offsets and numbers alone: the source is cut at byte offsets, a
path by the position of its segments and the frame by slot numbers. Each cut and each index is
checked, and the first that is out of range stops everything. -/

namespace Stencil.Guarded

open Token (byteSize)

inductive Stop (ε : Type) where
  | outOfRange
  | error (e : ε)
  deriving DecidableEq, Repr

def Stop.map {ε ε' : Type} (f : ε → ε') : Stop ε → Stop ε'
  | .outOfRange => .outOfRange
  | .error e => .error (f e)

def taken {ε α : Type} : Option α → Except (Stop ε) α
  | some a => .ok a
  | none => .error .outOfRange

def bytesFrom? (source : List Char) (start : Nat) : Option (List UInt8) :=
  if start ≤ (Source.bytes source).length then some ((Source.bytes source).drop start) else none

def kindOf : List UInt8 → Option TokenKind
  | 123 :: 123 :: _ => some .expression
  | 123 :: 37 :: _ => some .tag
  | 123 :: 35 :: _ => some .comment
  | _ => none

def textSpan (start stop : Nat) : List Span := if start < stop then [⟨.text, start, stop⟩] else []

def scan (source : List Char) (textStart pos : Nat) : Option (List Span) :=
  match hrest : Source.suffix? source pos with
  | none => none
  | some rest =>
    match hbrace : Source.find? ['{'] rest with
    | none => some (textSpan textStart (byteSize source))
    | some offset =>
      have := Source.lt_of_find? hrest hbrace
      let start := pos + offset
      (bytesFrom? source start).bind fun bs =>
        match kindOf bs with
        | none => scan source textStart (start + 1)
        | some kind =>
          (Source.suffix? source (start + 2)).bind fun inside =>
            match Source.find? kind.closer inside with
            | none => scan source textStart (start + 1)
            | some close =>
              let stop := start + 2 + close + 2
              (scan source stop stop).map fun spans =>
                textSpan textStart start ++ ⟨kind, start, stop⟩ :: spans
termination_by byteSize source - pos

def token (source : List Char) (s : Span) : Option Token :=
  let inner := match s.kind with
    | .text => Source.slice? source s.start s.stop
    | _ => if 2 ≤ s.stop then Source.slice? source (s.start + 2) (s.stop - 2) else none
  inner.map fun inner => ⟨s.kind, s.start, inner⟩

def readTag : List (List Char) → Except (Stop SyntaxFault) Tag
  | ('e' :: 'n' :: 'd' :: word) :: rest =>
    if rest.isEmpty then (taken (Source.suffix? ('e' :: 'n' :: 'd' :: word) 3)).map .closing
    else .error (.error .badEnd)
  | words => (Tag.read words).mapError .error

def apply (r : Reading) (t : Token) : Except (Stop SyntaxFault) Reading :=
  match t.kind with
  | .tag => do
    match ← readTag (Text.words t.inner) with
    | .opening opener => (r.openBlock t opener).mapError .error
    | .closing word => (r.closeBlock word).mapError .error
  | _ => (r.apply t).mapError .error

def faultAt (source : List Char) (start stop : Nat) (fault : SyntaxFault) : Stop SyntaxError :=
  match Source.slice? source start stop with
  | some text => .error ⟨fault, String.ofList text, start, stop⟩
  | none => .outOfRange

def step (source : List Char) (r : Reading) (s : Span) : Except (Stop SyntaxError) Reading := do
  let t ← taken (token source s)
  match apply r t with
  | .ok r => .ok r
  | .error .outOfRange => .error .outOfRange
  | .error (.error fault) => .error (faultAt source s.start s.stop fault)

def steps (source : List Char) (r : Reading) : List Span → Except (Stop SyntaxError) Reading
  | [] => .ok r
  | s :: rest => do
    let r ← step source r s
    steps source r rest

def finish (source : List Char) (r : Reading) : Except (Stop SyntaxError) (List Block) :=
  match r.enclosing with
  | [] => .ok r.body.reverse
  | b :: _ => .error (faultAt source b.token.start b.token.stop .unclosed)

def compile (source : String) : Except (Stop CompileError) Compiled := do
  let spans ← taken (scan source.toList 0 0)
  let body ← ((steps source.toList .start spans).bind (finish source.toList)).mapError
      (Stop.map .malformed)
  (Draft.ofBlocks body).finish.mapError fun e => .error (.internal e)

variable {F O : Type}

def withContexts (source : String) (contexts : List (Context F O)) :
    Except (Stop CompileError) (Template F O) :=
  (compile source).map fun compiled => ⟨Template.mergeContexts contexts, compiled⟩

/-- Each slot, and each place that a path is cut at, is checked where it is used. -/
def access : Access (Stop RenderError) F O where
  error := .error
  read frame slot := taken frame[slot]?
  store frame slot value :=
    if h : slot < frame.size then .ok (frame.set slot value h) else .error .outOfRange
  unresolved e place segment :=
    if place < e.path.length then .error (.unresolved (e.dotted place) segment) else .outOfRange

variable [Host F O]

def exec {m : Type → Type} [Monad m] (program : Program) (stage : Stage m F O) :
    ExceptT (Stop RenderError) m (Frame F O) :=
  access.exec program stage

def render (t : Template F O) (values : Lookup F O) (resolver : Resolver F O) :
    Except (Stop RenderError) String :=
  let (result, output) := (exec t.compiled.program (t.scene values resolver).stage).run.run ""
  result.map fun _ => output

end Stencil.Guarded
