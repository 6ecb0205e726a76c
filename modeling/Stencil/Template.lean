import Stencil.Draft

/-! Templates: a text compiled once together with a base context, to be rendered with per-call
variables any number of times, to a text or into a sink that takes so many bytes. -/

namespace Stencil

/-- A writer that takes up to `room` bytes in all, or any number, and refuses the rest with the
words `refusal`. -/
structure Sink where
  room : Option Nat
  refusal : String
  taken : List UInt8

namespace Sink

def withRoom (n : Nat) (refusal : String) : Sink := ⟨some n, refusal, []⟩

def unbounded : Sink := ⟨none, "", []⟩

def write (sink : Sink) (text : String) : Sink × Bool :=
  let bytes := text.toUTF8.toList
  match sink.room with
  | none => ({ sink with taken := sink.taken ++ bytes }, true)
  | some n =>
    ({ sink with room := some (n - bytes.length), taken := sink.taken ++ bytes.take n },
      bytes.length ≤ n)

end Sink

structure Template (F O : Type) where
  context : Context F O
  compiled : Compiled

namespace Template

variable {F O : Type}

/-- Later contexts win where they share a name. -/
def mergeContexts (contexts : List (Context F O)) : Context F O := contexts.foldl Entries.merge []

def withContexts (source : String) (contexts : List (Context F O)) :
    Except CompileError (Template F O) :=
  (compile source).map fun compiled => ⟨mergeContexts contexts, compiled⟩

def ofSource (source : String) : Except CompileError (Template F O) := withContexts source []

def free (t : Template F O) : Names := t.compiled.free

def hasFree (t : Template F O) (name : String) : Bool := t.free.contains name

def scene (t : Template F O) (values : Lookup F O) (resolver : Resolver F O) : Scene F O :=
  ⟨values.over (.ofContext t.context), resolver⟩

variable [Host F O]

def render (t : Template F O) (values : Lookup F O) (resolver : Resolver F O) :
    Except RenderError String :=
  t.compiled.program.render (t.scene values resolver)

def renderInto (t : Template F O) (sink : Sink) (values : Lookup F O) (resolver : Resolver F O) :
    Sink × Except RenderError Unit :=
  match t.render values resolver with
  | .error e => (sink, .error e)
  | .ok text =>
    match sink.write text with
    | (sink, true) => (sink, .ok ())
    | (sink, false) => (sink, .error (.writeFailed sink.refusal))

end Template

end Stencil
