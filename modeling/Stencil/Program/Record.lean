import Stencil.Template

/-! Records of runs: what a run looks up, asks its resolver and its filters, and writes, in the
order in which it does so. -/

namespace Stencil

inductive Event (F O : Type) where
  | lookup (name : String)
  | resolve (value : Value F O) (segment : String)
  | call (filter : Filter F) (value : Value F O)
  | write (text : String)

namespace Event

variable {F O : Type}

def isLookup : Event F O → Bool
  | .lookup _ => true
  | _ => false

def text : Event F O → String
  | .write text => text
  | _ => ""

def output (events : List (Event F O)) : String := String.join (events.map text)

end Event

abbrev Recorded (F O : Type) := StateM (List (Event F O))

def record {F O : Type} (event : Event F O) : Recorded F O Unit := modify (· ++ [event])

def Scene.recorder {F O : Type} [Host F O] (scene : Scene F O) : Stage (Recorded F O) F O where
  lookup name := do
    record (.lookup name)
    return scene.lookup name
  resolve value segment := do
    record (.resolve value segment)
    return scene.resolver value segment
  call filter value := do
    record (.call filter value)
    return filter.call value
  write text := record (.write text)

def Program.events {F O : Type} [Host F O] (program : Program) (scene : Scene F O) :
    List (Event F O) :=
  ((program.exec scene.recorder).run.run []).2

/-- The record of a render. Its look-ups are those of the per-call values, each asked before the
base context. -/
def Template.events {F O : Type} [Host F O] (t : Template F O) (values : Lookup F O)
    (resolver : Resolver F O) :
    List (Event F O) :=
  t.compiled.program.events (t.scene values resolver)

end Stencil
