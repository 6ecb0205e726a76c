import Stencil.Block.Names
import Stencil.Program

/-! The meaning of a block tree, told by names alone. The free names are looked up first, in order;
from then on a name means the item of the innermost loop that binds it, or else what was found for
it. -/

namespace Stencil.Meaning

/-- Names with their values. Of several with one name the first counts. -/
abbrev Bindings (F O : Type) := List (String × Value F O)

variable {F O : Type} {m : Type → Type} [Monad m]

def Bindings.value (bindings : Bindings F O) (name : String) : Except RenderError (Value F O) :=
  match bindings.lookup name with
  | some value => .ok value
  | none => .error (.missingVariable name)

def follow (stage : Stage m F O) (taken : List String) (value : Value F O) :
    List String → Run m (Value F O)
  | [] => pure value
  | segment :: rest => do
    match ← stage.resolve value segment with
    | some value => follow stage (taken ++ [segment]) value rest
    | none => throw (.unresolved (".".intercalate (taken ++ [segment])) segment)

def filtered (stage : Stage m F O) (bindings : Bindings F O) (value : Value F O) :
    List String → Run m (Value F O)
  | [] => pure value
  | name :: rest => do
    match (← bindings.value name).filter? with
    | none => throw (.notCallable name)
    | some filter =>
      match ← stage.call filter value with
      | .ok value => filtered stage bindings value rest
      | .error cause => throw (.filterFailed name cause)

def expression (stage : Stage m F O) (bindings : Bindings F O) (e : Expression String) :
    Run m (Value F O) := do
  let head ← bindings.value e.head
  let value ← follow stage [e.head] head e.path
  filtered stage bindings value e.filters

variable [Host F O]

mutual

def block (stage : Stage m F O) (bindings : Bindings F O) : Block → Run m Unit
  | .text s => stage.write s
  | .output e => do
    let value ← expression stage bindings e
    stage.write value.text
  | .branch condition body => do
    let value ← expression stage bindings condition
    if value.isTrue then blocks stage bindings body
  | .loop name items body => do
    let value ← expression stage bindings items
    match value.items? with
    | none => throw (.notIterable items.source value.kind)
    | some values => values.forM fun item => blocks stage ((name, item) :: bindings) body

def blocks (stage : Stage m F O) (bindings : Bindings F O) : List Block → Run m Unit
  | [] => pure ()
  | b :: rest => do
    block stage bindings b
    blocks stage bindings rest

end

/-- The names with what is found for them; the first that is not found ends the run. -/
def find (stage : Stage m F O) : List String → Run m (Bindings F O)
  | [] => pure []
  | name :: rest => do
    match ← stage.lookup name with
    | none => throw (.missingVariable name)
    | some value => return (name, value) :: (← find stage rest)

def template (stage : Stage m F O) (body : List Block) : Run m Unit := do
  let bindings ← find stage (Block.freeNames body)
  blocks stage bindings body

def render (scene : Scene F O) (body : List Block) : Except RenderError String :=
  let (result, output) := (template scene.stage body).run.run ""
  result.map fun _ => output

end Stencil.Meaning
