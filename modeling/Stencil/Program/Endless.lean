import Mathlib.Logic.Function.Basic
import Stencil.Block.Meaning

/-! Runs over endless slots. There is a slot for every number, at first without a value, so nothing
can be out of range: to read a slot without a value is to miss a variable. A loop runs its body once
per item and then gives its slot back. -/

namespace Stencil

abbrev Slots (F O : Type) := Nat → Option (Value F O)

namespace Endless

variable {F O : Type} {m : Type → Type} [Monad m]

def load (slots : Slots F O) (v : Variable) : Except RenderError (Value F O) :=
  match slots v.slot with
  | some value => .ok value
  | none => .error (.missingVariable v.name)

def filtered (stage : Stage m F O) (slots : Slots F O) (value : Value F O) :
    List Variable → Run m (Value F O)
  | [] => pure value
  | f :: rest => do
    match (← load slots f).filter? with
    | none => throw (.notCallable f.name)
    | some filter =>
      match ← stage.call filter value with
      | .ok value => filtered stage slots value rest
      | .error cause => throw (.filterFailed f.name cause)

def expression (stage : Stage m F O) (slots : Slots F O) (e : Expression Variable) :
    Run m (Value F O) := do
  let head ← load slots e.head
  let value ← Meaning.follow stage [e.head.name] head e.path
  filtered stage slots value e.filters

variable [Host F O]

def piece (stage : Stage m F O) (slots : Slots F O) : Piece → Run m Unit
  | .literal s => stage.write s
  | .output e => do
    let value ← expression stage slots e
    stage.write value.text

mutual

def node (stage : Stage m F O) (slots : Slots F O) : Node → Run m (Slots F O)
  | .bind v => do
    match ← stage.lookup v.name with
    | none => throw (.missingVariable v.name)
    | some value => return Function.update slots v.slot (some value)
  | .emit pieces => do
    pieces.forM (piece stage slots)
    return slots
  | .branch condition body => do
    let value ← expression stage slots condition
    if value.isTrue then nodes stage slots body else return slots
  | .loop v items body => do
    let value ← expression stage slots items
    match value.items? with
    | none => throw (.notIterable items.source value.kind)
    | some values =>
      let last ← values.foldlM (fun slots item =>
          nodes stage (Function.update slots v.slot (some item)) body) slots
      return Function.update last v.slot (slots v.slot)

def nodes (stage : Stage m F O) (slots : Slots F O) : List Node → Run m (Slots F O)
  | [] => pure slots
  | n :: rest => do
    let slots ← node stage slots n
    nodes stage slots rest

end

def exec (stage : Stage m F O) (body : List Node) : Run m (Slots F O) :=
  nodes stage (fun _ => none) body

end Endless

end Stencil
