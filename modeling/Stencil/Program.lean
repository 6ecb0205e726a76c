import Stencil.Filter
import Stencil.Listing

/-! Programs and their runs. A program is a tree of nodes over a frame of numbered slots. A run
looks values up for its binds, and each loop fills its slot once per item and then puts back what
the slot held before. Whom a run asks and where it writes is left to its stage; on the plain one the
output up to a failure is kept. -/

namespace Stencil

inductive Node where
  | bind (v : Variable)
  | emit (pieces : List Piece)
  | branch (condition : Expression Variable) (body : List Node)
  | loop (v : Variable) (items : Expression Variable) (body : List Node)

structure Program where
  body : List Node
  slots : Nat

variable {F O : Type}

abbrev Frame (F O : Type) := Array (Option (Value F O))

def Expression.dotted (e : Expression Variable) (upto : Nat) : String :=
  ".".intercalate (e.head.name :: e.path.take (upto + 1))

/-- How a run reaches the slots of its frame and tells its errors. For a segment that leads nowhere
it is told the place of the segment, at which it cuts the path. -/
structure Access (ε F O : Type) where
  error : RenderError → ε
  read : Frame F O → Nat → Except ε (Option (Value F O))
  store : Frame F O → Nat → Option (Value F O) → Except ε (Frame F O)
  unresolved : Expression Variable → Nat → String → ε

namespace Access

variable {ε : Type}

def load (access : Access ε F O) (frame : Frame F O) (v : Variable) : Except ε (Value F O) :=
  match access.read frame v.slot with
  | .error e => .error e
  | .ok none => .error (access.error (.missingVariable v.name))
  | .ok (some value) => .ok value

def plain : Access RenderError F O where
  error := id
  read frame slot :=
    match frame[slot]? with
    | none => .error (.outsideFrame slot)
    | some held => .ok held
  store frame slot value :=
    if h : slot < frame.size then .ok (frame.set slot value h) else .error (.outsideFrame slot)
  unresolved e place segment := .unresolved (e.dotted place) segment

end Access

/-- What a run asks for as it goes, and where it writes. The answers may come with effects of their
own. -/
structure Stage (m : Type → Type) (F O : Type) where
  lookup : String → m (Option (Value F O))
  resolve : Value F O → String → m (Option (Value F O))
  call : Filter F → Value F O → m (Except FilterFault (Value F O))
  write : String → m Unit

abbrev Run (m : Type → Type) (α : Type) := ExceptT RenderError m α

variable {ε : Type} {m : Type → Type} [Monad m]

def follow (access : Access ε F O) (stage : Stage m F O) (e : Expression Variable) (place : Nat)
    (value : Value F O) : List String → ExceptT ε m (Value F O)
  | [] => pure value
  | segment :: rest => do
    match ← stage.resolve value segment with
    | some value => follow access stage e (place + 1) value rest
    | none => throw (access.unresolved e place segment)

def pipe (access : Access ε F O) (stage : Stage m F O) (frame : Frame F O) (value : Value F O) :
    List Variable → ExceptT ε m (Value F O)
  | [] => pure value
  | f :: rest => do
    let callee ← access.load frame f
    match callee.filter? with
    | none => throw (access.error (.notCallable f.name))
    | some filter =>
      match ← stage.call filter value with
      | .ok value => pipe access stage frame value rest
      | .error cause => throw (access.error (.filterFailed f.name cause))

def eval (access : Access ε F O) (stage : Stage m F O) (frame : Frame F O)
    (e : Expression Variable) :
    ExceptT ε m (Value F O) := do
  let value ← access.load frame e.head
  let value ← follow access stage e 0 value e.path
  pipe access stage frame value e.filters

variable [Host F O]

def emit (access : Access ε F O) (stage : Stage m F O) (frame : Frame F O) :
    List Piece → ExceptT ε m Unit
  | [] => pure ()
  | .literal s :: rest => do
    stage.write s
    emit access stage frame rest
  | .output e :: rest => do
    let value ← eval access stage frame e
    stage.write value.text
    emit access stage frame rest

def eachItem (access : Access ε F O) (body : Frame F O → ExceptT ε m (Frame F O)) (slot : Nat)
    (frame : Frame F O) : List (Value F O) → ExceptT ε m (Frame F O)
  | [] => pure frame
  | item :: rest => do
    let frame ← access.store frame slot (some item)
    let frame ← body frame
    eachItem access body slot frame rest

/-- Runs a loop over a value: the slot is emptied first, and gets back at the end what it held. -/
def overItems (access : Access ε F O) (body : Frame F O → ExceptT ε m (Frame F O)) (slot : Nat)
    (frame : Frame F O) (items : List (Value F O)) : ExceptT ε m (Frame F O) := do
  let shadowed ← access.read frame slot
  let frame ← access.store frame slot none
  let frame ← eachItem access body slot frame items
  access.store frame slot shadowed

mutual

def runNode (access : Access ε F O) (stage : Stage m F O) (frame : Frame F O) :
    Node → ExceptT ε m (Frame F O)
  | .bind v => do
    match ← stage.lookup v.name with
    | none => throw (access.error (.missingVariable v.name))
    | some value => access.store frame v.slot (some value)
  | .emit pieces => do
    emit access stage frame pieces
    return frame
  | .branch condition body => do
    let value ← eval access stage frame condition
    if value.isTrue then runNodes access stage frame body else return frame
  | .loop v items body => do
    let value ← eval access stage frame items
    match value.items? with
    | none => throw (access.error (.notIterable items.source value.kind))
    | some values =>
      overItems access (fun frame => runNodes access stage frame body) v.slot frame values

def runNodes (access : Access ε F O) (stage : Stage m F O) (frame : Frame F O) :
    List Node → ExceptT ε m (Frame F O)
  | [] => pure frame
  | node :: rest => do
    let frame ← runNode access stage frame node
    runNodes access stage frame rest

end

def Access.exec (access : Access ε F O) (program : Program) (stage : Stage m F O) :
    ExceptT ε m (Frame F O) :=
  runNodes access stage (Array.replicate program.slots none) program.body

def Program.exec (program : Program) (stage : Stage m F O) : Run m (Frame F O) :=
  Access.plain.exec program stage

structure Scene (F O : Type) where
  lookup : Lookup F O
  resolver : Resolver F O

def Scene.stage (scene : Scene F O) : Stage (StateM String) F O where
  lookup name := pure (scene.lookup name)
  resolve value segment := pure (scene.resolver value segment)
  call filter value := pure (filter.call value)
  write text := modify (· ++ text)

structure Outcome (F O : Type) where
  output : String
  result : Except RenderError (Frame F O)

namespace Program

def run (program : Program) (scene : Scene F O) : Outcome F O :=
  let (result, output) := (program.exec scene.stage).run.run ""
  ⟨output, result⟩

def render (program : Program) (scene : Scene F O) : Except RenderError String :=
  let outcome := program.run scene
  outcome.result.map fun _ => outcome.output

end Program

end Stencil
