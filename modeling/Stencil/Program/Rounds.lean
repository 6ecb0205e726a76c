import Stencil.Program.Lines

/-! Rounds of a loop. Each round puts a value in the slot of the loop and runs its body on what the
round before left. -/

namespace Stencil

variable {F O : Type} [Host F O]

def runFrom (scene : Scene F O) (frame : Frame F O) (nodes : List Node) (past : String) :
    Outcome F O :=
  let (result, output) := (runNodes .plain scene.stage frame nodes).run.run past
  ⟨output, result⟩

/-- Rounds of a loop that begin with these values in its slot, from a frame and the output so far to
where they end. A round that fails is the last. -/
inductive Rounds (scene : Scene F O) (slot : Nat) (body : List Node) :
    Frame F O → String → List (Value F O) → Outcome F O → Prop
  | done (frame : Frame F O) (past : String) :
    Rounds scene slot body frame past [] ⟨past, .ok frame⟩
  | failed {frame : Frame F O} {past output : String} {item : Value F O} {e : RenderError}
    (h : runFrom scene (frame.setIfInBounds slot (some item)) body past = ⟨output, .error e⟩) :
    Rounds scene slot body frame past [item] ⟨output, .error e⟩
  | next {frame frame' : Frame F O} {past output : String} {item : Value F O}
    {rest : List (Value F O)}
    {ended : Outcome F O} (h : runFrom scene (frame.setIfInBounds slot (some item)) body past =
      ⟨output, .ok frame'⟩)
    (hrest : Rounds scene slot body frame' output rest ended) :
    Rounds scene slot body frame past (item :: rest) ended

structure LoopFits (frame : Frame F O) (v : Variable) (body : List Node) : Prop where
  slot : v.slot < frame.size
  body : Node.bindsAny body = false

def Value.isContainer : Value F O → Bool
  | .string _ | .list _ | .map _ => true
  | _ => false

end Stencil
