import Stencil.Proofs.Endless

/-! Bodies without binds. Loops are all that writes to their frames, and a loop gives its slot back:
a run of such a body ends with the frame that it began with. What it writes comes after the output
so far and does not depend on it. -/

namespace Stencil

variable {F O : Type} {m : Type → Type} [Monad m] {α β : Type}

theorem Access.read_of_size_le {frame : Frame F O} {slot : Nat} (h : frame.size ≤ slot) :
    plain.read frame slot = .error (.outsideFrame slot) := by
  simp only [plain, Array.getElem?_eq_none h]

def EndsWith (frame : Frame F O) (x : Run m (Frame F O)) : Prop := x = x >>= fun _ => pure frame

namespace EndsWith

variable [LawfulMonad m] {frame : Frame F O}

theorem pure : EndsWith frame (Pure.pure frame : Run m (Frame F O)) := by
  rw [EndsWith, pure_bind]

theorem throw (e : RenderError) : EndsWith frame (MonadExcept.throw e : Run m (Frame F O)) :=
  (throw_bind _ _).symm

theorem bind {x : Run m α} {k : α → Run m (Frame F O)} (hk : ∀ a, EndsWith frame (k a)) :
    EndsWith frame (x >>= k) := by
  rw [EndsWith, bind_assoc]
  exact bind_congr hk

theorem seq {x : Run m (Frame F O)} {k : Frame F O → Run m (Frame F O)} (hx : EndsWith frame x)
    (hk : EndsWith frame (k frame)) : EndsWith frame (x >>= k) := by
  rw [hx, bind_assoc]
  simp only [pure_bind]
  exact bind fun _ => hk

theorem overItems {body : Frame F O → Run m (Frame F O)}
    (hbody : ∀ frame, EndsWith frame (body frame)) (slot : Nat)
    (items : List (Value F O)) : EndsWith frame (overItems .plain body slot frame items) := by
  by_cases hslot : slot < frame.size
  -- The frame after each item is known beforehand, so what remains of its run is what it does
  -- besides.
  · have hitem : ∀ item, body (frame.setIfInBounds slot (some item)) = (do
        (body (frame.setIfInBounds slot (some item)) >>= fun _ => Pure.pure () : Run m Unit)
        return frame.setIfInBounds slot (some item)) := by
      intro item
      simp only [bind_assoc, pure_bind]
      exact hbody _
    rw [overItems_eq hslot hitem]
    exact bind fun _ => pure
  · have hfails : Stencil.overItems .plain body slot frame items =
        MonadExcept.throw (.outsideFrame slot) := by
      rw [Stencil.overItems, Access.read_of_size_le (Nat.le_of_not_lt hslot)]
      exact throw_bind _ _
    rw [hfails]
    exact throw _

variable [Host F O]

theorem runNodes (stage : Stage m F O) {body : List Node} (h : Node.bindsAny body = false)
    (frame : Frame F O) :
    EndsWith frame (runNodes .plain stage frame body) := by
  induction body using Node.forest generalizing frame with
  | nil => exact pure
  | bind v rest ih => cases h
  | emit pieces rest ih =>
    refine seq ?_ (ih h frame)
    exact bind fun _ => pure
  | branch condition body rest ihBody ihRest =>
    obtain ⟨hbody, hrest⟩ := Bool.or_eq_false_iff.1 h
    refine seq (bind fun value => ?_) (ihRest hrest frame)
    cases value.isTrue with
    | true => exact ihBody hbody frame
    | false => exact pure
  | loop v items body rest ihBody ihRest =>
    obtain ⟨hbody, hrest⟩ := Bool.or_eq_false_iff.1 h
    refine seq (bind fun value => ?_) (ihRest hrest frame)
    cases value.items? with
    | none => exact throw _
    | some values => exact overItems (ihBody hbody) v.slot values

end EndsWith

/-- A property of runs that answers and errors have, and all that the stage is asked for, and that
two runs one after the other have when each has it. -/
structure Stage.Keeps (stage : Stage m F O) (P : ∀ α, Run m α → Prop) : Prop where
  pure {α : Type} (a : α) : P α (Pure.pure a)
  throw {α : Type} (e : RenderError) : P α (throw e)
  bind {α β : Type} {x : Run m α} {k : α → Run m β} : P α x → (∀ a, P β (k a)) → P β (x >>= k)
  lookup (name : String) : P _ (liftM (stage.lookup name))
  resolve (value : Value F O) (segment : String) : P _ (liftM (stage.resolve value segment))
  call (filter : Filter F) (value : Value F O) : P _ (liftM (stage.call filter value))
  write (text : String) : P _ (liftM (stage.write text))

namespace Stage.Keeps

variable {stage : Stage m F O} {P : ∀ α, Run m α → Prop} (h : stage.Keeps P)

include h

theorem checked (x : Except RenderError α) : P α (liftM x) := by
  cases x with
  | ok a => exact h.pure a
  | error e => exact h.throw e

theorem follow (e : Expression Variable) (place : Nat) (value : Value F O) (path : List String) :
    P _ (follow .plain stage e place value path) := by
  induction path generalizing place value with
  | nil => exact h.pure value
  | cons segment rest ih =>
    refine h.bind (h.resolve value segment) fun found => ?_
    cases found with
    | none => exact h.throw _
    | some value => exact ih _ value

theorem pipe (frame : Frame F O) (value : Value F O) (filters : List Variable) :
    P _ (pipe .plain stage frame value filters) := by
  induction filters generalizing value with
  | nil => exact h.pure value
  | cons f rest ih =>
    refine h.bind (h.checked _) fun callee => ?_
    cases callee.filter? with
    | none => exact h.throw _
    | some filter =>
      refine h.bind (h.call filter value) fun answer => ?_
      cases answer with
      | ok value => exact ih value
      | error cause => exact h.throw _

theorem eval (frame : Frame F O) (e : Expression Variable) : P _ (eval .plain stage frame e) :=
  h.bind (h.checked _) fun head => h.bind (h.follow e 0 head e.path) fun value =>
    h.pipe frame value e.filters

theorem eachItem {body : Frame F O → Run m (Frame F O)} (hbody : ∀ frame, P _ (body frame))
    (slot : Nat)
    (frame : Frame F O) (items : List (Value F O)) :
    P _ (eachItem .plain body slot frame items) := by
  induction items generalizing frame with
  | nil => exact h.pure frame
  | cons item rest ih => exact h.bind (h.checked _) fun frame => h.bind (hbody frame) ih

theorem overItems {body : Frame F O → Run m (Frame F O)} (hbody : ∀ frame, P _ (body frame))
    (slot : Nat)
    (frame : Frame F O) (items : List (Value F O)) : P _ (overItems .plain body slot frame items) :=
  h.bind (h.checked _) fun _ => h.bind (h.checked _) fun emptied =>
    h.bind (h.eachItem hbody slot emptied items) fun _ => h.checked _

variable [Host F O]

theorem emit (frame : Frame F O) (pieces : List Piece) : P _ (emit .plain stage frame pieces) := by
  induction pieces with
  | nil => exact h.pure ()
  | cons piece rest ih =>
    cases piece with
    | literal s => exact h.bind (h.write s) fun _ => ih
    | output e => exact h.bind (h.eval frame e) fun value => h.bind (h.write value.text) fun _ => ih

theorem runNodes (frame : Frame F O) (body : List Node) :
    P _ (runNodes .plain stage frame body) := by
  induction body using Node.forest generalizing frame with
  | nil => exact h.pure frame
  | bind v rest ih =>
    refine h.bind (h.bind (h.lookup v.name) fun found => ?_) fun frame => ih frame
    cases found with
    | none => exact h.throw _
    | some value => exact h.checked _
  | emit pieces rest ih =>
    exact h.bind (h.bind (h.emit frame pieces) fun _ => h.pure frame) fun frame => ih frame
  | branch condition body rest ihBody ihRest =>
    refine h.bind (h.bind (h.eval frame condition) fun value => ?_) fun frame => ihRest frame
    cases value.isTrue with
    | true => exact ihBody frame
    | false => exact h.pure frame
  | loop v items body rest ihBody ihRest =>
    refine h.bind (h.bind (h.eval frame items) fun value => ?_) fun frame => ihRest frame
    cases value.items? with
    | none => exact h.throw _
    | some values => exact h.overItems ihBody v.slot frame values

end Stage.Keeps

/-- A run that only adds to the output: its answer and what it adds are the same whatever the output
so far. -/
def Appends (α : Type) (x : Run (StateM String) α) : Prop :=
  ∃ answer text, ∀ past, x.run.run past = (answer, past ++ text)

namespace Appends

theorem silent {x : Run (StateM String) α} {answer : Except RenderError α}
    (h : ∀ past, x.run.run past = (answer, past)) : Appends α x := by
  refine ⟨answer, "", fun past => ?_⟩
  rw [h, String.append_empty]

theorem asks {x : StateM String α} {a : α} (h : ∀ past, x.run past = (a, past)) :
    Appends α (liftM x) := by
  refine ⟨.ok a, "", fun past => ?_⟩
  rw [run_lift, h, String.append_empty]

theorem bind {x : Run (StateM String) α} (h : Appends α x) {k : α → Run (StateM String) β}
    (hk : ∀ a, Appends β (k a)) : Appends β (x >>= k) := by
  obtain ⟨answer | a, text, hx⟩ := h
  · refine ⟨.error answer, text, fun past => ?_⟩
    rw [run_bind, hx]
  · obtain ⟨answer, more, hmore⟩ := hk a
    refine ⟨answer, text ++ more, fun past => ?_⟩
    rw [run_bind, hx, ← String.append_assoc]
    exact hmore _

theorem kept [Host F O] (scene : Scene F O) : scene.stage.Keeps Appends where
  pure _ := silent fun _ => rfl
  throw _ := silent fun _ => rfl
  bind hx hk := hx.bind hk
  lookup _ := asks fun _ => rfl
  resolve _ _ := asks fun _ => rfl
  call _ _ := asks fun _ => rfl
  write text := ⟨.ok (), text, fun _ => rfl⟩

end Appends

variable [Host F O]

/-- A body without binds leaves the frame as it was, and adds to the output what depends on the
frame and the scene alone. If the frame holds all its slots, the run ends well or in an error of
templates. -/
theorem runNodes_restores (scene : Scene F O) (frame : Frame F O) {body : List Node}
    (h : Node.bindsAny body = false) :
    ∃ (answer : Except RenderError Unit) (text : String),
      (∀ past, (runNodes .plain scene.stage frame body).run.run past =
        (answer.map fun _ => frame, past ++ text)) ∧
      ((∀ v ∈ Node.varsAll body, v.slot < frame.size) → ∀ e, answer = .error e → e.OfTemplate) := by
  obtain ⟨answer, text, hrun⟩ := (Appends.kept scene).runNodes frame body
  have hends := EndsWith.runNodes scene.stage h frame
  refine ⟨answer.map fun _ => (), text, fun past => ?_, fun hslots e he => ?_⟩
  · rw [hends, run_bind, hrun]
    cases answer <;> rfl
  · cases answer with
    | ok _ => cases he
    | error cause =>
      cases he
      exact (errors_runNodes scene.stage hslots).of_run (hrun "")

theorem runNodes_restores_shared : ∃ (frame : Frame Empty Empty) (body : List Node),
    Node.bindsAny body = false ∧ (∀ v ∈ Node.varsAll body, v.slot = 0) ∧
    ∀ past,
      (runNodes .plain (⟨fun _ => none, .dots⟩ : Scene Empty Empty).stage frame body).run.run past =
        (.ok frame, past ++ "ab") := by
  have h : Node.bindsAny [.loop ⟨"x", 0, true⟩ ⟨"xs", ⟨"xs", 0, false⟩, [], []⟩
      [.loop ⟨"y", 0, true⟩ ⟨"x", ⟨"x", 0, true⟩, [], []⟩
        [.emit [.output ⟨"y", ⟨"y", 0, true⟩, [], []⟩]]]] = false := rfl
  obtain ⟨answer, text, hrun, -⟩ := runNodes_restores (⟨fun _ => none, .dots⟩ : Scene Empty Empty)
    #[some (.list [.list [.string "a"], .list [], .list [.string "b"]])] h
  have hfresh := hrun ""
  have htext : "ab" = text := (congrArg Prod.snd hfresh).trans String.empty_append
  cases answer with
  | error e => cases congrArg Prod.fst hfresh
  | ok =>
    rw [← htext] at hrun
    exact ⟨_, _, h, by decide, hrun⟩

end Stencil
