import Stencil.Proofs.Offsets
import Stencil.Proofs.Render
import Stencil.Proofs.Runs

/-! Rendering by slot numbers. The guarded run is the run where a slot beyond the frame is out of
range, whatever the frame; and the program of a template, which does what its blocks mean, has no
such slot. -/

namespace Stencil

variable {F O : Type} {m : Type → Type} [Monad m]

namespace Guarded

def Stop.ofRender : RenderError → Stop RenderError
  | .outsideFrame _ => .outOfRange
  | e => .error e

theorem Stop.ofRender_template {e : RenderError} (h : e.OfTemplate) : ofRender e = .error e := by
  rcases h with ⟨⟨⟩⟩ | ⟨⟩ <;> rfl

theorem read_eq (frame : Frame F O) (slot : Nat) :
    access.read frame slot = (Access.plain.read frame slot).mapError .ofRender := by
  simp only [access, Access.plain]
  cases frame[slot]? <;> rfl

theorem store_eq (frame : Frame F O) (slot : Nat) (value : Option (Value F O)) :
    access.store frame slot value = (Access.plain.store frame slot value).mapError .ofRender := by
  simp only [access, Access.plain]
  split <;> rfl

theorem load_eq (frame : Frame F O) (v : Variable) :
    access.load frame v = (Access.plain.load frame v).mapError .ofRender := by
  rw [Access.load, Access.load, read_eq]
  cases Access.plain.read frame v.slot with
  | error e => rfl
  | ok held => cases held <;> rfl

variable [LawfulMonad m]

theorem throw_told {α : Type} {e : RenderError} (h : Stop.ofRender e = .error e) :
    (throw (.error e) : ExceptT (Stop RenderError) m α) = told Stop.ofRender (throw e) := by
  rw [told_throw, h]

variable (stage : Stage m F O) (frame : Frame F O)

theorem follow_told {e : Expression Variable} {before path : List String}
    (h : e.path = before ++ path)
    (value : Value F O) : follow access stage e before.length value path =
      told Stop.ofRender (follow .plain stage e before.length value path) := by
  induction path generalizing before value with
  | nil => exact (told_pure value).symm
  | cons segment rest ih =>
    rw [follow, follow, told_bind, told_liftM]
    refine bind_congr fun found => ?_
    cases found with
    | none =>
      have hplace : before.length < e.path.length := by
        rw [h, List.length_append, List.length_cons]
        omega
      have hunresolved : (access : Access _ F O).unresolved e before.length segment =
          .error (.unresolved (e.dotted before.length) segment) := if_pos hplace
      dsimp only
      rw [hunresolved]
      exact throw_told rfl
    | some value =>
      have hnext := ih (h.trans (List.append_cons ..)) value
      rwa [List.length_append] at hnext

theorem pipe_eq (value : Value F O) (filters : List Variable) :
    pipe access stage frame value filters =
      told Stop.ofRender (pipe .plain stage frame value filters) := by
  induction filters generalizing value with
  | nil => exact (told_pure value).symm
  | cons f rest ih =>
    rw [pipe, pipe, told_bind, told_except, load_eq]
    refine bind_congr fun callee => ?_
    cases callee.filter? with
    | none => exact throw_told rfl
    | some filter =>
      simp only [told_bind, told_liftM]
      refine bind_congr fun answer => ?_
      cases answer with
      | ok value => exact ih value
      | error cause => exact throw_told rfl

theorem eval_eq (e : Expression Variable) :
    eval access stage frame e = told Stop.ofRender (eval .plain stage frame e) := by
  rw [eval, eval, told_bind, told_except, load_eq]
  refine bind_congr fun head => ?_
  rw [told_bind]
  have hfollow := follow_told stage (List.nil_append e.path).symm head
  rw [List.length_nil] at hfollow
  rw [hfollow]
  exact bind_congr fun value => pipe_eq stage frame value e.filters

section Items

variable {frame} {body : Frame F O → ExceptT (Stop RenderError) m (Frame F O)}
  {body' : Frame F O → Run m (Frame F O)}
  (hbody : ∀ frame, body frame = told Stop.ofRender (body' frame)) (slot : Nat)
  (items : List (Value F O))

include hbody

theorem eachItem_eq : eachItem access body slot frame items =
    told Stop.ofRender (eachItem .plain body' slot frame items) := by
  induction items generalizing frame with
  | nil => exact (told_pure frame).symm
  | cons item rest ih => simp only [eachItem, told_bind, told_except, store_eq, hbody, ih]

theorem overItems_told :
    overItems access body slot frame items =
      told Stop.ofRender (overItems .plain body' slot frame items) := by
  simp only [overItems, told_bind, told_except, read_eq, store_eq, eachItem_eq hbody]

end Items

section Programs

variable [Host F O]

theorem emit_eq (pieces : List Piece) :
    emit access stage frame pieces = told Stop.ofRender (emit .plain stage frame pieces) := by
  induction pieces with
  | nil => exact (told_pure ()).symm
  | cons piece rest ih =>
    cases piece with
    | literal s => simp only [emit, told_bind, told_liftM, ih]
    | output e => simp only [emit, told_bind, told_liftM, eval_eq, ih]

section Nodes

variable {stage frame} {body : List Node}
  (hbody : ∀ frame, runNodes access stage frame body =
    told Stop.ofRender (runNodes .plain stage frame body))

theorem runNode_bind_eq (v : Variable) :
    runNode access stage frame (.bind v) =
      told Stop.ofRender (runNode .plain stage frame (.bind v)) := by
  rw [runNode, runNode, told_bind, told_liftM]
  refine bind_congr fun found => ?_
  cases found with
  | none => exact throw_told rfl
  | some value => simp only [store_eq, told_except]

theorem runNode_emit_eq (pieces : List Piece) :
    runNode access stage frame (.emit pieces) =
      told Stop.ofRender (runNode .plain stage frame (.emit pieces)) := by
  simp only [runNode, told_bind, told_pure, emit_eq]

include hbody

theorem runNode_branch_eq (condition : Expression Variable) :
    runNode access stage frame (.branch condition body) =
      told Stop.ofRender (runNode .plain stage frame (.branch condition body)) := by
  rw [runNode, runNode, told_bind, eval_eq]
  refine bind_congr fun value => ?_
  cases value.isTrue with
  | true => exact hbody frame
  | false => exact (told_pure frame).symm

theorem runNode_loop_eq (v : Variable) (items : Expression Variable) :
    runNode access stage frame (.loop v items body) =
      told Stop.ofRender (runNode .plain stage frame (.loop v items body)) := by
  rw [runNode, runNode, told_bind, eval_eq]
  refine bind_congr fun value => ?_
  cases value.items? with
  | none => exact throw_told rfl
  | some values => exact overItems_told hbody v.slot values

end Nodes

theorem runNodes_cons_eq {frame : Frame F O} {node : Node} {rest : List Node}
    (hnode : runNode access stage frame node = told Stop.ofRender (runNode .plain stage frame node))
    (hrest : ∀ frame, runNodes access stage frame rest =
      told Stop.ofRender (runNodes .plain stage frame rest)) :
    runNodes access stage frame (node :: rest) =
      told Stop.ofRender (runNodes .plain stage frame (node :: rest)) := by
  rw [runNodes, runNodes, told_bind, hnode]
  exact bind_congr hrest

theorem runNodes_eq (body : List Node) (frame : Frame F O) :
    runNodes access stage frame body = told Stop.ofRender (runNodes .plain stage frame body) := by
  induction body using Node.forest generalizing frame with
  | nil => exact (told_pure frame).symm
  | bind v rest ih => exact runNodes_cons_eq stage (runNode_bind_eq v) ih
  | emit pieces rest ih => exact runNodes_cons_eq stage (runNode_emit_eq pieces) ih
  | branch condition body rest ihBody ihRest =>
    exact runNodes_cons_eq stage (runNode_branch_eq ihBody condition) ihRest
  | loop v items body rest ihBody ihRest =>
    exact runNodes_cons_eq stage (runNode_loop_eq ihBody v items) ihRest

theorem exec_eq (program : Program) :
    exec program stage = told Stop.ofRender (program.exec stage) :=
  runNodes_eq stage program.body _

end Programs

variable [Host F O]

theorem render_told (t : Template F O) (values : Lookup F O) (resolver : Resolver F O) :
    render t values resolver = (t.render values resolver).mapError .ofRender := by
  rw [render, exec_eq, run_told_state, Template.render, Program.render, Program.run]
  rcases (t.compiled.program.exec (t.scene values resolver).stage).run.run "" with
    ⟨answer | answer, output⟩ <;> rfl

theorem render_inside (scene : Scene F O) (body : List Block) :
    (Meaning.render scene body).mapError Stop.ofRender =
      (Meaning.render scene body).mapError Stop.error := by
  exact Meaning.render_told (fun _ => Stop.ofRender_template) scene body

end Guarded

namespace Template

variable [Host F O]

/-- Compiling and rendering by offsets and slot numbers never stops out of range: it ends as
compiling and rendering do. -/
theorem never_out_of_range (source : String) (contexts : List (Context F O)) :
    Guarded.withContexts source contexts = (withContexts source contexts).mapError .error ∧
    ∀ t, withContexts source contexts = .ok t → ∀ (values : Lookup F O) (resolver : Resolver F O),
      Guarded.render t values resolver = (t.render values resolver).mapError .error := by
  constructor
  · rw [Guarded.withContexts, withContexts, Guarded.compile_eq]
    cases compile source <;> rfl
  · intro t h values resolver
    obtain ⟨body, -, rfl⟩ := withContexts_ok h
    rw [Guarded.render_told, render, Program.render_compiled, Guarded.render_inside]

theorem never_out_of_range_wide : ∃ t : Template Empty Empty,
    Guarded.withContexts "ü{{ on.a }}" [[("on", .bool true)]] = .ok t ∧
      Guarded.render t (fun _ => none) .dots = .error (.error (.unresolved "on.a" "a")) := by
  have htokens : tokenize "ü{{ on.a }}" =
      [⟨.text, 0, "ü".toList⟩, ⟨.expression, 2, " on.a ".toList⟩] := by
    decide +kernel
  have hbody : Block.ofTokens (tokenize "ü{{ on.a }}") =
      .ok [.text "ü", .output ⟨"on.a", "on", ["a"], []⟩] := by
    rw [htokens]
    rfl
  have h : withContexts "ü{{ on.a }}" [[("on", (.bool true : Value Empty Empty))]] =
      .ok ⟨[("on", .bool true)], Draft.compiled [.text "ü", .output ⟨"on.a", "on", ["a"], []⟩]⟩ :=
    withContexts_of_ofTokens hbody _
  obtain ⟨hcompiled, hrendered⟩ :=
    never_out_of_range "ü{{ on.a }}" [[("on", (.bool true : Value Empty Empty))]]
  refine ⟨_, by rw [hcompiled, h]; rfl, ?_⟩
  rw [hrendered _ h, render, Program.render_compiled]
  rfl

end Template

end Stencil
