import Stencil.Program.Endless
import Stencil.Proofs.Indices
import Stencil.Proofs.Materialize

/-! Frames that hold every slot of a body. Such a frame is a cut of endless slots, and the run on it
is the cut of the run over them; so it never leaves the frame. The slot count of a materialized
program is the least that makes such a frame. -/

namespace Stencil

variable {F O : Type} {m : Type → Type} [Monad m]

theorem map_throw [LawfulMonad m] {α β : Type} (f : α → β) (e : RenderError) :
    f <$> (throw e : Run m α) = throw e := by
  rw [← bind_pure_comp, throw_bind]

namespace Frame

def cut (size : Nat) (slots : Slots F O) : Frame F O := Array.ofFn fun slot : Fin size => slots slot

def view (frame : Frame F O) : Slots F O := fun slot => frame[slot]?.join

variable {size slot : Nat} {slots : Slots F O}

theorem size_cut : (cut size slots).size = size := Array.size_ofFn

theorem getElem_cut (h : slot < (cut size slots).size) : (cut size slots)[slot] = slots slot :=
  Array.getElem_ofFn h

theorem cut_view (frame : Frame F O) : cut frame.size frame.view = frame := by
  refine Array.ext size_cut fun slot hcut hframe => ?_
  rw [getElem_cut, view, Array.getElem?_eq_getElem hframe, Option.join_some]

theorem cut_empty : cut size (fun _ => none : Slots F O) = Array.replicate size none := by
  refine Array.ext (size_cut.trans Array.size_replicate.symm) fun slot hcut hreplicate => ?_
  rw [getElem_cut, Array.getElem_replicate]

theorem setIfInBounds_cut (value : Option (Value F O)) :
    (cut size slots).setIfInBounds slot value = cut size (Function.update slots slot value) := by
  refine Array.ext (Array.size_setIfInBounds.trans (size_cut.trans size_cut.symm)) fun other hset
    hcut => ?_
  rw [Array.size_setIfInBounds] at hset
  rw [Array.getElem_setIfInBounds hset, getElem_cut, getElem_cut, Function.update_apply]
  simp only [eq_comm]

theorem read_cut (h : slot < size) :
    Access.plain.read (cut size slots) slot = .ok (slots slot) := by
  rw [Access.read_of_lt (h.trans_eq size_cut.symm), getElem_cut]

theorem store_cut (h : slot < size) (value : Option (Value F O)) :
    Access.plain.store (cut size slots) slot value =
      .ok (cut size (Function.update slots slot value)) := by
  rw [Access.store_of_lt (h.trans_eq size_cut.symm), setIfInBounds_cut]

theorem load_cut {v : Variable} (h : v.slot < size) :
    Access.plain.load (cut size slots) v = Endless.load slots v := by
  rw [Access.load, read_cut h, Endless.load]
  cases slots v.slot <;> rfl

end Frame

namespace Endless

open Stencil.Frame
open RenderError (OfExpression OfTemplate)

variable {size : Nat} {slots : Slots F O} (stage : Stage m F O)

theorem pipe_cut {filters : List Variable} (h : ∀ f ∈ filters, f.slot < size) (value : Value F O) :
    pipe .plain stage (cut size slots) value filters = filtered stage slots value filters := by
  induction filters generalizing value with
  | nil => rfl
  | cons f rest ih =>
    obtain ⟨hf, hrest⟩ := List.forall_mem_cons.1 h
    rw [pipe, filtered, load_cut hf]
    refine bind_congr fun callee => ?_
    cases callee.filter? with
    | none => rfl
    | some filter =>
      refine bind_congr fun answer => ?_
      cases answer with
      | ok value => exact ih hrest value
      | error cause => rfl

theorem eval_cut {e : Expression Variable} (h : ∀ v ∈ e.vars, v.slot < size) :
    eval .plain stage (cut size slots) e = expression stage slots e := by
  obtain ⟨hhead, hfilters⟩ := List.forall_mem_cons.1 h
  rw [eval, expression, load_cut hhead]
  refine bind_congr fun head => ?_
  rw [follow_head]
  exact bind_congr fun value => pipe_cut stage hfilters value

variable [LawfulMonad m]

theorem errors_load (slots : Slots F O) (v : Variable) :
    ErrorsIn OfExpression (liftM (load slots v) : Run m (Value F O)) := by
  rw [load]
  cases slots v.slot with
  | none => exact .throw (.missingVariable v.name)
  | some value => exact .pure value

theorem errors_filtered (slots : Slots F O) (value : Value F O) (filters : List Variable) :
    ErrorsIn OfExpression (filtered stage slots value filters) := by
  induction filters generalizing value with
  | nil => exact .pure value
  | cons f rest ih =>
    refine (errors_load slots f).bind fun callee => ?_
    cases callee.filter? with
    | none => exact .throw (.notCallable f.name)
    | some filter =>
      refine (ErrorsIn.liftM (stage.call filter value)).bind fun answer => ?_
      cases answer with
      | ok value => exact ih value
      | error cause => exact .throw (.filterFailed f.name cause)

theorem errors_expression (slots : Slots F O) (e : Expression Variable) :
    ErrorsIn OfTemplate (expression stage slots e) := by
  have hexpression : ErrorsIn OfExpression (expression stage slots e) :=
    (errors_load slots e.head).bind fun head =>
      (ErrorsIn.follow stage [e.head.name] head e.path).bind fun value =>
        errors_filtered stage slots value e.filters
  exact hexpression.mono fun _ => .expression

section Items

variable {slot : Nat} (hslot : slot < size) {body : Frame F O → Run m (Frame F O)}
  (said : Slots F O → Run m (Slots F O))
  (hbody : ∀ slots, body (cut size slots) = cut size <$> said slots)

include hslot hbody

theorem eachItem_cut (items : List (Value F O)) (slots : Slots F O) :
    eachItem .plain body slot (cut size slots) items =
      cut size <$> items.foldlM (fun slots item => said (Function.update slots slot (some item)))
        slots := by
  induction items generalizing slots with
  | nil => simp only [eachItem, List.foldlM_nil, map_pure]
  | cons item rest ih =>
    simp only [eachItem, List.foldlM_cons, store_cut hslot, liftM_ok, pure_bind, hbody,
      bind_map_left, map_bind, ih]

/-- What the slot holds while the loop has not begun is seen by no item, and in the end it holds
what it held. -/
theorem overItems_cut (items : List (Value F O)) (slots : Slots F O) :
    overItems .plain body slot (cut size slots) items = cut size <$> (do
      let last ← items.foldlM (fun slots item => said (Function.update slots slot (some item)))
          slots
      return Function.update last slot (slots slot)) := by
  cases items with
  | nil =>
    simp only [overItems, eachItem, read_cut hslot, store_cut hslot, liftM_ok, List.foldlM_nil,
      pure_bind, map_pure, Function.update_idem]
  | cons item rest =>
    simp only [overItems, eachItem_cut hslot said hbody, read_cut hslot, store_cut hslot, liftM_ok,
      List.foldlM_cons, pure_bind,
      Function.update_idem, bind_assoc, bind_map_left, map_bind, map_pure]

end Items

variable [Host F O]

theorem emit_cut {pieces : List Piece} (h : ∀ v ∈ pieces.flatMap Piece.vars, v.slot < size) :
    emit .plain stage (cut size slots) pieces = pieces.forM (piece stage slots) := by
  induction pieces with
  | nil => rfl
  | cons first rest ih =>
    rw [List.flatMap_cons, List.forall_mem_append] at h
    cases first with
    | literal s =>
      rw [emit, ih h.2]
      rfl
    | output e =>
      rw [emit, ih h.2, eval_cut stage h.1]
      exact (bind_assoc _ _ _).symm

theorem errors_piece (slots : Slots F O) (piece : Piece) :
    ErrorsIn OfTemplate (Endless.piece stage slots piece) := by
  cases piece with
  | literal s => exact .liftM (stage.write s)
  | output e =>
    exact (errors_expression stage slots e).bind fun value => .liftM (stage.write value.text)

theorem runNodes_cons_cut {n : Node} {rest : List Node}
    (hnode : runNode .plain stage (cut size slots) n = cut size <$> node stage slots n)
    (hrest : ∀ slots, runNodes .plain stage (cut size slots) rest =
      cut size <$> nodes stage slots rest) :
    runNodes .plain stage (cut size slots) (n :: rest) =
      cut size <$> nodes stage slots (n :: rest) := by
  rw [runNodes, nodes, hnode, bind_map_left, map_bind]
  exact bind_congr hrest

theorem runNodes_cut {body : List Node} (h : ∀ v ∈ Node.varsAll body, v.slot < size)
    (slots : Slots F O) :
    runNodes .plain stage (cut size slots) body = cut size <$> nodes stage slots body := by
  induction body using Node.forest generalizing slots with
  | nil => exact (map_pure _ _).symm
  | bind v rest ih =>
    obtain ⟨hv, hrest⟩ := List.forall_mem_cons.1 h
    refine runNodes_cons_cut stage ?_ (ih hrest)
    rw [runNode, node, map_bind]
    refine bind_congr fun found => ?_
    cases found with
    | none => exact (map_throw _ _).symm
    | some value =>
      dsimp only
      rw [store_cut hv, liftM_ok, map_pure]
  | emit pieces rest ih =>
    rw [Node.varsAll, Node.vars, List.forall_mem_append] at h
    refine runNodes_cons_cut stage ?_ (ih h.2)
    rw [runNode, node, emit_cut stage h.1, map_bind]
    exact bind_congr fun _ => (map_pure _ _).symm
  | branch condition body rest ihBody ihRest =>
    rw [Node.varsAll, Node.vars, List.forall_mem_append, List.forall_mem_append] at h
    refine runNodes_cons_cut stage ?_ (ihRest h.2)
    rw [runNode, node, eval_cut stage h.1.1, map_bind]
    refine bind_congr fun value => ?_
    cases value.isTrue with
    | true => exact ihBody h.1.2 slots
    | false => exact (map_pure _ _).symm
  | loop v items body rest ihBody ihRest =>
    rw [Node.varsAll, Node.vars, List.forall_mem_append, List.cons_append, List.forall_mem_cons,
      List.forall_mem_append] at h
    refine runNodes_cons_cut stage ?_ (ihRest h.2)
    rw [runNode, node, eval_cut stage h.1.2.1, map_bind]
    refine bind_congr fun value => ?_
    cases value.items? with
    | none => exact (map_throw _ _).symm
    | some values =>
      exact overItems_cut h.1.1 (fun slots => nodes stage slots body) (ihBody h.1.2.2) values slots

theorem errors_nodes (slots : Slots F O) (body : List Node) :
    ErrorsIn OfTemplate (nodes stage slots body) := by
  induction body using Node.forest generalizing slots with
  | nil => exact .pure slots
  | bind v rest ih =>
    refine .bind ?_ ih
    refine (ErrorsIn.liftM (stage.lookup v.name)).bind fun found => ?_
    cases found with
    | none => exact .throw (.expression (.missingVariable v.name))
    | some value => exact .pure _
  | emit pieces rest ih =>
    refine .bind ?_ ih
    exact (ErrorsIn.forM (errors_piece stage slots) pieces).bind fun _ => .pure slots
  | branch condition body rest ihBody ihRest =>
    refine .bind ?_ ihRest
    refine (errors_expression stage slots condition).bind fun value => ?_
    cases value.isTrue with
    | true => exact ihBody slots
    | false => exact .pure slots
  | loop v items body rest ihBody ihRest =>
    refine .bind ?_ ihRest
    refine (errors_expression stage slots items).bind fun value => ?_
    cases value.items? with
    | none => exact .throw (.notIterable items.source value.kind)
    | some values =>
      exact (ErrorsIn.foldlM (fun slots item => ihBody _) values slots).bind fun _ => .pure _

end Endless

section Bodies

variable [LawfulMonad m] [Host F O] (stage : Stage m F O)

theorem errors_runNodes {frame : Frame F O} {body : List Node}
    (h : ∀ v ∈ Node.varsAll body, v.slot < frame.size) :
    ErrorsIn RenderError.OfTemplate (runNodes .plain stage frame body) := by
  rw [← frame.cut_view, Endless.runNodes_cut stage h]
  exact (Endless.errors_nodes stage frame.view body).map (Frame.cut frame.size)

namespace Program

variable {p : Program} (h : ∀ v ∈ Node.varsAll p.body, v.slot < p.slots)

include h

theorem exec_cut : p.exec stage = Frame.cut p.slots <$> Endless.exec stage p.body := by
  rw [exec, Access.exec, ← Frame.cut_empty, Endless.runNodes_cut stage h, Endless.exec]

theorem exec_inside : Guarded.exec p stage = told .error (p.exec stage) := by
  have herrors : ErrorsIn RenderError.OfTemplate (p.exec stage) := by
    rw [exec, Access.exec]
    refine errors_runNodes stage fun v hv => ?_
    rw [Array.size_replicate]
    exact h v hv
  rw [Guarded.exec_eq]
  exact herrors _ _ _ fun _ => Guarded.Stop.ofRender_template

end Program

end Bodies

theorem foldl_slots_attained (vs : List Variable) (size : Nat) :
    vs.foldl (fun size v => max size (v.slot + 1)) size = size ∨
      ∃ v ∈ vs, vs.foldl (fun size v => max size (v.slot + 1)) size = v.slot + 1 := by
  induction vs generalizing size with
  | nil => exact .inl rfl
  | cons v rest ih =>
    rw [List.foldl_cons]
    rcases ih (max size (v.slot + 1)) with hfirst | ⟨other, hother, hlater⟩
    · rcases Nat.le_total (v.slot + 1) size with hle | hle
      · exact .inl (hfirst.trans (Nat.max_eq_left hle))
      · exact .inr ⟨v, List.mem_cons_self, hfirst.trans (Nat.max_eq_right hle)⟩
    · exact .inr ⟨other, List.mem_cons_of_mem v hother, hlater⟩

theorem frameFor_exact (vs : List Variable) :
    (vs = [] ∧ frameFor vs = 0) ∨
      ∃ v ∈ vs, (∀ other ∈ vs, other.slot ≤ v.slot) ∧ frameFor vs = v.slot + 1 := by
  rcases foldl_slots_attained vs 0 with hzero | ⟨v, hv, hlast⟩
  · refine .inl ⟨List.eq_nil_iff_forall_not_mem.2 fun v hv => ?_, hzero⟩
    exact (slot_lt_frameFor hv).ne_bot hzero
  · refine .inr ⟨v, hv, fun other hother => Nat.le_of_lt_succ ?_, hlast⟩
    exact (slot_lt_frameFor hother).trans_eq hlast

namespace Listing

variable {l : Listing} {p : Program}

theorem materialize_slots (h : l.materialize = .ok p) :
    p.slots = frameFor (Node.varsAll p.body) := by
  have hcheck : l.check = .ok () := by
    cases hcheck : l.check with
    | ok => rfl
    | error e =>
      rw [materialize, hcheck] at h
      cases h
  rcases materialize_cases hcheck with ⟨body, hlines⟩ | ⟨e, herror, -⟩
  · cases (materialize_procedure hcheck hlines).symm.trans h
    rfl
  · cases herror.symm.trans h

variable [LawfulMonad m] [Host F O]

/-- The slot count of a materialized program is one more than its greatest slot, or zero if it has
none. So on any stage its run never stops out of range: it is what runs over endless slots, where a
slot without a value is a missing variable, leave in the first of them. -/
theorem materialize_fits (h : l.materialize = .ok p) (stage : Stage m F O) :
    ((Node.varsAll p.body = [] ∧ p.slots = 0) ∨
      ∃ v ∈ Node.varsAll p.body, (∀ other ∈ Node.varsAll p.body, other.slot ≤ v.slot) ∧
        p.slots = v.slot + 1) ∧
    ((∀ v ∈ Node.varsAll p.body, v.slot + 1 < UInt64.size) → p.slots < UInt64.size) ∧
    Guarded.exec p stage = told .error (p.exec stage) ∧
    p.exec stage = Frame.cut p.slots <$> Endless.exec stage p.body := by
  have hslots := materialize_slots h
  have hexact := frameFor_exact (Node.varsAll p.body)
  have hinside : ∀ v ∈ Node.varsAll p.body, v.slot < p.slots :=
    fun v hv => (slot_lt_frameFor hv).trans_eq hslots.symm
  rw [← hslots] at hexact
  refine ⟨hexact, fun hword => ?_, Program.exec_inside stage hinside,
    Program.exec_cut stage hinside⟩
  rcases hexact with ⟨-, hzero⟩ | ⟨v, hv, -, hlast⟩
  · rw [hzero]
    decide
  · rw [hlast]
    exact hword v hv

theorem materialize_fits_restored :
    ∃ (l : Listing) (p : Program), l.materialize = .ok p ∧ p.slots = 5 ∧
      (Guarded.exec p
        (⟨fun _ => some (.list [.string "a"]), .dots⟩ : Scene Empty Empty).stage).run.run "" =
          (.error (.error (.missingVariable "x")), "a") := by
  have h : materialize ⟨.at 0, [.line 0 .define, .part (.at 4) [.line 4 (.bind ⟨"xs", 0, false⟩)],
      .line 4 (.loop ⟨"x", 4, true⟩ ⟨"xs", ⟨"xs", 0, false⟩, [], []⟩),
      .line 8 (.emit [.output ⟨"x", ⟨"x", 4, true⟩, [], []⟩]),
      .line 4 (.emit [.output ⟨"x", ⟨"x", 4, true⟩, [], []⟩]), .line 4 .finish]⟩ = .ok _ := rfl
  obtain ⟨-, -, hinside, hendless⟩ := materialize_fits h
    (⟨fun _ => some (.list [.string "a"]), .dots⟩ : Scene Empty Empty).stage
  refine ⟨_, _, h, rfl, ?_⟩
  rw [hinside, hendless]
  rfl

end Listing

end Stencil
