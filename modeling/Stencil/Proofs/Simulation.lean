import Stencil.Block.Meaning
import Stencil.Proofs.Lowering

/-! The program of a template does what the template means. A frame fits the names of a place when
each name's slot holds the name's value; on such a frame the nodes of a body do what its blocks
mean, ask for the same things in the same order, and leave the frame as it was. -/

namespace Stencil

variable {F O : Type} {m : Type → Type} [Monad m]

namespace Access

variable {frame : Frame F O} {slot : Nat}

theorem read_of_lt (h : slot < frame.size) : plain.read frame slot = .ok frame[slot] := by
  simp only [plain, Array.getElem?_eq_getElem h]

theorem store_of_lt (h : slot < frame.size) (value : Option (Value F O)) :
    plain.store frame slot value = .ok (frame.setIfInBounds slot value) := by
  simp only [plain, dif_pos h, Array.setIfInBounds]

@[simp] theorem plain_error (e : RenderError) : (plain : Access RenderError F O).error e = e := rfl

theorem load_of_held {value : Value F O} (h : frame[slot]? = some (some value)) (name : String)
    (bound : Bool) : plain.load frame ⟨name, slot, bound⟩ = .ok value := by
  simp only [load, plain, h]

end Access

/-- The frame holds the value of each name of the place: of the loops in `scope`, and else of the
free names that the finished draft `last` has numbered. -/
structure Fits (last : Draft) (scope : Scope) (bindings : Meaning.Bindings F O)
    (frame : Frame F O) : Prop where
  bound {name : String} {slot : Nat} : scope.lookup name = some slot →
    ∃ value, bindings.lookup name = some value ∧ frame[slot]? = some (some value)
  free {name : String} {slot : Nat} : scope.lookup name = none →
    Entries.find? last.free name = some slot →
    ∃ value, bindings.lookup name = some value ∧ frame[slot]? = some (some value)

variable {last d : Draft} {scope : Scope} {bindings : Meaning.Bindings F O} {frame : Frame F O}

theorem Fits.load (h : Fits last scope bindings frame) {name : String}
    (hlast : Draft.Precedes (d.resolve scope name).2 last) :
    Access.plain.load frame (d.resolve scope name).1 = bindings.value name := by
  -- Also a name that gets its slot only here has it in `last`, where the binds are made from.
  unfold Meaning.Bindings.value
  rcases Draft.resolve_cases scope d name with ⟨slot, hscope, hd⟩ | ⟨slot, hscope, hfree, hd⟩ |
    ⟨hscope, -, hd⟩
  · obtain ⟨value, hvalue, hslot⟩ := h.bound hscope
    rw [hd, hvalue, Access.load_of_held hslot]
  · rw [hd] at hlast
    obtain ⟨value, hvalue, hslot⟩ := h.free hscope (hlast.kept hfree)
    rw [hd, hvalue, Access.load_of_held hslot]
  · rw [hd] at hlast
    have hnew : Entries.find? (Entries.insert d.free name d.slots) name = some d.slots := by
      rw [Entries.find?_insert, if_pos rfl]
    obtain ⟨value, hvalue, hslot⟩ := h.free hscope (hlast.kept hnew)
    rw [hd, hvalue, Access.load_of_held hslot]

theorem Expression.dotted_eq {e : Expression Variable} {before rest : List String}
    {segment : String} (h : e.path = before ++ segment :: rest) :
    e.dotted before.length = ".".intercalate (e.head.name :: before ++ [segment]) := by
  have htake : e.path.take (before.length + 1) = before ++ [segment] := by
    rw [h, List.take_length_add_append]
    rfl
  rw [dotted, htake, List.cons_append]

theorem follow_eq (stage : Stage m F O) {e : Expression Variable} {before path : List String}
    (h : e.path = before ++ path) (value : Value F O) :
    follow .plain stage e before.length value path =
      Meaning.follow stage (e.head.name :: before) value path := by
  induction path generalizing before value with
  | nil => rfl
  | cons segment rest ih =>
    rw [follow, Meaning.follow]
    refine bind_congr fun found => ?_
    cases found with
    | none =>
      rw [← Expression.dotted_eq h]
      rfl
    | some value =>
      have hnext := ih (h.trans (List.append_cons ..)) value
      rwa [List.length_append] at hnext

theorem follow_head (stage : Stage m F O) (e : Expression Variable) (value : Value F O) :
    follow .plain stage e 0 value e.path = Meaning.follow stage [e.head.name] value e.path :=
  follow_eq stage (List.nil_append e.path).symm value

theorem Draft.resolve_name (scope : Scope) (d : Draft) (name : String) :
    (d.resolve scope name).1.name = name := by
  rcases resolve_cases scope d name with ⟨slot, -, h⟩ | ⟨slot, -, -, h⟩ | ⟨-, -, h⟩ <;> rw [h]

theorem Fits.pipe (h : Fits last scope bindings frame) (stage : Stage m F O) (value : Value F O)
    {names : List String} (hlast : Draft.Precedes (d.resolveAll scope names).2 last) :
    pipe .plain stage frame value (d.resolveAll scope names).1 =
      Meaning.filtered stage bindings value names := by
  induction names generalizing d value with
  | nil => rfl
  | cons name rest ih =>
    have hrest := (Draft.resolveAll_uses scope (d.resolve scope name).2 rest).precedes
    rw [Draft.resolveAll, Stencil.pipe, Meaning.filtered, h.load (hrest.trans hlast),
      Draft.resolve_name]
    refine bind_congr fun callee => ?_
    cases callee.filter? with
    | none => rfl
    | some filter =>
      refine bind_congr fun answer => ?_
      cases answer with
      | error cause => rfl
      | ok value => exact ih value hlast

theorem Fits.eval (h : Fits last scope bindings frame) (stage : Stage m F O) {e : Expression String}
    (hlast : Draft.Precedes (d.expression scope e).2 last) :
    eval .plain stage frame (d.expression scope e).1 = Meaning.expression stage bindings e := by
  have hfilters := (Draft.resolveAll_uses scope (d.resolve scope e.head).2 e.filters).precedes
  have hload : Access.plain.load frame (d.expression scope e).1.head = bindings.value e.head :=
    h.load (hfilters.trans hlast)
  have hname : (d.expression scope e).1.head.name = e.head := Draft.resolve_name scope d e.head
  have hpath : (d.expression scope e).1.path = e.path := rfl
  rw [Stencil.eval, Meaning.expression, hload]
  refine bind_congr fun head => ?_
  rw [follow_head, hname, hpath]
  exact bind_congr fun value => h.pipe stage value hlast

theorem Fits.loop (h : Fits last scope bindings frame) (hd : Draft.Within scope d) {name : String}
    {items : Expression String} (hlast : Draft.Precedes (d.openLoop scope name items).2.2 last)
    (hlt : (d.openLoop scope name items).1 < frame.size) (item : Value F O) :
    Fits last ((name, (d.openLoop scope name items).1) :: scope) ((name, item) :: bindings)
      (frame.setIfInBounds (d.openLoop scope name items).1 (some item)) := by
  obtain ⟨hle, hbelow⟩ := hd.openLoop name items
  refine ⟨fun {n s} hn => ?_, fun {n s} hn hs => ?_⟩
  · rw [List.lookup_cons] at hn ⊢
    cases heq : n == name with
    | true =>
      rw [heq] at hn
      cases hn
      exact ⟨item, rfl, Array.getElem?_setIfInBounds_self_of_lt hlt⟩
    | false =>
      rw [heq] at hn
      obtain ⟨before, after, rfl, -⟩ := List.lookup_eq_some_iff.1 hn
      have hs : s < d.slots := hd.below (n, s) (by simp)
      obtain ⟨value, hvalue, hheld⟩ := h.bound hn
      refine ⟨value, hvalue, ?_⟩
      rw [Array.getElem?_setIfInBounds_ne (hs.trans_le hle).ne', hheld]
  · rw [List.lookup_cons] at hn ⊢
    cases heq : n == name with
    | true =>
      rw [heq] at hn
      cases hn
    | false =>
      rw [heq] at hn
      obtain ⟨value, hvalue, hheld⟩ := h.free hn hs
      -- A free name known by now has a slot below the loop's, and one that comes later a slot above
      -- it.
      have hne : (d.openLoop scope name items).1 ≠ s := by
        cases hfound : Entries.find? (d.openLoop scope name items).2.2.free n with
        | none => exact (Nat.lt_of_succ_le (hlast.fresh hfound hs)).ne
        | some given =>
          cases (hlast.kept hfound).symm.trans hs
          exact (hbelow (n, s) (Entries.mem_of_find? hfound)).ne'
      refine ⟨value, hvalue, ?_⟩
      rw [Array.getElem?_setIfInBounds_ne hne, hheld]

@[simp] theorem liftM_ok {α : Type} (a : α) :
  (liftM (Except.ok a : Except RenderError α) : Run m α) = pure a := rfl

variable [LawfulMonad m]

@[simp] theorem throw_bind {α β : Type} (e : RenderError) (k : α → Run m β) :
  (throw e : Run m α) >>= k = throw e := by
  apply ExceptT.ext
  rw [ExceptT.run_bind, ExceptT.run_throw, pure_bind]
  rfl

theorem eachItem_store {slot : Nat} (hslot : slot < frame.size)
    {body : Frame F O → Run m (Frame F O)} {said : Value F O → Run m Unit}
    (hbody : ∀ item, body (frame.setIfInBounds slot (some item)) = (do
      said item
      return frame.setIfInBounds slot (some item))) (held shadowed : Option (Value F O))
        (items : List (Value F O)) :
    (do
      let last ← eachItem .plain body slot (frame.setIfInBounds slot held) items
      Access.plain.store last slot shadowed : Run m (Frame F O)) = (do
      items.forM said
      return frame.setIfInBounds slot shadowed) := by
  have hstore : ∀ held value : Option (Value F O),
      Access.plain.store (frame.setIfInBounds slot held) slot value =
      .ok (frame.setIfInBounds slot value) := by
    intro held value
    rw [Access.store_of_lt (by rwa [Array.size_setIfInBounds]), Array.setIfInBounds_setIfInBounds]
  -- Whatever the slot holds is written over, first by the next item and in the end by `shadowed`.
  induction items generalizing held with
  | nil => simp [eachItem, hstore]
  | cons item rest ih =>
    simp only [eachItem, hstore, liftM_ok, pure_bind, hbody, bind_assoc, ih, List.forM_eq_forM,
      List.forM_cons]

theorem overItems_eq {slot : Nat} (hslot : slot < frame.size) {body : Frame F O → Run m (Frame F O)}
    {said : Value F O → Run m Unit}
    (hbody : ∀ item, body (frame.setIfInBounds slot (some item)) = (do
      said item
      return frame.setIfInBounds slot (some item))) (items : List (Value F O)) :
    overItems .plain body slot frame items = (do
      items.forM said
      return frame) := by
  have hback : frame.setIfInBounds slot frame[slot] = frame := by simp [Array.setIfInBounds, hslot]
  rw [overItems, Access.read_of_lt hslot, liftM_ok, pure_bind, Access.store_of_lt hslot, liftM_ok,
    pure_bind, eachItem_store hslot hbody, hback]

variable [Host F O]

theorem emit_append (stage : Stage m F O) (frame : Frame F O) (a b : List Piece) :
    emit .plain stage frame (a ++ b) = (do
      emit .plain stage frame a
      emit .plain stage frame b) := by
  induction a with
  | nil => simp [emit]
  | cons piece rest ih =>
    cases piece with
    | literal s => simp only [List.cons_append, emit, ih, bind_assoc]
    | output e => simp only [List.cons_append, emit, ih, bind_assoc]

theorem runNodes_append (stage : Stage m F O) (frame : Frame F O) (a b : List Node) :
    runNodes .plain stage frame (a ++ b) = (do
      let frame ← runNodes .plain stage frame a
      runNodes .plain stage frame b) := by
  induction a generalizing frame with
  | nil => simp [runNodes]
  | cons node rest ih => simp only [List.cons_append, runNodes, ih, bind_assoc]

theorem runNodes_held (stage : Stage m F O) (frame : Frame F O) (d : Draft) :
    runNodes .plain stage frame d.held = (do
      emit .plain stage frame d.pieces.reverse
      return frame) := by
  unfold Draft.held
  split
  next h =>
    rw [List.isEmpty_iff.1 h]
    simp [runNodes, emit]
  next => simp [runNodes, runNode]

theorem runNode_branch {stage : Stage m F O} {condition : Expression Variable}
    {e : Expression String} {nodes : List Node} {body : List Block}
    (heval : eval .plain stage frame condition = Meaning.expression stage bindings e)
    (hbody : runNodes .plain stage frame nodes = (do
      Meaning.blocks stage bindings body
      return frame)) : runNode .plain stage frame (.branch condition nodes) = (do
      Meaning.block stage bindings (.branch e body)
      return frame) := by
  simp only [runNode, Meaning.block, heval, hbody, bind_assoc]
  refine bind_congr fun value => ?_
  cases value.isTrue <;> simp

theorem runNode_loop {stage : Stage m F O} {name : String} {slot : Nat}
    {items : Expression Variable}
    {e : Expression String} {nodes : List Node} {body : List Block} (hslot : slot < frame.size)
    (heval : eval .plain stage frame items = Meaning.expression stage bindings e)
    (hsource : items.source = e.source)
    (hbody : ∀ item, runNodes .plain stage (frame.setIfInBounds slot (some item)) nodes = (do
      Meaning.blocks stage ((name, item) :: bindings) body
      return frame.setIfInBounds slot (some item))) :
    runNode .plain stage frame (.loop ⟨name, slot, true⟩ items nodes) = (do
      Meaning.block stage bindings (.loop name e body)
      return frame) := by
  simp only [runNode, Meaning.block, heval, bind_assoc]
  refine bind_congr fun value => ?_
  cases value.items? with
  | none => simp [hsource]
  | some values => exact overItems_eq hslot hbody values

/-- On a fitting frame a body does what its blocks mean, after the output that was held back when it
began. -/
theorem runNodes_bodyNodes (stage : Stage m F O) (body : List Block)
    (h : Fits last scope bindings frame)
    (hd : Draft.Within scope d) (hlast : Draft.Precedes (Draft.blocks scope d body) last)
    (hsize : ∀ v ∈ Node.varsAll (Draft.bodyNodes scope d body), v.slot < frame.size) :
    runNodes .plain stage frame (Draft.bodyNodes scope d body) = (do
      emit .plain stage frame d.pieces.reverse
      Meaning.blocks stage bindings body
      return frame) := by
  -- Output is held back across texts and outputs, so the nodes of a body start with what `d` holds
  -- already.
  induction body using Block.forest generalizing scope d bindings frame with
  | nil => simp [Draft.bodyNodes, Draft.nodesAll, Draft.blocks, runNodes_held, Meaning.blocks]
  | text s rest ih =>
    rw [Draft.bodyNodes_text, ih h (hd.block (.text s)) hlast hsize]
    simp [Draft.block, Draft.hold, emit_append, emit, Meaning.blocks, Meaning.block]
  | output e rest ih =>
    have hafter := Draft.blocks_precedes scope (Draft.block scope d (.output e)) rest
    have hexpression := (Draft.expression_precedes_output scope d e).trans (hafter.trans hlast)
    have hpieces : (Draft.block scope d (.output e)).pieces =
        .output (d.expression scope e).1 :: d.pieces :=
      congrArg _ (Draft.expression_writes scope d e).2
    rw [Draft.bodyNodes_output, ih h (hd.block (.output e)) hlast hsize, hpieces]
    simp [emit_append, emit, Meaning.blocks, Meaning.block, h.eval stage hexpression]
  | branch condition body rest ihBody ihRest =>
    have hafter := Draft.blocks_precedes scope (Draft.block scope d (.branch condition body)) rest
    have hbody : Draft.Precedes (Draft.blocks scope (d.openBranch scope condition).2 body) last :=
      (Draft.closeBlock_precedes _).trans (hafter.trans hlast)
    have hcondition := (Draft.expression_precedes_openBranch scope d condition).trans
      ((Draft.blocks_precedes scope _ body).trans hbody)
    have heval : eval .plain stage frame (d.openBranch scope condition).1 =
        Meaning.expression stage bindings condition :=
      h.eval stage hcondition
    rw [Draft.bodyNodes_branch, Node.varsAll_append, Node.varsAll, Node.vars] at hsize
    have hinner := ihBody h (hd.onward (Draft.openBranch_uses scope d condition)) hbody
      fun v hv => hsize v (by simp [hv])
    have hrest := ihRest h (hd.block (.branch condition body)) hlast fun v hv =>
      hsize v (by simp [hv])
    simp only [Draft.openBranch_pieces, List.reverse_nil, emit, pure_bind] at hinner
    rw [Draft.block_branch, Draft.closeBlock_pieces] at hrest
    have hnode := runNode_branch heval hinner
    simp [Draft.bodyNodes_branch, Draft.block_branch, runNodes_append, runNodes_held, runNodes,
      hnode, hrest, emit, Meaning.blocks]
  | loop name items body rest ihBody ihRest =>
    have hafter := Draft.blocks_precedes scope (Draft.block scope d (.loop name items body)) rest
    have hbody : Draft.Precedes (Draft.blocks ((name, (d.openLoop scope name items).1) :: scope)
        (d.openLoop scope name items).2.2 body) last := (Draft.closeBlock_precedes _).trans
          (hafter.trans hlast)
    have hopen := (Draft.blocks_precedes _ _ body).trans hbody
    have heval : eval .plain stage frame (d.openLoop scope name items).2.1 =
        Meaning.expression stage bindings items :=
      h.eval stage ((Draft.expression_precedes_openLoop scope d name items).trans hopen)
    rw [Draft.bodyNodes_loop, Node.varsAll_append, Node.varsAll, Node.vars] at hsize
    have hrest := ihRest h (hd.block (.loop name items body)) hlast fun v hv =>
      hsize v (by simp [hv])
    have hslot : (d.openLoop scope name items).1 < frame.size :=
      hsize ⟨name, (d.openLoop scope name items).1, true⟩ (by simp)
    -- The body runs once per item, each time on the frame with the item in the loop's slot.
    have hinner := fun item => ihBody (h.loop hd hopen hslot item) (hd.loop name items) hbody
        fun v hv => by
      rw [Array.size_setIfInBounds]
      exact hsize v (by simp [hv])
    simp only [Draft.openLoop_pieces, List.reverse_nil, emit, pure_bind] at hinner
    rw [Draft.block_loop, Draft.closeBlock_pieces] at hrest
    have hnode := runNode_loop hslot heval rfl hinner
    simp [Draft.bodyNodes_loop, Draft.block_loop, runNodes_append, runNodes_held, runNodes, hnode,
      hrest, emit, Meaning.blocks]

end Stencil
