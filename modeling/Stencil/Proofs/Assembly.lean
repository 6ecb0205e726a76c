import Mathlib.Tactic.Common
import Stencil.Listing.Assembly
import Stencil.Program.Lines

/-! Assembly takes the lines of a program back to the program. Between lines a block stays open
until a line further left comes, so a state is described by what is left of it once the bodies
further right are ended. -/

namespace Stencil

/-- Induction on node lists, into the bodies of blocks and along the list. -/
@[elab_as_elim]
theorem Node.forest {P : List Node → Prop} (nil : P [])
    (bind : ∀ v rest, P rest → P (.bind v :: rest))
    (emit : ∀ pieces rest, P rest → P (.emit pieces :: rest))
    (branch : ∀ condition body rest, P body → P rest → P (.branch condition body :: rest))
    (loop : ∀ v items body rest, P body → P rest → P (.loop v items body :: rest)) :
    ∀ nodes, P nodes
  | [] => nil
  | .bind v :: rest => bind v rest (forest nil bind emit branch loop rest)
  | .emit pieces :: rest => emit pieces rest (forest nil bind emit branch loop rest)
  | .branch condition body :: rest =>
    branch condition body rest (forest nil bind emit branch loop body)
      (forest nil bind emit branch loop rest)
  | .loop v items body :: rest =>
    loop v items body rest (forest nil bind emit branch loop body)
      (forest nil bind emit branch loop rest)

theorem Node.linesAll_append (indent : Nat) (a b : List Node) :
    linesAll indent (a ++ b) = linesAll indent a ++ linesAll indent b := by
  induction a with
  | nil => rfl
  | cons node rest ih => simp only [List.cons_append, linesAll, ih, List.append_assoc]

theorem Node.linesAll_concat (indent : Nat) (a : List Node) (node : Node) :
    linesAll indent (a ++ [node]) = linesAll indent a ++ lines indent node := by
  rw [linesAll_append, linesAll, linesAll, List.append_nil]

theorem Node.varsAll_append (a b : List Node) :
    Node.varsAll (a ++ b) = Node.varsAll a ++ Node.varsAll b := by
  induction a with
  | nil => rfl
  | cons node rest ih => rw [List.cons_append, Node.varsAll, ih, Node.varsAll, List.append_assoc]

theorem foldl_slots (vs : List Variable) (size : Nat) :
    size ≤ vs.foldl (fun size v => max size (v.slot + 1)) size ∧
      ∀ v ∈ vs, v.slot < vs.foldl (fun size v => max size (v.slot + 1)) size := by
  induction vs generalizing size with
  | nil => exact ⟨Nat.le_refl size, List.forall_mem_nil _⟩
  | cons v rest ih =>
    obtain ⟨hsize, hrest⟩ := ih (max size (v.slot + 1))
    refine ⟨Nat.le_trans (Nat.le_max_left _ _) hsize, List.forall_mem_cons.2 ⟨?_, hrest⟩⟩
    exact Nat.lt_of_succ_le (Nat.le_trans (Nat.le_max_right _ _) hsize)

theorem slot_lt_frameFor {vs : List Variable} {v : Variable} (h : v ∈ vs) : v.slot < frameFor vs :=
  (foldl_slots vs 0).2 v h

theorem Node.linesAll_vars (indent : Nat) (nodes : List Node) :
    (linesAll indent nodes).flatMap (fun line => line.2.vars) = Node.varsAll nodes := by
  induction nodes using Node.forest generalizing indent with
  | nil => rfl
  | bind v rest ih =>
    rw [linesAll, Node.lines, List.flatMap_append, ih]
    rfl
  | emit pieces rest ih =>
    rw [linesAll, Node.lines, List.flatMap_append, ih, List.flatMap_singleton]
    rfl
  | branch condition body rest ihBody ihRest =>
    rw [linesAll, Node.lines, List.flatMap_append, List.flatMap_cons, ihBody, ihRest]
    rfl
  | loop v items body rest ihBody ihRest =>
    rw [linesAll, Node.lines, List.flatMap_append, List.flatMap_cons, ihBody, ihRest]
    rfl

namespace Assembly

theorem unwind_unwind {outer i j : Nat} {enclosing enclosing' : List OpenNode}
    {body body' : List Node}
    (h : unwind outer i enclosing body = .ok (enclosing', body')) (hj : j ≤ i) :
    unwind outer j enclosing body = unwind outer j enclosing' body' := by
  induction enclosing generalizing body with
  | nil =>
    cases h
    rfl
  | cons b rest ih =>
    rw [unwind] at h
    split at h
    next hi =>
      split at h
      next node hnode =>
        rw [unwind, if_pos (Nat.lt_of_le_of_lt hj hi), hnode]
        exact ih h
      next => cases h
    next =>
      cases h
      rfl

theorem unwind_at (outer : Nat) (enclosing : List OpenNode) (body : List Node) :
    unwind outer (outer + indentStep * enclosing.length) enclosing body =
      .ok (enclosing, body) := by
  cases enclosing with
  | nil => rfl
  | cons b rest =>
    rw [unwind, List.length_cons, if_neg (Nat.lt_irrefl _)]

/-- A state in which, once the bodies further right are ended, the blocks `enclosing` are open and
the innermost body holds the nodes `body`, latest first. -/
structure At (outer : Nat) (a : Assembly) (enclosing : List OpenNode) (body : List Node) :
    Prop where
  running : a.returned = false
  unwound : unwind outer (outer + indentStep * enclosing.length) a.enclosing a.body =
    .ok (enclosing, body)

theorem at_self (outer : Nat) (enclosing : List OpenNode) (body : List Node) :
    At outer ⟨enclosing, body, false⟩ enclosing body := ⟨rfl, unwind_at outer enclosing body⟩

variable {outer : Nat} {a : Assembly} {enclosing : List OpenNode} {body : List Node}

theorem At.step (h : At outer a enclosing body) (number : Nat) (statement : Statement) :
    a.step outer number (outer + indentStep * enclosing.length) statement =
      place number enclosing body statement := by
  rw [Assembly.step, h.running, h.unwound]
  simp

def Leads (outer : Nat) (a : Assembly) (number : Nat) (lines : List (Nat × Statement))
    (enclosing : List OpenNode) (body : List Node) : Prop :=
  ∃ a' number', At outer a' enclosing body ∧
    ∀ rest, a.steps outer number (lines ++ rest) = a'.steps outer number' rest

theorem At.leads (h : At outer a enclosing body) (number : Nat) :
    Leads outer a number [] enclosing body :=
  ⟨a, number, h, fun _ => rfl⟩

theorem Leads.append {number : Nat} {first second : List (Nat × Statement)}
    {enclosing' : List OpenNode} {body' : List Node} (h : Leads outer a number first enclosing body)
    (h' : ∀ {a' number'}, At outer a' enclosing body →
      Leads outer a' number' second enclosing' body') :
    Leads outer a number (first ++ second) enclosing' body' := by
  obtain ⟨a₁, number₁, ha₁, h₁⟩ := h
  obtain ⟨a₂, number₂, ha₂, h₂⟩ := h' ha₁
  refine ⟨a₂, number₂, ha₂, fun rest => ?_⟩
  rw [List.append_assoc, h₁, h₂]

theorem At.line (h : At outer a enclosing body) {number : Nat} {statement : Statement}
    {enclosing' : List OpenNode}
    {body' : List Node} (hplace : place number enclosing body statement =
      .ok ⟨enclosing', body', false⟩) :
    Leads outer a number [(outer + indentStep * enclosing.length, statement)] enclosing' body' := by
  refine ⟨_, number + 1, at_self outer enclosing' body', fun rest => ?_⟩
  rw [List.singleton_append, steps, h.step, hplace]

theorem At.close {b : OpenNode} {node : Node} (h : At outer a (b :: enclosing) body)
    (hb : b.close body.reverse = .ok node) : At outer a enclosing (node :: b.before) := by
  refine ⟨h.running, ?_⟩
  have hle : outer + indentStep * enclosing.length ≤
      outer + indentStep * (b :: enclosing).length := by
    rw [List.length_cons]
    exact Nat.add_le_add_left (Nat.mul_le_mul_left _ (Nat.le_succ _)) _
  rw [unwind_unwind h.unwound hle, unwind, if_pos (by simp [indentStep]), hb]
  exact unwind_at outer enclosing _

theorem Leads.close {number : Nat} {lines : List (Nat × Statement)} {b : OpenNode} {node : Node}
    (h : Leads outer a number lines (b :: enclosing) body) (hb : b.close body.reverse = .ok node) :
    Leads outer a number lines enclosing (node :: b.before) := by
  obtain ⟨a', number', ha', hsteps⟩ := h
  exact ⟨a', number', ha'.close hb, hsteps⟩

theorem At.block (h : At outer a enclosing body) {number : Nat} {header : Header}
    {statement : Statement} {inner : List Node} {node : Node}
    (hplace : place number enclosing body statement =
      .ok ⟨⟨number, header, body⟩ :: enclosing, [], false⟩)
    (hclose : OpenNode.close ⟨number, header, body⟩ inner = .ok node)
    (hinner : ∀ {a' enclosing'}, At outer a' enclosing' [] → ∀ number', Leads outer a' number'
      (Node.linesAll (outer + indentStep * enclosing'.length) inner) enclosing'
        (inner.reverse ++ [])) :
    Leads outer a number ((outer + indentStep * enclosing.length, statement) ::
      Node.linesAll (outer + indentStep * enclosing.length + indentStep) inner) enclosing
        (node :: body) := by
  have hlines := (h.line hplace).append fun h => hinner h _
  rw [List.length_cons, Nat.mul_succ, ← Nat.add_assoc, List.append_nil] at hlines
  exact hlines.close (by rw [List.reverse_reverse, hclose])

theorem leads_linesAll (nodes : List Node) (h : At outer a enclosing body) (number : Nat) :
    Leads outer a number (Node.linesAll (outer + indentStep * enclosing.length) nodes) enclosing
      (nodes.reverse ++ body) := by
  -- Nodes are read one after the other; the lines of a block end only when the next line further
  -- left comes, so a state is described up to the bodies that are still to be ended.
  induction nodes using Node.forest generalizing a enclosing body number with
  | nil => exact h.leads number
  | bind v rest ih =>
    rw [List.reverse_cons, List.append_assoc]
    exact (h.line rfl).append fun h => ih h _
  | emit pieces rest ih =>
    rw [List.reverse_cons, List.append_assoc]
    exact (h.line rfl).append fun h => ih h _
  | branch condition inner rest ihInner ihRest =>
    rw [List.reverse_cons, List.append_assoc]
    exact (h.block rfl rfl fun h => ihInner h).append fun h => ihRest h _
  | loop v items inner rest ihInner ihRest =>
    rw [List.reverse_cons, List.append_assoc]
    exact (h.block rfl rfl fun h => ihInner h).append fun h => ihRest h _

theorem steps_procedure (outer number : Nat) (nodes : List Node) :
    (start.steps outer number (Node.linesAll outer nodes ++ [(outer, .finish)])).bind
      (finish outer) = .ok nodes := by
  obtain ⟨a, number', ha, hsteps⟩ := leads_linesAll nodes (at_self outer [] []) number
  -- The return stands at the column of the outermost body and ends all other bodies.
  have hlast : a.step outer number' outer .finish = .ok ⟨[], nodes.reverse ++ [], true⟩ :=
    ha.step number' .finish
  rw [List.length_nil, Nat.mul_zero, Nat.add_zero] at hsteps
  rw [start, hsteps, steps, hlast]
  simp [steps, Except.bind, finish]

end Assembly

theorem Listing.materialize_procedure {l : Listing} {nodes : List Node} (hcheck : l.check = .ok ())
    (hlines : l.lines = (l.margin.base, .define) ::
      (Node.linesAll (l.margin.base + indentStep) nodes ++
        [(l.margin.base + indentStep, .finish)])) :
    l.materialize = .ok ⟨nodes, frameFor (Node.varsAll nodes)⟩ := by
  have hvars : List.flatMap (fun line => Statement.vars line.2)
      (Node.linesAll (l.margin.base + indentStep) nodes ++
        [(l.margin.base + indentStep, .finish)]) =
        Node.varsAll nodes := by
    rw [List.flatMap_append, Node.linesAll_vars]
    exact List.append_nil _
  rw [materialize, hcheck, hlines]
  simp only [if_true, Assembly.steps_procedure]
  rw [hvars]

end Stencil
