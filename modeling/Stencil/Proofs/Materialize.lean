import Stencil.Proofs.Assembly

/-! Assembly accepts the lines of procedures and no others. A state keeps the lines that it was
assembled from, block headers and bodies in order; each line is added to them, and at the return
they are those of the body that is answered. -/

namespace Stencil

def Header.statement : Header → Statement
  | .define => .define
  | .branch condition => .branch condition
  | .loop v items => .loop v items

inductive ListingError.Misshapen : ListingError → Prop
  | missingEntry : Misshapen .missingEntry
  | unexpectedIndent (number : Nat) : Misshapen (.unexpectedIndent number)
  | missingReturn : Misshapen .missingReturn
  | trailingCode (number : Nat) : Misshapen (.trailingCode number)

namespace Assembly

def written (outer : Nat) : List OpenNode → List Node → List (Nat × Statement)
  | [], body => Node.linesAll outer body.reverse
  | b :: rest, body =>
    written outer rest b.before ++ (outer + indentStep * rest.length, b.header.statement) ::
      Node.linesAll (outer + indentStep * (rest.length + 1)) body.reverse

theorem written_cons (outer : Nat) (enclosing : List OpenNode) (node : Node) (body : List Node) :
    written outer enclosing (node :: body) =
      written outer enclosing body ++ Node.lines (outer + indentStep * enclosing.length) node := by
  cases enclosing with
  | nil =>
    rw [written, written, List.reverse_cons, Node.linesAll_concat, List.length_nil, Nat.mul_zero,
      Nat.add_zero]
  | cons b rest =>
    rw [written, written, List.reverse_cons, Node.linesAll_concat, List.length_cons,
      List.append_assoc, List.cons_append]

theorem written_close {outer : Nat} {b : OpenNode} {enclosing : List OpenNode} {body : List Node}
    {node : Node} (h : b.close body.reverse = .ok node) :
    written outer enclosing (node :: b.before) = written outer (b :: enclosing) body := by
  rw [written_cons, written, Nat.mul_succ, ← Nat.add_assoc]
  unfold OpenNode.close at h
  split at h
  next => cases h
  next condition hheader =>
    cases h
    rw [hheader, Node.lines, Header.statement]
  next v items hheader =>
    cases h
    rw [hheader, Node.lines, Header.statement]

theorem unwind_written {outer indent : Nat} {enclosing enclosing' : List OpenNode}
    {body body' : List Node} (h : unwind outer indent enclosing body = .ok (enclosing', body')) :
    written outer enclosing' body' = written outer enclosing body := by
  induction enclosing generalizing body with
  | nil =>
    cases h
    rfl
  | cons b rest ih =>
    rw [unwind] at h
    split at h
    next =>
      split at h
      next node hnode => rw [ih h, written_close hnode]
      next => cases h
    next =>
      cases h
      rfl

/-- The lines read so far; the return is the last of them, and no block is open then. -/
inductive Holds (outer : Nat) : Assembly → List (Nat × Statement) → Prop
  | running (enclosing : List OpenNode) (body : List Node) :
    Holds outer ⟨enclosing, body, false⟩ (written outer enclosing body)
  | returned (body : List Node) :
    Holds outer ⟨[], body, true⟩ (Node.linesAll outer body.reverse ++ [(outer, .finish)])

theorem place_holds {outer number : Nat} {enclosing : List OpenNode} {body : List Node}
    {statement : Statement} {a : Assembly} (h : place number enclosing body statement = .ok a) :
    Holds outer a (written outer enclosing body ++
      [(outer + indentStep * enclosing.length, statement)]) := by
  cases statement with
  | define =>
    cases h
    exact .running (⟨number, .define, body⟩ :: enclosing) []
  | branch condition =>
    cases h
    exact .running (⟨number, .branch condition, body⟩ :: enclosing) []
  | loop v items =>
    cases h
    exact .running (⟨number, .loop v items, body⟩ :: enclosing) []
  | bind v =>
    cases h
    have hlines : Holds outer ⟨enclosing, .bind v :: body, false⟩ _ :=
      .running enclosing (.bind v :: body)
    rwa [written_cons, Node.lines] at hlines
  | emit pieces =>
    cases h
    have hlines : Holds outer ⟨enclosing, .emit pieces :: body, false⟩ _ :=
      .running enclosing (.emit pieces :: body)
    rwa [written_cons, Node.lines] at hlines
  | finish =>
    rw [place] at h
    split at h
    next houtermost =>
      cases h
      obtain rfl := List.isEmpty_iff.1 houtermost
      exact .returned body
    next => cases h

theorem unwind_error {outer indent : Nat} {enclosing : List OpenNode} {body : List Node}
    {e : ListingError} (h : unwind outer indent enclosing body = .error e) : e.Misshapen := by
  induction enclosing generalizing body with
  | nil => cases h
  | cons b rest ih =>
    rw [unwind] at h
    split at h
    next =>
      split at h
      next => exact ih h
      next e' hclose =>
        cases h
        unfold OpenNode.close at hclose
        split at hclose <;> cases hclose
        exact .unexpectedIndent b.number
    next => cases h

theorem place_error {number : Nat} {enclosing : List OpenNode} {body : List Node}
    {statement : Statement}
    {e : ListingError} (h : place number enclosing body statement = .error e) : e.Misshapen := by
  cases statement with
  | finish =>
    rw [place] at h
    split at h <;> cases h
    exact .unexpectedIndent number
  | _ => cases h

/-- A line is refused, or it stands at the column of the innermost body that it leaves open. -/
theorem step_cases (outer number indent : Nat) (a : Assembly) (statement : Statement) :
    (∃ e, a.step outer number indent statement = .error e ∧ e.Misshapen) ∨
    (a.returned = false ∧ ∃ enclosing body, unwind outer indent a.enclosing a.body =
      .ok (enclosing, body) ∧
      indent = outer + indentStep * enclosing.length ∧
      a.step outer number indent statement = place number enclosing body statement) := by
  rw [step]
  split
  next => exact .inl ⟨_, rfl, .trailingCode number⟩
  next hreturned =>
    split
    next e hunwind => exact .inl ⟨e, rfl, unwind_error hunwind⟩
    next enclosing body hunwind =>
      rw [Bool.not_eq_true] at hreturned
      dsimp only
      split
      next => exact .inl ⟨_, rfl, .missingReturn⟩
      next hleft =>
        split
        next => exact .inl ⟨_, rfl, .unexpectedIndent number⟩
        next hright => exact .inr ⟨hreturned, enclosing, body, hunwind, by omega, rfl⟩

variable {outer number : Nat} {a a' : Assembly} {lines : List (Nat × Statement)}

theorem Holds.step (h : Holds outer a lines) {indent : Nat} {statement : Statement}
    (hstep : a.step outer number indent statement = .ok a') :
    Holds outer a' (lines ++ [(indent, statement)]) := by
  rcases step_cases outer number indent a statement with ⟨e, herror, -⟩ |
    ⟨hreturned, enclosing, body, hunwind, hcolumn, hplace⟩
  · cases herror.symm.trans hstep
  · cases h with
    | running =>
      rw [← unwind_written hunwind, hcolumn]
      exact place_holds (hplace.symm.trans hstep)
    | returned => cases hreturned

theorem Holds.steps (h : Holds outer a lines) {more : List (Nat × Statement)}
    (hsteps : a.steps outer number more = .ok a') : Holds outer a' (lines ++ more) := by
  induction more generalizing a number lines with
  | nil =>
    cases hsteps
    rwa [List.append_nil]
  | cons line rest ih =>
    rw [Assembly.steps] at hsteps
    split at hsteps
    next next hstep =>
      rw [List.append_cons]
      exact ih (h.step hstep) hsteps
    next => cases hsteps

theorem Holds.finish (h : Holds outer a lines) {body : List Node}
    (hfinish : a.finish outer = .ok body) :
    lines = Node.linesAll outer body ++ [(outer, .finish)] := by
  cases h with
  | running enclosing inner =>
    rw [Assembly.finish, if_neg Bool.false_ne_true] at hfinish
    split at hfinish <;> cases hfinish
  | returned inner =>
    cases hfinish
    rfl

theorem step_error {indent : Nat} {statement : Statement} {e : ListingError}
    (h : a.step outer number indent statement = .error e) : e.Misshapen := by
  rcases step_cases outer number indent a statement with ⟨e', herror, hshape⟩ |
    ⟨-, enclosing, body, -, -, hplace⟩
  · cases herror.symm.trans h
    exact hshape
  · exact place_error (hplace.symm.trans h)

theorem steps_error {e : ListingError} {more : List (Nat × Statement)}
    (h : a.steps outer number more = .error e) : e.Misshapen := by
  induction more generalizing a number with
  | nil => cases h
  | cons line rest ih =>
    rw [steps] at h
    split at h
    next => exact ih h
    next e' hstep =>
      cases h
      exact step_error hstep

theorem finish_error {e : ListingError} (h : a.finish outer = .error e) : e.Misshapen := by
  rw [finish] at h
  split at h
  next => cases h
  next =>
    split at h
    next =>
      cases h
      exact .missingReturn
    next e' hunwind =>
      cases h
      exact unwind_error hunwind

end Assembly

namespace Listing

variable {l : Listing}

theorem materialize_cases (h : l.check = .ok ()) :
    (∃ body, l.lines = Node.procedure l.margin.base body) ∨ ∃ e, l.materialize = .error e ∧
    e.Misshapen := by
  rw [materialize, h]
  dsimp only
  split
  next indent rest hlines =>
    split
    next hbase =>
      cases hsteps : Assembly.start.steps (l.margin.base + indentStep) 2 rest with
      | error e => exact .inr ⟨e, rfl, Assembly.steps_error hsteps⟩
      | ok a =>
        have hread : Assembly.Holds (l.margin.base + indentStep) a rest :=
          (Assembly.Holds.running [] []).steps hsteps
        rw [Except.bind]
        cases hfinish : a.finish (l.margin.base + indentStep) with
        | error e => exact .inr ⟨e, rfl, Assembly.finish_error hfinish⟩
        | ok body =>
          refine .inl ⟨body, ?_⟩
          rw [hlines, hbase, Node.procedure, hread.finish hfinish]
    next => exact .inr ⟨_, rfl, .missingEntry⟩
  next => exact .inr ⟨_, rfl, .missingEntry⟩

/-- A balanced listing is assembled just when its lines are those of a procedure, and then to the
only body with these lines; any other ends in an error that tells of its shape. -/
theorem materialize_inverts (hcheck : l.check = .ok ()) :
    ((∃ p, l.materialize = .ok p) ↔ ∃ body, l.lines = Node.procedure l.margin.base body) ∧
    (∀ body, l.lines = Node.procedure l.margin.base body →
      l.materialize = .ok ⟨body, frameFor (Node.varsAll body)⟩ ∧
      ∀ other, l.lines = Node.procedure l.margin.base other → other = body) ∧
    ((¬ ∃ body, l.lines = Node.procedure l.margin.base body) →
      ∃ e, l.materialize = .error e ∧ e.Misshapen) := by
  have hok : ∀ body, l.lines = Node.procedure l.margin.base body →
      l.materialize = .ok ⟨body, frameFor (Node.varsAll body)⟩ :=
        fun body hlines => materialize_procedure hcheck hlines
  refine ⟨⟨fun ⟨p, hp⟩ => ?_, fun ⟨body, hlines⟩ => ⟨_, hok body hlines⟩⟩, fun body hlines =>
    ⟨hok body hlines, ?_⟩, (materialize_cases hcheck).resolve_left⟩
  · rcases materialize_cases hcheck with hlines | ⟨e, herror, -⟩
    · exact hlines
    · cases hp.symm.trans herror
  · intro other hother
    -- Both bodies are the one that assembly answers.
    have hsame := (hok other hother).symm.trans (hok body hlines)
    exact congrArg Program.body (Except.ok.inj hsame)

theorem materialize_inverts_section : ∃ l : Listing, l.check = .ok () ∧ l.margin.base = 4 ∧
    l.materialize = .ok ⟨[.bind ⟨"x", 0, false⟩, .branch ⟨"x", ⟨"x", 0, false⟩, [], []⟩ []],
      1⟩ := by
  have hcheck :
      Listing.check ⟨.at 4, [.line 4 .define, .part (.at 8) [.line 8 (.bind ⟨"x", 0, false⟩)],
      .line 8 (.branch ⟨"x", ⟨"x", 0, false⟩, [], []⟩), .line 8 .finish]⟩ = .ok () := rfl
  exact ⟨_, hcheck, rfl, ((materialize_inverts hcheck).2.1 _ rfl).1⟩

end Listing

end Stencil
