import Mathlib.Data.String.Basic
import Stencil.Program.Rounds
import Stencil.Proofs.Batching
import Stencil.Proofs.Restoring

/-! Sizes, truth and loops agree. A value that has a length is true when it is not zero, a loop over
it has as many rounds, and what is first and last in it stands in the loop's slot in the first and
the last of them. -/

namespace Stencil

namespace Node

theorem bindsAny_eq_false {indent : Nat} {nodes : List Node}
    (h : ∀ line ∈ linesAll indent nodes, ∀ v, line.2 ≠ .bind v) : bindsAny nodes = false := by
  induction nodes using Node.forest generalizing indent with
  | nil => rfl
  | bind v rest ih => exact absurd rfl (h _ List.mem_cons_self v)
  | emit pieces rest ih => exact ih (List.forall_mem_cons.1 h).2
  | branch condition body rest ihBody ihRest =>
    rw [linesAll, lines, List.forall_mem_append, List.forall_mem_cons] at h
    exact Bool.or_eq_false_iff.2 ⟨ihBody h.1.2, ihRest h.2⟩
  | loop v items body rest ihBody ihRest =>
    rw [linesAll, lines, List.forall_mem_append, List.forall_mem_cons] at h
    exact Bool.or_eq_false_iff.2 ⟨ihBody h.1.2, ihRest h.2⟩

end Node

theorem loopFits_of_compile {F O : Type} {source : String} {c : Compiled}
    (h : compile source = .ok c) {inner body : List Node}
    (hinner : Node.BodyIn inner c.program.body) {x : Variable} {e : Expression Variable}
    (hloop : .loop x e body ∈ inner)
    {frame : Frame F O} (hframe : frame.size = c.program.slots) : LoopFits frame x body := by
  obtain ⟨blocks, -, rfl⟩ := compileWith_ok h
  constructor
  · obtain ⟨indent, hlines⟩ := hinner.lines indentStep
    have hline := hlines (indent, .loop x e) (Node.mem_linesAll.2 ⟨_, hloop, List.mem_cons_self⟩)
    have hvar : x ∈ Node.varsAll (Draft.compiledWith Text.isHidden blocks).program.body := by
      rw [← Node.linesAll_vars indentStep]
      exact List.mem_flatMap.2 ⟨_, hline, List.mem_cons_self⟩
    exact hframe ▸ slot_lt_frameFor hvar
  · have hbody : Node.BodyIn body (Draft.bodyNodes [] Draft.entry blocks) :=
      hinner.of_binds hloop rfl
    obtain ⟨indent, hlines⟩ := hbody.lines indentStep
    exact Node.bindsAny_eq_false fun line hline => Draft.ne_bind_of_body (hlines line hline)

variable {F O : Type} [Host F O] {scene : Scene F O} {frame : Frame F O} {past : String}
  {body : List Node}

theorem runFrom_node (node : Node) : runFrom scene frame [node] past =
    ⟨((runNode .plain scene.stage frame node).run.run past).2,
      ((runNode .plain scene.stage frame node).run.run past).1⟩ := by
  rw [runFrom, runNodes]
  simp only [runNodes, bind_pure]
  rfl

def bareRound (scene : Scene F O) (frame : Frame F O) (slot : Nat) (body : List Node)
    (item : Value F O) :
    Run (StateM String) Unit :=
  runNodes .plain scene.stage (frame.setIfInBounds slot (some item)) body >>= fun _ => pure ()

theorem runNodes_bareRound (hbody : Node.bindsAny body = false) (slot : Nat) (item : Value F O) :
    runNodes .plain scene.stage (frame.setIfInBounds slot (some item)) body = (do
      bareRound scene frame slot body item
      return frame.setIfInBounds slot (some item)) := by
  simp only [bareRound, bind_assoc, pure_bind]
  exact EndsWith.runNodes scene.stage hbody _

/-- The rounds of a loop over the items, on a frame that holds anything in its slot. -/
theorem rounds_forM (scene : Scene F O) (frame : Frame F O) (slot : Nat)
    (hbody : Node.bindsAny body = false)
    (items : List (Value F O)) (held : Option (Value F O)) (past : String) : ∃ begun ended,
    Rounds scene slot body (frame.setIfInBounds slot held) past begun ended ∧
    (items.forM (bareRound scene frame slot body)).run.run past =
      (ended.result.map fun _ => (), ended.output) ∧
    begun <+: items ∧ begun.head? = items.head? ∧ (ended.result.isOk → begun = items) := by
  induction items generalizing held past with
  | nil => exact ⟨[], _, .done _ _, rfl, List.prefix_rfl, rfl, fun _ => rfl⟩
  | cons item rest ih =>
    obtain ⟨answer, text, hrun, -⟩ :=
      runNodes_restores scene (frame.setIfInBounds slot (some item)) hbody
    have hround : runFrom scene ((frame.setIfInBounds slot held).setIfInBounds slot (some item))
        body past =
        ⟨past ++ text, answer.map fun _ => frame.setIfInBounds slot (some item)⟩ := by
      rw [Array.setIfInBounds_setIfInBounds, runFrom, hrun]
    rw [List.forM_eq_forM, List.forM_cons]
    -- A round that ends well leaves nothing but its item in the slot, which the next one replaces.
    cases answer with
    | error e =>
      refine ⟨[item], _, .failed hround, ?_, ⟨rest, rfl⟩, rfl, nofun⟩
      rw [run_bind, bareRound, run_bind, hrun]
      rfl
    | ok =>
      obtain ⟨begun, ended, hrounds, hrest, hprefix, -, hall⟩ := ih (some item) (past ++ text)
      refine ⟨item :: begun, ended, .next hround hrounds, ?_, (List.prefix_cons_inj item).2 hprefix,
        rfl, fun hok => congrArg _ (hall hok)⟩
      rw [run_bind, bareRound, run_bind, hrun]
      exact hrest

variable {e : Expression Variable} {v : Value F O} {x : Variable}

theorem runFrom_branch (heval : eval .plain scene.stage frame e = pure v) :
    runFrom scene frame [.branch e body] past = if v.isTrue then runFrom scene frame body past
      else ⟨past, .ok frame⟩ := by
  rw [runFrom_node, runNode, heval, pure_bind]
  cases v.isTrue <;> rfl

theorem runFrom_loop_none (heval : eval .plain scene.stage frame e = pure v)
    (hitems : v.items? = none) :
    runFrom scene frame [.loop x e body] past = ⟨past, .error (.notIterable e.source v.kind)⟩ := by
  rw [runFrom_node, runNode, heval, pure_bind, hitems]
  rfl

theorem runNode_loop_some {items : List (Value F O)}
    (heval : eval .plain scene.stage frame e = pure v)
    (hitems : v.items? = some items) : runNode .plain scene.stage frame (.loop x e body) =
      overItems .plain (fun frame => runNodes .plain scene.stage frame body) x.slot frame
        items := by
  rw [runNode, heval, pure_bind, hitems]

theorem runFrom_loop_some {items : List (Value F O)}
    (heval : eval .plain scene.stage frame e = pure v)
    (hitems : v.items? = some items) (hfits : LoopFits frame x body) (past : String) :
    ∃ begun ended, Rounds scene x.slot body (frame.setIfInBounds x.slot none) past begun ended ∧
    runFrom scene frame [.loop x e body] past = ⟨ended.output, ended.result.map fun _ => frame⟩ ∧
    begun <+: items ∧ begun.head? = items.head? ∧ (ended.result.isOk → begun = items) := by
  obtain ⟨begun, ended, hrounds, hrun, hbegun⟩ :=
    rounds_forM scene frame x.slot hfits.body items none past
  refine ⟨begun, ended, hrounds, ?_, hbegun⟩
  rw [runFrom_node, runNode_loop_some heval hitems,
    overItems_eq hfits.slot (runNodes_bareRound hfits.body x.slot), run_bind, hrun]
  cases ended.result <;> rfl

theorem Rounds.isOk_of_nil {slot : Nat} {begun : List (Value F O)} {ended : Outcome F O}
    (h : Rounds scene slot [] frame past begun ended) : ended.result.isOk := by
  generalize hnil : ([] : List Node) = nodes at h
  induction h with
  | done => rfl
  | failed h =>
    subst hnil
    cases congrArg Outcome.result h
  | next _ _ ih => exact ih

theorem items_none_iff (heval : eval .plain scene.stage frame e = pure v)
    (hslot : x.slot < frame.size) : v.items? = none ↔
    ∀ body past, runFrom scene frame [.loop x e body] past =
      ⟨past, .error (.notIterable e.source v.kind)⟩ := by
  refine ⟨fun h body past => runFrom_loop_none heval h, fun h => ?_⟩
  cases hitems : v.items? with
  | none => rfl
  | some items =>
    have hfits : LoopFits frame x [] := ⟨hslot, rfl⟩
    obtain ⟨begun, ended, hrounds, hrun, -⟩ := runFrom_loop_some heval hitems hfits ""
    have hresult := congrArg Outcome.result ((h [] "").symm.trans hrun)
    have hok := hrounds.isOk_of_nil
    cases hended : ended.result with
    | ok =>
      rw [hended] at hresult
      cases hresult
    | error cause =>
      rw [hended] at hok
      cases hok

theorem items_of_isContainer (h : v.isContainer) : ∃ items, v.items? = some items ∧
    StockFilter.length.apply v = .ok (.int items.length) ∧
    v.isTrue = decide (0 < items.length) := by
  cases v with
  | string s =>
    refine ⟨_, rfl, ?_, ?_⟩
    · rw [List.length_map, String.length_toList]
      rfl
    · rw [Value.isTrue, List.length_map, Bool.eq_iff_iff, Bool.not_eq_true',
        String.isEmpty_eq_false_iff,
        decide_eq_true_eq, List.length_pos_iff, Ne, Ne, String.toList_eq_nil_iff]
  | list items =>
    refine ⟨items, rfl, rfl, ?_⟩
    cases items <;> rfl
  | map entries =>
    refine ⟨_, rfl, ?_, ?_⟩
    · rw [List.length_map]
      rfl
    · cases entries <;> rfl
  | _ => cases h

theorem join_characters (s : String) :
    String.join (s.toList.map fun c => (Value.string (String.singleton c) : Value F O).text) =
      s := by
  rw [String.join_eq, List.map_map]
  have hchars : (String.toList ∘ fun c => (Value.string (String.singleton c) : Value F O).text) =
      fun c => [c] := by
    funext c
    exact String.toList_singleton c
  rw [hchars, ← List.flatMap_def, List.flatMap_singleton', String.ofList_toList]

namespace StockFilter

theorem first_ok {items : List (Value F O)} (h : v.items? = some items) :
    StockFilter.first.apply v = .ok (items.head?.getD .none) := by
  rw [apply, h]

theorem last_ok {items : List (Value F O)} (h : v.items? = some items) :
    StockFilter.last.apply v = .ok (items.getLast?.getD .none) := by
  rw [apply, h]

theorem first_fails_iff :
    (∃ fault, StockFilter.first.apply v = .error fault) ↔ v.items? = none := by
  rw [apply]
  cases v.items? <;> simp

theorem last_fails_iff : (∃ fault, StockFilter.last.apply v = .error fault) ↔ v.items? = none := by
  rw [apply]
  cases v.items? <;> simp

end StockFilter

/-- The length of a text, list or map is the number of rounds that a loop over it has when none of
them fails, and a conditional on it runs its body when that number is not zero. What is first and
last is what the loop's slot holds as the first and the last round begin. First and last fail where
a loop fails because there are no items to walk over, and only there. A text has its characters as
items, which joined again are the text. -/
theorem sizes_agree (v : Value F O) :
    (v.isContainer → ∃ items, v.items? = some items ∧
      StockFilter.length.apply v = .ok (.int items.length) ∧
      ∀ (scene : Scene F O) (frame : Frame F O) (e : Expression Variable),
        eval .plain scene.stage frame e = pure v →
        ∀ (body : List Node) (past : String),
          runFrom scene frame [.branch e body] past =
            (if 0 < items.length then runFrom scene frame body past else ⟨past, .ok frame⟩) ∧
          ∀ x, LoopFits frame x body → ∃ begun ended,
            Rounds scene x.slot body (frame.setIfInBounds x.slot none) past begun ended ∧
            runFrom scene frame [.loop x e body] past =
              ⟨ended.output, ended.result.map fun _ => frame⟩ ∧
            begun <+: items ∧ StockFilter.first.apply v = .ok (begun.head?.getD .none) ∧
            (ended.result.isOk →
              begun.length = items.length ∧
              StockFilter.last.apply v = .ok (begun.getLast?.getD .none))) ∧
    (∀ (source : String) (c : Compiled), compile source = .ok c → ∀ inner,
      Node.BodyIn inner c.program.body →
      ∀ x e body, .loop x e body ∈ inner → ∀ frame : Frame F O, frame.size = c.program.slots →
      LoopFits frame x body) ∧
    (∀ (scene : Scene F O) (frame : Frame F O) (e : Expression Variable) (x : Variable),
      eval .plain scene.stage frame e = pure v → x.slot < frame.size →
      ((∃ fault, StockFilter.first.apply v = .error fault) ↔
        ∀ body past, runFrom scene frame [.loop x e body] past =
          ⟨past, .error (.notIterable e.source v.kind)⟩) ∧
      ((∃ fault, StockFilter.last.apply v = .error fault) ↔
        ∀ body past, runFrom scene frame [.loop x e body] past =
          ⟨past, .error (.notIterable e.source v.kind)⟩)) ∧
    (∀ s, v = .string s → ∃ items, v.items? = some items ∧
      items = s.toList.map (fun c => .string (String.singleton c)) ∧
      StockFilter.length.apply v = .ok (.int s.toList.length) ∧
      String.join (items.map Value.text) = s) := by
  refine ⟨fun hcontainer => ?_, fun source c h inner hinner x e body hloop frame =>
    loopFits_of_compile h hinner hloop, fun scene frame e x heval hslot => ?_, ?_⟩
  · obtain ⟨items, hitems, hlength, htrue⟩ := items_of_isContainer hcontainer
    refine ⟨items, hitems, hlength, fun scene frame e heval body past => ⟨?_, fun x hfits => ?_⟩⟩
    · rw [runFrom_branch heval, htrue]
      simp only [decide_eq_true_eq]
    · obtain ⟨begun, ended, hrounds, hrun, hprefix, hhead, hall⟩ :=
        runFrom_loop_some heval hitems hfits past
      refine ⟨begun, ended, hrounds, hrun, hprefix, ?_, fun hok => ?_⟩
      · rw [hhead, StockFilter.first_ok hitems]
      · rw [hall hok, StockFilter.last_ok hitems]
        exact ⟨rfl, rfl⟩
  · have hnone := items_none_iff heval hslot
    exact ⟨StockFilter.first_fails_iff.trans hnone, StockFilter.last_fails_iff.trans hnone⟩
  · rintro s rfl
    refine ⟨_, rfl, rfl, ?_, ?_⟩
    · rw [String.length_toList]
      rfl
    · rw [List.map_map]
      exact join_characters s

theorem sizes_agree_characters :
    let v : Value Empty Empty := .string "hé"
    let scene : Scene Empty Empty := ⟨fun _ => none, .dots⟩
    let frame : Frame Empty Empty := #[some v, none]
    let body : List Node := [.emit [.output ⟨"c", ⟨"c", 1, true⟩, [], []⟩, .literal "."]]
    StockFilter.length.apply v = .ok (.int 2) ∧ StockFilter.last.apply v = .ok (.string "é") ∧
    ∃ begun ended, Rounds scene 1 body frame "" begun ended ∧ ended.output = "h.é." ∧
      begun.length = 2 := by
  intro v scene frame body
  have heval : eval .plain scene.stage frame ⟨"s", ⟨"s", 0, false⟩, [], []⟩ = pure v := rfl
  have hfits : LoopFits frame ⟨"c", 1, true⟩ body := ⟨by decide, rfl⟩
  have hends : runFrom scene frame [.loop ⟨"c", 1, true⟩ ⟨"s", ⟨"s", 0, false⟩, [], []⟩ body] "" =
      ⟨"h.é.", .ok frame⟩ := rfl
  obtain ⟨items, hitems, -, hruns⟩ := (sizes_agree v).1 rfl
  obtain ⟨begun, ⟨output, result⟩, hrounds, hrun, -, -, hlast⟩ :=
    (hruns scene frame _ heval body "").2 _ hfits
  obtain ⟨houtput, hresult⟩ := Outcome.mk.inj (hends.symm.trans hrun)
  refine ⟨rfl, rfl, begun, _, hrounds, houtput.symm, ?_⟩
  cases result with
  | error cause => cases hresult
  | ok frame' =>
    cases hitems
    exact (hlast rfl).1

end Stencil
