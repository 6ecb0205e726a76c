import Stencil.Proofs.Grammar
import Stencil.Proofs.Simulation
import Stencil.Template

/-! Whole renders. The binds put what is found for the free names into a fresh frame, and on that
frame the body does what the blocks mean; so a compiled template renders what its block tree
means. -/

namespace Stencil

variable {F O : Type} {m : Type → Type} [Monad m]

namespace Frame

def fill (frame : Frame F O) : List Nat → List (Value F O) → Frame F O
  | slot :: slots, value :: values => fill (frame.setIfInBounds slot (some value)) slots values
  | _, _ => frame

theorem size_fill (frame : Frame F O) (slots : List Nat) (values : List (Value F O)) :
    (frame.fill slots values).size = frame.size := by
  induction slots generalizing frame values with
  | nil => rfl
  | cons slot slots ih =>
    cases values with
    | nil => rfl
    | cons value values => rw [fill, ih, Array.size_setIfInBounds]

theorem fill_of_notMem {frame : Frame F O} {slots : List Nat} {slot : Nat} (h : slot ∉ slots)
    (values : List (Value F O)) : (frame.fill slots values)[slot]? = frame[slot]? := by
  induction slots generalizing frame values with
  | nil => rfl
  | cons first slots ih =>
    cases values with
    | nil => rfl
    | cons value values =>
      obtain ⟨hne, hslots⟩ := not_or.1 (mt List.mem_cons.2 h)
      rw [fill, ih hslots, Array.getElem?_setIfInBounds_ne (Ne.symm hne)]

end Frame

namespace Meaning

theorem find_bind_congr [LawfulMonad m] {α : Type} (stage : Stage m F O) {names : List String}
    {k k' : Bindings F O → Run m α} (h : ∀ bindings, bindings.map Prod.fst = names → k bindings =
      k' bindings) :
    (find stage names >>= k) = (find stage names >>= k') := by
  induction names generalizing k k' with
  | nil =>
    rw [find, pure_bind, pure_bind]
    exact h [] rfl
  | cons name rest ih =>
    simp only [find, bind_assoc]
    refine bind_congr fun found => ?_
    cases found with
    | none => rw [throw_bind, throw_bind]
    | some value =>
      simp only [bind_assoc, pure_bind]
      refine ih fun bindings hbindings => h _ ?_
      rw [List.map_cons, hbindings]

end Meaning

theorem Frame.fill_held {frame : Frame F O} {free : Entries Nat} {bindings : Meaning.Bindings F O}
    (hkeys : bindings.map Prod.fst = Entries.keys free) (hdistinct : (free.map Prod.snd).Nodup)
    (hsize : ∀ entry ∈ free, entry.2 < frame.size) {name : String} {slot : Nat}
    (hslot : Entries.find? free name = some slot) :
    ∃ value, bindings.lookup name = some value ∧
      (frame.fill (free.map Prod.snd) (bindings.map Prod.snd))[slot]? = some (some value) := by
  induction free generalizing frame bindings with
  | nil => cases hslot
  | cons entry rest ih =>
    obtain ⟨first, given⟩ := entry
    cases bindings with
    | nil => cases hkeys
    | cons binding bindings =>
      obtain ⟨n, value⟩ := binding
      obtain ⟨rfl, hrest⟩ := List.cons_eq_cons.1 hkeys
      rw [List.map_cons, List.nodup_cons] at hdistinct
      simp only [List.map_cons, Frame.fill]
      rw [Entries.find?] at hslot
      split at hslot
      -- No later name has this slot, so the value stays in it.
      next hname =>
        cases hslot
        refine ⟨value, ?_, ?_⟩
        · rw [List.lookup_cons, beq_iff_eq.2 hname.symm]
        · rw [Frame.fill_of_notMem hdistinct.1]
          exact Array.getElem?_setIfInBounds_self_of_lt (hsize _ List.mem_cons_self)
      next hname =>
        have hsize' : ∀ entry ∈ rest, entry.2 < (frame.setIfInBounds given (some value)).size := by
          intro entry hentry
          rw [Array.size_setIfInBounds]
          exact hsize entry (List.mem_cons_of_mem _ hentry)
        obtain ⟨found, hfound, hheld⟩ := ih hrest hdistinct.2 hsize' hslot
        refine ⟨found, ?_, hheld⟩
        rw [List.lookup_cons, beq_false_of_ne (Ne.symm hname), hfound]

variable [LawfulMonad m] [Host F O]

theorem runNodes_bindNodes (stage : Stage m F O) {frame : Frame F O} {free : Entries Nat}
    (hsize : ∀ entry ∈ free, entry.2 < frame.size) :
    runNodes .plain stage frame (Draft.bindNodes free) = (do
      let bindings ← Meaning.find stage (Entries.keys free)
      return frame.fill (free.map Prod.snd) (bindings.map Prod.snd)) := by
  induction free generalizing frame with
  | nil => simp [Draft.bindNodes, runNodes, Entries.keys, Meaning.find, Frame.fill]
  | cons entry rest ih =>
    obtain ⟨name, slot⟩ := entry
    have hslot : slot < frame.size := hsize (name, slot) List.mem_cons_self
    change (runNode .plain stage frame (.bind ⟨name, slot, false⟩) >>= fun frame =>
      runNodes .plain stage frame (Draft.bindNodes rest)) =
        (Meaning.find stage (name :: Entries.keys rest) >>= fun bindings =>
        pure (frame.fill (slot :: rest.map Prod.snd) (bindings.map Prod.snd)))
    simp only [runNode, Access.plain_error, Meaning.find, bind_assoc]
    refine bind_congr fun found => ?_
    cases found with
    | none => rw [throw_bind, throw_bind]
    | some value =>
      have hrest : ∀ entry ∈ rest, entry.2 < (frame.setIfInBounds slot (some value)).size := by
        intro entry hentry
        rw [Array.size_setIfInBounds]
        exact hsize entry (List.mem_cons_of_mem _ hentry)
      simp only [Access.store_of_lt hslot, liftM_ok, pure_bind, ih hrest, bind_assoc, List.map_cons,
        Frame.fill]

/-- The program of a template does on every stage what its blocks mean there, whatever effects the
stage has. -/
theorem exec_compiled (stage : Stage m F O) (body : List Block) :
    ((Draft.compiled body).program.exec stage >>= fun _ => pure ()) =
      Meaning.template stage body := by
  have hlast : Draft.Precedes (Draft.blocks [] Draft.entry body) (Draft.ofBlocks body) :=
    Draft.precedes_of_eq (Draft.flush_free _) (Draft.flush_slots _).ge
  have hdistinct := (Draft.ofBlocks_numbered body).distinct
  obtain ⟨fresh, hfresh⟩ : ∃ fresh : Frame F O,
      fresh = Array.replicate (Draft.compiled body).program.slots none :=
    ⟨_, rfl⟩
  have hslots : fresh.size = (Draft.compiled body).program.slots := by
    rw [hfresh, Array.size_replicate]
  have hexec : (Draft.compiled body).program.exec stage = runNodes .plain stage fresh
      (Draft.bindNodes (Draft.ofBlocks body).free ++ Draft.bodyNodes [] Draft.entry body) := by
    rw [hfresh]
    rfl
  have hbinds : ∀ entry ∈ (Draft.ofBlocks body).free, entry.2 < fresh.size := by
    rw [hslots]
    exact fun entry hentry => Draft.slot_lt_of_free hentry
  rw [hexec, runNodes_append, runNodes_bindNodes stage hbinds, Draft.ofBlocks_keys,
    Meaning.template]
  simp only [bind_assoc, pure_bind]
  -- Both sides ask for the free names first; what is found fills a frame that fits the body.
  refine Meaning.find_bind_congr stage fun bindings hbindings => ?_
  rw [← Draft.ofBlocks_keys] at hbindings
  have hfits : Fits (Draft.ofBlocks body) [] bindings
      (fresh.fill ((Draft.ofBlocks body).free.map Prod.snd) (bindings.map Prod.snd)) :=
    ⟨nofun, fun _ hslot => Frame.fill_held hbindings hdistinct hbinds hslot⟩
  have hbody : ∀ v ∈ Node.varsAll (Draft.bodyNodes [] Draft.entry body),
      v.slot < (fresh.fill ((Draft.ofBlocks body).free.map Prod.snd)
        (bindings.map Prod.snd)).size := by
    rw [Frame.size_fill, hslots]
    exact fun v hv => Draft.slot_lt_of_body hv
  rw [runNodes_bodyNodes stage body hfits Draft.within_entry hlast hbody]
  simp [Draft.entry, emit]

theorem run_bind {ε σ α β : Type} (run : ExceptT ε (StateM σ) α) (k : α → ExceptT ε (StateM σ) β)
    (s : σ) :
    (run >>= k).run.run s = match run.run.run s with
      | (.ok a, s') => (k a).run.run s'
      | (.error e, s') => (.error e, s') := by
  rw [ExceptT.run_bind, StateT.run_bind]
  change (match run.run.run s with | (answer, s') => _) = _
  rcases run.run.run s with ⟨answer | answer, s'⟩ <;> rfl

theorem run_lift {σ α : Type} (x : StateM σ α) (s : σ) :
    (liftM x : Run (StateM σ) α).run.run s = (.ok (x.run s).1, (x.run s).2) := rfl

theorem Program.render_compiled (scene : Scene F O) (body : List Block) :
    (Draft.compiled body).program.render scene = Meaning.render scene body := by
  rw [Meaning.render, ← exec_compiled, run_bind, Program.render, Program.run]
  rcases ((Draft.compiled body).program.exec scene.stage).run.run "" with
    ⟨answer | answer, output⟩ <;> rfl

namespace Template

/-- A template renders what the block tree of its text means, where a name is looked up in the
values and then in the merged contexts; and there is a template exactly where there is such a
tree. -/
theorem render_eq_meaning (source : String) (contexts : List (Context F O)) :
    ((∃ t, withContexts source contexts = .ok t) ↔
      ∃ body, Derives (tokenize source) body ∧
        Nesting.depthAll (Block.nestingAll body) ≤ maxDepth) ∧
    ∀ (t : Template F O) (body : List Block), withContexts source contexts = .ok t →
      Derives (tokenize source) body → Nesting.depthAll (Block.nestingAll body) ≤ maxDepth →
      ∀ (values : Lookup F O) (resolver : Resolver F O), t.render values resolver =
        Meaning.render ⟨fun name =>
          (values name).or (Entries.find? (mergeContexts contexts) name), resolver⟩ body := by
  refine ⟨⟨?_, ?_⟩, ?_⟩
  · rintro ⟨t, h⟩
    obtain ⟨body, hbody, -⟩ := withContexts_ok h
    exact ⟨body, ofTokens_ok_iff.1 hbody⟩
  · rintro ⟨body, htree⟩
    exact ⟨_, withContexts_of_ofTokens (ofTokens_ok_iff.2 htree) contexts⟩
  · intro t body h hderives hdepth values resolver
    have hbody := ofTokens_ok_iff.2 ⟨hderives, hdepth⟩
    cases h.symm.trans (withContexts_of_ofTokens hbody contexts)
    exact Program.render_compiled _ body

/-- The loop's own name stands for the whole list where the loop is entered, and for one item
inside. -/
theorem render_eq_meaning_greeting :
    ∃ t : Template Empty Empty, withContexts
      "{{ user.name|upper }}:{% for x in x %}{% if x %} {{ x }}{% endif %}{% endfor %}"
      [[("user", .none)], [("upper", .filter (.stock .upper 0)),
        ("user", .map [("name", .string "Ann")])]] = .ok t ∧
    t.render (.ofPairs [("x", .list [.string "a", .string "", .string "b"])]) .dots =
      .ok "ANN: a b" ∧
    t.render (.ofPairs [("x", .string "ab")]) .dots = .ok "ANN: a b" ∧
    t.render (.ofPairs [("x", .none)]) .dots = .error (.notIterable "x" "none") ∧
    t.render (fun _ => none) .dots = .error (.missingVariable "x") := by
  have htokens : tokenize
      "{{ user.name|upper }}:{% for x in x %}{% if x %} {{ x }}{% endif %}{% endfor %}" =
        [⟨.expression, 0, " user.name|upper ".toList⟩, ⟨.text, 21, ":".toList⟩,
          ⟨.tag, 22, " for x in x ".toList⟩, ⟨.tag, 38, " if x ".toList⟩, ⟨.text, 48, " ".toList⟩,
          ⟨.expression, 49, " x ".toList⟩, ⟨.tag, 56, " endif ".toList⟩,
          ⟨.tag, 67, " endfor ".toList⟩] := by
    decide +kernel
  have hbody : Block.ofTokens (tokenize
      "{{ user.name|upper }}:{% for x in x %}{% if x %} {{ x }}{% endif %}{% endfor %}") =
        .ok [.output ⟨"user.name|upper", "user", ["name"], ["upper"]⟩, .text ":",
          .loop "x" ⟨"x", "x", [], []⟩
            [.branch ⟨"x", "x", [], []⟩ [.text " ", .output ⟨"x", "x", [], []⟩]]] := by
    rw [htokens]
    rfl
  obtain ⟨hderives, hdepth⟩ := ofTokens_ok_iff.1 hbody
  obtain ⟨t, h⟩ := (render_eq_meaning _ [[("user", (.none : Value Empty Empty))],
    [("upper", .filter (.stock .upper 0)), ("user", .map [("name", .string "Ann")])]]).1.2
      ⟨_, hderives, hdepth⟩
  have hrender := (render_eq_meaning _ _).2 t _ h hderives hdepth
  refine ⟨t, h, ?_, ?_, ?_, ?_⟩
  · rw [hrender]
    rfl
  · rw [hrender]
    rfl
  · rw [hrender]
    rfl
  · rw [hrender]
    rfl

end Template

end Stencil
