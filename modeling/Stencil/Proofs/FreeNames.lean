import Stencil.Program.Record
import Stencil.Proofs.Render

/-! What a render needs. Names are looked up before anything else, and what comes after is the same
on every stage with the same resolver: it looks nothing up, and misses nothing when the free names
were found. -/

namespace Stencil

variable {F O α β : Type}

theorem Event.output_append (a b : List (Event F O)) : output (a ++ b) = output a ++ output b := by
  rw [output, List.map_append, String.join_append, output, output]

/-- A recorded run and a plain run do the same whatever came before: they look nothing up, miss no
name, and end alike, and the record tells the output. -/
def Steady (x : Run (Recorded F O) α) (y : Run (StateM String) α) : Prop :=
  ∃ (answer : Except RenderError α) (events : List (Event F O)),
    (∀ past, x.run.run past = (answer, past ++ events)) ∧
    (∀ text, y.run.run text = (answer, text ++ Event.output events)) ∧
    (∀ event ∈ events, event.isLookup = false) ∧ ∀ name, answer ≠ .error (.missingVariable name)

theorem steady_pure (a : α) : Steady (pure a : Run (Recorded F O) α) (pure a) := by
  refine ⟨.ok a, [], fun past => ?_, fun text => ?_, nofun, nofun⟩
  · rw [List.append_nil]
    rfl
  · rw [Event.output, List.map_nil, String.join_nil, String.append_empty]
    rfl

theorem steady_throw {e : RenderError} (h : ∀ name, e ≠ .missingVariable name) :
    Steady (throw e : Run (Recorded F O) α) (throw e) := by
  refine ⟨.error e, [], fun past => ?_, fun text => ?_, nofun, fun name heq => ?_⟩
  · rw [List.append_nil]
    rfl
  · rw [Event.output, List.map_nil, String.join_nil, String.append_empty]
    rfl
  · exact h name (Except.error.inj heq)

theorem Steady.bind {x : Run (Recorded F O) α} {y : Run (StateM String) α} (h : Steady x y)
    {k : α → Run (Recorded F O) β} {k' : α → Run (StateM String) β}
    (hk : ∀ a, Steady (k a) (k' a)) :
    Steady (x >>= k) (y >>= k') := by
  obtain ⟨answer, events, hx, hy, hquiet, hfound⟩ := h
  cases answer with
  | error e =>
    refine ⟨.error e, events, fun past => ?_, fun text => ?_, hquiet, fun name heq => ?_⟩
    · rw [run_bind, hx]
    · rw [run_bind, hy]
    · exact hfound name (congrArg Except.error (Except.error.inj heq))
  | ok a =>
    obtain ⟨answer, later, hx', hy', hquiet', hfound'⟩ := hk a
    refine ⟨answer, events ++ later, fun past => ?_, fun text => ?_, fun event hevent => ?_,
      hfound'⟩
    · rw [run_bind, hx]
      exact (hx' _).trans (by rw [List.append_assoc])
    · rw [run_bind, hy]
      exact (hy' _).trans (by rw [Event.output_append, String.append_assoc])
    · rcases List.mem_append.1 hevent with hevent | hevent
      · exact hquiet event hevent
      · exact hquiet' event hevent

theorem steady_event (event : Event F O) (hevent : event.isLookup = false) {x : Recorded F O α}
    {y : StateM String α}
    {a : α} (hx : ∀ past, x.run past = (a, past ++ [event]))
    (hy : ∀ text, y.run text = (a, text ++ event.text)) :
    Steady (liftM x : Run (Recorded F O) α) (liftM y : Run (StateM String) α) := by
  refine ⟨.ok a, [event], fun past => ?_, fun text => ?_, fun e he => ?_, nofun⟩
  · rw [run_lift, hx]
  · rw [Event.output, List.map_singleton, String.join_cons, String.join_nil, String.append_empty]
    rw [run_lift, hy]
  · rw [List.mem_singleton.1 he, hevent]

section Scenes

variable [Host F O] {scene scene' : Scene F O} (hresolver : scene'.resolver = scene.resolver)

theorem steady_call (filter : Filter F) (value : Value F O) :
    Steady (liftM (scene.recorder.call filter value) : Run (Recorded F O) _)
      (liftM (scene'.stage.call filter value) : Run (StateM String) _) := by
  refine steady_event (.call filter value) rfl (fun _ => rfl) fun text => ?_
  change (filter.call value, text) = (filter.call value, text ++ "")
  rw [String.append_empty]

theorem steady_write (text : String) :
    Steady (liftM (scene.recorder.write text) : Run (Recorded F O) _)
      (liftM (scene'.stage.write text) : Run (StateM String) _) :=
  steady_event (.write text) rfl (fun _ => rfl) fun _ => rfl

include hresolver

theorem steady_resolve (value : Value F O) (segment : String) :
    Steady (liftM (scene.recorder.resolve value segment) : Run (Recorded F O) _)
      (liftM (scene'.stage.resolve value segment) : Run (StateM String) _) := by
  refine steady_event (.resolve value segment) rfl (fun _ => rfl) fun text => ?_
  change (scene'.resolver value segment, text) = (scene.resolver value segment, text ++ "")
  rw [hresolver, String.append_empty]

theorem steady_follow (taken : List String) (value : Value F O) (path : List String) :
    Steady (Meaning.follow scene.recorder taken value path)
      (Meaning.follow scene'.stage taken value path) := by
  induction path generalizing taken value with
  | nil => exact steady_pure value
  | cons segment rest ih =>
    refine (steady_resolve hresolver value segment).bind fun found => ?_
    cases found with
    | none => exact steady_throw nofun
    | some value => exact ih _ value

end Scenes

theorem steady_forM {said : Value F O → Run (Recorded F O) Unit}
    {said' : Value F O → Run (StateM String) Unit}
    (h : ∀ item, Steady (said item) (said' item)) (items : List (Value F O)) :
    Steady (items.forM said) (items.forM said') := by
  induction items with
  | nil => exact steady_pure ()
  | cons item rest ih => exact (h item).bind fun _ => ih

def Meaning.Bindings.Cover (bindings : Meaning.Bindings F O) (names : List String) : Prop :=
  ∀ name ∈ names, ∃ value, bindings.lookup name = some value

theorem Meaning.Bindings.Cover.names {bindings : Meaning.Bindings F O} {bound : List String}
    {e : Expression String}
    (hbound : bindings.Cover bound) (hfree : bindings.Cover (e.freeNames bound)) :
    bindings.Cover e.names := by
  intro name hname
  by_cases h : name ∈ bound
  · exact hbound name h
  · refine hfree name (List.mem_filter.2 ⟨hname, ?_⟩)
    simpa using h

theorem Meaning.Bindings.Cover.of_append {bindings : Meaning.Bindings F O} {a b : List String}
    (h : bindings.Cover (a ++ b)) : bindings.Cover a ∧ bindings.Cover b :=
  ⟨fun name hname => h name (List.mem_append_left _ hname), fun name hname =>
    h name (List.mem_append_right _ hname)⟩

theorem Meaning.Bindings.Cover.cons {bindings : Meaning.Bindings F O} {names : List String}
    (h : bindings.Cover names)
    (name : String) (value : Value F O) : Cover ((name, value) :: bindings) (name :: names) := by
  intro n hn
  rw [List.lookup_cons]
  cases heq : n == name with
  | true => exact ⟨value, rfl⟩
  | false =>
    rcases List.mem_cons.1 hn with rfl | hn
    · rw [beq_self_eq_true] at heq
      cases heq
    · exact h n hn

theorem steady_value {bindings : Meaning.Bindings F O} {name : String} {value : Value F O}
    (h : bindings.lookup name = some value) :
    Steady (liftM (bindings.value name) : Run (Recorded F O) _) (liftM (bindings.value name)) := by
  rw [Meaning.Bindings.value, h]
  exact steady_pure value

section Scenes

variable [Host F O] {scene scene' : Scene F O} {bindings : Meaning.Bindings F O}

theorem steady_filtered (value : Value F O) {names : List String} (hcover : bindings.Cover names) :
    Steady (Meaning.filtered scene.recorder bindings value names)
      (Meaning.filtered scene'.stage bindings value names) := by
  induction names generalizing value with
  | nil => exact steady_pure value
  | cons name rest ih =>
    obtain ⟨callee, hcallee⟩ := hcover name List.mem_cons_self
    refine (steady_value hcallee).bind fun callee => ?_
    cases callee.filter? with
    | none => exact steady_throw nofun
    | some filter =>
      refine (steady_call filter value).bind fun answer => ?_
      cases answer with
      | error cause => exact steady_throw nofun
      | ok value => exact ih value fun n hn => hcover n (List.mem_cons_of_mem _ hn)

variable (hresolver : scene'.resolver = scene.resolver)

include hresolver

theorem steady_expression {e : Expression String} (hcover : bindings.Cover e.names) :
    Steady (Meaning.expression scene.recorder bindings e)
      (Meaning.expression scene'.stage bindings e) := by
  obtain ⟨head, hhead⟩ := hcover e.head List.mem_cons_self
  refine (steady_value hhead).bind fun head => ?_
  refine (steady_follow hresolver [e.head] head e.path).bind fun value => ?_
  exact steady_filtered value fun n hn => hcover n (List.mem_cons_of_mem _ hn)

theorem steady_blocks {bound : List String} {body : List Block} (hbound : bindings.Cover bound)
    (hfree : bindings.Cover (Block.freeUsesAll bound body)) :
    Steady (Meaning.blocks scene.recorder bindings body)
      (Meaning.blocks scene'.stage bindings body) := by
  induction body using Block.forest generalizing bound bindings with
  | nil => exact steady_pure ()
  | text s rest ih => exact (steady_write s).bind fun _ => ih hbound hfree
  | output e rest ih =>
    obtain ⟨he, hrest⟩ := hfree.of_append
    refine Steady.bind ?_ fun _ => ih hbound hrest
    exact (steady_expression hresolver (hbound.names he)).bind fun value => steady_write value.text
  | branch condition body rest ihBody ihRest =>
    obtain ⟨hblock, hrest⟩ := hfree.of_append
    obtain ⟨hcondition, hbody⟩ := hblock.of_append
    refine Steady.bind ?_ fun _ => ihRest hbound hrest
    refine (steady_expression hresolver (hbound.names hcondition)).bind fun value => ?_
    cases value.isTrue with
    | true => exact ihBody hbound hbody
    | false => exact steady_pure ()
  | loop name items body rest ihBody ihRest =>
    obtain ⟨hblock, hrest⟩ := hfree.of_append
    obtain ⟨hitems, hbody⟩ := hblock.of_append
    refine Steady.bind ?_ fun _ => ihRest hbound hrest
    refine (steady_expression hresolver (hbound.names hitems)).bind fun value => ?_
    cases value.items? with
    | none => exact steady_throw nofun
    | some values =>
      refine steady_forM (fun item => ?_) values
      -- Only the loop's name has another value inside, and it has one there.
      have hinner := hbound.cons name item
      refine ihBody hinner fun n hn => ?_
      by_cases heq : n = name
      · exact hinner n (heq ▸ List.mem_cons_self)
      · obtain ⟨value, hvalue⟩ := hbody n hn
        exact ⟨value, by rw [List.lookup_cons, beq_false_of_ne heq, hvalue]⟩

end Scenes

namespace Meaning

def answers (lookup : Lookup F O) : List String → Except RenderError (Bindings F O)
  | [] => .ok []
  | name :: rest =>
    match lookup name with
    | none => .error (.missingVariable name)
    | some value => (answers lookup rest).map fun bindings => (name, value) :: bindings

def asked (lookup : Lookup F O) : List String → List String
  | [] => []
  | name :: rest => if (lookup name).isNone then [name] else name :: asked lookup rest

theorem find_run {σ : Type} {stage : Stage (StateM σ) F O} {lookup : Lookup F O}
    (tell : σ → String → σ)
    (hstage : ∀ name s, (stage.lookup name).run s = (lookup name, tell s name))
    (names : List String) (s : σ) :
    (find stage names).run.run s = (answers lookup names, (asked lookup names).foldl tell s) := by
  induction names generalizing s with
  | nil => rfl
  | cons name rest ih =>
    have hlookup : (liftM (stage.lookup name) : Run (StateM σ) _).run.run s =
        (.ok (lookup name), tell s name) := by
      rw [run_lift, hstage]
    rw [find, run_bind, hlookup, answers, asked]
    cases lookup name with
    | none => rfl
    | some value =>
      simp only [run_bind, ih, Option.isNone_some, Bool.false_eq_true, if_false, List.foldl_cons]
      cases answers lookup rest <;> rfl

theorem find_recorded [Host F O] (scene : Scene F O) (names : List String)
    (past : List (Event F O)) :
    (find scene.recorder names).run.run past =
      (answers scene.lookup names, past ++ (asked scene.lookup names).map .lookup) := by
  have hrecord : ∀ (names : List String) (past : List (Event F O)),
      names.foldl (fun past name => past ++ [.lookup name]) past = past ++ names.map .lookup := by
    intro names
    induction names with
    | nil => exact fun past => (List.append_nil past).symm
    | cons name rest ih =>
      intro past
      rw [List.foldl_cons, ih, List.append_assoc]
      rfl
  rw [← hrecord]
  exact find_run _ (fun _ _ => rfl) names past

theorem find_plain [Host F O] (scene : Scene F O) (names : List String) (text : String) :
    (find scene.stage names).run.run text = (answers scene.lookup names, text) := by
  have hsilent : ∀ names : List String, names.foldl (fun text _ => text) text = text := by
    intro names
    induction names with
    | nil => rfl
    | cons name rest ih => exact ih
  have hrun : (find scene.stage names).run.run text =
      (answers scene.lookup names, (asked scene.lookup names).foldl (fun text _ => text) text) :=
    find_run _ (fun _ _ => rfl) names text
  rwa [hsilent] at hrun

theorem asked_prefix (lookup : Lookup F O) (names : List String) :
    asked lookup names <+: names := by
  induction names with
  | nil => exact List.prefix_refl []
  | cons name rest ih =>
    rw [asked]
    split
    · exact ⟨rest, rfl⟩
    · exact List.cons_prefix_cons.2 ⟨rfl, ih⟩

theorem asked_found {lookup : Lookup F O} {names : List String}
    (h : ∀ name ∈ names, lookup name ≠ none) : asked lookup names = names := by
  induction names with
  | nil => rfl
  | cons name rest ih =>
    obtain ⟨value, hvalue⟩ := Option.ne_none_iff_exists'.1 (h name List.mem_cons_self)
    rw [asked, hvalue, ih fun n hn => h n (List.mem_cons_of_mem _ hn)]
    rfl

theorem answers_congr {lookup lookup' : Lookup F O} {names : List String}
    (h : ∀ name ∈ names, lookup name = lookup' name) :
    answers lookup names = answers lookup' names := by
  induction names with
  | nil => rfl
  | cons name rest ih =>
    rw [answers, answers, h name List.mem_cons_self, ih fun n hn => h n (List.mem_cons_of_mem _ hn)]

theorem answers_ok {lookup : Lookup F O} {names : List String} {bindings : Bindings F O}
    (h : answers lookup names = .ok bindings) : bindings.Cover names := by
  induction names generalizing bindings with
  | nil => exact nofun
  | cons name rest ih =>
    rw [answers] at h
    cases hname : lookup name with
    | none =>
      rw [hname] at h
      cases h
    | some value =>
      rw [hname] at h
      cases hrest : answers lookup rest with
      | error e =>
        rw [hrest] at h
        cases h
      | ok found =>
        rw [hrest] at h
        cases h
        exact (ih hrest).cons name value

theorem answers_error {lookup : Lookup F O} {names : Names} (hsorted : names.Sorted) {name : String}
    (hname : name ∈ names) (hmissing : lookup name = none) :
    ∃ least ∈ names, lookup least = none ∧ answers lookup names = .error (.missingVariable least) ∧
      ∀ other ∈ names, lookup other = none → other = least ∨ compare least other = .lt := by
  induction names with
  | nil => cases hname
  | cons first rest ih =>
    obtain ⟨hfirst, hrest⟩ := List.pairwise_cons.1 hsorted
    rw [answers]
    cases hlookup : lookup first with
    | none =>
      refine ⟨first, List.mem_cons_self, hlookup, rfl, fun other hother _ => ?_⟩
      exact (List.mem_cons.1 hother).imp id (hfirst other)
    | some value =>
      have hne : ∀ {n}, n ∈ first :: rest → lookup n = none → n ∈ rest := by
        intro n hn hnone
        refine (List.mem_cons.1 hn).resolve_left ?_
        rintro rfl
        rw [hlookup] at hnone
        cases hnone
      obtain ⟨least, hleast, hnone, herror, hmin⟩ := ih hrest (hne hname hmissing)
      refine ⟨least, List.mem_cons_of_mem _ hleast, hnone, ?_, fun other hother hother' => ?_⟩
      · rw [herror]
        rfl
      · exact hmin other (hne hother hother') hother'

theorem answers_found {lookup : Lookup F O} {names : List String}
    (h : ∀ name ∈ names, lookup name ≠ none) :
    ∃ bindings, answers lookup names = .ok bindings := by
  induction names with
  | nil => exact ⟨[], rfl⟩
  | cons name rest ih =>
    obtain ⟨value, hvalue⟩ := Option.ne_none_iff_exists'.1 (h name List.mem_cons_self)
    obtain ⟨bindings, hrest⟩ := ih fun n hn => h n (List.mem_cons_of_mem _ hn)
    exact ⟨(name, value) :: bindings, by rw [answers, hvalue, hrest]; rfl⟩

end Meaning

section Scenes

variable [Host F O] (scene scene' : Scene F O) (body : List Block)

/-- A recorded run and a plain run with the same resolver, whose look-ups agree on the free names:
first the free names are asked for, up to the first that is missing, and then both go on alike
without another look-up. -/
theorem template_steady (hresolver : scene'.resolver = scene.resolver)
    (hagree : ∀ name ∈ Block.freeNames body, scene'.lookup name = scene.lookup name) :
    ∃ (answer : Except RenderError Unit) (later : List (Event F O)),
      (∀ past, (Meaning.template scene.recorder body).run.run past =
        (answer, past ++ (Meaning.asked scene.lookup (Block.freeNames body)).map .lookup ++
          later)) ∧
      (∀ text, (Meaning.template scene'.stage body).run.run text =
        (answer, text ++ Event.output later)) ∧
      (∀ event ∈ later, event.isLookup = false) ∧
      ∀ name, answer = .error (.missingVariable name) ↔
        Meaning.answers scene.lookup (Block.freeNames body) = .error (.missingVariable name) := by
  have hasked := Meaning.find_recorded scene (Block.freeNames body)
  have hfound := Meaning.find_plain scene' (Block.freeNames body)
  rw [Meaning.answers_congr hagree] at hfound
  cases hanswers : Meaning.answers scene.lookup (Block.freeNames body) with
  | error e =>
    refine ⟨.error e, [], fun past => ?_, fun text => ?_, List.forall_mem_nil _, fun name => ?_⟩
    · rw [Meaning.template, run_bind, hasked, hanswers, List.append_nil]
    · rw [Meaning.template, run_bind, hfound, hanswers]
      exact congrArg (Prod.mk _) String.append_empty.symm
    · simp only [Except.error.injEq]
  | ok bindings =>
    have hcover : bindings.Cover (Block.freeUsesAll [] body) := fun name hname =>
      Meaning.answers_ok hanswers name (Names.mem_ofList.2 hname)
    obtain ⟨answer, later, hx, hy, hquiet, hnever⟩ :=
      steady_blocks hresolver (List.forall_mem_nil _) hcover
    refine ⟨answer, later, fun past => ?_, fun text => ?_, hquiet, fun name => ?_⟩
    · rw [Meaning.template, run_bind, hasked, hanswers]
      exact hx _
    · rw [Meaning.template, run_bind, hfound, hanswers]
      exact hy text
    · simp only [hnever name, reduceCtorEq]

theorem events_compiled :
    (Draft.compiled body).program.events scene =
      ((Meaning.template scene.recorder body).run.run []).2 := by
  rw [← exec_compiled, run_bind, Program.events]
  rcases ((Draft.compiled body).program.exec scene.recorder).run.run [] with
    ⟨answer | answer, events⟩ <;> rfl

theorem render_of_run {text : String} {answer : Except RenderError Unit}
    (h : (Meaning.template scene.stage body).run.run "" = (answer, "" ++ text)) :
    (Draft.compiled body).program.render scene = answer.map fun _ => text := by
  rw [Program.render_compiled, Meaning.render, h, String.empty_append]

theorem compiled_steady (hresolver : scene'.resolver = scene.resolver)
    (hagree : ∀ name ∈ Block.freeNames body, scene'.lookup name = scene.lookup name) :
    ∃ (answer : Except RenderError Unit) (later : List (Event F O)),
      (Draft.compiled body).program.events scene =
        (Meaning.asked scene.lookup (Block.freeNames body)).map .lookup ++ later ∧
      (Draft.compiled body).program.render scene = answer.map (fun _ => Event.output later) ∧
      (Draft.compiled body).program.render scene' = answer.map (fun _ => Event.output later) ∧
      (∀ event ∈ later, event.isLookup = false) ∧
      ∀ name, answer = .error (.missingVariable name) ↔
        Meaning.answers scene.lookup (Block.freeNames body) = .error (.missingVariable name) := by
  obtain ⟨answer, later, hrecord, hplain, hquiet, hmissing⟩ :=
    template_steady scene scene body rfl fun _ _ => rfl
  obtain ⟨answer', later', hrecord', hother, -, -⟩ :=
    template_steady scene scene' body hresolver hagree
  -- The record of `scene` is one, so both runs go on alike.
  obtain ⟨rfl, hlater⟩ := Prod.mk.inj ((hrecord []).symm.trans (hrecord' []))
  obtain rfl := List.append_cancel_left hlater
  refine ⟨answer, later, ?_, render_of_run _ _ (hplain ""), render_of_run _ _ (hother ""), hquiet,
    hmissing⟩
  rw [events_compiled, hrecord, List.nil_append]

variable {scene scene' body} in
theorem render_congr_free (hresolver : scene'.resolver = scene.resolver)
    (hagree : ∀ name ∈ Block.freeNames body, scene'.lookup name = scene.lookup name) :
    (Draft.compiled body).program.render scene' = (Draft.compiled body).program.render scene := by
  obtain ⟨answer, later, -, hleft, hright, -, -⟩ :=
    compiled_steady scene scene' body hresolver hagree
  rw [hleft, hright]

end Scenes

namespace Template

theorem free_of_withContexts {source : String} {contexts : List (Context F O)} {t : Template F O}
    (h : withContexts source contexts = .ok t) :
    ∃ body, Block.ofTokens (tokenize source) = .ok body ∧
      t.compiled = Draft.compiled body ∧ t.free = Block.freeNames body := by
  obtain ⟨body, hbody, rfl⟩ := withContexts_ok h
  exact ⟨body, hbody, rfl, Draft.ofBlocks_keys body⟩

theorem lookup_scene {source : String} {contexts : List (Context F O)} {t : Template F O}
    (h : withContexts source contexts = .ok t) (values : Lookup F O) (resolver : Resolver F O)
    (name : String) :
    (t.scene values resolver).lookup name =
      (values name).or (Entries.find? (mergeContexts contexts) name) := by
  obtain ⟨body, -, rfl⟩ := withContexts_ok h
  rfl

/-- The free names of a template are what its renders need, from the values or else from the merged
contexts: (a) nothing else that these hold matters, (b) the least of them that is in neither is
reported, (c) nothing is missing when each is in one of them, and they are looked up in order, once
each and before anything else is asked for or written: all of them when none is missing, and what
is written after is the text. -/
theorem free_exact [Host F O] {source : String} {contexts contexts' : List (Context F O)}
    {t t' : Template F O}
    (h : withContexts source contexts = .ok t) (h' : withContexts source contexts' = .ok t')
    (values values' : Lookup F O) (resolver : Resolver F O) :
    ((∀ name ∈ t.free, (values name).or (Entries.find? (mergeContexts contexts) name) =
        (values' name).or (Entries.find? (mergeContexts contexts') name)) →
      t.render values resolver = t'.render values' resolver) ∧
    (∀ name ∈ t.free, values name = none → Entries.find? (mergeContexts contexts) name = none →
      ∃ least ∈ t.free, values least = none ∧ Entries.find? (mergeContexts contexts) least = none ∧
        (∀ other ∈ t.free, values other = none →
          Entries.find? (mergeContexts contexts) other = none →
          other = least ∨ compare least other = .lt) ∧
        t.render values resolver = .error (.missingVariable least)) ∧
    ((∀ name ∈ t.free, values name ≠ none ∨ Entries.find? (mergeContexts contexts) name ≠ none) →
      ∀ name, t.render values resolver ≠ .error (.missingVariable name)) ∧
    t.free.Sorted ∧
    ∃ asked later, asked <+: t.free ∧ t.events values resolver = asked.map .lookup ++ later ∧
      (∀ event ∈ later, event.isLookup = false) ∧
      ((∀ name ∈ t.free, values name ≠ none ∨
        Entries.find? (mergeContexts contexts) name ≠ none) → asked = t.free) ∧
      ∀ text, t.render values resolver = .ok text → Event.output later = text := by
  obtain ⟨body, hbody, hcompiled, hfree⟩ := free_of_withContexts h
  obtain ⟨body', hbody', hcompiled', -⟩ := free_of_withContexts h'
  cases hbody.symm.trans hbody'
  have hmissed : ∀ name, (t.scene values resolver).lookup name = none ↔
      values name = none ∧ Entries.find? (mergeContexts contexts) name = none := by
    intro name
    rw [lookup_scene h, Option.or_eq_none_iff]
  obtain ⟨answer, later, hevents, hrender, -, hquiet, hmissing⟩ :=
    compiled_steady (t.scene values resolver) (t.scene values resolver) body rfl fun _ _ => rfl
  rw [← hcompiled] at hevents hrender
  rw [← hfree] at hevents hmissing
  have hnone (hfound : ∀ name ∈ t.free, values name ≠ none ∨
      Entries.find? (mergeContexts contexts) name ≠ none) :
      ∀ name ∈ t.free, (t.scene values resolver).lookup name ≠ none :=
    fun name hname hnone => (hfound name hname).elim (· ((hmissed name).1 hnone).1)
      (· ((hmissed name).1 hnone).2)
  have hsorted : t.free.Sorted := by
    rw [hfree]
    exact Names.sorted_ofList _
  have herror : ∀ name, t.render values resolver = .error (.missingVariable name) ↔
      Meaning.answers (t.scene values resolver).lookup t.free = .error (.missingVariable name) := by
    intro name
    rw [render, hrender, ← hmissing]
    cases answer with
    | error e => simp only [Except.map, Except.error.injEq]
    | ok _ => exact ⟨nofun, nofun⟩
  refine ⟨fun hagree => ?_, fun name hname hvalue hcontext => ?_, fun hfound name hname => ?_,
    hsorted, ?_⟩
  · have hsame : ∀ name ∈ Block.freeNames body,
        (t.scene values resolver).lookup name = (t'.scene values' resolver).lookup name := by
      intro name hname
      rw [lookup_scene h, lookup_scene h']
      exact hagree name (hfree ▸ hname)
    rw [render, render, hcompiled, hcompiled']
    exact render_congr_free rfl hsame
  · obtain ⟨least, hleast, hnone, hanswers, hmin⟩ :=
      Meaning.answers_error hsorted hname ((hmissed name).2 ⟨hvalue, hcontext⟩)
    obtain ⟨hleastValue, hleastContext⟩ := (hmissed least).1 hnone
    exact ⟨least, hleast, hleastValue, hleastContext,
      fun other hother hother' hother'' =>
        hmin other hother ((hmissed other).2 ⟨hother', hother''⟩),
      (herror least).2 hanswers⟩
  · obtain ⟨bindings, hanswers⟩ := Meaning.answers_found (hnone hfound)
    rw [herror, hanswers] at hname
    cases hname
  · refine ⟨_, later, Meaning.asked_prefix _ _, hevents, hquiet,
      fun hfound => Meaning.asked_found (hnone hfound), fun text htext => ?_⟩
    rw [render, hrender] at htext
    cases answer with
    | error e => cases htext
    | ok _ => exact Except.ok.inj htext

theorem free_exact_untaken : ∃ off on : Template Empty Empty,
    withContexts "{% if on %}{{ name }}{% endif %}" [[("on", .bool false)]] = .ok off ∧
    withContexts "{% if on %}{{ name }}{% endif %}" [[("on", .bool true)]] = .ok on ∧
    off.render (fun _ => none) .dots = .error (.missingVariable "name") ∧
    (∀ name, on.render (.ofPairs [("name", .string "Ann")]) .dots ≠
      .error (.missingVariable name)) ∧
    on.render (.ofPairs [("name", .string "Ann")]) .dots = .ok "Ann" := by
  have htokens : tokenize "{% if on %}{{ name }}{% endif %}" = [⟨.tag, 0, " if on ".toList⟩,
      ⟨.expression, 11, " name ".toList⟩, ⟨.tag, 21, " endif ".toList⟩] := by decide +kernel
  have hbody : Block.ofTokens (tokenize "{% if on %}{{ name }}{% endif %}") =
      .ok [.branch ⟨"on", "on", [], []⟩ [.output ⟨"name", "name", [], []⟩]] := by
    rw [htokens]
    rfl
  have h : ∀ b, withContexts "{% if on %}{{ name }}{% endif %}"
      [[("on", (.bool b : Value Empty Empty))]] =
      .ok ⟨[("on", .bool b)], Draft.compiled
        [.branch ⟨"on", "on", [], []⟩ [.output ⟨"name", "name", [], []⟩]]⟩ :=
    fun _ => withContexts_of_ofTokens hbody _
  refine ⟨_, _, h false, h true, ?_, ?_, ?_⟩
  · obtain ⟨least, hleast, -, hmissing, -, hrender⟩ :=
      (free_exact (h false) (h false) (fun _ => none) (fun _ => none) .dots).2.1 "name"
        (by decide) rfl rfl
    have hnames : least ∈ ["name", "on"] := hleast
    rcases List.mem_cons.1 hnames with rfl | hon
    · exact hrender
    · cases List.mem_singleton.1 hon
      cases hmissing
  · refine (free_exact (h true) (h true) (.ofPairs [("name", .string "Ann")])
      (fun _ => none) .dots).2.2.1 ?_
    have hnames : ∀ name ∈ ["name", "on"],
        Lookup.ofPairs [("name", (.string "Ann" : Value Empty Empty))] name ≠ none ∨
        Entries.find? (mergeContexts [[("on", (.bool true : Value Empty Empty))]]) name ≠ none :=
      List.forall_mem_cons.2 ⟨.inl nofun, List.forall_mem_singleton.2 (.inr nofun)⟩
    exact hnames
  · rw [render, Program.render_compiled]
    rfl

end Template

end Stencil
