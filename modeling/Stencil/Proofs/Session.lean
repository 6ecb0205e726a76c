import Mathlib
import Stencil.Command.Outcome
import Stencil.Proofs.Layers
import Stencil.Proofs.FreeNames
import Stencil.Proofs.Runs

/-! Runs of the command. A run ends as its first failing phase does, and when none fails it prints
what the template renders, where the layers that values come from amount to one order of
precedence. -/

namespace Stencil

theorem lookup_map {α β : Type} (f : α → β) (pairs : List (String × α)) (name : String) :
    (pairs.map fun (key, a) => (key, f a)).lookup name = (pairs.lookup name).map f := by
  induction pairs with
  | nil => rfl
  | cons pair rest ih =>
    obtain ⟨key, a⟩ := pair
    rw [List.map_cons, List.lookup_cons, List.lookup_cons, ih]
    cases name == key <;> rfl

theorem Json.toEntries_eq {F O : Type} (members : List (String × Json)) :
    (toEntries members : List (String × Value F O)) = members.map fun (key, json) =>
      (key, json.toValue) := by
  induction members with
  | nil => rfl
  | cons member rest ih =>
    obtain ⟨key, json⟩ := member
    rw [toEntries, ih, List.map_cons]

theorem Json.find?_toEntries {F O : Type} (members : Entries Json) (name : String) :
    Entries.find? (toEntries members : Context F O) name =
      (Entries.find? members name).map toValue := by
  rw [toEntries_eq, Entries.find?_eq_lookup, Entries.find?_eq_lookup, lookup_map]

theorem Entries.sorted_ofPairs {α : Type} (pairs : List (String × α)) : Sorted (ofPairs pairs) := by
  have hnothing : Sorted ([] : Entries α) := List.Pairwise.nil
  exact hnothing.merge pairs

theorem Entries.find?_ofPairs {α : Type} (pairs : List (String × α)) (name : String) :
    find? (ofPairs pairs) name = pairs.reverse.lookup name := by
  rw [ofPairs, find?_merge, find?, Option.or_none]

theorem StockFilter.find?_context {F O : Type} (copy : Nat) (name : String) :
    Entries.find? (context copy : Context F O) name =
      (all.find? fun filter => filter.name = name).map fun filter =>
        .filter (.stock filter copy) := by
  have hlookup : ∀ filters : List StockFilter,
      (filters.map fun filter => (filter.name, (.filter (.stock filter copy) : Value F O))).lookup
        name =
        (filters.find? fun filter => filter.name = name).map fun filter =>
          .filter (.stock filter copy) := by
    intro filters
    induction filters with
    | nil => rfl
    | cons filter rest ih =>
      rw [List.map_cons, List.lookup_cons, List.find?_cons, ih]
      by_cases hname : filter.name = name
      · rw [beq_iff_eq.2 hname.symm, decide_eq_true hname, Option.map_some]
      · rw [beq_false_of_ne (Ne.symm hname), decide_eq_false hname]
  have hdistinct : (all.map StockFilter.name).Nodup := by decide
  have hkeys : Entries.keys (all.map fun filter =>
      (filter.name, (.filter (.stock filter copy) : Value F O))) =
      all.map StockFilter.name := by
    rw [Entries.keys, List.map_map]
    rfl
  rw [context, Entries.ofPairs, Entries.find?_merge, Entries.lookup_reverse (hkeys ▸ hdistinct),
    Entries.find?, Option.or_none, Entries.find?_eq_lookup, hlookup]

namespace Command

variable {F O : Type} {s : Surroundings}

namespace Settings

structure Told (settings : Settings) (document : List (String × Json)) : Prop where
  filters : settings.builtinFilters = filtersOn document
  globals (name : String) : Entries.find? settings.globals name =
    (globalsIn document).reverse.lookup name
  sorted : Entries.Sorted settings.globals

theorem told_default : default.Told [] := ⟨rfl, fun _ => rfl, List.Pairwise.nil⟩

theorem putAll_concat (settings : Settings) (document : List (String × Json))
    (member : String × Json) :
    settings.putAll (document ++ [member]) =
      (settings.putAll document).bind fun settings => settings.put member.1 member.2 := by
  induction document generalizing settings with
  | nil =>
    rw [List.nil_append, putAll, putAll, Option.bind_some]
    exact Option.bind_fun_some _
  | cons first rest ih =>
    rw [List.cons_append, putAll, putAll, Option.bind_assoc]
    exact Option.bind_congr fun next _ => ih next

theorem lookup_concat (document : List (String × Json)) (member : String × Json) (key : String) :
    (document ++ [member]).reverse.lookup key =
      if member.1 = key then some member.2 else document.reverse.lookup key := by
  rw [List.reverse_append, List.reverse_singleton, List.singleton_append]
  exact (Entries.find?_eq_lookup (member :: document.reverse) key).symm.trans
    (by rw [Entries.find?, Entries.find?_eq_lookup])

theorem putAll_known {document : List (String × Json)} (h : ∀ member ∈ document, Known member) :
    ∃ settings, default.putAll document = some settings ∧ settings.Told document := by
  have hkeys : "builtin-filters" ≠ "globals" := by decide
  induction document using List.reverseRecOn with
  | nil => exact ⟨default, rfl, told_default⟩
  | append_singleton document member ih =>
    obtain ⟨hdocument, hmember⟩ := List.forall_mem_append.1 h
    obtain ⟨settings, hput, htold⟩ := ih hdocument
    rw [putAll_concat, hput, Option.bind_some]
    cases hmember member List.mem_cons_self with
    | builtinFilters b =>
      refine ⟨_, rfl, ⟨?_, fun name => ?_, htold.sorted⟩⟩
      · rw [filtersOn, lookup_concat, if_pos rfl]
      · rw [globalsIn, lookup_concat, if_neg hkeys]
        exact htold.globals name
    | globals members =>
      refine ⟨_, rfl, ⟨?_, fun name => ?_, Entries.sorted_ofPairs members⟩⟩
      · rw [filtersOn, lookup_concat, if_neg hkeys.symm]
        exact htold.filters
      · rw [globalsIn, lookup_concat, if_pos rfl]
        exact Entries.find?_ofPairs members name

theorem put_unknown {settings : Settings} {key : String} {json : Json} (h : ¬Known (key, json)) :
    settings.put key json = none := by
  unfold put
  split
  next b => exact absurd (.builtinFilters b) h
  next members => exact absurd (.globals members) h
  next => rfl

theorem putAll_unknown {settings : Settings} {document : List (String × Json)}
    {member : String × Json}
    (hmember : member ∈ document) (h : ¬Known member) : settings.putAll document = none := by
  induction document generalizing settings with
  | nil => cases hmember
  | cons first rest ih =>
    rw [putAll]
    rcases List.mem_cons.1 hmember with rfl | hrest
    · rw [put_unknown h]
      rfl
    · exact Option.bind_eq_none_iff.2 fun next _ => ih hrest

end Settings

inductive Configures :
    Except SessionError (List (String × Json)) → Except SessionError Settings → Prop
  | error (e : SessionError) : Configures (.error e) (.error e)
  | ok {document : List (String × Json)} {settings : Settings} (h : settings.Told document) :
    Configures (.ok document) (.ok settings)

namespace Surroundings

theorem SettingsFile.configures {path : String}
    {outcome : Except SessionError (List (String × Json))}
    (h : s.SettingsFile path outcome) : Configures outcome (s.readSettings path) := by
  unfold readSettings
  cases h with
  | unread h =>
    rw [h]
    exact .error _
  | malformed h hdocument =>
    simp only [h, Settings.read, hdocument, Option.bind_none]
    exact .error _
  | unknown h hdocument hmember hunknown =>
    simp only [h, Settings.read, hdocument, Option.bind_some,
      Settings.putAll_unknown hmember hunknown]
    exact .error _
  | known h hdocument hknown =>
    obtain ⟨settings, hput, htold⟩ := Settings.putAll_known hknown
    simp only [h, Settings.read, hdocument, Option.bind_some, hput]
    exact .ok htold

theorem exists_settingsFile (s : Surroundings) (path : String) :
    ∃ outcome, s.SettingsFile path outcome := by
  cases htext : s.readText path with
  | none => exact ⟨_, .unread htext⟩
  | some text =>
    cases hdocument : Toml.read text with
    | none => exact ⟨_, .malformed htext hdocument⟩
    | some document =>
      by_cases hknown : ∀ member ∈ document, Settings.Known member
      · exact ⟨_, .known htext hdocument hknown⟩
      · push Not at hknown
        obtain ⟨member, hmember, hunknown⟩ := hknown
        exact ⟨_, .unknown htext hdocument hmember hunknown⟩

theorem SettingsGive.configures {config : Option String}
    {outcome : Except SessionError (List (String × Json))}
    (h : s.SettingsGive config outcome) : Configures outcome (s.loadSettings config) := by
  unfold loadSettings
  cases h with
  | named h => exact h.configures
  | user huser hplace h =>
    simp only [huser, Option.isSome_iff_ne_none.2 hplace, if_true]
    exact h.configures
  | absent h =>
    split
    next => contradiction
    next path _ huser =>
      rw [h path huser]
      exact .ok Settings.told_default
    next => exact .ok Settings.told_default

theorem SettingsGive.configures_ok {config : Option String} {document : List (String × Json)}
    (h : s.SettingsGive config (.ok document)) :
    ∃ settings, s.loadSettings config = .ok settings ∧ settings.Told document := by
  have hconfigures := h.configures
  cases hload : s.loadSettings config with
  | error e =>
    rw [hload] at hconfigures
    cases hconfigures
  | ok settings =>
    rw [hload] at hconfigures
    cases hconfigures with
    | ok htold => exact ⟨settings, rfl, htold⟩

theorem exists_settingsGive (s : Surroundings) (config : Option String) :
    ∃ outcome, s.SettingsGive config outcome := by
  cases config with
  | some path =>
    obtain ⟨outcome, h⟩ := s.exists_settingsFile path
    exact ⟨outcome, .named h⟩
  | none =>
    by_cases habsent : ∀ path, s.userSettings = some path → s.place? path = none
    · exact ⟨_, .absent habsent⟩
    · push Not at habsent
      obtain ⟨path, huser, hplace⟩ := habsent
      obtain ⟨outcome, h⟩ := s.exists_settingsFile path
      exact ⟨outcome, .user huser hplace h⟩

theorem templateGives_iff {path : String} {outcome : Except SessionError String} :
    s.TemplateGives path outcome ↔ s.readTemplate path = outcome := by
  unfold readTemplate
  constructor
  · intro h
    cases h with
    | input h => rw [if_pos rfl, h]
    | inputUnread h => rw [if_pos rfl, h]
    | file hpath h => rw [if_neg hpath, h]
    | unread hpath h => rw [if_neg hpath, h]
  · rintro rfl
    by_cases hpath : path = "-"
    · subst hpath
      rw [if_pos rfl]
      cases htext : String.fromUTF8? s.input with
      | none => exact .inputUnread htext
      | some text => exact .input htext
    · rw [if_neg hpath]
      cases htext : s.readText path with
      | none => exact .unread hpath htext
      | some text => exact .file hpath htext

theorem members?_eq_some {path : String} {members : List (String × Json)} :
    s.members? path = some members ↔ ∃ text, s.readText path = some text ∧
    Json.read text = some (.object members) := by
  rw [members?, ← Option.bind_eq_some_iff]
  cases (s.readText path).bind Json.read with
  | none => simp
  | some json => cases json <;> simp

theorem ContextGives.loads {path : String} {outcome : Except SessionError (List (String × Json))}
    (h : s.ContextGives path outcome) : (s.loadContext path : Except SessionError (Context F O)) =
      outcome.map fun members => Entries.ofPairs (Json.toEntries members) := by
  unfold loadContext
  cases h with
  | unread h => rw [h]; rfl
  | malformed h hjson => simp only [h, hjson]; rfl
  | @notObject text json h hjson hobject =>
    simp only [h, hjson]
    cases json with
    | object members => exact absurd rfl (hobject members)
    | _ => rfl
  | object h =>
    obtain ⟨text, htext, hjson⟩ := members?_eq_some.1 h
    simp only [htext, hjson]
    rfl

theorem exists_contextGives (s : Surroundings) (path : String) :
    ∃ outcome, s.ContextGives path outcome := by
  cases htext : s.readText path with
  | none => exact ⟨_, .unread htext⟩
  | some text =>
    cases hjson : Json.read text with
    | none => exact ⟨_, .malformed htext hjson⟩
    | some json =>
      by_cases hobject : ∃ members, json = .object members
      · obtain ⟨members, rfl⟩ := hobject
        exact ⟨_, .object (members?_eq_some.2 ⟨text, htext, hjson⟩)⟩
      · exact ⟨_, .notObject htext hjson (not_exists.1 hobject)⟩

variable {s' : Surroundings}

theorem readText_congr {path : String} (h : s'.place? path = s.place? path) :
    s'.readText path = s.readText path := by
  rw [readText, readText, h]

theorem loadSettings_congr {config : Option String} (huser : s'.userSettings = s.userSettings)
    (hplace : ∀ path ∈ config.toList ++ s.userSettings.toList, s'.place? path = s.place? path) :
    s'.loadSettings config = s.loadSettings config := by
  obtain ⟨hconfig, huserPlace⟩ := List.forall_mem_append.1 hplace
  have hfile : ∀ {path}, s'.place? path = s.place? path →
      s'.readSettings path = s.readSettings path := by
    intro path hpath
    rw [readSettings, readSettings, readText_congr hpath]
  unfold loadSettings
  rw [huser]
  cases config with
  | some path => exact hfile (hconfig path List.mem_cons_self)
  | none =>
    cases hpath : s.userSettings with
    | none => rfl
    | some path =>
      rw [hpath] at huserPlace
      have hsame := huserPlace path List.mem_cons_self
      simp only [hfile hsame, hsame]

theorem readTemplate_congr {path : String} (hinput : s'.input = s.input)
    (hplace : s'.place? path = s.place? path) : s'.readTemplate path = s.readTemplate path := by
  rw [readTemplate, readTemplate, hinput, readText_congr hplace]

end Surroundings

theorem Settings.ofContext_contexts {settings : Settings} (h : Entries.Sorted settings.globals) :
    (Lookup.ofContext (Template.mergeContexts settings.contexts) : Lookup F O) = fun name =>
      ((Entries.find? settings.globals name).map Json.toValue).or (if settings.builtinFilters then
        (StockFilter.all.find? fun filter => filter.name = name).map fun filter =>
          .filter (.stock filter 0) else none) := by
  have hglobals : Entries.Sorted (Json.toEntries settings.globals : Context F O) := by
    have hkeys : Entries.keys (Json.toEntries settings.globals : Context F O) =
        Entries.keys settings.globals := by
      rw [Json.toEntries_eq, Entries.keys, List.map_map]
      rfl
    rwa [Entries.Sorted, hkeys]
  have hstock : Entries.Sorted (StockFilter.context 0 : Context F O) := Entries.sorted_ofPairs _
  unfold Settings.contexts
  funext name
  cases settings.builtinFilters with
  | true =>
    have hboth :
        ∀ context ∈ [StockFilter.context 0, (Json.toEntries settings.globals : Context F O)],
        Entries.Sorted context :=
          List.forall_mem_cons.2 ⟨hstock, List.forall_mem_singleton.2 hglobals⟩
    have hlayers := congrFun (Template.ofContext_mergeContexts hboth) name
    rw [lastBinding_cons, lastBinding_cons] at hlayers
    refine hlayers.trans ?_
    simp only [Lookup.over, Lookup.ofContext, lastBinding, List.reverse_nil, List.findSome?_nil,
      Option.none_or, Json.find?_toEntries, StockFilter.find?_context, if_true]
  | false =>
    have hone : ∀ context ∈ [(Json.toEntries settings.globals : Context F O)],
        Entries.Sorted context :=
      List.forall_mem_singleton.2 hglobals
    have hlayers := congrFun (Template.ofContext_mergeContexts hone) name
    rw [lastBinding_cons] at hlayers
    refine hlayers.trans ?_
    simp only [Lookup.over, Lookup.ofContext, lastBinding, List.reverse_nil, List.findSome?_nil,
      Option.none_or, Json.find?_toEntries, Bool.false_eq_true, if_false, Option.or_none]

def lastMember (s : Surroundings) (paths : List String) : Lookup F O := fun name =>
  (paths.reverse.findSome? fun path =>
    (s.members? path).bind fun members => members.reverse.lookup name).map Json.toValue

theorem lastMember_cons {path : String} {members : List (String × Json)}
    (h : s.members? path = some members)
    (rest : List String) : (lastMember s (path :: rest) : Lookup F O) =
      (lastMember s rest).over (.ofContext (Entries.ofPairs (Json.toEntries members))) := by
  funext name
  rw [lastMember, List.reverse_cons, List.findSome?_append, List.findSome?_singleton, h,
    Option.bind_some,
    Option.map_or, Lookup.over, Lookup.ofContext, Entries.find?_ofPairs, Json.toEntries_eq,
    ← List.map_reverse, lookup_map, lastMember]

/-- The values of a run over the contexts of its settings bind each name as the one order of
precedence says. -/
theorem over_contexts {a : Arguments} {settings : Settings} {document : List (String × Json)}
    {values : Context F O} (htold : settings.Told document) (hvalues : Lookup.ofContext values =
      Lookup.over (fun name => (a.vars.reverse.lookup name).map Json.toValue)
        (lastMember s a.contexts)) :
    (Lookup.ofContext values).over (.ofContext (Template.mergeContexts settings.contexts)) =
      a.bound s document := by
  rw [hvalues, Settings.ofContext_contexts htold.sorted, htold.filters]
  funext name
  simp only [Lookup.over, lastMember, htold.globals, Arguments.bound, Option.map_or,
    Option.or_assoc]

theorem bound_congr {settings : Settings} {document document' : List (String × Json)}
    (h : settings.Told document) (h' : settings.Told document') (a : Arguments) :
    (a.bound s document : Lookup F O) = a.bound s document' := by
  funext name
  simp only [Arguments.bound, ← h.filters, ← h'.filters, ← h.globals, ← h'.globals]

namespace Phase

variable [Host F O] {a : Arguments} {p : Phase} {e : SessionError}

theorem not_settings {settings : Settings} (h : s.loadSettings a.config = .ok settings)
    (e : SessionError) :
    ¬Phase.settings.Fails F O a s e := by
  intro hfails
  cases hfails with
  | settings hgives =>
    have hconfigures := hgives.configures
    rw [h] at hconfigures
    cases hconfigures

theorem not_template {text : String} (h : s.readTemplate a.template = .ok text) (e : SessionError) :
    ¬Phase.template.Fails F O a s e := by
  intro hfails
  cases hfails with
  | template hgives => cases h.symm.trans (Surroundings.templateGives_iff.1 hgives)

theorem not_compile {text : String} {c : Compiled} (h : s.readTemplate a.template = .ok text)
    (hcompile : Stencil.compile text = .ok c) (e : SessionError) :
    ¬Phase.compile.Fails F O a s e := by
  intro hfails
  cases hfails with
  | compile hgives hfault =>
    cases h.symm.trans (Surroundings.templateGives_iff.1 hgives)
    cases hcompile.symm.trans hfault

theorem not_context {path : String} {context : Context F O} (h : s.loadContext path = .ok context)
    (e : SessionError) : ¬(Phase.context path).Fails F O a s e := by
  intro hfails
  cases hfails with
  | context hgives => cases h.symm.trans hgives.loads

theorem not_render {settings : Settings} {document : List (String × Json)} {text out : String}
    {c : Compiled} (hload : s.loadSettings a.config = .ok settings) (htold : settings.Told document)
    (htext : s.readTemplate a.template = .ok text) (hcompile : Stencil.compile text = .ok c)
    (h : (⟨[], c⟩ : Template F O).render (a.bound s document) .dots = .ok out) (e : SessionError) :
    ¬Phase.render.Fails F O a s e := by
  intro hfails
  cases hfails with
  | render hsettings hgives htemplate hfault =>
    obtain ⟨settings', hload', htold'⟩ := hsettings.configures_ok
    cases hload.symm.trans hload'
    cases htext.symm.trans (Surroundings.templateGives_iff.1 hgives)
    rw [Template.ofSource, Template.withContexts, hcompile] at htemplate
    cases htemplate
    rw [bound_congr htold' htold] at hfault
    cases h.symm.trans hfault

theorem FirstFails.after {before rest : List Phase} (h : ∀ q ∈ before, ∀ e, ¬q.Fails F O a s e)
    (hfirst : FirstFails F O a s rest p e) : FirstFails F O a s (before ++ rest) p e := by
  induction before with
  | nil => exact hfirst
  | cons q before ih =>
    obtain ⟨hq, hbefore⟩ := List.forall_mem_cons.1 h
    exact .later hq (ih hbefore)

theorem FirstFails.mem_fails {phases : List Phase} (h : FirstFails F O a s phases p e) :
    p ∈ phases ∧ p.Fails F O a s e := by
  induction h with
  | here h => exact ⟨List.mem_cons_self, h⟩
  | later _ _ ih => exact ih.imp_left (List.mem_cons_of_mem _)

theorem FirstFails.unique {phases : List Phase} {p' : Phase} {e' : SessionError}
    (h : FirstFails F O a s phases p e) (h' : FirstFails F O a s phases p' e') : p' = p := by
  induction h with
  | here h =>
    cases h' with
    | here => rfl
    | later hq => exact absurd h (hq _)
  | later hq _ ih =>
    cases h' with
    | here h' => exact absurd h' (hq _)
    | later _ h' => exact ih h'

theorem Fails.exitNumber_eq (h : p.Fails F O a s e) : e.exitNumber = p.exitNumber := by
  have hfile : ∀ {path e}, s.SettingsFile path (.error e) → e.exitNumber = 16 := by
    intro path e h
    cases h <;> rfl
  have hsettings : ∀ {config e}, s.SettingsGive config (.error e) → e.exitNumber = 16 := by
    intro config e h
    cases h with
    | named h => exact hfile h
    | user _ _ h => exact hfile h
  have htemplate : ∀ {path e}, s.TemplateGives path (.error e) → e.exitNumber = 16 := by
    intro path e h
    cases h <;> rfl
  cases h with
  | settings h => exact hsettings h
  | template h => exact htemplate h
  | @compile text e htext h =>
    cases e with
    | malformed fault => rfl
    | internal fault =>
      rw [compile_eq] at h
      cases hbody : Block.ofTokens (tokenize text) <;> rw [hbody] at h <;> cases h
  | context h => cases h <;> rfl
  | @render document text t e hsettings htext htemplate h =>
    obtain ⟨body, -, rfl⟩ := Template.withContexts_ok htemplate
    rw [Template.render, Program.render_compiled] at h
    rcases Meaning.render_error h with ⟨⟨⟩⟩ | ⟨⟩ <;> rfl

end Phase

variable (F O) [Host F O]

theorem print_unbounded (text : String) :
    print .unbounded text = (⟨none, "", text.toUTF8.toList⟩, .ok ()) := by
  simp [print, Sink.write, Sink.unbounded]

theorem renderInto_unbounded (t : Template F O) (values : Lookup F O) (resolver : Resolver F O) :
    t.renderInto .unbounded values resolver = match t.render values resolver with
      | .error e => (.unbounded, .error e)
      | .ok text => (⟨none, "", text.toUTF8.toList⟩, .ok ()) := by
  rw [Template.renderInto]
  cases t.render values resolver with
  | error e => rfl
  | ok text => simp [Sink.write, Sink.unbounded]

theorem loadContexts_cases (a : Arguments) (s : Surroundings) (values : Context F O)
    (paths : List String) :
    (∃ p e, (∀ rest, Phase.FirstFails F O a s (paths.map .context ++ rest) p e) ∧
      s.loadContexts values paths = .error e) ∨
    ((∀ q ∈ paths.map Phase.context, ∀ e, ¬q.Fails F O a s e) ∧ ∃ context : Context F O,
      s.loadContexts values paths = .ok context ∧
        Lookup.ofContext context = (lastMember s paths).over (.ofContext values)) := by
  induction paths generalizing values with
  | nil => exact .inr ⟨List.forall_mem_nil _, values, rfl, rfl⟩
  | cons path rest ih =>
    obtain ⟨outcome, hgives⟩ := s.exists_contextGives path
    have hloads := hgives.loads (F := F) (O := O)
    rw [Surroundings.loadContexts, hloads]
    cases outcome with
    | error e => exact .inl ⟨.context path, e, fun _ => .here (.context hgives), rfl⟩
    | ok members =>
      have hpath : ∀ e, ¬(Phase.context path).Fails F O a s e := Phase.not_context hloads
      cases hgives with
      | object hmembers =>
        rcases ih (Entries.merge values (Entries.ofPairs (Json.toEntries members))) with
          ⟨p, e, hfirst, hload⟩ | ⟨hrest, context, hload, hlookup⟩
        · exact .inl ⟨p, e, fun more => .later hpath (hfirst more), hload⟩
        · refine .inr ⟨List.forall_mem_cons.2 ⟨hpath, hrest⟩, context, hload, ?_⟩
          rw [hlookup, lastMember_cons hmembers]
          funext name
          simp only [Lookup.over, Lookup.ofContext, (Entries.sorted_ofPairs _).find?_merge,
            Option.or_assoc]

theorem values_cases (a : Arguments) (s : Surroundings) :
    (∃ p e, (∀ rest, Phase.FirstFails F O a s (a.contexts.map .context ++ rest) p e) ∧
      (a.values s : Except SessionError (Context F O)) = .error e) ∨
    ((∀ q ∈ a.contexts.map Phase.context, ∀ e, ¬q.Fails F O a s e) ∧ ∃ values : Context F O,
      a.values s = .ok values ∧ Lookup.ofContext values =
        Lookup.over (fun name => (a.vars.reverse.lookup name).map Json.toValue)
          (lastMember s a.contexts)) := by
  rcases loadContexts_cases F O a s [] a.contexts with
    ⟨p, e, hfirst, hload⟩ | ⟨hcontexts, context, hload, hlookup⟩
  · exact .inl ⟨p, e, hfirst, by rw [Arguments.values, hload]; rfl⟩
  · refine .inr ⟨hcontexts, _, by rw [Arguments.values, hload]; rfl, ?_⟩
    have hcontext : ∀ name, Entries.find? context name = lastMember s a.contexts name := by
      intro name
      have hname := congrFun hlookup name
      rwa [Lookup.over, Lookup.ofContext, Lookup.ofContext, Entries.find?, Option.or_none] at hname
    funext name
    rw [Lookup.ofContext, Entries.find?_merge, ← List.map_reverse, lookup_map, hcontext,
      Lookup.over]

theorem prepare_cases (a : Arguments) (s : Surroundings) :
    (∃ p e, (∀ rest, Phase.FirstFails F O a s ([.settings, .template, .compile] ++ rest) p e) ∧
      prepare F O a s = .error e) ∨
    ((∀ q ∈ [Phase.settings, .template, .compile], ∀ e, ¬q.Fails F O a s e) ∧
      ∃ document settings text c, s.SettingsGive a.config (.ok document) ∧ settings.Told document ∧
        s.loadSettings a.config = .ok settings ∧ s.readTemplate a.template = .ok text ∧
      compile text = .ok c ∧
      prepare F O a s = .ok ⟨Template.mergeContexts settings.contexts, c⟩) := by
  obtain ⟨outcome, hgives⟩ := s.exists_settingsGive a.config
  have hconfigures := hgives.configures
  rw [prepare]
  cases hload : s.loadSettings a.config with
  | error e =>
    rw [hload] at hconfigures
    cases hconfigures
    exact .inl ⟨.settings, e, fun _ => .here (.settings hgives), rfl⟩
  | ok settings =>
    have hsettings := Phase.not_settings (F := F) (O := O) hload
    rw [hload] at hconfigures
    cases hconfigures with
    | ok htold =>
      cases htext : s.readTemplate a.template with
      | error e =>
        have hfails : Phase.template.Fails F O a s e :=
          .template (Surroundings.templateGives_iff.2 htext)
        exact .inl ⟨.template, e, fun _ => .later hsettings (.here hfails), rfl⟩
      | ok text =>
        have htemplate := Phase.not_template (F := F) (O := O) htext
        rw [Except.bind, Except.bind, Template.withContexts]
        cases hcompile : compile text with
        | error e =>
          have hfails : Phase.compile.Fails F O a s (.compile e) :=
            .compile (Surroundings.templateGives_iff.2 htext) hcompile
          exact .inl ⟨.compile, .compile e, fun _ =>
            .later hsettings (.later htemplate (.here hfails)), rfl⟩
        | ok c =>
          have hthree : ∀ q ∈ [Phase.settings, .template, .compile], ∀ e, ¬q.Fails F O a s e :=
            List.forall_mem_cons.2 ⟨hsettings, List.forall_mem_cons.2 ⟨htemplate,
              List.forall_mem_singleton.2 (Phase.not_compile htext hcompile)⟩⟩
          exact .inr ⟨hthree, _, settings, text, c, hgives, htold, rfl, rfl, hcompile, rfl⟩

theorem run_cases (a : Arguments) (s : Surroundings) :
    (∃ p e, Phase.FirstFails F O a s a.phases p e ∧ run F O a s .unbounded =
      (.unbounded, .error e)) ∨
    ((∀ p ∈ a.phases, ∀ e, ¬p.Fails F O a s e) ∧ ∃ document text t printed,
      s.SettingsGive a.config (.ok document) ∧ s.TemplateGives a.template (.ok text) ∧
      (Template.ofSource text : Except CompileError (Template F O)) = .ok t ∧
      run F O a s .unbounded = (⟨none, "", printed.toUTF8.toList⟩, .ok ()) ∧
      (a.inspects = true →
        printed = if a.emitCode then t.compiled.code ++ "\n"
          else String.join (t.free.map (· ++ "\n"))) ∧
      (a.inspects = false → t.render (a.bound s document) .dots = .ok printed)) := by
  rw [Arguments.phases, run]
  rcases prepare_cases F O a s with
    ⟨p, e, hfirst, hprepare⟩ | ⟨hthree, document, settings, text, c, hgives, htold, hload, htext,
      hcompile, hprepare⟩
  · rw [hprepare]
    exact .inl ⟨p, e, hfirst _, rfl⟩
  · have hread := Surroundings.templateGives_iff.2 htext
    have hsource : (Template.ofSource text : Except CompileError (Template F O)) = .ok ⟨[], c⟩ := by
      rw [Template.ofSource, Template.withContexts, hcompile]
      rfl
    rw [hprepare]
    cases hinspects : a.inspects with
    | true =>
      rw [if_pos rfl, List.append_nil]
      refine .inr ⟨hthree, document, text, ⟨[], c⟩, _, hgives, hread, hsource, ?_,
        fun _ => rfl, fun h => absurd h (by decide)⟩
      rw [Arguments.inspects] at hinspects
      cases hcode : a.emitCode with
      | true => exact print_unbounded _
      | false =>
        rw [hcode, Bool.false_or] at hinspects
        simp only [hinspects]
        exact print_unbounded _
    | false =>
      obtain ⟨hcode, hlist⟩ := Bool.or_eq_false_iff.1 hinspects
      simp only [hcode, hlist, Bool.false_eq_true, if_false]
      rcases values_cases F O a s with ⟨p, e, hfirst, hvalues⟩ |
        ⟨hcontexts, values, hvalues, hlookup⟩
      · rw [hvalues]
        exact .inl ⟨p, e, .after hthree (hfirst _), rfl⟩
      · have hrender : Template.render ⟨Template.mergeContexts settings.contexts, c⟩
            (.ofContext values) .dots =
            (⟨[], c⟩ : Template F O).render (a.bound s document) .dots := by
          rw [Template.render, Template.render, Template.scene, Template.scene,
            over_contexts htold hlookup]
          congr 2
          funext name
          exact Option.or_none.symm
        rw [hvalues]
        simp only [renderInto_unbounded, hrender]
        cases hanswer : (⟨[], c⟩ : Template F O).render (a.bound s document) .dots with
        | error e =>
          have hfails : Phase.render.Fails F O a s (.render e) :=
            .render hgives hread hsource hanswer
          exact .inl ⟨.render, .render e, .after hthree (.after hcontexts (.here hfails)), rfl⟩
        | ok out =>
          have hnone := Phase.not_render hload htold htext hcompile hanswer
          refine .inr ⟨List.forall_mem_append.2 ⟨hthree, List.forall_mem_append.2 ⟨hcontexts,
            List.forall_mem_singleton.2 hnone⟩⟩, document, text, ⟨[], c⟩, out, hgives, hread,
            hsource, rfl, fun h => absurd h (by decide), fun _ => hanswer⟩

theorem run_inspects {a : Arguments} (h : a.inspects = true) {s s' : Surroundings}
    (huser : s'.userSettings = s.userSettings) (hinput : s'.input = s.input)
    (hplace : ∀ path ∈ a.template :: (a.config.toList ++ s.userSettings.toList), s'.place? path =
      s.place? path) :
    run F O a s' .unbounded = run F O a s .unbounded := by
  obtain ⟨htemplatePlace, hsettingsPlace⟩ := List.forall_mem_cons.1 hplace
  have hprepare : prepare F O a s' = prepare F O a s := by
    rw [prepare, prepare, Surroundings.loadSettings_congr huser hsettingsPlace,
      Surroundings.readTemplate_congr hinput htemplatePlace]
  rw [run, run, hprepare]
  cases prepare F O a s with
  | error e => rfl
  | ok template =>
    rw [Arguments.inspects, Bool.or_eq_true] at h
    rcases h with hcode | hlist
    · simp only [hcode, if_true]
    · simp only [hlist, if_true]

/-- On an output that takes everything a run ends as the first of its phases that fails, with that
phase's error and exit number and with nothing printed; and if none fails it prints what it was to
look for, or else what the template renders when each name means what it is bound to. It never ends
as a failure inside the compiler does. A run that looks into the template asks for nothing but the
settings and the template. -/
theorem run_first_failure (a : Arguments) (s : Surroundings) :
    ∃ sink result, run F O a s .unbounded = (sink, result) ∧
      ((∃ p e, Phase.FirstFails F O a s a.phases p e ∧ result = .error e ∧
        exitNumber result = p.exitNumber) ∨
        ((∀ p ∈ a.phases, ∀ e, ¬p.Fails F O a s e) ∧ result = .ok () ∧ ∃ document text t,
          s.SettingsGive a.config (.ok document) ∧ s.TemplateGives a.template (.ok text) ∧
          (Template.ofSource text : Except CompileError (Template F O)) = .ok t ∧
          (a.inspects = true → sink.taken =
            (if a.emitCode then t.compiled.code ++ "\n"
              else String.join (t.free.map (· ++ "\n"))).toUTF8.toList) ∧
          (a.inspects = false → ∃ out, t.render (a.bound s document) .dots = .ok out ∧
            sink.taken = out.toUTF8.toList))) ∧
      exitNumber result ≠ 70 ∧
      (exitNumber result ≠ 0 → sink.taken = []) ∧
      (a.inspects = true → ∀ s' : Surroundings, s'.userSettings = s.userSettings →
        s'.input = s.input →
        (∀ path ∈ a.template :: (a.config.toList ++ s.userSettings.toList),
          s'.place? path = s.place? path) →
        run F O a s' .unbounded = (sink, result)) := by
  rcases run_cases F O a s with ⟨p, e, hfirst, hrun⟩ |
    ⟨hnone, document, text, t, printed, hgives, hread, hsource, hrun, hlook, hrender⟩
  · have hnumber : e.exitNumber = p.exitNumber := hfirst.mem_fails.2.exitNumber_eq
    refine ⟨_, _, hrun, .inl ⟨p, e, hfirst, rfl, hnumber⟩, ?_, fun _ => rfl,
      fun h s' huser hinput hplace => (run_inspects F O h huser hinput hplace).trans hrun⟩
    have hphase : p.exitNumber ≠ 70 := by cases p <;> simp [Phase.exitNumber]
    exact fun h => hphase (hnumber.symm.trans h)
  · refine ⟨_, _, hrun, .inr ⟨hnone, rfl, document, text, t, hgives, hread, hsource, fun h => ?_,
      fun h => ?_⟩,
      nofun, fun h => absurd rfl h, fun h s' huser hinput hplace =>
        (run_inspects F O h huser hinput hplace).trans hrun⟩
    · rw [hlook h]
    · exact ⟨printed, hrender h, rfl⟩

def Surroundings.ofFiles (files : List (String × String)) (input : String) : Surroundings :=
  ⟨fun path => (files.lookup path).map fun text => .file text.toUTF8, input.toUTF8, none⟩

theorem fromUTF8?_toUTF8 (text : String) : String.fromUTF8? text.toUTF8 = some text :=
  dif_pos text.isValidUTF8

theorem Surroundings.readText_ofFiles (files : List (String × String)) (input path : String) :
    (ofFiles files input).readText path = files.lookup path := by
  simp only [readText, ofFiles]
  cases files.lookup path with
  | none => rfl
  | some text => exact fromUTF8?_toUTF8 text

theorem Surroundings.readTemplate_ofFiles (files : List (String × String)) (input : String) :
    (ofFiles files input).readTemplate "-" = .ok input := by
  have hinput : String.fromUTF8? (ofFiles files input).input = some input := fromUTF8?_toUTF8 input
  rw [readTemplate, if_pos rfl, hinput]

theorem compile_pair : compile "{{ a }} {{ b }}" =
    .ok (Draft.compiled [.output ⟨"a", "a", [], []⟩, .text " ", .output ⟨"b", "b", [], []⟩]) := by
  rw [compile_eq, Template.ofTokens_pair]
  rfl

theorem render_pair {lookup : Lookup Empty Empty} (ha : lookup "a" = some (.string "hi"))
    (hb : lookup "b" = some (.string "y")) :
    (⟨[], Draft.compiled [.output ⟨"a", "a", [], []⟩, .text " ", .output ⟨"b", "b", [], []⟩]⟩ :
      Template Empty Empty).render lookup .dots = .ok "hi y" := by
  let known : Scene Empty Empty :=
    ⟨Lookup.ofPairs [("a", .string "hi"), ("b", .string "y")], .dots⟩
  have hscene : ∀ name ∈ ["a", "b"],
      (lookup.over (.ofContext [])) name = known.lookup name := by
    refine List.forall_mem_cons.2 ⟨?_, List.forall_mem_singleton.2 ?_⟩
    · exact congrArg (·.or none) ha
    · exact congrArg (·.or none) hb
  have hknown : (Draft.compiled [.output ⟨"a", "a", [], []⟩, .text " ",
      .output ⟨"b", "b", [], []⟩]).program.render known = .ok "hi y" := by
    rw [Program.render_compiled]
    rfl
  rw [Template.render, ← hknown]
  exact render_congr_free rfl hscene

theorem bound_pair {s : Surroundings}
    (hmembers : s.members? "hi" = some [("a", .string "hi")]) :
    let lookup : Lookup Empty Empty := Arguments.bound
      ⟨"-", ["hi"], [], false, false, some "conf", .warn, false⟩ s
      [("globals", .object [("b", .string "y")])]
    lookup "a" = some (.string "hi") ∧ lookup "b" = some (.string "y") := by
  simp only [Arguments.bound, List.reverse_singleton, List.findSome?_singleton, hmembers]
  exact ⟨rfl, rfl⟩

/-- A file of settings that is not there counts before a malformed template, and this before a
context file that is not there; a list is no context; a look into a template asks for no context;
and what is printed names a member of a context file and a value of the settings. -/
theorem run_first_failure_files :
    let files := Surroundings.ofFiles
      [("list", "[]"), ("hi", "\x7b\"a\": \"hi\"\x7d"), ("conf", "globals.b = \"y\"")]
    let outcome := fun contexts emitCode config s =>
      run Empty Empty ⟨"-", contexts, [], emitCode, false, config, .warn, false⟩ s .unbounded
    (∃ sink result, outcome [] false (some "gone") (files "{% end %}") = (sink, result) ∧
      exitNumber result = 16 ∧ sink.taken = []) ∧
    (∃ sink result, outcome ["gone"] false none (files "{% end %}") = (sink, result) ∧
      exitNumber result = 65 ∧ sink.taken = []) ∧
    (∃ sink result, outcome ["hi", "list"] false none (files "{{ a }} {{ b }}") = (sink, result) ∧
      exitNumber result = 16 ∧ sink.taken = []) ∧
    outcome ["hi"] true none (.ofFiles [] "{{ a }} {{ b }}") =
      outcome ["hi"] true none (files "{{ a }} {{ b }}") ∧
    ∃ sink result, outcome ["hi"] false (some "conf") (files "{{ a }} {{ b }}") = (sink, result) ∧
      exitNumber result = 0 ∧ sink.taken = "hi y".toUTF8.toList := by
  intro files outcome
  have hfailing : ∀ {a s p e}, Phase.FirstFails Empty Empty a s a.phases p e → ∃ sink result,
      run Empty Empty a s .unbounded = (sink, result) ∧ exitNumber result = p.exitNumber ∧
        sink.taken = [] := by
    intro a s p e hfirst
    obtain ⟨hmem, hfails⟩ := hfirst.mem_fails
    obtain ⟨sink, result, hrun, hcases, -, hempty, -⟩ := run_first_failure Empty Empty a s
    have hnumber : exitNumber result = p.exitNumber := by
      rcases hcases with ⟨p', e', hfirst', -, hnumber⟩ | ⟨hnone, -⟩
      · rw [hnumber, hfirst.unique hfirst']
      · exact absurd hfails (hnone p hmem e)
    refine ⟨sink, result, hrun, hnumber, hempty ?_⟩
    rw [hnumber]
    cases p <;> exact Nat.succ_ne_zero _
  have hread : ∀ input path, (files input).readText path = _ := Surroundings.readText_ofFiles _
  have htext : ∀ input, (files input).readTemplate "-" = .ok input :=
    Surroundings.readTemplate_ofFiles _
  have hdefault : ∀ input, (files input).loadSettings none = .ok .default := fun _ => rfl
  have hmembers : (files "{{ a }} {{ b }}").members? "hi" = some [("a", .string "hi")] := by
    have hjson : Json.read "\x7b\"a\": \"hi\"\x7d" = some (.object [("a", .string "hi")]) := by cbv
    exact Surroundings.members?_eq_some.2 ⟨_, hread _ _, hjson⟩
  have hhi := (Surroundings.ContextGives.object hmembers).loads (F := Empty) (O := Empty)
  refine ⟨hfailing (.here (.settings (.named (.unread (hread _ _))))), ?_, ?_, ?_, ?_⟩
  · have htokens : tokenize "{% end %}" = [⟨.tag, 0, " end ".toList⟩] := by decide +kernel
    obtain ⟨fault, hfault⟩ : ∃ fault, compile "{% end %}" = .error fault := by
      rw [compile_eq, htokens]
      exact ⟨_, rfl⟩
    exact hfailing (.later (Phase.not_settings (hdefault _)) (.later (Phase.not_template (htext _))
      (.here (.compile (Surroundings.templateGives_iff.2 (htext _)) hfault))))
  · have hjson : Json.read "[]" = some (.array []) := by cbv
    exact hfailing (a := ⟨"-", ["hi", "list"], [], false, false, none, .warn, false⟩)
      (.later (Phase.not_settings (hdefault _)) (.later (Phase.not_template (htext _))
        (.later (Phase.not_compile (htext _) compile_pair) (.later (Phase.not_context hhi)
          (.here (.context (.notObject (hread _ _) hjson fun _ h => Json.noConfusion h)))))))
  · obtain ⟨sink, result, hrun, -, -, -, hlook⟩ := run_first_failure Empty Empty
      ⟨"-", ["hi"], [], true, false, none, .warn, false⟩ (files "{{ a }} {{ b }}")
    exact (hlook rfl (.ofFiles [] "{{ a }} {{ b }}") rfl rfl
      (List.forall_mem_singleton.2 rfl)).trans hrun.symm
  · have hdocument : Toml.read "globals.b = \"y\"" =
        some [("globals", .object [("b", .string "y")])] := by cbv
    have hgives : (files "{{ a }} {{ b }}").SettingsGive (some "conf")
        (.ok [("globals", .object [("b", .string "y")])]) :=
      .named (.known (hread _ _) hdocument (List.forall_mem_singleton.2 (.globals _)))
    obtain ⟨settings, hload, htold⟩ := hgives.configures_ok
    obtain ⟨ha, hb⟩ := bound_pair hmembers
    have hrender := render_pair ha hb
    have htext := htext "{{ a }} {{ b }}"
    obtain ⟨sink, result, hrun, hcases, -, -, -⟩ := run_first_failure Empty Empty
      ⟨"-", ["hi"], [], false, false, some "conf", .warn, false⟩ (files "{{ a }} {{ b }}")
    refine ⟨sink, result, hrun, ?_⟩
    generalize files "{{ a }} {{ b }}" = s at *
    rcases hcases with ⟨p, e, hfirst, -⟩ |
      ⟨-, rfl, document, text, t, hsettings, hgiven, hsource, -, hprints⟩
    · obtain ⟨hmem, hfails⟩ := hfirst.mem_fails
      have hnone : ∀ q ∈ [Phase.settings, .template, .compile, .context "hi", .render],
          ∀ e, ¬q.Fails Empty Empty ⟨"-", ["hi"], [], false, false, some "conf", .warn, false⟩
            s e := by
        simp only [List.forall_mem_cons]
        exact ⟨Phase.not_settings hload, Phase.not_template htext, Phase.not_compile htext compile_pair,
          Phase.not_context hhi, Phase.not_render hload htold htext compile_pair hrender,
          List.forall_mem_nil _⟩
      exact absurd hfails (hnone p hmem e)
    · cases htext.symm.trans (Surroundings.templateGives_iff.1 hgiven)
      rw [Template.ofSource, Template.withContexts, compile_pair] at hsource
      cases hsource
      obtain ⟨settings', hload', htold'⟩ := hsettings.configures_ok
      cases hload.symm.trans hload'
      obtain ⟨out, hout, htaken⟩ := hprints rfl
      rw [bound_congr htold' htold] at hout
      cases hrender.symm.trans hout
      exact ⟨rfl, htaken⟩

end Command

end Stencil
