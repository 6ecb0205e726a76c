import Stencil.Proofs.Entries
import Stencil.Proofs.Render

/-! Layers of bindings. Contexts are merged, values stand over a base context, and pairs are
searched in order; by each of these ways a name means what was bound to it last. -/

namespace Stencil

namespace Entries

variable {α : Type}

theorem find?_eq_lookup (entries : Entries α) (key : String) :
    find? entries key = entries.lookup key := by
  induction entries with
  | nil => rfl
  | cons entry rest ih =>
    obtain ⟨first, held⟩ := entry
    rw [find?, List.lookup_cons, ih]
    by_cases h : first = key
    · rw [if_pos h, beq_iff_eq.2 h.symm]
    · rw [if_neg h, beq_false_of_ne (Ne.symm h)]

theorem find?_merge (entries more : Entries α) (key : String) :
    find? (merge entries more) key = (more.reverse.lookup key).or (find? entries key) := by
  induction more generalizing entries with
  | nil => rfl
  | cons entry rest ih =>
    obtain ⟨first, held⟩ := entry
    have hlast : List.lookup key [(first, held)] = if first = key then some held else none :=
      (find?_eq_lookup [(first, held)] key).symm
    have hrest := ih (insert entries first held)
    rw [find?_insert] at hrest
    rw [List.reverse_cons, List.lookup_append, hlast, Option.or_assoc]
    refine hrest.trans (congrArg _ ?_)
    split <;> rfl

theorem lookup_reverse {entries : Entries α} (h : (keys entries).Nodup) (key : String) :
    entries.reverse.lookup key = find? entries key := by
  induction entries with
  | nil => rfl
  | cons entry rest ih =>
    obtain ⟨first, held⟩ := entry
    obtain ⟨hfirst, hrest⟩ := List.nodup_cons.1 h
    have hlast : List.lookup key [(first, held)] = if first = key then some held else none :=
      (find?_eq_lookup [(first, held)] key).symm
    rw [List.reverse_cons, List.lookup_append, ih hrest, hlast, find?]
    split
    next hkey =>
      have hnone : find? rest key = none := find?_eq_none_iff.2 (hkey ▸ hfirst)
      rw [hnone, Option.none_or]
    next => rw [Option.or_none]

theorem Sorted.nodup {entries : Entries α} (h : Sorted entries) : (keys entries).Nodup := by
  refine List.Pairwise.imp ?_ h
  rintro a b hlt rfl
  rw [Std.ReflOrd.compare_self] at hlt
  cases hlt

theorem Sorted.find?_merge {more : Entries α} (h : Sorted more) (entries : Entries α)
    (key : String) :
    find? (merge entries more) key = (find? more key).or (find? entries key) := by
  rw [Entries.find?_merge, lookup_reverse h.nodup]

theorem Sorted.merge {entries : Entries α} (h : Sorted entries) (more : Entries α) :
    Sorted (merge entries more) := by
  induction more generalizing entries with
  | nil => exact h
  | cons entry rest ih =>
    have hinsert : Sorted (insert entries entry.1 entry.2) := by
      rw [Sorted, keys_insert]
      exact Names.sorted_insert h entry.1
    exact ih hinsert

end Entries

variable {F O : Type}

namespace Lookup

def bind (lookup : Lookup F O) (name : String) (value : Value F O) : Lookup F O :=
  fun n => if n = name then some value else lookup n

def ofBinds (pairs : List (String × Value F O)) : Lookup F O :=
  pairs.foldl (fun lookup pair => lookup.bind pair.1 pair.2) fun _ => none

theorem ofBinds_eq (pairs : List (String × Value F O)) :
    ofBinds pairs = ofContext (Entries.ofPairs pairs) := by
  have hbinds : ∀ (entries : Context F O),
      (pairs.foldl (fun lookup pair => lookup.bind pair.1 pair.2)
      (ofContext entries) : Lookup F O) = ofContext (Entries.merge entries pairs) := by
    induction pairs with
    | nil => exact fun entries => rfl
    | cons pair rest ih =>
      intro entries
      obtain ⟨name, value⟩ := pair
      have hbind : (ofContext entries).bind name value =
          ofContext (Entries.insert entries name value) := by
        funext n
        rw [bind, ofContext, ofContext, Entries.find?_insert]
        by_cases h : n = name
        · rw [if_pos h, if_pos h.symm]
        · rw [if_neg h, if_neg (Ne.symm h)]
      rw [List.foldl_cons, hbind]
      exact ih (Entries.insert entries name value)
  exact hbinds []

theorem ofPairs_eq (pairs : List (String × Value F O)) :
    ofPairs pairs = ofContext (Entries.ofPairs pairs.reverse) := by
  funext name
  rw [ofPairs, ofContext, Entries.ofPairs, Entries.find?_merge, List.reverse_reverse, Entries.find?,
    Option.or_none]

end Lookup

def lastBinding (contexts : List (Context F O)) : Lookup F O :=
  fun name => contexts.reverse.findSome? fun context => Entries.find? context name

theorem lastBinding_append (a b : List (Context F O)) :
    lastBinding (a ++ b) = (lastBinding b).over (lastBinding a) := by
  funext name
  rw [lastBinding, List.reverse_append, List.findSome?_append]
  rfl

theorem lastBinding_cons (context : Context F O) (rest : List (Context F O)) :
    lastBinding (context :: rest) = (lastBinding rest).over (.ofContext context) := by
  have hone : lastBinding [context] = .ofContext context := by
    funext name
    rw [lastBinding, List.reverse_singleton, List.findSome?_singleton, Lookup.ofContext]
  rw [← hone, ← lastBinding_append, List.singleton_append]

namespace Template

variable {contexts : List (Context F O)}

theorem ofContext_mergeContexts (h : ∀ context ∈ contexts, Entries.Sorted context) :
    Lookup.ofContext (mergeContexts contexts) = lastBinding contexts := by
  have hmerge : ∀ base : Context F O,
      Lookup.ofContext (contexts.foldl Entries.merge base) =
        (lastBinding contexts).over (.ofContext base) := by
    induction contexts with
    | nil => exact fun base => rfl
    | cons context rest ih =>
      intro base
      obtain ⟨hcontext, hrest⟩ := List.forall_mem_cons.1 h
      rw [List.foldl_cons, ih hrest, lastBinding_cons]
      funext name
      simp only [Lookup.over, Lookup.ofContext, hcontext.find?_merge, Option.or_assoc]
  have hnothing := hmerge []
  rw [mergeContexts, hnothing]
  funext name
  exact Option.or_none

theorem sorted_mergeContexts (contexts : List (Context F O)) :
    Entries.Sorted (mergeContexts contexts) := by
  have hmerge : ∀ base : Context F O, Entries.Sorted base →
      Entries.Sorted (contexts.foldl Entries.merge base) := by
    induction contexts with
    | nil => exact fun base h => h
    | cons context rest ih => exact fun base h => ih (base.merge context) (h.merge context)
  exact hmerge [] List.Pairwise.nil

variable [Host F O]

/-- How bindings are split over contexts and values does not matter: what is rendered is told by one
map, in which the last of the contexts that bind a name counts. And pairs that are searched in order
render as the entries and as the table that they make when they are put in one after the other from
the last to the first. -/
theorem split_of_bindings (source : String) (h : ∀ context ∈ contexts, Entries.Sorted context)
    (resolver : Resolver F O) :
    (∃ single : Context F O, Entries.Sorted single ∧
      (∀ name, Entries.find? single name = contexts.reverse.findSome? fun context =>
        Entries.find? context name) ∧
      ∀ j, (withContexts source (contexts.take j)).map (fun t =>
          t.render (.ofContext (mergeContexts (contexts.drop j))) resolver) =
        (ofSource source).map fun t => t.render (.ofContext single) resolver) ∧
    ∀ (t : Template F O) (pairs : List (String × Value F O)),
      t.render (.ofPairs pairs) resolver =
        t.render (.ofContext (Entries.ofPairs pairs.reverse)) resolver ∧
      t.render (.ofPairs pairs) resolver = t.render (.ofBinds pairs.reverse) resolver := by
  constructor
  · refine ⟨mergeContexts contexts, sorted_mergeContexts contexts, ?_, fun j => ?_⟩
    · exact fun name => congrFun (ofContext_mergeContexts h) name
    · have hlayers : (Lookup.ofContext (mergeContexts (contexts.drop j))).over
          (.ofContext (mergeContexts (contexts.take j))) =
            (Lookup.ofContext (mergeContexts contexts)).over (.ofContext (mergeContexts [])) := by
        have htake : ∀ context ∈ contexts.take j, Entries.Sorted context :=
          fun c hc => h c (List.mem_of_mem_take hc)
        have hdrop : ∀ context ∈ contexts.drop j, Entries.Sorted context :=
          fun c hc => h c (List.mem_of_mem_drop hc)
        rw [ofContext_mergeContexts htake, ofContext_mergeContexts hdrop, ofContext_mergeContexts h,
          ← lastBinding_append, List.take_append_drop]
        funext name
        exact Option.or_none.symm
      rw [withContexts, ofSource, withContexts]
      cases compile source with
      | error e => rfl
      | ok compiled =>
        refine congrArg Except.ok ?_
        simp only [render, scene, hlayers]
  · intro t pairs
    rw [Lookup.ofBinds_eq, Lookup.ofPairs_eq]
    exact ⟨rfl, rfl⟩

theorem ofTokens_pair : Block.ofTokens (tokenize "{{ a }} {{ b }}") =
    .ok [.output ⟨"a", "a", [], []⟩, .text " ", .output ⟨"b", "b", [], []⟩] := by
  have htokens : tokenize "{{ a }} {{ b }}" =
      [⟨.expression, 0, " a ".toList⟩, ⟨.text, 7, " ".toList⟩, ⟨.expression, 8, " b ".toList⟩] := by
    decide +kernel
  rw [htokens]
  rfl

/-- A name bound to none is bound: here the second context hides what the first has for it. -/
theorem split_of_bindings_none :
    let contexts : List (Context Empty Empty) :=
      [[("a", .bool true), ("b", .string "y")], [("a", .none)]]
    ∀ j, (withContexts "{{ a }} {{ b }}" (contexts.take j)).map
      (fun t => t.render (.ofContext (mergeContexts (contexts.drop j))) .dots) =
        .ok (.ok " y") := by
  intro contexts j
  have hsorted : ∀ context ∈ contexts, Entries.Sorted context :=
    List.forall_mem_cons.2 ⟨List.pairwise_pair.2 (by decide),
      List.forall_mem_singleton.2 (List.pairwise_singleton _ _)⟩
  obtain ⟨single, -, -, hrender⟩ := (split_of_bindings "{{ a }} {{ b }}" hsorted .dots).1
  rw [hrender j, ← hrender 2, withContexts_of_ofTokens ofTokens_pair]
  exact congrArg Except.ok ((Program.render_compiled _ _).trans rfl)

end Template

end Stencil
