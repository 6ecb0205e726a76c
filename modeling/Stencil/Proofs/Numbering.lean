import Mathlib.Order.Nat
import Stencil.Block.Names
import Stencil.Draft
import Stencil.Proofs.Entries

/-! Slots and names of a draft. Free names keep the slots they were given, slots are given once
each, and the free names of the draft are those of the blocks written into it. -/

namespace Stencil

@[elab_as_elim]
theorem Block.forest {P : List Block → Prop} (nil : P [])
    (text : ∀ s rest, P rest → P (.text s :: rest))
    (output : ∀ e rest, P rest → P (.output e :: rest))
    (branch : ∀ condition body rest, P body → P rest → P (.branch condition body :: rest))
    (loop : ∀ name items body rest, P body → P rest → P (.loop name items body :: rest)) :
    ∀ body, P body
  | [] => nil
  | .text s :: rest => text s rest (forest nil text output branch loop rest)
  | .output e :: rest => output e rest (forest nil text output branch loop rest)
  | .branch condition body :: rest =>
    branch condition body rest (forest nil text output branch loop body)
      (forest nil text output branch loop rest)
  | .loop name items body :: rest =>
    loop name items body rest (forest nil text output branch loop body)
      (forest nil text output branch loop rest)

namespace Draft

@[simp] theorem flush_free (d : Draft) : d.flush.free = d.free := by
  unfold flush
  split <;> rfl

@[simp] theorem flush_slots (d : Draft) : d.flush.slots = d.slots := by
  unfold flush
  split <;> rfl

@[simp] theorem flush_pieces (d : Draft) : d.flush.pieces = [] := by
  unfold flush
  split
  next h => exact List.isEmpty_iff.1 h
  next => rfl

/-- Numbering goes on: names keep their slots, and a name that is new to `d'` has a slot that `d`
had not given yet. -/
structure Precedes (d d' : Draft) : Prop where
  slots : d.slots ≤ d'.slots
  kept {name : String} {slot : Nat} : Entries.find? d.free name = some slot →
    Entries.find? d'.free name = some slot
  fresh {name : String} {slot : Nat} :
    Entries.find? d.free name = none → Entries.find? d'.free name = some slot → d.slots ≤ slot

theorem precedes_of_eq {d d' : Draft} (hfree : d'.free = d.free) (hslots : d.slots ≤ d'.slots) :
    Precedes d d' := by
  refine ⟨hslots, fun h => hfree ▸ h, fun hnone hsome => ?_⟩
  rw [hfree, hnone] at hsome
  cases hsome

theorem Precedes.trans {d d' d'' : Draft} (h : Precedes d d') (h' : Precedes d' d'') :
    Precedes d d'' := by
  refine ⟨h.slots.trans h'.slots, fun hd => h'.kept (h.kept hd), fun hnone hsome => ?_⟩
  rename_i name slot
  cases hmid : Entries.find? d'.free name with
  | none => exact h.slots.trans (h'.fresh hmid hsome)
  | some slot' =>
    have heq : slot' = slot := Option.some.inj ((h'.kept hmid).symm.trans hsome)
    exact heq ▸ h.fresh hnone hmid

structure Numbered (d : Draft) : Prop where
  sorted : Entries.Sorted d.free
  below : ∀ entry ∈ d.free, entry.2 < d.slots
  distinct : (d.free.map Prod.snd).Nodup

theorem Numbered.of_eq {d d' : Draft} (h : Numbered d) (hfree : d'.free = d.free)
    (hslots : d.slots ≤ d'.slots) :
    Numbered d' :=
  ⟨hfree ▸ h.sorted, fun entry hentry => (h.below entry (hfree ▸ hentry)).trans_le hslots,
    hfree ▸ h.distinct⟩

theorem numbered_entry : Numbered entry := ⟨List.Pairwise.nil, nofun, List.nodup_nil⟩

theorem resolve_cases (scope : Scope) (d : Draft) (name : String) :
    (∃ slot, scope.lookup name = some slot ∧
      d.resolve scope name = (⟨name, slot, true⟩,
        { d with mentioned := d.mentioned.insert name })) ∨
    (∃ slot, scope.lookup name = none ∧ Entries.find? d.free name = some slot ∧
      d.resolve scope name = (⟨name, slot, false⟩,
        { d with mentioned := d.mentioned.insert name })) ∨
    (scope.lookup name = none ∧ Entries.find? d.free name = none ∧
      d.resolve scope name = (⟨name, d.slots, false⟩,
        { d with
          mentioned := d.mentioned.insert name
          free := Entries.insert d.free name d.slots
          slots := d.slots + 1 })) := by
  unfold resolve
  cases hscope : scope.lookup name with
  | some slot => exact .inl ⟨slot, rfl, rfl⟩
  | none =>
    cases hfree : Entries.find? d.free name with
    | some slot => exact .inr (.inl ⟨slot, rfl, rfl, by simp only [hfree]⟩)
    | none => exact .inr (.inr ⟨rfl, rfl, by simp only [hfree]⟩)

/-- How a draft goes on when the free names `names` are used in it, in this order. -/
structure Uses (names : List String) (d d' : Draft) : Prop where
  precedes : Precedes d d'
  numbered : Numbered d → Numbered d'
  keys : Numbered d → Entries.keys d'.free = names.foldl Names.insert (Entries.keys d.free)

theorem uses_of_eq {d d' : Draft} (hfree : d'.free = d.free) (hslots : d.slots ≤ d'.slots) :
    Uses [] d d' :=
  ⟨precedes_of_eq hfree hslots, fun h => h.of_eq hfree hslots,
    fun _ => by rw [hfree, List.foldl_nil]⟩

theorem Uses.append {a b : List String} {d d' d'' : Draft} (h : Uses a d d') (h' : Uses b d' d'') :
    Uses (a ++ b) d d'' := by
  refine ⟨h.precedes.trans h'.precedes, fun hd => h'.numbered (h.numbered hd), fun hd => ?_⟩
  rw [h'.keys (h.numbered hd), h.keys hd, List.foldl_append]

theorem Uses.onward {names : List String} {d d' d'' : Draft} (h : Uses names d d')
    (hfree : d''.free = d'.free) (hslots : d'.slots ≤ d''.slots) : Uses names d d'' := by
  simpa using h.append (uses_of_eq hfree hslots)

theorem Uses.flush {names : List String} {d d' : Draft} (h : Uses names d.flush d') :
    Uses names d d' :=
  (uses_of_eq (flush_free d) (flush_slots d).ge).append h

theorem Uses.closeBlock {names : List String} {d d' : Draft} (h : Uses names d d') :
    Uses names d d'.closeBlock :=
  h.onward (flush_free d') (flush_slots d').ge

theorem lookup_isSome (scope : Scope) (name : String) :
    (scope.lookup name).isSome = (scope.map Prod.fst).contains name := by
  induction scope with
  | nil => rfl
  | cons entry rest ih =>
    obtain ⟨bound, slot⟩ := entry
    rw [List.map_cons, List.contains_cons, List.lookup_cons, ← ih]
    cases name == bound <;> rfl

theorem uses_fresh {d : Draft} {name : String} (hnone : Entries.find? d.free name = none)
    (mentioned : Names) :
    Uses [name] d
      { d with
        mentioned := mentioned
        free := Entries.insert d.free name d.slots
        slots := d.slots + 1 } := by
  have hperm := Entries.insert_perm hnone d.slots
  refine ⟨⟨Nat.le_succ _, fun {n s} hn => ?_, fun {n s} hn hs => ?_⟩,
    fun hd => ⟨?_, fun entry hentry => ?_, ?_⟩, fun _ => Entries.keys_insert d.free name d.slots⟩
  · have hne : name ≠ n := by
      rintro rfl
      rw [hnone] at hn
      cases hn
    rw [Entries.find?_insert, if_neg hne, hn]
  · rw [Entries.find?_insert] at hs
    split at hs
    · exact (Option.some.inj hs).le
    · rw [hn] at hs
      cases hs
  · rw [Entries.Sorted, Entries.keys_insert]
    exact Names.sorted_insert hd.sorted name
  -- The new entry stands at its sorted place, but for the slots only what is in the list counts.
  · rcases List.mem_cons.1 (hperm.mem_iff.1 hentry) with rfl | hentry
    · exact Nat.lt_succ_self _
    · exact (hd.below entry hentry).trans (Nat.lt_succ_self _)
  · refine (hperm.map Prod.snd).nodup_iff.2 (List.nodup_cons.2 ⟨fun hmem => ?_, hd.distinct⟩)
    obtain ⟨entry, hentry, heq⟩ := List.mem_map.1 hmem
    exact (hd.below entry hentry).ne heq

theorem resolve_uses (scope : Scope) (d : Draft) (name : String) :
    Uses ([name].filter fun n => !(scope.map Prod.fst).contains n) d (d.resolve scope name).2 := by
  rw [List.filter_singleton, ← lookup_isSome]
  rcases resolve_cases scope d name with ⟨slot, hbound, h⟩ | ⟨slot, hbound, hfree, h⟩ |
    ⟨hbound, hnone, h⟩
  · rw [hbound]
    exact uses_of_eq (congrArg (free ·.2) h) (congrArg (slots ·.2) h).ge
  · have hsame : Uses [] d (d.resolve scope name).2 :=
      uses_of_eq (congrArg (free ·.2) h) (congrArg (slots ·.2) h).ge
    have hmem : name ∈ Entries.keys d.free := by
      by_contra hmem
      rw [Entries.find?_eq_none_iff.2 hmem] at hfree
      cases hfree
    rw [hbound]
    refine ⟨hsame.precedes, hsame.numbered, fun hd => ?_⟩
    rw [hsame.keys hd]
    exact (Names.insert_of_mem hd.sorted hmem).symm
  · rw [hbound, h]
    exact uses_fresh hnone _

theorem resolveAll_uses (scope : Scope) (d : Draft) (names : List String) :
    Uses (names.filter fun n => !(scope.map Prod.fst).contains n) d
      (d.resolveAll scope names).2 := by
  induction names generalizing d with
  | nil => exact uses_of_eq rfl le_rfl
  | cons name rest ih =>
    rw [← List.singleton_append, List.filter_append]
    exact (resolve_uses scope d name).append (ih (d.resolve scope name).2)

theorem expression_uses (scope : Scope) (d : Draft) (e : Expression String) :
    Uses (e.freeNames (scope.map Prod.fst)) d (d.expression scope e).2 := by
  rw [Expression.freeNames, Expression.names, ← List.singleton_append, List.filter_append]
  exact (resolve_uses scope d e.head).append
    (resolveAll_uses scope (d.resolve scope e.head).2 e.filters)

theorem openBranch_uses (scope : Scope) (d : Draft) (condition : Expression String) :
    Uses (condition.freeNames (scope.map Prod.fst)) d (d.openBranch scope condition).2 := by
  apply Uses.flush
  exact (expression_uses scope d.flush condition).onward rfl le_rfl

theorem openLoop_uses (scope : Scope) (d : Draft) (name : String) (items : Expression String) :
    Uses (items.freeNames (scope.map Prod.fst)) d (d.openLoop scope name items).2.2 := by
  apply Uses.flush
  exact (expression_uses scope d.flush items).onward rfl (Nat.le_succ _)

theorem block_output_uses (scope : Scope) (d : Draft) (e : Expression String) :
    Uses (e.freeNames (scope.map Prod.fst)) d (block scope d (.output e)) :=
  (expression_uses scope d e).onward rfl le_rfl

theorem blocks_uses (scope : Scope) (d : Draft) (body : List Block) :
    Uses (Block.freeUsesAll (scope.map Prod.fst) body) d (blocks scope d body) := by
  -- Flushing and indenting leave the numbering alone, so only the expressions and the bodies count.
  induction body using Block.forest generalizing scope d with
  | nil => exact uses_of_eq rfl le_rfl
  | text s rest ih =>
    have htext : Uses [] d (block scope d (.text s)) := uses_of_eq rfl le_rfl
    exact htext.append (ih scope _)
  | output e rest ih => exact (block_output_uses scope d e).append (ih scope _)
  | branch condition body rest ihBody ihRest =>
    have hbody :=
      (openBranch_uses scope d condition).append (ihBody scope (d.openBranch scope condition).2)
    exact hbody.closeBlock.append (ihRest scope _)
  | loop name items body rest ihBody ihRest =>
    have hbody := (openLoop_uses scope d name items).append
      (ihBody ((name, (d.openLoop scope name items).1) :: scope) (d.openLoop scope name items).2.2)
    exact hbody.closeBlock.append (ihRest scope _)

theorem blocks_precedes (scope : Scope) (d : Draft) (body : List Block) :
    Precedes d (blocks scope d body) :=
  (blocks_uses scope d body).precedes

theorem closeBlock_precedes (d : Draft) : Precedes d d.closeBlock :=
  precedes_of_eq (flush_free d) (flush_slots d).ge

theorem expression_precedes_output (scope : Scope) (d : Draft) (e : Expression String) :
    Precedes (d.expression scope e).2 (block scope d (.output e)) := precedes_of_eq rfl le_rfl

theorem expression_precedes_openBranch (scope : Scope) (d : Draft) (condition : Expression String) :
    Precedes (d.flush.expression scope condition).2 (d.openBranch scope condition).2 :=
      precedes_of_eq rfl le_rfl

theorem expression_precedes_openLoop (scope : Scope) (d : Draft) (name : String)
    (items : Expression String) :
    Precedes (d.flush.expression scope items).2 (d.openLoop scope name items).2.2 :=
  precedes_of_eq rfl (Nat.le_succ _)

structure Within (scope : Scope) (d : Draft) : Prop where
  numbered : Numbered d
  below : ∀ entry ∈ scope, entry.2 < d.slots

theorem within_entry : Within [] entry := ⟨numbered_entry, nofun⟩

theorem Within.onward {scope : Scope} {names : List String} {d d' : Draft} (h : Within scope d)
    (h' : Uses names d d') :
    Within scope d' :=
  ⟨h'.numbered h.numbered, fun entry hentry => (h.below entry hentry).trans_le h'.precedes.slots⟩

theorem Within.block {scope : Scope} {d : Draft} (h : Within scope d) (b : Block) :
    Within scope (block scope d b) :=
  h.onward (blocks_uses scope d [b])

theorem Within.openLoop {scope : Scope} {d : Draft} (h : Within scope d) (name : String)
    (items : Expression String) :
    d.slots ≤ (d.openLoop scope name items).1 ∧
      ∀ entry ∈ (d.openLoop scope name items).2.2.free,
        entry.2 < (d.openLoop scope name items).1 := by
  -- The items are read before the loop gets its slot.
  have hitems := expression_uses scope d.flush items
  have hflush : Numbered d.flush := h.numbered.of_eq (flush_free d) (flush_slots d).ge
  exact ⟨(flush_slots d).ge.trans hitems.precedes.slots, (hitems.numbered hflush).below⟩

theorem Within.loop {scope : Scope} {d : Draft} (h : Within scope d) (name : String)
    (items : Expression String) :
    Within ((name, (d.openLoop scope name items).1) :: scope)
      (d.openLoop scope name items).2.2 := by
  have hbody := h.onward (openLoop_uses scope d name items)
  refine ⟨hbody.numbered, fun entry hentry => ?_⟩
  rcases List.mem_cons.1 hentry with rfl | hentry
  · exact Nat.lt_succ_self _
  · exact hbody.below entry hentry

theorem ofBlocks_keys (body : List Block) :
    Entries.keys (ofBlocks body).free = Block.freeNames body := by
  rw [ofBlocks, flush_free, (blocks_uses [] entry body).keys numbered_entry]
  rfl

theorem ofBlocks_numbered (body : List Block) : Numbered (ofBlocks body) :=
  ((blocks_uses [] entry body).numbered numbered_entry).of_eq (flush_free _) (flush_slots _).ge

end Draft

end Stencil
