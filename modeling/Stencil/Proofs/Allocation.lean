import Mathlib.Data.List.Nodup
import Mathlib.Data.Set.Function
import Mathlib.Order.Interval.Set.Defs
import Stencil.Program.Places
import Stencil.Proofs.Batching
import Stencil.Proofs.Endless
import Stencil.Proofs.Equality
import Stencil.Proofs.Rounds

/-! Slots are given once each. While a draft is written, the slots of its free names and of the
loops written so far are just those below its counter; and a variable has the slot that the
innermost loop over its name was given, or else that of the name's look-up. -/

namespace Stencil

namespace Node

theorem placesAll_append (around : List Variable) (a b : List Node) :
    placesAll around (a ++ b) = placesAll around a ++ placesAll around b := by
  induction a with
  | nil => rfl
  | cons first rest ih => rw [List.cons_append, placesAll, placesAll, ih, List.append_assoc]

theorem loopsAll_append (a b : List Node) : loopsAll (a ++ b) = loopsAll a ++ loopsAll b := by
  induction a with
  | nil => rfl
  | cons first rest ih => rw [List.cons_append, loopsAll, loopsAll, ih, List.append_assoc]

theorem placesAll_vars (around : List Variable) (body : List Node) :
    (placesAll around body).map Place.var = varsAll body := by
  have hhere : ∀ (around vs : List Variable), (vs.map (Place.mk around)).map Place.var = vs := by
    intro around vs
    rw [List.map_map]
    exact List.map_id vs
  induction body using Node.forest generalizing around with
  | nil => rfl
  | bind v rest ih => rw [placesAll, places, List.map_append, ih, varsAll, vars, List.map_singleton]
  | emit pieces rest ih => rw [placesAll, places, List.map_append, hhere, ih, varsAll, vars]
  | branch condition body rest ihBody ihRest =>
    rw [placesAll, places, List.map_append, List.map_append, hhere, ihBody, ihRest, varsAll, vars]
  | loop v items body rest ihBody ihRest =>
    rw [placesAll, places, List.map_append, List.map_append, List.map_cons, hhere, ihBody, ihRest,
      varsAll, vars]

theorem mem_varsAll_of_loopsAll {body : List Node} {v : Variable} (h : v ∈ loopsAll body) :
    v ∈ varsAll body := by
  induction body using Node.forest with
  | nil => cases h
  | bind w rest ih => exact List.mem_append_right _ (ih h)
  | emit pieces rest ih => exact List.mem_append_right _ (ih h)
  | branch condition body rest ihBody ihRest =>
    simp only [loopsAll, loops, List.mem_append] at h
    simp only [varsAll, vars, List.mem_append]
    exact h.imp (fun h => .inr (ihBody h)) ihRest
  | loop w items body rest ihBody ihRest =>
    simp only [loopsAll, loops, List.cons_append, List.mem_cons, List.mem_append] at h
    simp only [varsAll, vars, List.cons_append, List.mem_cons, List.mem_append]
    exact h.imp_right fun h => h.imp (fun h => .inr (ihBody h)) ihRest

theorem mem_loopsAll_of_place {around : List Variable} {body : List Node} {p : Place}
    (h : p ∈ placesAll around body)
    {v : Variable} (hv : v ∈ p.around) : v ∈ around ∨ v ∈ loopsAll body := by
  have hhere : ∀ {around vs : List Variable}, p ∈ vs.map (Place.mk around) → v ∈ around := by
    intro around vs hp
    obtain ⟨w, -, rfl⟩ := List.mem_map.1 hp
    exact hv
  induction body using Node.forest generalizing around with
  | nil => cases h
  | bind w rest ih =>
    rcases List.mem_append.1 h with h | h
    · obtain rfl := List.mem_singleton.1 h
      exact .inl hv
    · exact ih h
  | emit pieces rest ih =>
    rcases List.mem_append.1 h with h | h
    · exact .inl (hhere h)
    · exact ih h
  | branch condition body rest ihBody ihRest =>
    simp only [placesAll, places, List.mem_append] at h
    rw [loopsAll, loops, List.mem_append]
    rcases h with (h | h) | h
    · exact .inl (hhere h)
    · exact (ihBody h).imp_right .inl
    · exact (ihRest h).imp_right .inr
  | loop w items body rest ihBody ihRest =>
    simp only [placesAll, places, List.cons_append, List.mem_cons, List.mem_append] at h
    rw [loopsAll, loops, List.cons_append, List.mem_cons, List.mem_append]
    -- In the loop itself its variable is one of those around.
    have hloop : v ∈ w :: around → v ∈ around ∨ v = w ∨ v ∈ loopsAll body ∨ v ∈ loopsAll rest := by
      intro hmem
      exact (List.mem_cons.1 hmem).symm.imp_right .inl
    rcases h with rfl | (h | h) | h
    · exact hloop hv
    · exact .inl (hhere h)
    · exact (ihBody h).elim hloop fun h => .inr (.inr (.inl h))
    · exact (ihRest h).imp_right fun h => .inr (.inr h)

end Node

theorem frameFor_eq {vs : List Variable} {size : Nat}
    (h : ∀ slot, slot ∈ vs.map Variable.slot ↔ slot < size) :
    frameFor vs = size := by
  apply Nat.le_antisymm
  · rcases frameFor_exact vs with ⟨-, hzero⟩ | ⟨v, hv, -, hlast⟩
    · exact hzero.trans_le (Nat.zero_le size)
    · exact hlast.trans_le ((h v.slot).1 (List.mem_map_of_mem hv))
  · by_contra hlt
    obtain ⟨v, hv, hslot⟩ := List.mem_map.1 ((h (frameFor vs)).2 (Nat.lt_of_not_le hlt))
    exact (slot_lt_frameFor hv).ne hslot

namespace Draft

variable {d d' last : Draft} {loops : List Variable}

/-- The slots of the free names and of these loops are those given so far, each given once. -/
def Allotted (loops : List Variable) (d : Draft) : Prop :=
  (d.free.map Prod.snd ++ loops.map Variable.slot).Perm (List.range d.slots)

theorem allotted_entry : Allotted [] entry := .nil

theorem Allotted.of_eq (h : Allotted loops d) (hfree : d'.free = d.free)
    (hslots : d'.slots = d.slots) :
    Allotted loops d' := by
  rw [Allotted, hfree, hslots]
  exact h

theorem Allotted.resolve (h : Allotted loops d) (scope : Scope) (name : String) :
    Allotted loops (d.resolve scope name).2 := by
  rcases resolve_cases scope d name with ⟨slot, -, hd⟩ | ⟨slot, -, -, hd⟩ | ⟨-, hnone, hd⟩ <;>
    rw [hd]
  · exact h
  · exact h
  -- A name that is new gets the slot at which the counter stands.
  · have hfree : ((Entries.insert d.free name d.slots).map Prod.snd).Perm
        (d.slots :: d.free.map Prod.snd) :=
      (Entries.insert_perm hnone d.slots).map Prod.snd
    have hrange : (d.slots :: List.range d.slots).Perm (List.range (d.slots + 1)) := by
      rw [List.range_succ]
      exact (List.perm_append_singleton _ _).symm
    exact (hfree.append_right _).trans ((List.Perm.cons d.slots h).trans hrange)

theorem Allotted.resolveAll (h : Allotted loops d) (scope : Scope) (names : List String) :
    Allotted loops (d.resolveAll scope names).2 := by
  induction names generalizing d with
  | nil => exact h
  | cons name rest ih => exact ih (h.resolve scope name)

theorem Allotted.flush (h : Allotted loops d) : Allotted loops d.flush :=
  h.of_eq (flush_free d) (flush_slots d)

theorem Allotted.expression (h : Allotted loops d) (scope : Scope) (e : Expression String) :
    Allotted loops (d.expression scope e).2 :=
  (h.resolve scope e.head).resolveAll scope e.filters

theorem Allotted.openBranch (h : Allotted loops d) (scope : Scope) (condition : Expression String) :
    Allotted loops (d.openBranch scope condition).2 :=
  (h.flush.expression scope condition).of_eq rfl rfl

theorem Allotted.openLoop (h : Allotted loops d) (scope : Scope) (name : String)
    (items : Expression String) :
    Allotted (loops ++ [⟨name, (d.openLoop scope name items).1, true⟩])
      (d.openLoop scope name items).2.2 := by
  have hitems := h.flush.expression scope items
  have hslots : (d.openLoop scope name items).2.2.slots = (d.openLoop scope name items).1 + 1 := rfl
  rw [Allotted, hslots, List.range_succ, List.map_append, ← List.append_assoc]
  exact List.Perm.append_right _ hitems

theorem Allotted.closeBlock (h : Allotted loops d) : Allotted loops d.closeBlock :=
  h.flush.of_eq rfl rfl

theorem loopsAll_held (d : Draft) : Node.loopsAll d.held = [] := by
  unfold held
  split <;> rfl

theorem Allotted.blocks (h : Allotted loops d) (scope : Scope) (body : List Block) :
    Allotted (loops ++ Node.loopsAll (bodyNodes scope d body)) (blocks scope d body) := by
  induction body using Block.forest generalizing loops scope d with
  | nil =>
    have hnone : Node.loopsAll (bodyNodes scope d []) = [] := loopsAll_held d
    rw [hnone, List.append_nil]
    exact h
  | text s rest ih => exact ih (d := d.hold (.literal s)) (h.of_eq rfl rfl) scope
  | output e rest ih =>
    exact ih (d := block scope d (.output e)) ((h.expression scope e).of_eq rfl rfl) scope
  | branch condition body rest ihBody ihRest =>
    have hbody := (ihBody (h.openBranch scope condition) scope).closeBlock
    have hrest := ihRest (d := block scope d (.branch condition body)) hbody scope
    rw [bodyNodes_branch, Node.loopsAll_append, loopsAll_held, List.nil_append, Node.loopsAll,
      Node.loops, ← List.append_assoc]
    exact hrest
  | loop name items body rest ihBody ihRest =>
    have hbody := (ihBody (h.openLoop scope name items)
      ((name, (d.openLoop scope name items).1) :: scope)).closeBlock
    have hrest := ihRest (d := block scope d (.loop name items body)) hbody scope
    rw [bodyNodes_loop, Node.loopsAll_append, loopsAll_held, List.nil_append, Node.loopsAll,
      Node.loops]
    rwa [List.append_assoc, List.append_assoc, List.singleton_append] at hrest

def loopVariables (scope : Scope) : List Variable :=
  scope.map fun (name, slot) => ⟨name, slot, true⟩

def bindVariables (free : Entries Nat) : List Variable :=
  free.map fun (name, slot) => ⟨name, slot, false⟩

theorem find?_loopVariables (scope : Scope) (name : String) :
    (loopVariables scope).find? (fun v => v.name = name) =
    (scope.lookup name).map fun slot => ⟨name, slot, true⟩ := by
  induction scope with
  | nil => rfl
  | cons entry rest ih =>
    obtain ⟨first, slot⟩ := entry
    rw [loopVariables, List.map_cons, ← loopVariables, List.find?_cons, List.lookup_cons, ih]
    by_cases h : first = name
    · subst h
      rw [decide_eq_true rfl, beq_self_eq_true]
      rfl
    · rw [decide_eq_false h, beq_false_of_ne (Ne.symm h)]

/-- The variable is well scoped in the loops of `scope`, with the binds that the finished draft
`last` makes. -/
def ScopedIn (last : Draft) (scope : Scope) (v : Variable) : Prop :=
  Place.Scoped (bindVariables last.free) ⟨loopVariables scope, v⟩

theorem scopedIn_free {scope : Scope} {name : String} {slot : Nat}
    (hscope : scope.lookup name = none)
    (hfound : Entries.find? last.free name = some slot) :
    ScopedIn last scope ⟨name, slot, false⟩ := by
  refine ⟨nofun, fun _ => ⟨List.mem_map.2 ⟨_, Entries.mem_of_find? hfound, rfl⟩,
    fun v hv hname => ?_⟩⟩
  have hnone := find?_loopVariables scope name
  rw [hscope] at hnone
  exact List.find?_eq_none.1 hnone v hv (decide_eq_true hname)

theorem scopedIn_resolve (scope : Scope) (name : String)
    (hlast : Precedes (d.resolve scope name).2 last) :
    ScopedIn last scope (d.resolve scope name).1 := by
  rcases resolve_cases scope d name with ⟨slot, hscope, hd⟩ | ⟨slot, hscope, hfound, hd⟩ |
    ⟨hscope, -, hd⟩ <;>
    rw [hd] at hlast ⊢
  · refine ⟨fun _ => ?_, nofun⟩
    rw [find?_loopVariables, hscope]
    rfl
  · exact scopedIn_free hscope (hlast.kept hfound)
  -- Also a name that gets its slot only here has it in `last`, where the binds are made from.
  · refine scopedIn_free hscope (hlast.kept ?_)
    rw [Entries.find?_insert, if_pos rfl]

theorem scopedIn_resolveAll (scope : Scope) (names : List String)
    (hlast : Precedes (d.resolveAll scope names).2 last) :
    ∀ v ∈ (d.resolveAll scope names).1, ScopedIn last scope v := by
  induction names generalizing d with
  | nil => exact List.forall_mem_nil _
  | cons name rest ih =>
    have hrest := (resolveAll_uses scope (d.resolve scope name).2 rest).precedes
    exact List.forall_mem_cons.2 ⟨scopedIn_resolve scope name (hrest.trans hlast), ih hlast⟩

theorem scopedIn_expression (scope : Scope) (e : Expression String)
    (hlast : Precedes (d.expression scope e).2 last) :
    ∀ v ∈ (d.expression scope e).1.vars, ScopedIn last scope v := by
  have hfilters := (resolveAll_uses scope (d.resolve scope e.head).2 e.filters).precedes
  exact List.forall_mem_cons.2
    ⟨scopedIn_resolve scope e.head (hfilters.trans hlast),
      scopedIn_resolveAll scope e.filters hlast⟩

def HeldScoped (last : Draft) (scope : Scope) (d : Draft) : Prop :=
  ∀ v ∈ d.pieces.flatMap Piece.vars, ScopedIn last scope v

theorem heldScoped_of_nil {scope : Scope} (h : d.pieces = []) : HeldScoped last scope d := by
  rw [HeldScoped, h]
  exact List.forall_mem_nil _

theorem HeldScoped.output {scope : Scope} (h : HeldScoped last scope d) (e : Expression String)
    (hlast : Precedes (d.expression scope e).2 last) :
    HeldScoped last scope (block scope d (.output e)) := by
  have hpieces : (block scope d (.output e)).pieces =
      .output (d.expression scope e).1 :: d.pieces :=
    congrArg (Piece.output (d.expression scope e).1 :: ·) (expression_writes scope d e).2
  rw [HeldScoped, hpieces, List.flatMap_cons]
  exact List.forall_mem_append.2 ⟨scopedIn_expression scope e hlast, h⟩

theorem HeldScoped.held {scope : Scope} (h : HeldScoped last scope d) :
    ∀ p ∈ Node.placesAll (loopVariables scope) d.held, p.Scoped (bindVariables last.free) := by
  intro p hp
  unfold Draft.held at hp
  split at hp
  next => cases hp
  next =>
    rw [Node.placesAll, Node.places, Node.placesAll, List.append_nil] at hp
    obtain ⟨v, hv, rfl⟩ := List.mem_map.1 hp
    obtain ⟨piece, hpiece, hv⟩ := List.mem_flatMap.1 hv
    exact h v (List.mem_flatMap.2 ⟨piece, List.mem_reverse.1 hpiece, hv⟩)

theorem HeldScoped.bodyNodes {scope : Scope} (h : HeldScoped last scope d) {body : List Block}
    (hlast : Precedes (blocks scope d body) last) :
    ∀ p ∈ Node.placesAll (loopVariables scope) (bodyNodes scope d body),
      p.Scoped (bindVariables last.free) := by
  induction body using Block.forest generalizing scope d with
  | nil => exact h.held
  | text s rest ih => exact ih (d := d.hold (.literal s)) h hlast
  | output e rest ih =>
    have hafter := (blocks_precedes scope (block scope d (.output e)) rest).trans hlast
    exact ih (h.output e ((expression_precedes_output scope d e).trans hafter)) hlast
  | branch condition body rest ihBody ihRest =>
    have hafter := (blocks_precedes scope (block scope d (.branch condition body)) rest).trans hlast
    have hbody :=
      (closeBlock_precedes (blocks scope (d.openBranch scope condition).2 body)).trans hafter
    have hcondition := (expression_precedes_openBranch scope d condition).trans
      ((blocks_precedes scope _ body).trans hbody)
    rw [bodyNodes_branch, Node.placesAll_append, Node.placesAll, Node.places]
    simp only [List.forall_mem_append]
    refine ⟨h.held, ⟨?_, ?_⟩, ?_⟩
    · exact List.forall_mem_map.2 (scopedIn_expression scope condition hcondition)
    · exact ihBody (heldScoped_of_nil (openBranch_pieces scope d condition)) hbody
    · exact ihRest (heldScoped_of_nil (closeBlock_pieces _)) hlast
  | loop name items body rest ihBody ihRest =>
    have hafter := (blocks_precedes scope (block scope d (.loop name items body)) rest).trans hlast
    have hbody := (closeBlock_precedes
      (blocks ((name, (d.openLoop scope name items).1) :: scope) (d.openLoop scope name items).2.2
        body)).trans hafter
    have hitems := (expression_precedes_openLoop scope d name items).trans
      ((blocks_precedes _ _ body).trans hbody)
    rw [bodyNodes_loop, Node.placesAll_append, Node.placesAll, Node.places]
    simp only [List.forall_mem_append, List.forall_mem_cons]
    refine ⟨h.held, ⟨⟨⟨fun _ => ?_, nofun⟩, ?_⟩, ?_⟩, ?_⟩
    · exact List.find?_cons_of_pos (decide_eq_true rfl)
    · exact List.forall_mem_map.2 (scopedIn_expression scope items hitems)
    · exact ihBody (heldScoped_of_nil (openLoop_pieces scope d name items)) hbody
    · exact ihRest (heldScoped_of_nil (closeBlock_pieces _)) hlast

theorem bindNodes_eq (free : Entries Nat) : bindNodes free = (bindVariables free).map .bind := by
  rw [bindVariables, List.map_map]
  rfl

def slotOf (d : Draft) (ofTag : Token → Nat) : Owner → Nat
  | .name name => (Entries.find? d.free name).getD 0
  | .loop t => ofTag t

theorem bindVariables_eq (h : Numbered d) (ofTag : Token → Nat) : bindVariables d.free =
    (Entries.keys d.free).map fun name => ⟨name, d.slotOf ofTag (.name name), false⟩ := by
  rw [bindVariables, Entries.keys, List.map_map]
  refine List.map_congr_left fun entry hentry => ?_
  rw [Function.comp_apply, slotOf, Entries.find?_of_mem h.sorted.nodup hentry]
  rfl

theorem Allotted.owners (h : Allotted loops d) (hd : Numbered d) {tokens : List Token}
    {ofTag : Token → Nat}
    (htags : (tokens.filter Token.isLoop).map ofTag = loops.map Variable.slot) :
    ((owners (Entries.keys d.free) tokens).map (d.slotOf ofTag)).Perm (List.range d.slots) := by
  have hnames := congrArg (List.map Variable.slot) (bindVariables_eq hd ofTag)
  rw [bindVariables, List.map_map, List.map_map] at hnames
  rw [Stencil.owners, List.map_append, List.map_map, List.map_map]
  exact (List.Perm.of_eq (congrArg₂ (· ++ ·) hnames.symm htags)).trans h

theorem loopsAll_binds (binds : List Variable) : Node.loopsAll (binds.map .bind) = [] := by
  induction binds with
  | nil => rfl
  | cons v rest ih => exact ih

theorem varsAll_binds (binds : List Variable) : Node.varsAll (binds.map .bind) = binds := by
  induction binds with
  | nil => rfl
  | cons v rest ih => exact congrArg (v :: ·) ih

theorem placesAll_binds (binds : List Variable) :
    Node.placesAll [] (binds.map .bind) = binds.map (Place.mk []) := by
  induction binds with
  | nil => rfl
  | cons v rest ih => exact congrArg (Place.mk [] v :: ·) ih

theorem program_compiled (hidden : Char → Bool) (body : List Block) :
    (compiledWith hidden body).program.body =
    (bindVariables (ofBlocks body).free).map .bind ++ bodyNodes [] entry body := by
  rw [← bindNodes_eq]
  rfl

theorem loopsAll_compiled (hidden : Char → Bool) (body : List Block) :
    Node.loopsAll (compiledWith hidden body).program.body =
      Node.loopsAll (bodyNodes [] entry body) := by
  rw [program_compiled, Node.loopsAll_append, loopsAll_binds, List.nil_append]

theorem allotted_compiled (hidden : Char → Bool) (body : List Block) :
    Allotted (Node.loopsAll (compiledWith hidden body).program.body) (ofBlocks body) := by
  rw [loopsAll_compiled]
  exact (allotted_entry.blocks [] body).flush

theorem scoped_compiled (hidden : Char → Bool) (body : List Block) :
    ∀ p ∈ Node.placesAll [] (compiledWith hidden body).program.body,
      p.Scoped (bindVariables (ofBlocks body).free) := by
  have hlast : Precedes (blocks [] entry body) (ofBlocks body) :=
    precedes_of_eq (flush_free _) (flush_slots _).ge
  have hbody : HeldScoped (ofBlocks body) [] entry := heldScoped_of_nil rfl
  rw [program_compiled, Node.placesAll_append, placesAll_binds]
  refine List.forall_mem_append.2 ⟨List.forall_mem_map.2 fun v hv =>
    ⟨fun hbound => ?_, fun _ => ⟨hv, nofun⟩⟩, hbody.bodyNodes hlast⟩
  obtain ⟨entry, -, rfl⟩ := List.mem_map.1 hv
  cases hbound

theorem slots_compiled (hidden : Char → Bool) (body : List Block) :
    (compiledWith hidden body).program.slots = (ofBlocks body).slots := by
  have hallotted := allotted_compiled hidden body
  have hframe : (compiledWith hidden body).program.slots =
      frameFor (Node.varsAll (compiledWith hidden body).program.body) := rfl
  rw [hframe]
  refine frameFor_eq fun slot => ?_
  rw [← List.mem_range, ← hallotted.mem_iff, List.mem_append]
  constructor
  -- A variable in use is one of the binds or that of a loop around it.
  · intro hslot
    rw [← Node.placesAll_vars []] at hslot
    obtain ⟨v, hv, rfl⟩ := List.mem_map.1 hslot
    obtain ⟨p, hp, rfl⟩ := List.mem_map.1 hv
    have hscoped := scoped_compiled hidden body p hp
    cases hbound : p.var.bound with
    | true =>
      have haround := List.mem_of_find?_eq_some (hscoped.bound hbound)
      have hloop := (Node.mem_loopsAll_of_place hp haround).resolve_left List.not_mem_nil
      exact .inr (List.mem_map_of_mem hloop)
    | false =>
      obtain ⟨entry, hentry, heq⟩ := List.mem_map.1 (hscoped.free hbound).1
      exact .inl (List.mem_map.2 ⟨entry, hentry, congrArg Variable.slot heq⟩)
  · rintro (hfree | hloop)
    · obtain ⟨entry, hentry, rfl⟩ := List.mem_map.1 hfree
      refine List.mem_map.2 ⟨⟨entry.1, entry.2, false⟩, ?_, rfl⟩
      rw [program_compiled, Node.varsAll_append, varsAll_binds]
      exact List.mem_append_left _ (List.mem_map.2 ⟨entry, hentry, rfl⟩)
    · obtain ⟨v, hv, rfl⟩ := List.mem_map.1 hloop
      exact List.mem_map_of_mem (Node.mem_varsAll_of_loopsAll hv)

end Draft

theorem Span.Tiles.le_start {start stop : Nat} {spans : List Span} {s : Span}
    (h : Tiles start spans stop) (hs : s ∈ spans) : start ≤ s.start := by
  induction h with
  | nil => cases hs
  | cons hnonempty _ ih =>
    rcases List.mem_cons.1 hs with rfl | hs
    · exact Nat.le_refl _
    · exact hnonempty.le.trans (ih hs)

theorem Span.Tiles.nodup {start stop : Nat} {spans : List Span} (h : Tiles start spans stop) :
    spans.Nodup := by
  induction h with
  | nil => exact List.nodup_nil
  | cons hnonempty hrest ih =>
    exact List.nodup_cons.2 ⟨fun hs => hnonempty.not_ge (hrest.le_start hs), ih⟩

theorem tokenize_nodup (source : String) : (tokenize source).Nodup :=
  List.Nodup.of_map Token.span (tokenize_split source).tiles.nodup

theorem Token.Stands.isLoop_iff {t : Token} {sign : Sign} (h : t.Stands sign) :
    t.isLoop ↔ sign.isLoop := by
  cases h with
  | text hkind => simp [Token.isLoop, Sign.isLoop, hkind]
  | output hkind => simp [Token.isLoop, Sign.isLoop, hkind]
  | opening hopen => cases hopen <;> simp_all [Token.isLoop, Sign.isLoop]
  | closing hclose => cases hclose <;> simp_all [Token.isLoop, Sign.isLoop]

theorem Node.loops_outline (body : List Node) :
    List.Forall₂ (fun sign v => ∃ items, sign = Sign.opening (.loop v.name items))
      ((outlineAll body).filter Sign.isLoop) (loopsAll body) := by
  have hpieces : ∀ pieces : List Piece, (pieces.map Piece.sign).filter Sign.isLoop = [] := by
    intro pieces
    refine List.filter_eq_nil_iff.2 fun sign hsign => ?_
    obtain ⟨piece, -, rfl⟩ := List.mem_map.1 hsign
    cases piece <;> exact Bool.false_ne_true
  have henclose : ∀ (opener : Opener) (inside : List Sign),
      (Sign.enclose opener inside).filter Sign.isLoop =
      [Sign.opening opener].filter Sign.isLoop ++ inside.filter Sign.isLoop := by
    intro opener inside
    have hclosing : [Sign.closing opener].filter Sign.isLoop = [] := rfl
    rw [Sign.enclose, ← List.singleton_append, List.filter_append, List.filter_append, hclosing,
      List.append_nil]
  induction body using Node.forest with
  | nil => exact .nil
  | bind v rest ih => exact ih
  | emit pieces rest ih =>
    rw [outlineAll, outline, List.filter_append, hpieces]
    exact ih
  | branch condition body rest ihBody ihRest =>
    rw [outlineAll, outline, List.filter_append, henclose]
    exact List.rel_append ihBody ihRest
  | loop v items body rest ihBody ihRest =>
    rw [outlineAll, outline, List.filter_append, henclose]
    exact .cons ⟨items.named, rfl⟩ (List.rel_append ihBody ihRest)

theorem loops_of_derives {tokens : List Token} {body : List Block} (h : Derives tokens body)
    (hidden : Char → Bool) :
    List.Forall₂ (fun t v => ∃ items, Opens t (.loop v.name items)) (tokens.filter Token.isLoop)
      (Node.loopsAll (Draft.compiledWith hidden body).program.body) := by
  have houtline := List.rel_filter (R := Token.Stands) (fun _ _ hstands => hstands.isLoop_iff)
    h.outline
  have hkind : ∀ t ∈ tokens, (t.isLoop && decide (t.kind ≠ .comment)) = t.isLoop := by
    intro t _
    cases hkind : t.kind <;> simp [Token.isLoop, hkind]
  rw [← Draft.outlineAll_compiled hidden body, List.filter_filter, List.filter_congr hkind]
    at houtline
  refine forall₂_comp houtline (Node.loops_outline _) ?_
  rintro t - sign v hstands ⟨items, rfl⟩
  cases hstands with
  | opening hopen => exact ⟨items, hopen⟩

theorem exists_slot {R : Token → Variable → Prop} {tags : List Token} {loops : List Variable}
    (htags : tags.Nodup) (h : List.Forall₂ R tags loops) :
    ∃ slot : Token → Nat, List.Forall₂ (fun t v => R t v ∧ v.slot = slot t) tags loops := by
  obtain ⟨hlength, hget⟩ := List.forall₂_iff_get.1 h
  refine ⟨fun t => (loops[tags.idxOf t]?.map Variable.slot).getD 0,
    List.forall₂_iff_get.2 ⟨hlength, fun i hi hi' => ?_⟩⟩
  have hindex : tags.idxOf (tags.get ⟨i, hi⟩) = i := htags.idxOf_getElem i hi
  refine ⟨hget i hi hi', ?_⟩
  beta_reduce
  rw [hindex, List.getElem?_eq_getElem hi']
  rfl

theorem bijOn_of_perm {α : Type} {f : α → Nat} {members : List α} {size : Nat}
    (h : (members.map f).Perm (List.range size)) :
    Set.BijOn f {a | a ∈ members} (Set.Iio size) := by
  refine ⟨fun a ha => ?_, fun a ha b hb => ?_, fun n hn => ?_⟩
  · exact List.mem_range.1 (h.mem_iff.1 (List.mem_map_of_mem ha))
  · exact List.inj_on_of_nodup_map (h.nodup_iff.2 List.nodup_range) ha hb
  · exact List.mem_map.1 (h.mem_iff.2 (List.mem_range.2 hn))

/-- In the program of a template, each free name and each tag of a loop has a slot of its own, and
these are just the slots of the frame. The program looks the free names up first, into their slots,
and its loops are those of the tags, in order, with the slots of the tags. Each variable is that of
the innermost loop over its name, outside of which the items of the loop stand, or else it is one of
those looked up. -/
theorem compile_scoped {source : String} {c : Compiled} (h : compile source = .ok c) :
    ∃ (slot : Owner → Nat) (binds : List Variable) (rest : List Node),
      Set.BijOn slot {owner | owner ∈ owners c.free (tokenize source)} (Set.Iio c.program.slots) ∧
      c.program.body = binds.map .bind ++ rest ∧ Node.bindsAny rest = false ∧
      binds = c.free.map (fun name => ⟨name, slot (.name name), false⟩) ∧
      List.Forall₂ (fun t v => (∃ items, Opens t (.loop v.name items)) ∧ v.slot = slot (.loop t))
        ((tokenize source).filter Token.isLoop) (Node.loopsAll c.program.body) ∧
      ∀ p ∈ Node.placesAll [] c.program.body, p.Scoped binds := by
  obtain ⟨body, hderives, rfl⟩ := compileWith_ok h
  have hnumbered := Draft.ofBlocks_numbered body
  obtain ⟨ofTag, htags⟩ :=
    exists_slot ((tokenize_nodup source).filter Token.isLoop)
      (loops_of_derives hderives Text.isHidden)
  have hslots : ((tokenize source).filter Token.isLoop).map ofTag =
      (Node.loopsAll (Draft.compiledWith Text.isHidden body).program.body).map Variable.slot := by
    rw [← List.forall₂_eq_eq_eq, List.forall₂_map_left_iff, List.forall₂_map_right_iff]
    exact htags.imp fun t v hslot => hslot.2.symm
  have howners := (Draft.allotted_compiled Text.isHidden body).owners hnumbered hslots
  rw [← Draft.slots_compiled Text.isHidden body] at howners
  have hlines : ∀ line ∈ Node.linesAll indentStep (Draft.bodyNodes [] Draft.entry body), ∀ v,
      line.2 ≠ .bind v :=
    fun _ hline => Draft.ne_bind_of_body hline
  exact ⟨(Draft.ofBlocks body).slotOf ofTag, Draft.bindVariables (Draft.ofBlocks body).free,
    Draft.bodyNodes [] Draft.entry body, bijOn_of_perm howners, Draft.program_compiled _ body,
    Node.bindsAny_eq_false hlines, Draft.bindVariables_eq hnumbered ofTag, htags,
    Draft.scoped_compiled _ body⟩

theorem compile_scoped_shadowed : ∃ (c : Compiled) (slot : Owner → Nat),
    compile "{% for x in x %}{% for x in x %}{{ x|f }}{% endfor %}{{ x }}{% endfor %}" = .ok c ∧
    Set.BijOn slot {owner | owner ∈ owners c.free
      (tokenize "{% for x in x %}{% for x in x %}{{ x|f }}{% endfor %}{{ x }}{% endfor %}")}
        (Set.Iio 4) ∧
    slot (.name "x") = 0 ∧ slot (.name "f") = 3 ∧
    slot (.loop ⟨.tag, 0, " for x in x ".toList⟩) = 1 ∧
    slot (.loop ⟨.tag, 16, " for x in x ".toList⟩) = 2 ∧
    c.program.body = [.bind ⟨"f", 3, false⟩, .bind ⟨"x", 0, false⟩,
      .loop ⟨"x", 1, true⟩ ⟨"x", ⟨"x", 0, false⟩, [], []⟩ [
        .loop ⟨"x", 2, true⟩ ⟨"x", ⟨"x", 1, true⟩, [], []⟩
          [.emit [.output ⟨"x|f", ⟨"x", 2, true⟩, [], [⟨"f", 3, false⟩]⟩]],
        .emit [.output ⟨"x", ⟨"x", 1, true⟩, [], []⟩]]] := by
  have htokens :
      tokenize "{% for x in x %}{% for x in x %}{{ x|f }}{% endfor %}{{ x }}{% endfor %}" =
      [⟨.tag, 0, " for x in x ".toList⟩, ⟨.tag, 16, " for x in x ".toList⟩,
        ⟨.expression, 32, " x|f ".toList⟩,
        ⟨.tag, 41, " endfor ".toList⟩, ⟨.expression, 53, " x ".toList⟩,
        ⟨.tag, 60, " endfor ".toList⟩] := by
    decide +kernel
  have h : compile "{% for x in x %}{% for x in x %}{{ x|f }}{% endfor %}{{ x }}{% endfor %}" =
      .ok (Draft.compiled [.loop "x" ⟨"x", "x", [], []⟩ [
        .loop "x" ⟨"x", "x", [], []⟩ [.output ⟨"x|f", "x", [], ["f"]⟩],
          .output ⟨"x", "x", [], []⟩]]) := by
    rw [compile_eq, htokens]
    rfl
  obtain ⟨slot, binds, rest, hslots, hbody, -, rfl, htags, -⟩ := compile_scoped h
  rw [htokens] at htags
  obtain ⟨⟨-, houter⟩, ⟨-, hinner⟩, -⟩ := List.forall₂_cons.1 htags |>.imp_right List.forall₂_cons.1
  injection hbody with hf hbody
  injection hbody with hx hbody
  have hxSlot := (congrArg Variable.slot (Node.bind.inj hx)).symm
  have hfSlot := (congrArg Variable.slot (Node.bind.inj hf)).symm
  exact ⟨_, slot, h, hslots, hxSlot, hfSlot, houter.symm, hinner.symm, rfl⟩

end Stencil
