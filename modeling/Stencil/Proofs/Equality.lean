import Mathlib.Data.List.Forall2
import Stencil.Value.Equality

/-! Equality of values is an equivalence but for NaN: a value equals itself unless it reaches a NaN,
and equal values look alike. -/

namespace Stencil

namespace Binary64

theorem not_isNaN_of_isZero {x : Binary64} (h : x.isZero) : x.isNaN = false := by
  have hfield : x.field = 0 := of_decide_eq_true (Bool.and_eq_true_iff.1 h).1
  simp [isNaN, hfield]

theorem equal_iff {x y : Binary64} : x.equal y ↔ x = y ∧ x.isNaN = false ∨ x.isZero ∧ y.isZero := by
  simp only [equal, Bool.and_eq_true, Bool.or_eq_true, Bool.not_eq_true', decide_eq_true_eq]
  constructor
  · rintro ⟨hnan, rfl | hzero⟩
    · exact .inl ⟨rfl, hnan⟩
    · exact .inr hzero
  · rintro (⟨rfl, hnan⟩ | ⟨hx, hy⟩)
    · exact ⟨hnan, .inl rfl⟩
    · exact ⟨not_isNaN_of_isZero hx, .inr ⟨hx, hy⟩⟩

theorem equal_self {x : Binary64} : x.equal x ↔ x.isNaN = false := by
  rw [equal_iff]
  exact ⟨fun h => h.elim And.right fun hzero => not_isNaN_of_isZero hzero.1, fun h => .inl ⟨rfl, h⟩⟩

theorem equal_symm {x y : Binary64} (h : x.equal y) : y.equal x := by
  rcases equal_iff.1 h with ⟨rfl, -⟩ | ⟨hx, hy⟩
  · exact h
  · exact equal_iff.2 (.inr ⟨hy, hx⟩)

theorem equal_trans {x y z : Binary64} (h : x.equal y) (h' : y.equal z) : x.equal z := by
  rcases equal_iff.1 h with ⟨rfl, -⟩ | ⟨hx, hy⟩
  · exact h'
  · rcases equal_iff.1 h' with ⟨rfl, -⟩ | ⟨-, hz⟩
    · exact h
    · exact equal_iff.2 (.inr ⟨hx, hz⟩)

theorem isZero_eq_of_equal {x y : Binary64} (h : x.equal y) : x.isZero = y.isZero := by
  rcases equal_iff.1 h with ⟨rfl, -⟩ | ⟨hx, hy⟩
  · rfl
  · rw [hx, hy]

end Binary64

section Pairwise

variable {α β γ : Type} {as : List α} {bs : List β} {cs : List γ}

theorem forall₂_flip {R : α → β → Prop} {S : β → α → Prop} (h : List.Forall₂ R as bs)
    (hflip : ∀ a ∈ as, ∀ b, R a b → S b a) : List.Forall₂ S bs as := by
  induction h with
  | nil => exact .nil
  | cons hhead _ htail =>
    exact .cons (hflip _ List.mem_cons_self _ hhead)
      (htail fun a ha => hflip a (List.mem_cons_of_mem _ ha))

theorem forall₂_comp {R : α → β → Prop} {S : β → γ → Prop} {T : α → γ → Prop}
    (h : List.Forall₂ R as bs)
    (h' : List.Forall₂ S bs cs) (hcomp : ∀ a ∈ as, ∀ b c, R a b → S b c → T a c) :
    List.Forall₂ T as cs := by
  induction h generalizing cs with
  | nil =>
    cases h'
    exact .nil
  | cons hhead _ htail =>
    cases h' with
    | cons hhead' htail' =>
      exact .cons (hcomp _ List.mem_cons_self _ _ hhead hhead')
        (htail htail' fun a ha => hcomp a (List.mem_cons_of_mem _ ha))

end Pairwise

namespace Value

variable {F O : Type}

/-- A value reaches itself, and a list and a map reach what their items and values reach. -/
inductive Reaches : Value F O → Value F O → Prop
  | refl (v : Value F O) : Reaches v v
  | item {items : List (Value F O)} {v w : Value F O} (hv : v ∈ items) (h : Reaches v w) :
    Reaches (.list items) w
  | entry {entries : List (String × Value F O)} {e : String × Value F O} {w : Value F O}
    (he : e ∈ entries) (h : Reaches e.2 w) : Reaches (.map entries) w

@[elab_as_elim]
theorem nested {P : Value F O → Prop} (none : P .none) (bool : ∀ b, P (.bool b))
    (int : ∀ n, P (.int n))
    (float : ∀ x, P (.float x)) (string : ∀ s, P (.string s))
    (list : ∀ items, (∀ v ∈ items, P v) → P (.list items))
    (map : ∀ entries, (∀ e ∈ entries, P e.2) → P (.map entries)) (filter : ∀ f, P (.filter f))
    (object : ∀ o, P (.object o)) : ∀ v, P v
  | .none => none
  | .bool b => bool b
  | .int n => int n
  | .float x => float x
  | .string s => string s
  | .list items => list items fun v _ => nested none bool int float string list map filter object v
  | .map entries =>
    map entries fun e _ => nested none bool int float string list map filter object e.2
  | .filter f => filter f
  | .object o => object o
decreasing_by
  · have hlt := List.sizeOf_lt_of_mem ‹v ∈ items›
    simp only [Value.list.sizeOf_spec]
    omega
  · have hlt := List.sizeOf_lt_of_mem ‹e ∈ entries›
    have hentry : sizeOf e = 1 + sizeOf e.1 + sizeOf e.2 := Prod.mk.sizeOf_spec e.1 e.2
    simp only [Value.map.sizeOf_spec]
    omega

theorem reaches_list {items : List (Value F O)} {x : Binary64} :
    Reaches (.list items) (.float x) ↔ ∃ v ∈ items, Reaches v (.float x) := by
  constructor
  · rintro (_ | ⟨hv, h⟩)
    exact ⟨_, hv, h⟩
  · rintro ⟨v, hv, h⟩
    exact .item hv h

theorem reaches_map {entries : List (String × Value F O)} {x : Binary64} :
    Reaches (.map entries) (.float x) ↔ ∃ e ∈ entries, Reaches e.2 (.float x) := by
  constructor
  · rintro (_ | _ | ⟨he, h⟩)
    exact ⟨_, he, h⟩
  · rintro ⟨e, he, h⟩
    exact .entry he h

variable [DecidableEq F] [DecidableEq O] {a b c : Value F O}

theorem sameFilter_iff {f g : Filter F} : sameFilter f g ↔ f = g := by
  cases f <;> cases g <;> simp [sameFilter]

def EntriesEqual (e f : String × Value F O) : Prop := e.1 = f.1 ∧ equal e.2 f.2

theorem equalItems_iff {as bs : List (Value F O)} :
    equalItems as bs ↔ List.Forall₂ (fun a b => equal a b = true) as bs := by
  induction as generalizing bs with
  | nil => cases bs <;> simp [equalItems]
  | cons a as ih => cases bs <;> simp [equalItems, ih]

theorem equalEntries_iff {as bs : List (String × Value F O)} :
    equalEntries as bs ↔ List.Forall₂ EntriesEqual as bs := by
  induction as generalizing bs with
  | nil => cases bs <;> simp [equalEntries]
  | cons a as ih => cases bs <;> simp [equalEntries, EntriesEqual, ih]

inductive Matches : Value F O → Value F O → Prop
  | none : Matches .none .none
  | bool (b : Bool) : Matches (.bool b) (.bool b)
  | int (n : Int) : Matches (.int n) (.int n)
  | float {x y : Binary64} (h : x.equal y) : Matches (.float x) (.float y)
  | string (s : String) : Matches (.string s) (.string s)
  | list {as bs : List (Value F O)} (h : List.Forall₂ (fun a b => equal a b = true) as bs) :
    Matches (.list as) (.list bs)
  | map {as bs : List (String × Value F O)} (h : List.Forall₂ EntriesEqual as bs) :
    Matches (.map as) (.map bs)
  | filter (f : Filter F) : Matches (.filter f) (.filter f)
  | object (o : O) : Matches (.object o) (.object o)

theorem equal_iff : equal a b ↔ Matches a b := by
  constructor
  · intro h
    unfold equal at h
    split at h
    next => exact .none
    next => exact of_decide_eq_true h ▸ .bool _
    next => exact of_decide_eq_true h ▸ .int _
    next => exact .float h
    next => exact of_decide_eq_true h ▸ .string _
    next => exact .list (equalItems_iff.1 h)
    next => exact .map (equalEntries_iff.1 h)
    next => exact sameFilter_iff.1 h ▸ .filter _
    next => exact eq_of_beq h ▸ .object _
    next => cases h
  · intro h
    cases h with
    | none => rfl
    | bool b => exact decide_eq_true rfl
    | int n => exact decide_eq_true rfl
    | float h => exact h
    | string s => exact decide_eq_true rfl
    | list h => exact equalItems_iff.2 h
    | map h => exact equalEntries_iff.2 h
    | filter f => exact sameFilter_iff.2 rfl
    | object o => exact beq_self_eq_true o

theorem equal_symm (h : equal a b) : equal b a := by
  induction a using nested generalizing b with
  | list items ih =>
    cases equal_iff.1 h with
    | list hitems => exact equal_iff.2 (.list (forall₂_flip hitems fun v hv w => ih v hv))
  | map entries ih =>
    cases equal_iff.1 h with
    | map hentries =>
      exact equal_iff.2 (.map (forall₂_flip hentries fun e he f hef => ⟨hef.1.symm, ih e he hef.2⟩))
  | float x =>
    cases equal_iff.1 h with
    | float hfloat => exact Binary64.equal_symm hfloat
  | _ =>
    cases equal_iff.1 h
    exact h

theorem equal_trans (h : equal a b) (h' : equal b c) : equal a c := by
  induction a using nested generalizing b c with
  | list items ih =>
    cases equal_iff.1 h with
    | list hitems =>
      cases equal_iff.1 h' with
      | list hitems' =>
        exact equal_iff.2 (.list (forall₂_comp hitems hitems' fun v hv _ _ => ih v hv))
  | map entries ih =>
    cases equal_iff.1 h with
    | map hentries =>
      cases equal_iff.1 h' with
      | map hentries' =>
        exact equal_iff.2 (.map (forall₂_comp hentries hentries' fun e he f g hef hfg =>
          ⟨hef.1.trans hfg.1, ih e he hef.2 hfg.2⟩))
  | float x =>
    cases equal_iff.1 h with
    | float hfloat =>
      cases equal_iff.1 h' with
      | float hfloat' => exact Binary64.equal_trans hfloat hfloat'
  | _ =>
    cases equal_iff.1 h
    exact h'

theorem equal_self_iff : equal a a ↔ ∀ x, Reaches a (.float x) → x.isNaN = false := by
  induction a using nested with
  | list items ih =>
    have hitems : equal (.list items) (.list items) ↔ ∀ v ∈ items, equal v v :=
      equalItems_iff.trans List.forall₂_same
    simp only [hitems, reaches_list, forall_exists_index, and_imp]
    exact ⟨fun h x v hv => (ih v hv).1 (h v hv) x, fun h v hv => (ih v hv).2 fun x => h x v hv⟩
  | map entries ih =>
    have hentries : equal (.map entries) (.map entries) ↔ ∀ e ∈ entries, equal e.2 e.2 :=
      (equalEntries_iff.trans List.forall₂_same).trans (forall₂_congr fun e _ => and_iff_right rfl)
    simp only [hentries, reaches_map, forall_exists_index, and_imp]
    exact ⟨fun h x e he => (ih e he).1 (h e he) x, fun h e he => (ih e he).2 fun x => h x e he⟩
  | float x =>
    refine Binary64.equal_self.trans ⟨?_, fun h => h x (.refl _)⟩
    rintro h y ⟨⟩
    exact h
  | _ =>
    refine iff_of_true ?_ ?_
    · exact equal_iff.2 (by constructor)
    · rintro x ⟨⟩

theorem isTrue_eq_of_equal [Host F O] (h : equal a b) : a.isTrue = b.isTrue := by
  cases equal_iff.1 h with
  | float hfloat => rw [isTrue, isTrue, Binary64.isZero_eq_of_equal hfloat]
  | list hitems => cases hitems <;> rfl
  | map hentries => cases hentries <;> rfl
  | _ => rfl

theorem items_of_equal [Host F O] (h : equal a b) (hobject : ∀ o, a ≠ .object o) :
    Option.Rel (List.Forall₂ fun v w => equal v w = true) a.items? b.items? := by
  have hstrings : ∀ {v : Value F O}, (∃ s, v = .string s) → equal v v := by
    rintro _ ⟨s, rfl⟩
    exact equal_iff.2 (.string s)
  cases equal_iff.1 h with
  | string s =>
    refine .some (List.forall₂_same.2 fun v hv => hstrings ?_)
    obtain ⟨c, -, rfl⟩ := List.mem_map.1 hv
    exact ⟨_, rfl⟩
  | list hitems => exact .some hitems
  | map hentries =>
    refine .some (List.forall₂_map_left_iff.2
      (List.forall₂_map_right_iff.2 (hentries.imp fun e f hef => ?_)))
    obtain ⟨k, v⟩ := e
    obtain ⟨l, w⟩ := f
    obtain ⟨rfl, -⟩ := hef
    exact hstrings ⟨_, rfl⟩
  | object o => exact absurd rfl (hobject o)
  | _ => exact .none

/-- Equality is symmetric and transitive, and a value equals itself just when it reaches no NaN. A
filter or an object equals itself and nothing else. Equal values are of one kind and one truth, and
but for objects the items of one are, in order, equal to those of the other. -/
theorem equal_equivalence [Host F O] (a b c : Value F O) :
    equal a b = equal b a ∧
    (equal a b → equal b c → equal a c) ∧
    (equal a a ↔ ∀ x, Reaches a (.float x) → x.isNaN = false) ∧
    (∀ f, equal (.filter f) b ↔ b = .filter f) ∧
    (∀ o, equal (.object o) b ↔ b = .object o) ∧
    (equal a b → a.kind = b.kind ∧ a.isTrue = b.isTrue ∧
      ((∀ o, a ≠ .object o) →
        Option.Rel (List.Forall₂ fun v w => equal v w = true) a.items? b.items?)) := by
  refine ⟨Bool.eq_iff_iff.2 ⟨equal_symm, equal_symm⟩, equal_trans, equal_self_iff,
    fun f => ⟨fun h => ?_, ?_⟩,
    fun o => ⟨fun h => ?_, ?_⟩, fun h => ⟨?_, isTrue_eq_of_equal h, items_of_equal h⟩⟩
  · cases equal_iff.1 h
    rfl
  · rintro rfl
    exact equal_iff.2 (.filter f)
  · cases equal_iff.1 h
    rfl
  · rintro rfl
    exact equal_iff.2 (.object o)
  · cases equal_iff.1 h <;> rfl

theorem equal_equivalence_zeros :
    let zeros (signed : Bool) : Value Empty Empty :=
      .list [.map [("k", .float (.zero signed))], .string "a"]
    let odd : Value Empty Empty := .list [.map [("k", .float .nan)]]
    equal (zeros true) (zeros true) ∧ (zeros false).isTrue = (zeros true).isTrue ∧
      Option.Rel (List.Forall₂ fun v w => equal v w = true)
        (zeros false).items? (zeros true).items? ∧ ¬equal odd odd := by
  intro zeros odd
  have hzeros : equal (zeros false) (zeros true) := by decide +kernel
  have hzeros' : equal (zeros true) (zeros false) :=
    (equal_equivalence (zeros false) (zeros true) .none).1 ▸ hzeros
  have htrans := (equal_equivalence (zeros true) (zeros false) (zeros true)).2.1
  obtain ⟨-, htrue, hitems⟩ := (equal_equivalence (zeros false) (zeros true) .none).2.2.2.2.2 hzeros
  refine ⟨htrans hzeros' hzeros, htrue, hitems nofun, fun h => ?_⟩
  have hnan := (equal_equivalence odd .none .none).2.2.1.1 h .nan
    (.item List.mem_cons_self (.entry List.mem_cons_self (.refl _)))
  exact absurd hnan (by decide +kernel)

end Value

end Stencil
