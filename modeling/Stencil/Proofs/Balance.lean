import Mathlib.Data.List.Induction
import Mathlib.Tactic.Common
import Stencil.Listing.Assembly
import Stencil.Listing.Writing
import Stencil.Proofs.Interleaving

/-! The check of a listing and the nesting of the steps in its sections. The margin of a section
counts the steps in that are open, those that lead to its column included; so what is checked is
whether the steps match once these are counted too. -/

namespace Stencil

/-- How many steps in are open after the requests, of `n` that were open before; none once a step
out took back nothing. -/
def openSteps (n : Nat) : List Request → Option Nat
  | [] => some n
  | .line _ :: rest => openSteps n rest
  | .reserve :: rest => openSteps n rest
  | .indent :: rest => openSteps (n + 1) rest
  | .dedent :: rest =>
    match n with
    | 0 => none
    | n + 1 => openSteps n rest

theorem openSteps_append (n : Nat) (a b : List Request) :
    openSteps n (a ++ b) = (openSteps n a).bind fun n => openSteps n b := by
  induction a generalizing n with
  | nil => rfl
  | cons r rest ih =>
    cases r with
    | line statement => exact ih n
    | indent => exact ih (n + 1)
    | reserve => exact ih n
    | dedent =>
      cases n with
      | zero => rfl
      | succ n => exact ih n

theorem openSteps_indents (n k : Nat) (rest : List Request) :
    openSteps n (List.replicate k .indent ++ rest) = openSteps (n + k) rest := by
  induction k generalizing n with
  | zero => rfl
  | succ k ih =>
    rw [List.replicate_succ, List.cons_append, openSteps, ih, Nat.add_right_comm, Nat.add_assoc]

theorem openSteps_dedents {n k m : Nat} :
    openSteps n (List.replicate k .dedent) = some m ↔ n = m + k := by
  induction k generalizing n with
  | zero => exact Option.some_inj
  | succ k ih =>
    cases n with
    | zero => exact iff_of_false nofun (Nat.succ_ne_zero (m + k)).symm
    | succ n => exact ih.trans Nat.succ_inj.symm

namespace WellNested

theorem openSteps_eq {rs : List Request} (h : WellNested rs) (n : Nat) :
    openSteps n rs = some n := by
  induction h generalizing n with
  | nil => rfl
  | line statement _ ih => exact ih n
  | reserve _ ih => exact ih n
  | pair _ _ ihInside ihRest =>
    rw [openSteps, openSteps_append, ihInside]
    exact ihRest n

theorem length_behind (inside rest : List Request) :
    rest.length < (Request.indent :: (inside ++ .dedent :: rest)).length := by
  simp only [List.length_cons, List.length_append]
  omega

theorem exists_dedent {rs : List Request} {n m : Nat} (h : openSteps (n + 1) rs = some m)
    (hm : m ≤ n) :
    ∃ inside rest, WellNested inside ∧ rs = inside ++ .dedent :: rest ∧
      openSteps n rest = some m := by
  -- After a step in, the part behind the step out that takes it back is shorter, but no tail.
  induction hlength : rs.length using Nat.strongRecOn generalizing rs n with
  | _ length ih =>
    subst hlength
    cases rs with
    | nil => exact absurd (Option.some.inj h) (Nat.ne_of_gt (Nat.lt_succ_of_le hm))
    | cons r rs =>
      cases r with
      | line statement =>
        rw [openSteps] at h
        obtain ⟨inside, rest, hinside, rfl, hrest⟩ := ih _ (Nat.lt_succ_self _) h hm rfl
        exact ⟨_, rest, hinside.line statement, rfl, hrest⟩
      | reserve =>
        rw [openSteps] at h
        obtain ⟨inside, rest, hinside, rfl, hrest⟩ := ih _ (Nat.lt_succ_self _) h hm rfl
        exact ⟨_, rest, hinside.reserve, rfl, hrest⟩
      | dedent => exact ⟨[], rs, .nil, rfl, h⟩
      | indent =>
        rw [openSteps] at h
        obtain ⟨inside, rest, hinside, rfl, hrest⟩ :=
          ih _ (Nat.lt_succ_self _) h (Nat.le_succ_of_le hm) rfl
        obtain ⟨inside', rest', hinside', rfl, hrest'⟩ :=
          ih _ (length_behind inside rest) hrest hm rfl
        refine ⟨_, rest', hinside.pair hinside', ?_, hrest'⟩
        rw [List.cons_append, List.append_assoc, List.cons_append]

end WellNested

theorem wellNested_iff {rs : List Request} : WellNested rs ↔ openSteps 0 rs = some 0 := by
  refine ⟨fun h => h.openSteps_eq 0, fun h => ?_⟩
  induction hlength : rs.length using Nat.strongRecOn generalizing rs with
  | _ length ih =>
    subst hlength
    cases rs with
    | nil => exact .nil
    | cons r rs =>
      cases r with
      | line statement =>
        rw [openSteps] at h
        exact (ih _ (Nat.lt_succ_self _) h rfl).line statement
      | reserve =>
        rw [openSteps] at h
        exact (ih _ (Nat.lt_succ_self _) h rfl).reserve
      | dedent => cases h
      | indent =>
        obtain ⟨inside, rest, hinside, rfl, hrest⟩ := WellNested.exists_dedent h (Nat.le_refl 0)
        exact hinside.pair (ih _ (WellNested.length_behind inside rest) hrest rfl)

theorem wellNested_within_iff {k : Nat} {rs : List Request} :
    WellNested (List.replicate k .indent ++ (rs ++ List.replicate k .dedent)) ↔
      openSteps k rs = some k := by
  rw [wellNested_iff, openSteps_indents, Nat.zero_add, openSteps_append, Option.bind_eq_some_iff]
  constructor
  · rintro ⟨m, hm, hdedents⟩
    rw [hm, openSteps_dedents.1 hdedents, Nat.zero_add]
  · intro h
    exact ⟨k, h, openSteps_dedents.2 (Nat.zero_add k).symm⟩

theorem indentStep_mul_inj {a b : Nat} (h : indentStep * a = indentStep * b) : a = b :=
  Nat.eq_of_mul_eq_mul_left (Nat.succ_pos 3) h

theorem settled_iff {k : Nat} {rs : List Request} :
    Settled (indentStep * k) rs ↔ openSteps k rs = some k := by
  constructor
  · rintro ⟨k', hk, hnested⟩
    cases indentStep_mul_inj hk
    exact wellNested_within_iff.1 hnested
  · intro h
    exact ⟨k, rfl, wellNested_within_iff.2 h⟩

theorem settled_zero_iff {rs : List Request} : Settled 0 rs ↔ WellNested rs := by
  rw [wellNested_iff]
  exact settled_iff (k := 0)

theorem WellNested.settled {rs : List Request} (h : WellNested rs) (k : Nat) :
    Settled (indentStep * k) rs :=
  settled_iff.2 (h.openSteps_eq k)

theorem Overruns.not_settled {column : Nat} {rs : List Request} (h : Overruns column rs) :
    ¬ Settled column rs := by
  obtain ⟨k, before, after, rfl, rfl, hbefore⟩ := h
  rw [settled_iff, openSteps_append]
  -- The step out finds no step open.
  have hnone : openSteps k before = some 0 := by
    rwa [wellNested_iff, openSteps_indents, Nat.zero_add] at hbefore
  rw [hnone]
  exact nofun

namespace Margin

def after (m : Margin) (rs : List Request) : Margin :=
  rs.foldl (fun m r => ((⟨m, []⟩ : Listing).apply r).margin) m

theorem after_append (m : Margin) (a b : List Request) : m.after (a ++ b) = (m.after a).after b :=
  List.foldl_append

theorem check_ok_iff {m : Margin} : m.check = .ok () ↔ m.overrun = false ∧ m.level = m.base := by
  rw [check]
  cases m.overrun <;> simp

theorem check_after (k n : Nat) (overrun : Bool) (rs : List Request) :
    ((⟨indentStep * k, indentStep * n, overrun⟩ : Margin).after rs).check = .ok () ↔
      overrun = false ∧ openSteps n rs = some k := by
  induction rs generalizing n overrun with
  | nil =>
    rw [after, List.foldl_nil, check_ok_iff, openSteps, Option.some_inj]
    exact and_congr_right fun _ => ⟨indentStep_mul_inj, congrArg _⟩
  | cons r rest ih =>
    cases r with
    | line statement => exact ih n overrun
    | reserve => exact ih n overrun
    | indent => exact ih (n + 1) overrun
    | dedent =>
      cases n with
      | zero =>
        refine (ih 0 true).trans (iff_of_false ?_ ?_)
        · rintro ⟨⟨⟩, -⟩
        · rintro ⟨-, ⟨⟩⟩
      | succ n => exact ih n overrun

theorem level_after {m : Margin} {n : Nat} (h : m.level = indentStep * n) (rs : List Request) :
    ∃ n', (m.after rs).level = indentStep * n' := by
  induction rs generalizing m n with
  | nil => exact ⟨n, h⟩
  | cons r rest ih =>
    cases r with
    | line statement => exact ih h
    | reserve => exact ih h
    | indent =>
      have hlevel : m.level + indentStep = indentStep * (n + 1) := by rw [h, Nat.mul_succ]
      exact ih hlevel
    | dedent =>
      have hlevel : ∃ n', (((⟨m, []⟩ : Listing).dedent).margin).level = indentStep * n' := by
        simp only [Listing.dedent]
        split
        next hle => exact ⟨n - 1, by rw [h, Nat.mul_sub_one]⟩
        next => exact ⟨n, h⟩
      obtain ⟨n', hn'⟩ := hlevel
      exact ih hn'

theorem base_after (m : Margin) (rs : List Request) : (m.after rs).base = m.base := by
  induction rs generalizing m with
  | nil => rfl
  | cons r rest ih =>
    refine (ih _).trans ?_
    cases r with
    | dedent =>
      simp only [Listing.apply, Listing.dedent]
      split <;> rfl
    | _ => rfl

end Margin

@[elab_as_elim]
theorem Chunk.forest {P : List Chunk → Prop} (nil : P [])
    (line : ∀ indent statement rest, P rest → P (.line indent statement :: rest))
    (part : ∀ margin chunks rest, P chunks → P rest → P (.part margin chunks :: rest)) :
    ∀ chunks, P chunks
  | [] => nil
  | .line indent statement :: rest => line indent statement rest (forest nil line part rest)
  | .part margin chunks :: rest =>
    part margin chunks rest (forest nil line part chunks) (forest nil line part rest)

theorem Chunk.check_part_ok_iff {margin : Margin} {chunks : List Chunk} :
    (Chunk.part margin chunks).check = .ok () ↔ margin.check = .ok () ∧
    checkAll chunks = .ok () := by
  rw [check]
  cases margin.check with
  | ok => exact (and_iff_right rfl).symm
  | error e =>
    refine iff_of_false ?_ ?_
    · rintro ⟨⟩
    · rintro ⟨⟨⟩, -⟩

theorem Chunk.checkAll_cons_ok_iff {chunk : Chunk} {rest : List Chunk} :
    checkAll (chunk :: rest) = .ok () ↔ chunk.check = .ok () ∧ checkAll rest = .ok () := by
  rw [checkAll]
  cases chunk.check with
  | ok => exact (and_iff_right rfl).symm
  | error e =>
    refine iff_of_false ?_ ?_
    · rintro ⟨⟩
    · rintro ⟨⟨⟩, -⟩

namespace Listing

variable {l l' : Listing}

def Checked (l : Listing) : Prop := ∀ path s, l.sectionAt path = .ok s → s.margin.check = .ok ()

theorem checked_iff : l.Checked ↔
    l.margin.check = .ok () ∧ ∀ handle inner, l.section? handle = .ok inner → inner.Checked := by
  constructor
  · intro h
    exact ⟨h [] l rfl, fun handle inner hinner path s hs =>
      h (handle :: path) s ((sectionAt_cons hinner).trans hs)⟩
  · rintro ⟨hmargin, hinner⟩ path s hs
    cases path with
    | nil =>
      cases hs
      exact hmargin
    | cons handle path =>
      obtain ⟨inner, hsection, hrest⟩ := sectionAt_cons_ok hs
      exact hinner handle inner hsection path s hrest

theorem section?_succ_ok_iff {margin : Margin} {chunk : Chunk} {rest : List Chunk} {handle : Nat}
    {inner : Listing} :
    (⟨margin, chunk :: rest⟩ : Listing).section? (handle + 1) = .ok inner ↔
      (⟨margin, rest⟩ : Listing).section? handle = .ok inner := by
  rw [section?_ok_iff, section?_ok_iff, List.getElem?_cons_succ]

theorem checkAll_ok_iff (margin : Margin) (chunks : List Chunk) :
    Chunk.checkAll chunks = .ok () ↔
      ∀ handle inner, (⟨margin, chunks⟩ : Listing).section? handle = .ok inner → inner.Checked := by
  induction chunks using Chunk.forest generalizing margin with
  | nil => exact iff_of_true rfl fun handle inner h => by cases section?_ok_iff.1 h
  | line indent statement rest ih =>
    have hline : (Chunk.line indent statement).check = .ok () := by rw [Chunk.check]
    rw [Chunk.checkAll_cons_ok_iff, and_iff_right hline, ih margin]
    constructor
    · rintro h (_ | handle) inner hinner
      · cases hinner
      · exact h handle inner (section?_succ_ok_iff.1 hinner)
    · intro h handle inner hinner
      exact h (handle + 1) inner (section?_succ_ok_iff.2 hinner)
  | part own chunks rest ihChunks ihRest =>
    have hown : (Chunk.part own chunks).check = .ok () ↔ (⟨own, chunks⟩ : Listing).Checked := by
      rw [Chunk.check_part_ok_iff, ihChunks own, checked_iff]
    rw [Chunk.checkAll_cons_ok_iff, hown, ihRest margin]
    constructor
    · rintro ⟨hfirst, hrest⟩ (_ | handle) inner hinner
      · cases hinner
        exact hfirst
      · exact hrest handle inner (section?_succ_ok_iff.1 hinner)
    · intro h
      exact ⟨h 0 _ rfl, fun handle inner hinner =>
        h (handle + 1) inner (section?_succ_ok_iff.2 hinner)⟩

theorem check_ok_iff : l.check = .ok () ↔ l.Checked := by
  rw [check, Chunk.check_part_ok_iff, checkAll_ok_iff l.margin, checked_iff]

theorem apply_margin (l : Listing) (r : Request) : (l.apply r).margin = l.margin.after [r] := by
  rw [apply_eq]
  rfl

theorem section?_of_apply {r : Request} {handle : Nat} {inner : Listing}
    (h : (l.apply r).section? handle = .ok inner) :
    l.section? handle = .ok inner ∨ r = .reserve ∧ handle = l.handle ∧
    inner = ⟨.at l.margin.level, []⟩ := by
  rw [section?_ok_iff, apply_eq] at h
  by_cases hlt : handle < l.chunks.length
  · rw [List.getElem?_append_left hlt] at h
    exact .inl (section?_ok_iff.2 h)
  · have hle := Nat.le_of_not_lt hlt
    rw [List.getElem?_append_right hle] at h
    cases r with
    | line statement => cases List.mem_singleton.1 (List.mem_of_getElem? h)
    | indent => cases h
    | dedent =>
      have hnone : ((⟨l.margin, []⟩ : Listing).apply .dedent).chunks = [] := by
        simp only [apply, dedent]
        split <;> rfl
      rw [hnone] at h
      cases h
    | reserve =>
      obtain ⟨hpos, hplace⟩ := List.getElem?_eq_some_iff.1 h
      have hhandle : handle - l.chunks.length = 0 := Nat.lt_one_iff.1 hpos
      refine .inr ⟨rfl, Nat.le_antisymm (Nat.sub_eq_zero_iff_le.1 hhandle) hle, ?_⟩
      obtain ⟨margin, chunks⟩ := inner
      cases List.mem_singleton.1 (List.mem_of_getElem? h)
      rfl

theorem sectionAt_of_write {path : List Nat} {w : Writing} {s' : Listing} (h : l.write w = .ok l')
    (hs : l'.sectionAt path = .ok s') :
    (∃ s, l.sectionAt path = .ok s ∧ s'.margin = s.margin.after (received path [w])) ∨
      ∃ s, l.sectionAt w.path = .ok s ∧ path = w.path ++ [s.handle] ∧
        s' = ⟨.at s.margin.level, []⟩ := by
  obtain ⟨target, r⟩ := w
  have hmodify : l.modifyAt target (·.apply r) = .ok l' := h
  clear h
  induction target generalizing l l' path with
  | nil =>
    cases hmodify
    cases path with
    | nil =>
      cases hs
      exact .inl ⟨l, rfl, apply_margin l r⟩
    | cons handle path =>
      obtain ⟨inner, hinner, hrest⟩ := sectionAt_cons_ok hs
      rcases section?_of_apply hinner with hbefore | ⟨-, rfl, rfl⟩
      · exact .inl ⟨s', (sectionAt_cons hbefore).trans hrest, rfl⟩
      · cases path with
        | nil =>
          cases hrest
          exact .inr ⟨l, rfl, rfl, rfl⟩
        | cons handle path => cases hrest
  | cons handle target ih =>
    obtain ⟨t, t', ht, ht', rfl⟩ := modifyAt_cons_ok hmodify
    cases path with
    | nil =>
      cases hs
      exact .inl ⟨l, rfl, rfl⟩
    | cons handle' path =>
      obtain ⟨inner, hinner, hrest⟩ := sectionAt_cons_ok hs
      by_cases hhandle : handle = handle'
      · subst hhandle
        cases (section?_putSection_self ht t').symm.trans hinner
        rcases ih hrest ht' with ⟨s, hsection, hmargin⟩ | ⟨s, hsection, rfl, rfl⟩
        · refine .inl ⟨s, (sectionAt_cons ht).trans hsection, hmargin.trans (congrArg _ ?_)⟩
          rw [received_cons, received_cons]
          simp only [List.cons.injEq, true_and]
          rfl
        · exact .inr ⟨s, (sectionAt_cons ht).trans hsection, rfl, rfl⟩
      · rw [section?_putSection_ne hhandle] at hinner
        refine .inl ⟨s', (sectionAt_cons hinner).trans hrest, ?_⟩
        have hother : ∀ w ∈ [(⟨handle :: target, r⟩ : Writing)], w.path ≠ handle' :: path :=
          List.forall_mem_singleton.2 fun hpath => hhandle (List.cons.inj hpath).1
        rw [received_eq_nil hother]
        rfl

theorem sectionAt_append {path path' : List Nat} {s : Listing} (h : l.sectionAt path = .ok s) :
    l.sectionAt (path ++ path') = s.sectionAt path' := by
  induction path generalizing l with
  | nil =>
    cases h
    rfl
  | cons handle path ih =>
    obtain ⟨inner, hinner, hrest⟩ := sectionAt_cons_ok h
    rw [List.cons_append, sectionAt_cons hinner, ih hrest]

variable {ws : List Writing}

theorem sectionAt_of_received {path : List Nat} (h : l.writes ws = .ok l')
    (hreceived : received path ws ≠ []) :
    ∃ s, l'.sectionAt path = .ok s := by
  obtain ⟨r, rs, hrs⟩ := List.exists_cons_of_ne_nil hreceived
  obtain ⟨before, after, rfl, -⟩ := received_split hrs
  rw [writes_append] at h
  obtain ⟨m, -, hafter⟩ := bind_eq_ok h
  obtain ⟨m', hwrite, -⟩ := writes_cons_ok hafter
  obtain ⟨s, hs⟩ := sectionAt_of_modifyAt hwrite
  obtain ⟨s', -, hs'⟩ := sectionAt_writes hs hafter
  exact ⟨s', hs'⟩

theorem margin_of_writes {path : List Nat} {s : Listing} (h : empty.writes ws = .ok l)
    (hs : l.sectionAt path = .ok s) :
    ∃ k, s.margin = (Margin.at (indentStep * k)).after (received path ws) := by
  induction ws using List.reverseRecOn generalizing l path s with
  | nil =>
    cases h
    cases path with
    | nil =>
      cases hs
      exact ⟨0, rfl⟩
    | cons handle path => cases hs
  | append_singleton ws w ih =>
    rw [writes_append] at h
    obtain ⟨m, hm, hlast⟩ := bind_eq_ok h
    obtain ⟨l', hw, hl'⟩ := writes_cons_ok hlast
    cases hl'
    rw [received_append]
    rcases sectionAt_of_write hw hs with ⟨s₀, hs₀, hmargin⟩ | ⟨outer, houter, rfl, rfl⟩
    · obtain ⟨k, hk⟩ := ih hm hs₀
      exact ⟨k, by rw [hmargin, hk, Margin.after_append]⟩
    · -- The place was not there before, so nothing was asked of it.
      have hnone : received (w.path ++ [outer.handle]) ws = [] := by
        by_contra hsome
        obtain ⟨s, hbefore⟩ := sectionAt_of_received hm hsome
        rw [sectionAt_append houter] at hbefore
        obtain ⟨inner, hinner, -⟩ := sectionAt_cons_ok hbefore
        obtain ⟨hlt, -⟩ := List.getElem?_eq_some_iff.1 (section?_ok_iff.1 hinner)
        exact Nat.lt_irrefl _ hlt
      have hother : ∀ u ∈ [w], u.path ≠ w.path ++ [outer.handle] :=
        List.forall_mem_singleton.2 fun hpath =>
          List.cons_ne_nil _ _ (List.self_eq_append_right.1 hpath)
      obtain ⟨k, hk⟩ := ih hm houter
      have hstart : (Margin.at (indentStep * k)).level = indentStep * k := rfl
      obtain ⟨n, hn⟩ := Margin.level_after hstart (received w.path ws)
      rw [hnone, received_eq_nil hother]
      exact ⟨n, by rw [hk, hn]; rfl⟩

theorem check_section_iff {path : List Nat} {s : Listing} (h : empty.writes ws = .ok l)
    (hs : l.sectionAt path = .ok s) :
    s.margin.check = .ok () ↔ Settled s.margin.base (received path ws) := by
  obtain ⟨k, hk⟩ := margin_of_writes h hs
  have hbase : s.margin.base = indentStep * k := by rw [hk, Margin.base_after, Margin.at]
  rw [hbase, settled_iff, hk, Margin.at, Margin.check_after]
  exact and_iff_right rfl

theorem render_ok_iff : (∃ text, l.render = .ok text) ↔ l.check = .ok () := by
  rw [render, renderWith]
  cases l.check with
  | ok => exact iff_of_true ⟨_, rfl⟩ rfl
  | error e =>
    refine iff_of_false ?_ ?_
    · rintro ⟨text, ⟨⟩⟩
    · rintro ⟨⟩

theorem render_eq_error_iff {e : ListingError} : l.render = .error e ↔ l.check = .error e := by
  rw [render, renderWith]
  cases l.check with
  | ok =>
    refine iff_of_false ?_ ?_ <;> rintro ⟨⟩
  | error e' =>
    exact ⟨fun h => congrArg _ (Except.error.inj h), fun h => congrArg _ (Except.error.inj h)⟩

theorem materialize_of_check_error {e : ListingError} (h : l.check = .error e) :
    l.materialize = .error e := by
  rw [materialize, h]

/-- A listing is written out exactly if the steps of each section are well nested once those that
lead to its column are counted too; what is refused is not assembled either, with the same error. So
a listing is written out if each section is well nested in itself, and only if those that start at
column zero are; and a step out that takes back no step at all is found in any section, whatever is
written to it afterwards. -/
theorem balance_exact (h : empty.writes ws = .ok l) :
    ((∃ text, l.render = .ok text) ↔
      ∀ path s, l.sectionAt path = .ok s → Settled s.margin.base (received path ws)) ∧
    (∀ e, l.render = .error e → l.materialize = .error e) ∧
    ((∀ path s, l.sectionAt path = .ok s → WellNested (received path ws)) →
      ∃ text, l.render = .ok text) ∧
    ((∃ text, l.render = .ok text) →
      ∀ path s, l.sectionAt path = .ok s → s.margin.base = 0 → WellNested (received path ws)) ∧
    ∀ path s, l.sectionAt path = .ok s → Overruns s.margin.base (received path ws) →
      ∃ e, l.render = .error e ∧ l.materialize = .error e := by
  have hrender : (∃ text, l.render = .ok text) ↔
      ∀ path s, l.sectionAt path = .ok s → Settled s.margin.base (received path ws) := by
    rw [render_ok_iff, check_ok_iff]
    exact forall₂_congr fun path s => forall_congr' fun hs => check_section_iff h hs
  have hmaterialize : ∀ e, l.render = .error e → l.materialize = .error e := fun e he =>
    materialize_of_check_error (render_eq_error_iff.1 he)
  refine ⟨hrender, hmaterialize, fun hnested => hrender.2 fun path s hs => ?_,
    fun hok path s hs hbase => ?_, fun path s hs hoverruns => ?_⟩
  · obtain ⟨k, hk⟩ := margin_of_writes h hs
    rw [hk, Margin.base_after]
    exact (hnested path s hs).settled k
  · have hsettled := hrender.1 hok path s hs
    rw [hbase] at hsettled
    exact settled_zero_iff.1 hsettled
  · cases hresult : l.render with
    | ok text => exact absurd (hrender.1 ⟨text, hresult⟩ path s hs) hoverruns.not_settled
    | error e => exact ⟨e, rfl, hmaterialize e hresult⟩

theorem balance_exact_overrun :
    ∃ l e, empty.writes [⟨[], .line .define⟩, ⟨[], .indent⟩, ⟨[], .reserve⟩,
      ⟨[], .line .finish⟩, ⟨[], .dedent⟩, ⟨[1], .dedent⟩, ⟨[1], .dedent⟩, ⟨[1], .indent⟩] = .ok l ∧
      l.render = .error e ∧ l.materialize = .error e := by
  have hwrites : empty.writes [⟨[], .line .define⟩, ⟨[], .indent⟩, ⟨[], .reserve⟩,
      ⟨[], .line .finish⟩, ⟨[], .dedent⟩,
      ⟨[1], .dedent⟩, ⟨[1], .dedent⟩, ⟨[1], .indent⟩] = .ok _ := rfl
  obtain ⟨-, -, -, -, hoverrun⟩ := balance_exact hwrites
  have hnested : WellNested [.indent, .dedent] := .pair .nil .nil
  obtain ⟨e, hrender, hmaterialize⟩ :=
    hoverrun [1] _ rfl ⟨1, [.dedent], [.indent], rfl, rfl, hnested⟩
  exact ⟨_, e, hwrites, hrender, hmaterialize⟩

/-- A section that starts one step in steps out and in again. Neither step matches the other, and
the listing is accepted. -/
theorem balance_stepped_back :
    ∃ ws l s text program, ws = [⟨[], .line .define⟩, ⟨[], .indent⟩, ⟨[], .reserve⟩,
    ⟨[], .line .finish⟩, ⟨[], .dedent⟩, ⟨[1], .dedent⟩, ⟨[1], .indent⟩] ∧ empty.writes ws = .ok l ∧
      l.sectionAt [1] = .ok s ∧ received [1] ws = [.dedent, .indent] ∧
      ¬ WellNested (received [1] ws) ∧
      l.render = .ok text ∧ l.materialize = .ok program :=
  ⟨_, _, _, _, _, rfl, rfl, rfl, rfl, nofun, rfl, rfl⟩

end Listing

end Stencil
