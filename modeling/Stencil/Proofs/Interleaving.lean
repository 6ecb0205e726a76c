import Mathlib.Data.List.Basic
import Mathlib.Tactic.Common
import Stencil.Listing.Writing
import Stencil.Proofs.Lowering

/-! The order of writings to different sections. Two writings to different sections can change
places, so what a listing becomes is told by what each section was asked for, in order; and a handle
leads to the section that was made for it, whatever else is written. -/

namespace Stencil

section

variable {ε α β : Type} {x : Except ε α} {b : β} {e : ε}

theorem bind_eq_ok {k : α → Except ε β} (h : x.bind k = .ok b) : ∃ a, x = .ok a ∧ k a = .ok b := by
  cases x with
  | error e => cases h
  | ok a => exact ⟨a, rfl, h⟩

theorem bind_eq_error {k : α → Except ε β} (h : x.bind k = .error e) :
    x = .error e ∨ ∃ a, x = .ok a ∧ k a = .error e := by
  cases x with
  | error e' => exact .inl (congrArg Except.error (Except.error.inj h))
  | ok a => exact .inr ⟨a, rfl, h⟩

theorem map_eq_ok {f : α → β} (h : x.map f = .ok b) : ∃ a, x = .ok a ∧ b = f a := by
  cases x with
  | error e => cases h
  | ok a => exact ⟨a, rfl, (Except.ok.inj h).symm⟩

theorem map_eq_error {f : α → β} (h : x.map f = .error e) : x = .error e := by
  cases x with
  | error e' => exact congrArg Except.error (Except.error.inj h)
  | ok a => cases h

end

namespace Listing

variable {l l' a b : Listing}

theorem section?_ok_iff {handle : Nat} {s : Listing} :
    l.section? handle = .ok s ↔ l.chunks[handle]? = some (.part s.margin s.chunks) := by
  rw [section?]
  constructor
  · intro h
    split at h
    next margin chunks hchunk =>
      cases h
      exact hchunk
    next => cases h
  · intro h
    rw [h]

theorem sectionAt_cons_ok {handle : Nat} {path : List Nat} {s : Listing}
    (h : l.sectionAt (handle :: path) = .ok s) :
    ∃ inner, l.section? handle = .ok inner ∧ inner.sectionAt path = .ok s := bind_eq_ok h

theorem sectionAt_cons {handle : Nat} {path : List Nat} {inner : Listing}
    (h : l.section? handle = .ok inner) :
    l.sectionAt (handle :: path) = inner.sectionAt path := by
  rw [sectionAt, h]
  rfl

def putSection (l : Listing) (handle : Nat) (s : Listing) : Listing :=
  { l with chunks := l.chunks.set handle (.part s.margin s.chunks) }

theorem modifyAt_cons_ok {handle : Nat} {path : List Nat} {f : Listing → Listing}
    (h : l.modifyAt (handle :: path) f = .ok l') :
    ∃ s s', l.section? handle = .ok s ∧ s.modifyAt path f = .ok s' ∧
      l' = l.putSection handle s' := by
  obtain ⟨s, hs, hput⟩ := bind_eq_ok h
  obtain ⟨s', hs', hl'⟩ := map_eq_ok hput
  exact ⟨s, s', hs, hs', hl'⟩

theorem modifyAt_cons {handle : Nat} {path : List Nat} {f : Listing → Listing} {s s' : Listing}
    (hs : l.section? handle = .ok s) (h : s.modifyAt path f = .ok s') :
    l.modifyAt (handle :: path) f = .ok (l.putSection handle s') := by
  rw [modifyAt, hs, Except.bind, h]
  rfl

theorem section?_putSection_self {handle : Nat} {s : Listing} (h : l.section? handle = .ok s)
    (s' : Listing) :
    (l.putSection handle s').section? handle = .ok s' := by
  obtain ⟨hlt, -⟩ := List.getElem?_eq_some_iff.1 (section?_ok_iff.1 h)
  rw [section?_ok_iff, putSection, List.getElem?_set_self hlt]

theorem section?_putSection_ne {handle other : Nat} (h : handle ≠ other) (s : Listing) :
    (l.putSection handle s).section? other = l.section? other := by
  rw [section?, section?, putSection, List.getElem?_set_ne h]

theorem apply_eq (l : Listing) (r : Request) :
    l.apply r = ⟨((⟨l.margin, []⟩ : Listing).apply r).margin,
      l.chunks ++ ((⟨l.margin, []⟩ : Listing).apply r).chunks⟩ := by
  cases r with
  | line statement => rfl
  | indent => exact congrArg (Listing.mk _) (List.append_nil _).symm
  | dedent =>
    simp only [apply, dedent]
    split <;> exact congrArg (Listing.mk _) (List.append_nil _).symm
  | reserve => rfl

theorem section?_apply {handle : Nat} {s : Listing} (h : l.section? handle = .ok s) (r : Request) :
    (l.apply r).section? handle = .ok s := by
  obtain ⟨hlt, -⟩ := List.getElem?_eq_some_iff.1 (section?_ok_iff.1 h)
  rw [section?_ok_iff] at h ⊢
  rw [apply_eq, List.getElem?_append_left hlt, h]

theorem putSection_apply {handle : Nat} {s : Listing} (h : l.section? handle = .ok s) (s' : Listing)
    (r : Request) :
    (l.putSection handle s').apply r = (l.apply r).putSection handle s' := by
  obtain ⟨hlt, -⟩ := List.getElem?_eq_some_iff.1 (section?_ok_iff.1 h)
  rw [apply_eq (l.putSection handle s'), apply_eq l, putSection, putSection,
    List.set_append_left _ _ hlt]

theorem apply_modifyAt {handle : Nat} {path : List Nat} {f : Listing → Listing} (r : Request)
    (h : l.modifyAt (handle :: path) f = .ok b) :
    (l.apply r).modifyAt (handle :: path) f = .ok (b.apply r) := by
  obtain ⟨s, s', hs, hs', rfl⟩ := modifyAt_cons_ok h
  rw [modifyAt_cons (section?_apply hs r) hs', putSection_apply hs]

theorem modifyAt_comm {path path' : List Nat} (hne : path ≠ path') {r r' : Request}
    (ha : l.modifyAt path (·.apply r) = .ok a) (hb : l.modifyAt path' (·.apply r') = .ok b) :
    ∃ m, a.modifyAt path' (·.apply r') = .ok m ∧ b.modifyAt path (·.apply r) = .ok m := by
  -- Where the paths part, either one of them ends there or they go on behind different handles.
  induction path generalizing path' l a b with
  | nil =>
    cases path' with
    | nil => exact absurd rfl hne
    | cons handle' path' =>
      cases ha
      exact ⟨_, apply_modifyAt r hb, rfl⟩
  | cons handle path ih =>
    cases path' with
    | nil =>
      cases hb
      exact ⟨_, rfl, apply_modifyAt r' ha⟩
    | cons handle' path' =>
      obtain ⟨s, sa, hs, hsa, rfl⟩ := modifyAt_cons_ok ha
      obtain ⟨s', sb, hs', hsb, rfl⟩ := modifyAt_cons_ok hb
      by_cases hhandle : handle = handle'
      · subst hhandle
        cases hs.symm.trans hs'
        have hpaths : path ≠ path' := fun hpath => hne (congrArg _ hpath)
        obtain ⟨m, hma, hmb⟩ := ih hpaths hsa hsb
        have hput : ∀ x : Listing, (l.putSection handle x).putSection handle m =
            l.putSection handle m := fun x => by
          rw [putSection, putSection, List.set_set, putSection]
        refine ⟨l.putSection handle m, ?_, ?_⟩
        · rw [modifyAt_cons (section?_putSection_self hs sa) hma, hput]
        · rw [modifyAt_cons (section?_putSection_self hs sb) hmb, hput]
      · have hother : (l.putSection handle sa).section? handle' = .ok s' :=
          (section?_putSection_ne hhandle sa).trans hs'
        have hother' : (l.putSection handle' sb).section? handle = .ok s :=
          (section?_putSection_ne (Ne.symm hhandle) sb).trans hs
        refine ⟨_, modifyAt_cons hother hsb, ?_⟩
        rw [modifyAt_cons hother' hsa]
        simp only [putSection, List.set_comm _ _ hhandle]

theorem writes_cons_ok {w : Writing} {rest : List Writing} (h : l.writes (w :: rest) = .ok l') :
    ∃ m, l.write w = .ok m ∧ m.writes rest = .ok l' := bind_eq_ok h

theorem writes_cons {w : Writing} (h : l.write w = .ok a) (rest : List Writing) :
    l.writes (w :: rest) = a.writes rest := by
  rw [writes, h]
  rfl

/-- A writing that could come first can be moved there, past writings to other sections. -/
theorem writes_front {w : Writing} {before after : List Writing}
    (hbefore : ∀ u ∈ before, u.path ≠ w.path)
    (hw : l.write w = .ok b) (h : l.writes (before ++ w :: after) = .ok l') :
    b.writes (before ++ after) = .ok l' := by
  induction before generalizing l b with
  | nil => rwa [List.nil_append, writes_cons hw] at h
  | cons u before ih =>
    obtain ⟨hu, hrest⟩ := List.forall_mem_cons.1 hbefore
    obtain ⟨a, ha, hafter⟩ := writes_cons_ok h
    obtain ⟨m, hma, hmb⟩ := modifyAt_comm hu ha hw
    rw [List.cons_append, writes_cons hmb]
    exact ih hrest hma hafter

end Listing

theorem received_append (path : List Nat) (a b : List Writing) :
    received path (a ++ b) = received path a ++ received path b := List.filterMap_append

theorem received_cons (path : List Nat) (w : Writing) (rest : List Writing) :
    received path (w :: rest) = if w.path = path then w.request :: received path rest
      else received path rest := by
  rw [received, List.filterMap_cons]
  split
  next h =>
    split at h
    next => cases h
    next hne => rw [if_neg hne, received]
  next r h =>
    split at h
    next he =>
      cases h
      rw [if_pos he, received]
    next => cases h

theorem received_eq_nil {path : List Nat} {ws : List Writing} (h : ∀ w ∈ ws, w.path ≠ path) :
    received path ws = [] := by
  induction ws with
  | nil => rfl
  | cons w rest ih =>
    obtain ⟨hw, hrest⟩ := List.forall_mem_cons.1 h
    rw [received_cons, if_neg hw, ih hrest]

theorem mem_received {path : List Nat} {ws : List Writing} {r : Request} :
    r ∈ received path ws ↔ ⟨path, r⟩ ∈ ws := by
  simp only [received, List.mem_filterMap, Option.ite_none_right_eq_some, Option.some.injEq]
  constructor
  · rintro ⟨w, hw, rfl, rfl⟩
    exact hw
  · exact fun h => ⟨_, h, rfl, rfl⟩

theorem mem_of_below {path : List Nat} {ws : List Writing} {r : Request}
    (h : ⟨[], r⟩ ∈ below path ws) : ⟨path, r⟩ ∈ ws := by
  obtain ⟨w, hw, hbelow⟩ := List.mem_filterMap.1 h
  obtain ⟨rest, hrest, he⟩ := Option.map_eq_some_iff.1 hbelow
  cases he
  rw [List.isPrefixOf?_eq_some_iff_append_eq, List.append_nil] at hrest
  exact hrest ▸ hw

theorem received_split {path : List Nat} {ws : List Writing} {r : Request} {rs : List Request}
    (h : received path ws = r :: rs) :
    ∃ before after, ws = before ++ ⟨path, r⟩ :: after ∧ ∀ u ∈ before, u.path ≠ path := by
  induction ws with
  | nil => cases h
  | cons w rest ih =>
    rw [received_cons] at h
    split at h
    next hpath =>
      cases h
      subst hpath
      exact ⟨[], rest, rfl, nofun⟩
    next hpath =>
      obtain ⟨before, after, rfl, hbefore⟩ := ih h
      exact ⟨w :: before, after, rfl, List.forall_mem_cons.2 ⟨hpath, hbefore⟩⟩

namespace Listing

variable {l l₁ l₂ : Listing} {ws ws' : List Writing}

theorem writes_behind {before after : List Writing} (h : l.writes ws = .ok l₁)
    (hbefore : l.writes before = .ok l₂)
    (hsame : ∀ path, received path ws = received path (before ++ after)) :
    ∃ rest, l₂.writes rest = .ok l₁ ∧ ∀ path, received path rest = received path after := by
  induction before generalizing l ws with
  | nil =>
    cases hbefore
    exact ⟨ws, h, hsame⟩
  | cons w before ih =>
    have hfirst := hsame w.path
    rw [List.cons_append, received_cons, if_pos rfl] at hfirst
    obtain ⟨front, back, rfl, hfront⟩ := received_split hfirst
    obtain ⟨b, hb, hrest⟩ := writes_cons_ok hbefore
    refine ih (writes_front hfront hb h) hrest fun path => ?_
    have hpath := hsame path
    rw [List.cons_append, received_append, received_cons, received_cons] at hpath
    rw [received_append]
    split at hpath
    next he =>
      subst he
      rw [received_eq_nil hfront] at hpath ⊢
      exact (List.cons.inj hpath).2
    next => exact hpath

theorem writes_eq (h : l.writes ws = .ok l₁) (h' : l.writes ws' = .ok l₂)
    (hsame : ∀ path, received path ws = received path ws') : l₁ = l₂ := by
  obtain ⟨rest, hrest, hnone⟩ := writes_behind h h' fun path => by rw [hsame, List.append_nil]
  cases rest with
  | nil => exact (Except.ok.inj hrest).symm
  | cons w rest =>
    have hfirst := hnone w.path
    rw [received_cons, if_pos rfl] at hfirst
    cases hfirst

theorem sectionAt_write {path : List Nat} {w : Writing} {s l' : Listing}
    (hs : l.sectionAt path = .ok s)
    (h : l.write w = .ok l') :
    ∃ s', s.writes (below path [w]) = .ok s' ∧ l'.sectionAt path = .ok s' := by
  obtain ⟨target, r⟩ := w
  have hmodify : l.modifyAt target (·.apply r) = .ok l' := h
  clear h
  induction path generalizing l l' target with
  | nil =>
    cases hs
    exact ⟨l', writes_cons (w := ⟨target, r⟩) hmodify [], rfl⟩
  | cons handle path ih =>
    obtain ⟨inner, hinner, hrest⟩ := sectionAt_cons_ok hs
    cases target with
    | nil =>
      cases hmodify
      exact ⟨s, rfl, (sectionAt_cons (section?_apply hinner r)).trans hrest⟩
    | cons handle' target =>
      obtain ⟨t, t', ht, ht', rfl⟩ := modifyAt_cons_ok hmodify
      by_cases hhandle : handle = handle'
      · subst hhandle
        cases hinner.symm.trans ht
        obtain ⟨s', hs', hsection⟩ := ih hrest target ht'
        have hbelow : below (handle :: path) [⟨handle :: target, r⟩] =
            below path [⟨target, r⟩] := by
          simp only [below, List.filterMap_cons, List.filterMap_nil, List.isPrefixOf?,
            beq_self_eq_true, if_true]
        refine ⟨s', by rwa [hbelow], ?_⟩
        rw [sectionAt_cons (section?_putSection_self hinner t'), hsection]
      · have hbelow : below (handle :: path) [⟨handle' :: target, r⟩] = [] := by
          simp only [below, List.filterMap_cons, List.isPrefixOf?, beq_false_of_ne hhandle]
          rfl
        refine ⟨s, by rw [hbelow, writes], ?_⟩
        rw [sectionAt_cons ((section?_putSection_ne (Ne.symm hhandle) t').trans hinner), hrest]

theorem writes_append (l : Listing) (a b : List Writing) :
    l.writes (a ++ b) = (l.writes a).bind fun l => l.writes b := by
  induction a generalizing l with
  | nil => rfl
  | cons w rest ih =>
    rw [List.cons_append, writes, writes]
    cases l.write w with
    | error e => rfl
    | ok m => exact ih m

theorem sectionAt_writes {path : List Nat} {s l' : Listing} (hs : l.sectionAt path = .ok s)
    (h : l.writes ws = .ok l') :
    ∃ s', s.writes (below path ws) = .ok s' ∧ l'.sectionAt path = .ok s' := by
  induction ws generalizing l s with
  | nil =>
    cases h
    exact ⟨s, rfl, hs⟩
  | cons w rest ih =>
    obtain ⟨m, hm, hrest⟩ := writes_cons_ok h
    obtain ⟨t, ht, hsection⟩ := sectionAt_write hs hm
    obtain ⟨s', hs', hlast⟩ := ih hsection hrest
    have hbelow : below path (w :: rest) = below path [w] ++ below path rest :=
      List.filterMap_append (l := [w])
    refine ⟨s', ?_, hlast⟩
    rw [hbelow, writes_append, ht]
    exact hs'

theorem sectionAt_reserve {path : List Nat} {s l' : Listing} (hs : l.sectionAt path = .ok s)
    (h : l.write ⟨path, .reserve⟩ = .ok l') :
    l'.sectionAt (path ++ [s.handle]) = .ok ⟨.at s.margin.level, []⟩ := by
  have hmodify : l.modifyAt path (·.apply .reserve) = .ok l' := h
  clear h
  induction path generalizing l l' with
  | nil =>
    cases hs
    cases hmodify
    have hplace : s.reserve.section? s.handle = .ok ⟨.at s.margin.level, []⟩ := by
      rw [section?_ok_iff, reserve, handle, List.getElem?_concat_length]
    exact sectionAt_cons hplace
  | cons handle path ih =>
    obtain ⟨inner, hinner, hrest⟩ := sectionAt_cons_ok hs
    obtain ⟨t, t', ht, ht', rfl⟩ := modifyAt_cons_ok hmodify
    cases hinner.symm.trans ht
    rw [List.cons_append, sectionAt_cons (section?_putSection_self hinner t')]
    exact ih hrest ht'

theorem around_cons {handle : Nat} {path : List Nat} {inner : Listing}
    (h : l.section? handle = .ok inner) :
    l.around (handle :: path) = (inner.around path).map fun (before, after) =>
      (Chunk.linesAll (l.chunks.take handle) ++ before,
        after ++ Chunk.linesAll (l.chunks.drop (handle + 1))) := by
  rw [around, h]
  rfl

theorem around_write {path : List Nat} {w : Writing} {l' : Listing} (hpath : path <+: w.path)
    (h : l.write w = .ok l') :
    l'.around path = l.around path := by
  obtain ⟨target, r⟩ := w
  have hmodify : l.modifyAt target (·.apply r) = .ok l' := h
  clear h
  induction path generalizing l l' target with
  | nil => rfl
  | cons handle path ih =>
    obtain ⟨rest, rfl⟩ := hpath
    obtain ⟨s, s', hs, hs', rfl⟩ := modifyAt_cons_ok hmodify
    have hinner := ih (path ++ rest) ⟨rest, rfl⟩ hs'
    rw [around_cons (section?_putSection_self hs s'), around_cons hs, hinner, putSection,
      List.take_set_of_le le_rfl, List.drop_set_of_lt (Nat.lt_succ_self _)]

theorem around_writes {path : List Nat} {l' : Listing} (hpath : ∀ w ∈ ws, path <+: w.path)
    (h : l.writes ws = .ok l') :
    l'.around path = l.around path := by
  induction ws generalizing l with
  | nil =>
    cases h
    rfl
  | cons w rest ih =>
    obtain ⟨hw, hrest⟩ := List.forall_mem_cons.1 hpath
    obtain ⟨m, hm, hlast⟩ := writes_cons_ok h
    rw [ih hrest hlast, around_write hw hm]

theorem lines_around {path : List Nat} {s : Listing} (hs : l.sectionAt path = .ok s) :
    ∃ before after, l.around path = .ok (before, after) ∧
      l.lines = before ++ (s.lines ++ after) := by
  induction path generalizing l with
  | nil =>
    cases hs
    exact ⟨[], [], rfl, (List.append_nil _).symm⟩
  | cons handle path ih =>
    obtain ⟨inner, hinner, hrest⟩ := sectionAt_cons_ok hs
    obtain ⟨before, after, haround, hlines⟩ := ih hrest
    obtain ⟨hlt, hchunk⟩ := List.getElem?_eq_some_iff.1 (section?_ok_iff.1 hinner)
    have hsplit : l.chunks = l.chunks.take handle ++ .part inner.margin inner.chunks ::
        l.chunks.drop (handle + 1) := by
      rw [← hchunk, List.getElem_cons_drop, List.take_append_drop]
    have hpart : Chunk.lines (.part inner.margin inner.chunks) = before ++ (s.lines ++ after) :=
      hlines
    refine ⟨_, _, by rw [around_cons hinner, haround]; rfl, ?_⟩
    rw [lines]
    nth_rewrite 1 [hsplit]
    rw [Chunk.linesAll_append, Chunk.linesAll, hpart]
    simp only [List.append_assoc]

theorem modifyAt_error {path : List Nat} {f : Listing → Listing} {e : ListingError}
    (h : l.modifyAt path f = .error e) : ∃ front handle rest s, path = front ++ handle :: rest ∧
      l.sectionAt front = .ok s ∧ s.section? handle = .error e ∧ e = .missingSection handle := by
  induction path generalizing l with
  | nil => cases h
  | cons handle path ih =>
    rcases bind_eq_error h with hs | ⟨s, hs, hput⟩
    · refine ⟨[], handle, path, l, rfl, rfl, hs, ?_⟩
      rw [section?] at hs
      split at hs <;> cases hs
      rfl
    · obtain ⟨front, missing, rest, t, rfl, ht, hmissing, he⟩ := ih (map_eq_error hput)
      exact ⟨handle :: front, missing, rest, t, rfl, (sectionAt_cons hs).trans ht, hmissing, he⟩

theorem writes_error {e : ListingError} (h : l.writes ws = .error e) : ∃ before w after m,
    ws = before ++ w :: after ∧ l.writes before = .ok m ∧ m.write w = .error e := by
  induction ws generalizing l with
  | nil => cases h
  | cons w rest ih =>
    rcases bind_eq_error h with hw | ⟨m, hm, hrest⟩
    · exact ⟨[], w, rest, l, rfl, rfl, hw⟩
    · obtain ⟨before, u, after, m', rfl, hbefore, hu⟩ := ih hrest
      exact ⟨w :: before, u, after, m', rfl, (writes_cons hm before).trans hbefore, hu⟩

theorem sectionAt_append_ok {path rest : List Nat} {s : Listing}
    (h : l.sectionAt (path ++ rest) = .ok s) :
    ∃ t, l.sectionAt path = .ok t ∧ t.sectionAt rest = .ok s := by
  induction path generalizing l with
  | nil => exact ⟨l, rfl, h⟩
  | cons handle path ih =>
    obtain ⟨inner, hinner, hrest⟩ := sectionAt_cons_ok h
    obtain ⟨t, ht, hs⟩ := ih hrest
    exact ⟨t, (sectionAt_cons hinner).trans ht, hs⟩

theorem sectionAt_of_modifyAt {path : List Nat} {f : Listing → Listing}
    (h : l.modifyAt path f = .ok l₁) : ∃ s, l.sectionAt path = .ok s := by
  induction path generalizing l l₁ with
  | nil => exact ⟨l, rfl⟩
  | cons handle path ih =>
    obtain ⟨s, s', hs, hs', -⟩ := modifyAt_cons_ok h
    obtain ⟨t, ht⟩ := ih hs'
    exact ⟨t, (sectionAt_cons hs).trans ht⟩

theorem eq_reserve_of_part_mem {margin inner : Margin} {chunks : List Chunk} {r : Request}
    (h : .part inner chunks ∈ ((⟨margin, []⟩ : Listing).apply r).chunks) : r = .reserve := by
  cases r with
  | line statement => cases List.mem_singleton.1 h
  | indent => cases h
  | dedent =>
    simp only [apply, dedent] at h
    split at h <;> cases h
  | reserve => rfl

theorem section?_write {w : Writing} {handle : Nat} {s' : Listing} (h : l.write w = .ok l₁)
    (hs' : l₁.section? handle = .ok s') :
    (∃ s, l.section? handle = .ok s) ∨ w = ⟨[], .reserve⟩ := by
  obtain ⟨target, r⟩ := w
  cases target with
  | nil =>
    cases h
    have hchunk : (l.apply r).chunks[handle]? = _ := section?_ok_iff.1 hs'
    rw [apply_eq, List.getElem?_append] at hchunk
    split at hchunk
    next => exact .inl ⟨_, section?_ok_iff.2 hchunk⟩
    next => exact .inr (eq_reserve_of_part_mem (List.mem_of_getElem? hchunk) ▸ rfl)
  | cons other target =>
    obtain ⟨t, t', ht, -, rfl⟩ := modifyAt_cons_ok h
    by_cases hhandle : other = handle
    · exact .inl ⟨t, hhandle ▸ ht⟩
    · exact .inl ⟨s', (section?_putSection_ne hhandle t').symm.trans hs'⟩

theorem section?_writes {handle : Nat} {s' : Listing} (h : l.writes ws = .ok l₁)
    (hs' : l₁.section? handle = .ok s') :
    (∃ s, l.section? handle = .ok s) ∨ ⟨[], .reserve⟩ ∈ ws := by
  induction ws generalizing l with
  | nil =>
    cases h
    exact .inl ⟨s', hs'⟩
  | cons w rest ih =>
    obtain ⟨m, hm, hrest⟩ := writes_cons_ok h
    rcases ih hrest with ⟨t, ht⟩ | hmem
    · rcases section?_write hm ht with hs | rfl
      · exact .inl hs
      · exact .inr List.mem_cons_self
    · exact .inr (List.mem_cons_of_mem w hmem)

theorem reserve_mem {path rest : List Nat} {handle : Nat} {r : Request} {s : Listing}
    {e : ListingError} (h : l.writes ws = .ok l₁) (hmem : ⟨path ++ handle :: rest, r⟩ ∈ ws)
    (hs : l.sectionAt path = .ok s) (hmissing : s.section? handle = .error e) :
    ⟨path, .reserve⟩ ∈ ws := by
  obtain ⟨before, after, rfl⟩ := List.append_of_mem hmem
  rw [writes_append] at h
  obtain ⟨m, hm, hafter⟩ := bind_eq_ok h
  obtain ⟨m', hw, -⟩ := writes_cons_ok hafter
  obtain ⟨t, ht⟩ := sectionAt_of_modifyAt hw
  obtain ⟨s', hs', hbelow⟩ := sectionAt_append_ok ht
  obtain ⟨inner, hinner, -⟩ := sectionAt_cons_ok hbelow
  obtain ⟨own, hown, hsection⟩ := sectionAt_writes hs hm
  cases hs'.symm.trans hsection
  rcases section?_writes hown hinner with ⟨u, hu⟩ | hreserve
  · cases hmissing.symm.trans hu
  · exact List.mem_append_left _ (mem_of_below hreserve)

/-- Writings may come in any order in which each section is asked for the same things in the same
order: the listing becomes the same, unless a writing goes to a section that only a later one makes.
A handle leads to the section that was made for it and to nothing but what was written there,
whatever else is written afterwards; and writing to a section leaves the lines around it alone. -/
theorem writing_order (l : Listing) :
    (∀ ws ws' l₁, l.writes ws = .ok l₁ → (∀ path, received path ws = received path ws') →
      l.writes ws' = .ok l₁ ∨ ∃ before w after m path handle rest s,
        ws' = before ++ w :: after ∧ l.writes before = .ok m ∧ w.path = path ++ handle :: rest ∧
          m.sectionAt path = .ok s ∧ s.section? handle = .error (.missingSection handle) ∧
          ⟨path, .reserve⟩ ∈ after ∧ l.writes ws' = .error (.missingSection handle)) ∧
    (∀ path s l₁, l.sectionAt path = .ok s → l.write ⟨path, .reserve⟩ = .ok l₁ →
      ∀ ws l₂, l₁.writes ws = .ok l₂ →
      ∃ own, (⟨.at s.margin.level, []⟩ : Listing).writes (below (path ++ [s.handle]) ws) = .ok own ∧
        l₂.sectionAt (path ++ [s.handle]) = .ok own) ∧
    ∀ path ws s l₁, l.sectionAt path = .ok s → (∀ w ∈ ws, path <+: w.path) → l.writes ws = .ok l₁ →
      ∃ before after s₁, l.around path = .ok (before, after) ∧
        l₁.around path = .ok (before, after) ∧
        l₁.sectionAt path = .ok s₁ ∧ l.lines = before ++ (s.lines ++ after) ∧
        l₁.lines = before ++ (s₁.lines ++ after) := by
  refine ⟨?_, ?_, ?_⟩
  · intro ws ws' l₁ h hsame
    cases h' : l.writes ws' with
    | ok l₂ => exact .inl (congrArg Except.ok (writes_eq h h' hsame).symm)
    | error e =>
      obtain ⟨before, w, after, m, rfl, hbefore, hw⟩ := writes_error h'
      obtain ⟨path, handle, rest, s, hpath, hs, hmissing, rfl⟩ := modifyAt_error hw
      -- What `ws` writes behind `before` reaches the section, so it makes it, and so does `after`.
      obtain ⟨us, hus, hsame'⟩ := writes_behind h hbefore hsame
      have hreach : ⟨path ++ handle :: rest, w.request⟩ ∈ us := by
        rw [← hpath, ← mem_received, hsame', mem_received]
        exact List.mem_cons_self
      have hreserve : ⟨path, .reserve⟩ ∈ w :: after := by
        rw [← mem_received, ← hsame', mem_received]
        exact reserve_mem hus hreach hs hmissing
      rcases List.mem_cons.1 hreserve with rfl | hafter
      · exact absurd hpath (by simp)
      · exact .inr ⟨before, w, after, m, path, handle, rest, s, rfl, hbefore, hpath, hs, hmissing,
          hafter, rfl⟩
  · intro path s l₁ hs hreserve ws l₂ h
    exact sectionAt_writes (sectionAt_reserve hs hreserve) h
  · intro path ws s l₁ hs hpath h
    obtain ⟨before, after, haround, hlines⟩ := lines_around hs
    obtain ⟨s₁, -, hs₁⟩ := sectionAt_writes hs h
    obtain ⟨before₁, after₁, haround₁, hlines₁⟩ := lines_around hs₁
    have hsame := around_writes hpath h
    rw [haround, haround₁] at hsame
    cases hsame
    exact ⟨before, after, s₁, haround, haround₁, hs₁, hlines, hlines₁⟩

theorem writing_order_kept :
    (∃ l, empty.reserve.writes [⟨[0], .line .define⟩, ⟨[], .line .finish⟩] = .ok l ∧
      empty.reserve.writes [⟨[], .line .finish⟩, ⟨[0], .line .define⟩] = .ok l) ∧
    (∃ l, empty.reserve.reserve.writes [⟨[0], .line .define⟩, ⟨[1], .line .finish⟩] = .ok l ∧
      l.sectionAt [1] = .ok ⟨.at 0, [.line 0 .finish]⟩) ∧
    ∃ l s, empty.reserve.writes [⟨[0], .line .define⟩] = .ok l ∧ l.sectionAt [0] = .ok s ∧
      l.lines = s.lines := by
  obtain ⟨horder, hhandle, haround⟩ := writing_order empty.reserve
  refine ⟨⟨_, rfl, ?_⟩, ⟨_, rfl, ?_⟩, ?_⟩
  · have hsame : ∀ path, received path [⟨[0], .line .define⟩, ⟨[], .line .finish⟩] =
        received path [⟨[], .line .finish⟩, ⟨[0], .line .define⟩] := by
      intro path
      simp only [received_cons]
      by_cases hroot : [] = path
      · subst hroot
        rfl
      · rw [if_neg hroot, if_neg hroot]
    rcases horder _ _ _ rfl hsame with h | ⟨_, _, _, _, _, _, _, _, -, -, -, -, -, -, herror⟩
    · exact h
    · cases herror
  · obtain ⟨own, hown, hsection⟩ :=
      hhandle [] empty.reserve _ rfl rfl [⟨[0], .line .define⟩, ⟨[1], .line .finish⟩] _ rfl
    cases hown
    exact hsection
  · have hbelow : ∀ w ∈ [(⟨[0], .line .define⟩ : Writing)], [0] <+: w.path :=
      List.forall_mem_singleton.2 (List.prefix_refl _)
    obtain ⟨before, after, s, hbefore, -, hs, -, hlines⟩ := haround [0] _ _ _ rfl hbelow rfl
    cases hbefore
    exact ⟨_, s, rfl, hs, hlines.trans (List.append_nil _)⟩

end Listing

end Stencil
