import Mathlib.Data.List.Perm.Basic
import Mathlib.Tactic.Common
import Stencil.Entries

/-! Look-up and order in sorted entries. An insertion is seen by the look-up of its own key alone,
and the keys of entries are a sorted set of names. -/

namespace Stencil

namespace Names

theorem mem_insert {names : Names} {name n : String} :
    n ∈ names.insert name ↔ n = name ∨ n ∈ names := by
  induction names with
  | nil => simp [Names.insert]
  | cons first rest ih =>
    rw [Names.insert]
    split
    next => rw [List.mem_cons]
    next h =>
      have he : name = first := Std.LawfulEqOrd.eq_of_compare h
      simp [he]
    next => simp only [List.mem_cons, ih, or_left_comm]

theorem sorted_insert {names : Names} (h : names.Sorted) (name : String) :
    (names.insert name).Sorted := by
  induction names with
  | nil => exact List.pairwise_singleton _ _
  | cons first rest ih =>
    obtain ⟨hfirst, hrest⟩ := List.pairwise_cons.1 h
    rw [Names.insert]
    split
    next hlt =>
      refine List.pairwise_cons.2 ⟨?_, h⟩
      intro n hn
      rcases List.mem_cons.1 hn with rfl | hn
      · exact hlt
      · exact Std.TransCmp.lt_trans hlt (hfirst n hn)
    next => exact h
    next hgt =>
      refine List.pairwise_cons.2 ⟨?_, ih hrest⟩
      intro n hn
      rcases mem_insert.1 hn with rfl | hn
      · exact Std.OrientedCmp.lt_of_gt hgt
      · exact hfirst n hn

theorem insert_of_mem {names : Names} (h : names.Sorted) {name : String} (hn : name ∈ names) :
    names.insert name = names := by
  induction names with
  | nil => cases hn
  | cons first rest ih =>
    obtain ⟨hfirst, hrest⟩ := List.pairwise_cons.1 h
    rw [Names.insert]
    rcases List.mem_cons.1 hn with rfl | hn
    · rw [Std.ReflOrd.compare_self]
    · have hgt : compare name first = .gt := Std.OrientedCmp.gt_of_lt (hfirst name hn)
      rw [hgt]
      exact congrArg (first :: ·) (ih hrest hn)

theorem sorted_foldl_insert {names : Names} (h : names.Sorted) (more : List String) :
    (more.foldl Names.insert names : Names).Sorted := by
  induction more generalizing names with
  | nil => exact h
  | cons name rest ih => exact ih (sorted_insert h name)

theorem mem_foldl_insert {names : Names} {more : List String} {n : String} :
    n ∈ more.foldl Names.insert names ↔ n ∈ names ∨ n ∈ more := by
  induction more generalizing names with
  | nil => simp
  | cons name rest ih =>
    rw [List.foldl_cons, ih, mem_insert, List.mem_cons]
    tauto

theorem sorted_ofList (names : List String) : (ofList names).Sorted :=
  sorted_foldl_insert List.Pairwise.nil names

theorem mem_ofList {names : List String} {n : String} : n ∈ ofList names ↔ n ∈ names := by
  simp [ofList, mem_foldl_insert]

end Names

namespace Entries

variable {α : Type}

theorem find?_insert (entries : Entries α) (key : String) (value : α) (k : String) :
    find? (insert entries key value) k = if key = k then some value else find? entries k := by
  induction entries with
  | nil => simp only [insert, find?]
  | cons entry rest ih =>
    obtain ⟨first, held⟩ := entry
    rw [insert]
    split
    next => simp only [find?]
    next h =>
      have he : key = first := Std.LawfulEqOrd.eq_of_compare h
      subst he
      by_cases hk : key = k <;> simp only [find?, hk, if_true, if_false]
    next h =>
      have hne : key ≠ first := by
        rintro rfl
        rw [Std.ReflOrd.compare_self] at h
        cases h
      simp only [find?, ih]
      by_cases hk : key = k
      · subst hk
        simp only [if_neg hne.symm]
      · simp only [if_neg hk]

theorem keys_insert (entries : Entries α) (key : String) (value : α) :
    keys (insert entries key value) = Names.insert (keys entries) key := by
  induction entries with
  | nil => rfl
  | cons entry rest ih =>
    obtain ⟨first, held⟩ := entry
    change keys (insert ((first, held) :: rest) key value) = Names.insert (first :: keys rest) key
    rw [insert, Names.insert]
    split
    next => rfl
    next h => exact congrArg (· :: keys rest) (Std.LawfulEqOrd.eq_of_compare h)
    next => exact congrArg (first :: ·) ih

theorem insert_perm {entries : Entries α} {key : String} (h : find? entries key = none)
    (value : α) :
    (insert entries key value).Perm ((key, value) :: entries) := by
  induction entries with
  | nil => exact List.Perm.refl _
  | cons entry rest ih =>
    obtain ⟨first, held⟩ := entry
    rw [find?] at h
    split at h
    · cases h
    rename_i hne
    rw [insert]
    split
    next => exact List.Perm.refl _
    next he => exact absurd (Std.LawfulEqOrd.eq_of_compare he).symm hne
    next => exact ((ih h).cons _).trans (List.Perm.swap _ _ _)

theorem find?_eq_none_iff {entries : Entries α} {key : String} :
    find? entries key = none ↔ key ∉ keys entries := by
  induction entries with
  | nil => simp [find?, keys]
  | cons entry rest ih =>
    obtain ⟨first, held⟩ := entry
    rw [find?, keys, List.map_cons, List.mem_cons, not_or, ← keys, ← ih]
    by_cases h : first = key
    · simp [h]
    · simp [h, Ne.symm h]

theorem mem_of_find? {entries : Entries α} {key : String} {value : α}
    (h : find? entries key = some value) :
    (key, value) ∈ entries := by
  induction entries with
  | nil => cases h
  | cons entry rest ih =>
    obtain ⟨first, held⟩ := entry
    rw [find?] at h
    split at h
    · rename_i he
      cases he
      cases h
      exact List.mem_cons_self
    · exact List.mem_cons_of_mem _ (ih h)

theorem find?_of_mem {entries : Entries α} (h : (keys entries).Nodup) {entry : String × α}
    (hentry : entry ∈ entries) :
    find? entries entry.1 = some entry.2 := by
  induction entries with
  | nil => cases hentry
  | cons first rest ih =>
    obtain ⟨hfirst, hrest⟩ := List.nodup_cons.1 h
    rw [find?]
    rcases List.mem_cons.1 hentry with rfl | hentry
    · rw [if_pos rfl]
    · have hne : first.1 ≠ entry.1 := by
        intro heq
        exact hfirst (heq ▸ List.mem_map_of_mem hentry)
      rw [if_neg hne, ih hrest hentry]

end Entries

end Stencil
