import Mathlib.Data.List.Forall2
import Mathlib.Data.List.SplitBy
import Mathlib.Data.String.Basic
import Stencil.Filter

/-! Titles are capitals word by word. A text falls into runs of one class of characters, the words
and the gaps between them, and a title capitalizes each word where it stands. -/

namespace Stencil

namespace Text

/-- The text cut into its longest runs of alphanumeric characters and of others. -/
structure Runs (cs : List Char) (runs : List (List Char)) : Prop where
  whole : runs.flatten = cs
  nonempty : [] ∉ runs
  alike : ∀ run ∈ runs, ∀ a ∈ run, ∀ b ∈ run, isAlphanumeric a = isAlphanumeric b
  apart : runs.IsChain fun run next => ∀ a ∈ run, ∀ b ∈ next, isAlphanumeric a ≠ isAlphanumeric b

def sameClass (a b : Char) : Bool := isAlphanumeric a == isAlphanumeric b

theorem alike_iff {run : List Char} : (run.IsChain fun a b => sameClass a b = true) ↔
    ∀ a ∈ run, ∀ b ∈ run, isAlphanumeric a = isAlphanumeric b := by
  let alike (a b : Char) : Prop := isAlphanumeric a = isAlphanumeric b
  have hsymm : Std.Symm alike := ⟨fun _ _ => Eq.symm⟩
  have htrans : Trans alike alike alike := ⟨Eq.trans⟩
  simp only [sameClass, beq_iff_eq]
  refine (List.isChain_iff_pairwise (R := alike)).trans ⟨fun h a ha b hb => ?_, fun h => ?_⟩
  · exact List.Pairwise.forall_of_forall (R := alike) (fun _ _ => rfl) h ha hb
  · exact List.pairwise_of_forall_mem_list h

theorem runs_iff {cs : List Char} {runs : List (List Char)} :
    Runs cs runs ↔ cs.splitBy sameClass = runs := by
  rw [List.splitBy_eq_iff]
  constructor
  · rintro ⟨hwhole, hnonempty, halike, hapart⟩
    refine ⟨hwhole.symm, hnonempty, fun run hrun => alike_iff.2 (halike run hrun), ?_⟩
    refine hapart.imp_of_mem_imp fun run next hrun hnext h => ?_
    refine ⟨fun hnil => hnonempty (hnil ▸ hrun), fun hnil => hnonempty (hnil ▸ hnext), ?_⟩
    exact beq_eq_false_iff_ne.2 (h _ (List.getLast_mem _) _ (List.head_mem _))
  · rintro ⟨hwhole, hnonempty, halike, hapart⟩
    refine ⟨hwhole.symm, hnonempty, fun run hrun => alike_iff.1 (halike run hrun), ?_⟩
    refine hapart.imp_of_mem_imp fun run next hrun hnext h a ha b hb => ?_
    obtain ⟨hrun', hnext', hne⟩ := h
    rw [alike_iff.1 (halike run hrun) a ha _ (List.getLast_mem hrun'),
      alike_iff.1 (halike next hnext) b hb _ (List.head_mem hnext')]
    exact beq_eq_false_iff_ne.1 hne

variable {cs run rest : List Char} {runs : List (List Char)}

theorem Runs.of_cons (h : Runs cs (run :: runs)) :
    Runs runs.flatten runs :=
  ⟨rfl, fun hnil => h.nonempty (List.mem_cons_of_mem _ hnil), fun r hr =>
    h.alike r (List.mem_cons_of_mem _ hr), h.apart.tail⟩

theorem Runs.ne_of_head (h : Runs cs (run :: runs)) {a b : Char} (ha : a ∈ run)
    (hb : b ∈ runs.flatten.head?) :
    isAlphanumeric a ≠ isAlphanumeric b := by
  cases runs with
  | nil => cases hb
  | cons next runs =>
    have hnext : next ≠ [] :=
      fun hnil => h.nonempty (hnil ▸ List.mem_cons_of_mem _ List.mem_cons_self)
    rw [List.flatten_cons, List.head?_append_of_ne_nil _ hnext] at hb
    exact h.apart.rel a ha b (List.mem_of_mem_head? hb)

theorem Runs.gap (h : Runs cs runs) (hrun : run ∈ runs) (hword : ¬run.all isAlphanumeric) :
    ∀ c ∈ run, isAlphanumeric c = false := by
  intro c hc
  by_contra hc'
  refine hword (List.all_eq_true.2 fun a ha => ?_)
  rw [h.alike run hrun a ha c hc]
  exact eq_true_of_ne_false hc'

theorem titleAfter_word (hrun : ∀ c ∈ run, isAlphanumeric c) :
    titleAfter true (run ++ rest) = run.flatMap lowerChar ++ titleAfter true rest := by
  induction run with
  | nil => rfl
  | cons c run ih =>
    obtain ⟨hc, hrun⟩ := List.forall_mem_cons.1 hrun
    rw [List.cons_append, titleAfter, if_pos hc, if_pos rfl, ih hrun, List.flatMap_cons,
      List.append_assoc]

theorem title_word (hne : run ≠ []) (hrun : ∀ c ∈ run, isAlphanumeric c) :
    titleAfter false (run ++ rest) = capitalize run ++ titleAfter true rest := by
  cases run with
  | nil => exact absurd rfl hne
  | cons c run =>
    obtain ⟨hc, hrun⟩ := List.forall_mem_cons.1 hrun
    rw [List.cons_append, titleAfter, if_pos hc, if_neg Bool.false_ne_true, titleAfter_word hrun,
      capitalize, List.append_assoc]

theorem title_gap (hrun : ∀ c ∈ run, isAlphanumeric c = false) :
    titleAfter false (run ++ rest) = run ++ titleAfter false rest := by
  induction run with
  | nil => rfl
  | cons c run ih =>
    obtain ⟨hc, hrun⟩ := List.forall_mem_cons.1 hrun
    rw [List.cons_append, titleAfter, if_neg (hc ▸ Bool.false_ne_true), ih hrun, List.cons_append]

theorem titleAfter_gap (hrest : ∀ c ∈ rest.head?, isAlphanumeric c = false) :
    titleAfter true rest = titleAfter false rest := by
  cases rest with
  | nil => rfl
  | cons c rest =>
    have hc : isAlphanumeric c = false := hrest c rfl
    rw [titleAfter, titleAfter, if_neg (hc ▸ Bool.false_ne_true), if_neg (hc ▸ Bool.false_ne_true)]

def titleRun (run : List Char) : List Char := if run.all isAlphanumeric then capitalize run else run

theorem title_runs (h : Runs cs runs) : title cs = runs.flatMap titleRun := by
  rw [← h.whole, title]
  induction runs generalizing cs with
  | nil => rfl
  | cons run runs ih =>
    have htail : titleAfter false runs.flatten = runs.flatMap titleRun := ih h.of_cons
    have hnonempty : run ≠ [] := fun hnil => h.nonempty (hnil ▸ List.mem_cons_self)
    rw [List.flatten_cons, List.flatMap_cons, titleRun]
    split
    next hword =>
      have hword := List.all_eq_true.1 hword
      -- A gap or nothing follows, so it does not matter that a word has begun.
      obtain ⟨a, ha⟩ := List.exists_mem_of_ne_nil run hnonempty
      rw [title_word hnonempty hword, titleAfter_gap fun b hb => ?_, htail]
      have hne := h.ne_of_head ha hb
      rw [hword a ha] at hne
      exact eq_false_of_ne_true hne.symm
    next hgap =>
      rw [title_gap (h.gap List.mem_cons_self hgap), htail]

end Text

namespace StockFilter

inductive Titled (F O : Type) [Host F O] : List Char → String → Prop
  | word {run : List Char} {s : String} (hrun : ∀ c ∈ run, Text.isAlphanumeric c)
    (hs : StockFilter.capitalize.apply (.string (String.ofList run) : Value F O) =
      .ok (.string s)) : Titled F O run s
  | gap {run : List Char} (hrun : ∀ c ∈ run, Text.isAlphanumeric c = false) :
    Titled F O run (String.ofList run)

variable {F O : Type} [Host F O]

theorem titled_titleRun {cs run : List Char} {runs : List (List Char)} (h : Text.Runs cs runs)
    (hrun : run ∈ runs) :
    Titled F O run (String.ofList (Text.titleRun run)) := by
  rw [Text.titleRun]
  split
  next hword =>
    refine .word (List.all_eq_true.1 hword) ?_
    rw [apply, onText, Value.text, String.toList_ofList]
  next hgap => exact .gap (h.gap hrun hgap)

/-- There is one way to cut the text of a value into runs, and the title is the runs in order, with
each word capitalized. -/
theorem title_capitalizes_words (v : Value F O) :
    (∃! runs, Text.Runs v.text.toList runs) ∧
    ∀ runs, Text.Runs v.text.toList runs → ∃ parts, List.Forall₂ (Titled F O) runs parts ∧
      StockFilter.title.apply v = .ok (.string (String.join parts)) := by
  refine ⟨⟨_, Text.runs_iff.2 rfl, fun _ h => (Text.runs_iff.1 h).symm⟩, fun runs h => ?_⟩
  refine ⟨runs.map fun run => String.ofList (Text.titleRun run), ?_, ?_⟩
  · exact List.forall₂_map_right_iff.2 (List.forall₂_same.2 fun run hrun => titled_titleRun h hrun)
  · rw [apply, onText, Text.title_runs h, String.join_eq, List.map_map, List.flatMap]
    simp only [Function.comp_def, String.toList_ofList]

theorem title_capitalizes_words_expanding : ∃ parts,
    List.Forall₂ (Titled Empty Empty) ["ßa".toList, ['-'], "ŉB".toList] parts ∧
      String.join parts = "SSa-ʼNb" := by
  have hruns : Text.Runs (Value.text (.string "ßa-ŉB" : Value Empty Empty)).toList
      ["ßa".toList, ['-'], "ŉB".toList] := by
    rw [Text.runs_iff, Value.text]
    decide +kernel
  obtain ⟨parts, hparts, htitle⟩ :=
    (title_capitalizes_words (.string "ßa-ŉB" : Value Empty Empty)).2 _ hruns
  have hcomputed : Text.title "ßa-ŉB".toList = "SSa-ʼNb".toList := by decide +kernel
  rw [apply, onText, Value.text, hcomputed, String.ofList_toList] at htitle
  exact ⟨parts, hparts, (Value.string.inj (Except.ok.inj htitle)).symm⟩

end StockFilter

end Stencil
