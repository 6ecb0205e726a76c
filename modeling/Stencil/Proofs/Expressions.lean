import Mathlib.Tactic.Common
import Stencil.Expression.Grammar

/-! Expressions are read by their grammar. A text is cut at its bars and dots, and what is cut off
is trimmed; trimming the whole text first makes no difference to its trimmed parts. -/

namespace Stencil

namespace Text

theorem Blank.append {a b : List Char} (ha : Blank a) (hb : Blank b) : Blank (a ++ b) := by
  intro c hc
  rcases List.mem_append.1 hc with hc | hc
  · exact ha c hc
  · exact hb c hc

theorem trim_append {before after : List Char} (hbefore : Blank before) (hafter : Blank after)
    (cs : List Char) :
    trim (before ++ (cs ++ after)) = trim cs := by
  have hreverse : ∀ a ∈ after.reverse, isBlank a = true :=
    fun a ha => hafter a (List.mem_reverse.1 ha)
  rw [trim, List.dropWhile_append_of_pos hbefore, List.dropWhile_append]
  split
  next hcs =>
    have hnil : cs.dropWhile isBlank = [] := List.isEmpty_iff.1 hcs
    have hdrop : after.dropWhile isBlank = [] := by
      rw [← List.append_nil after, List.dropWhile_append_of_pos hafter]
      rfl
    rw [trim, hnil, hdrop]
  next =>
    rw [List.reverse_append, List.dropWhile_append_of_pos hreverse]
    rfl

theorem exists_trim (cs : List Char) :
    ∃ before after, Blank before ∧ Blank after ∧ cs = before ++ (trim cs ++ after) := by
  have hblank : ∀ cs : List Char, Blank (cs.takeWhile isBlank) :=
    fun cs => List.all_eq_true.1 List.all_takeWhile
  refine ⟨cs.takeWhile isBlank, ((cs.dropWhile isBlank).reverse.takeWhile isBlank).reverse,
    hblank cs, ?_, ?_⟩
  · exact fun c hc => hblank _ c (List.mem_reverse.1 hc)
  · rw [trim, ← List.reverse_append, List.takeWhile_append_dropWhile, List.reverse_reverse,
      List.takeWhile_append_dropWhile]

theorem trim_of_solid {cs : List Char} (h : ∀ c ∈ cs, isBlank c = false) : trim cs = cs := by
  have hdrop : ∀ cs : List Char, (∀ c ∈ cs, isBlank c = false) → cs.dropWhile isBlank = cs := by
    intro cs h
    cases cs with
    | nil => rfl
    | cons c cs => rw [List.dropWhile_cons, h c List.mem_cons_self, if_neg Bool.false_ne_true]
  rw [trim, hdrop cs h, hdrop cs.reverse fun c hc => h c (List.mem_reverse.1 hc),
    List.reverse_reverse]

theorem parts_separator (separator : Char) (cs : List Char) :
    parts separator (separator :: cs) = ([], (parts separator cs).1 :: (parts separator cs).2) := by
  simp only [parts, if_true]

theorem parts_cons {separator c : Char} (h : c ≠ separator) (cs : List Char) :
    parts separator (c :: cs) = (c :: (parts separator cs).1, (parts separator cs).2) := by
  simp only [parts, if_neg h]

theorem parts_append {separator : Char} {a : List Char} (h : separator ∉ a) (b : List Char) :
    parts separator (a ++ b) = (a ++ (parts separator b).1, (parts separator b).2) := by
  induction a with
  | nil => rfl
  | cons c a ih =>
    obtain ⟨hc, ha⟩ := not_or.1 (mt List.mem_cons.2 h)
    rw [List.cons_append, parts_cons (Ne.symm hc), ih ha, List.cons_append]

theorem parts_self {separator : Char} {a : List Char} (h : separator ∉ a) :
    parts separator a = (a, []) := by
  have happend := parts_append h []
  rwa [List.append_nil, parts, List.append_nil] at happend

theorem parts_append_blank {separator : Char} {blank : List Char} (hblank : Blank blank)
    (hsep : separator ∉ blank) (cs : List Char) : ∃ last, Blank last ∧
      (parts separator (cs ++ blank)).1 = (parts separator cs).1 ++ last ∧
      (parts separator (cs ++ blank)).2.map trim = (parts separator cs).2.map trim := by
  induction cs with
  | nil =>
    refine ⟨blank, hblank, ?_, ?_⟩
    · rw [List.nil_append, parts_self hsep]
      rfl
    · rw [List.nil_append, parts_self hsep]
      rfl
  | cons c cs ih =>
    obtain ⟨last, hlast, hfirst, hrest⟩ := ih
    rw [List.cons_append]
    by_cases hc : c = separator
    -- A separator starts a new part, so what was the first part is trimmed from here on.
    · subst hc
      rw [parts_separator, parts_separator]
      refine ⟨[], List.forall_mem_nil _, rfl, ?_⟩
      have htrim := trim_append (List.forall_mem_nil _) hlast (parts c cs).1
      rw [List.map_cons, List.map_cons, hfirst, hrest, ← htrim, List.nil_append]
    · rw [parts_cons hc, parts_cons hc]
      exact ⟨last, hlast, by rw [hfirst, List.cons_append], hrest⟩

theorem parts_trim (separator : Char) (hsep : isBlank separator = false) (cs : List Char) :
    trim (parts separator (trim cs)).1 = trim (parts separator cs).1 ∧
      (parts separator (trim cs)).2.map trim = (parts separator cs).2.map trim := by
  have hnot : ∀ {blank}, Blank blank → separator ∉ blank := by
    intro blank hblank hmem
    rw [hblank separator hmem] at hsep
    cases hsep
  obtain ⟨before, after, hbefore, hafter, hcs⟩ := exists_trim cs
  obtain ⟨last, hlast, hfirst, hrest⟩ := parts_append_blank hafter (hnot hafter) (trim cs)
  have hparts := parts_append (hnot hbefore) (trim cs ++ after)
  rw [← hcs] at hparts
  rw [hparts, hfirst, trim_append hbefore hlast, hrest]
  exact ⟨rfl, rfl⟩

theorem join_append (separator : Char) (a b : List Char) (rest : List (List Char)) :
    join separator (a ++ b) rest = a ++ join separator b rest := by
  cases rest with
  | nil => rfl
  | cons part rest => rw [join, join, List.append_assoc]

end Text

theorem isNamePart_plain {c : Char} (h : isNamePart c = true) :
    Text.isBlank c = false ∧ c ≠ '|' ∧ c ≠ '.' := by
  refine ⟨?_, ?_, ?_⟩
  · have hcode : c.toNat = 95 ∨ 65 ≤ c.toNat ∧ c.toNat ≤ 90 ∨ 97 ≤ c.toNat ∧ c.toNat ≤ 122 ∨
        48 ≤ c.toNat ∧ c.toNat ≤ 57 := by
      rw [isNamePart, Bool.or_eq_true, decide_eq_true_eq] at h
      rcases h with rfl | h
      · exact .inl rfl
      · have hranges : (decide ('A'.val ≤ c.val ∧ c.val ≤ 'Z'.val) ||
            (decide ('a'.val ≤ c.val) && decide (c.val ≤ 'z'.val)) ||
            (decide ('0'.val ≤ c.val) && decide (c.val ≤ '9'.val))) = true := h
        simp [UInt32.le_iff_toNat_le] at hranges
        omega
    simp [Text.isBlank, Text.inRanges, Text.blankRanges]
    omega
  · rintro rfl
    exact absurd h (by decide)
  · rintro rfl
    exact absurd h (by decide)

theorem isNamePart_of_isName {cs : List Char} (h : isName cs = true) :
    ∀ c ∈ cs, isNamePart c = true := by
  cases cs with
  | nil => cases h
  | cons first rest =>
    obtain ⟨hfirst, hrest⟩ := (Bool.and_eq_true _ _).mp h
    intro c hc
    rcases List.mem_cons.1 hc with rfl | hc
    · rw [isNameStart, Bool.or_eq_true] at hfirst
      rw [isNamePart, Bool.or_eq_true]
      exact hfirst.imp_right fun halpha => by rw [Char.isAlphanum, halpha, Bool.true_or]
    · exact List.all_eq_true.1 hrest c hc

theorem isNamePart_of_isSegment {cs : List Char} (h : isSegment cs = true) :
    ∀ c ∈ cs, isNamePart c = true := by
  rcases (Bool.or_eq_true _ _).mp h with h | h
  · exact isNamePart_of_isName h
  · intro c hc
    have hdigit : c.isDigit = true := List.all_eq_true.1 ((Bool.and_eq_true _ _).mp h).2 c hc
    rw [isNamePart, Char.isAlphanum, hdigit, Bool.or_true, Bool.or_true]

namespace Expression

open Text

theorem read_eq (cs : List Char) : read cs =
    if (trim cs).isEmpty then .error .emptyExpression
    else if isName (parts '.' (trim (parts '|' cs).1)).1 && (parts '.'
      (trim (parts '|' cs).1)).2.all isSegment &&
        ((parts '|' cs).2.map trim).all isName then
      .ok ⟨String.ofList (trim cs), String.ofList (parts '.' (trim (parts '|' cs).1)).1,
        (parts '.' (trim (parts '|' cs).1)).2.map String.ofList,
        ((parts '|' cs).2.map trim).map String.ofList⟩
    else .error .invalidName := by
  obtain ⟨hfirst, hrest⟩ := parts_trim '|' rfl cs
  rw [← hfirst, ← hrest]
  rfl

theorem segments_plain {path : List Char} {segments : List String} (h : Segments path segments) :
    ∀ c ∈ path, isBlank c = false ∧ c ≠ '|' := by
  induction h with
  | nil => exact List.forall_mem_nil _
  | cons hsegment hrest ih =>
    intro c hc
    rcases List.mem_cons.1 hc with rfl | hc
    · exact ⟨rfl, by decide⟩
    · rcases List.mem_append.1 hc with hc | hc
      · obtain ⟨hblank, hbar, -⟩ := isNamePart_plain (isNamePart_of_isSegment hsegment c hc)
        exact ⟨hblank, hbar⟩
      · exact ih c hc

theorem parts_segments {path : List Char} {segments : List String} (h : Segments path segments) :
    (parts '.' path).1 = [] ∧ (parts '.' path).2.all isSegment = true ∧
      (parts '.' path).2.map String.ofList = segments := by
  induction h with
  | nil => exact ⟨rfl, rfl, rfl⟩
  | @cons segment rest segments hsegment hrest ih =>
    obtain ⟨hfirst, hall, hsegments⟩ := ih
    have hdot : '.' ∉ segment := by
      intro hmem
      exact (isNamePart_plain (isNamePart_of_isSegment hsegment _ hmem)).2.2 rfl
    rw [parts_separator, parts_append hdot, hfirst, List.append_nil]
    refine ⟨rfl, ?_, ?_⟩
    · rw [List.all_cons, hsegment, hall, Bool.true_and]
    · rw [List.map_cons, hsegments]

theorem parts_filters {cs : List Char} {names : List String} (h : Filters cs names) :
    Blank (parts '|' cs).1 ∧ ((parts '|' cs).2.map trim).all isName = true ∧
      ((parts '|' cs).2.map trim).map String.ofList = names := by
  have hbar : ∀ {blank}, Blank blank → '|' ∉ blank := by
    intro blank hblank hmem
    exact absurd (hblank _ hmem) (by decide)
  induction h with
  | nil hblank =>
    rw [parts_self (hbar hblank)]
    exact ⟨hblank, rfl, rfl⟩
  | @cons before after name rest names hbefore hafter hname hrest ih =>
    obtain ⟨hfirst, hall, hnames⟩ := ih
    have hplain := fun c hc => isNamePart_plain (isNamePart_of_isName hname c hc)
    have htrim : trim (after ++ (name ++ (parts '|' rest).1)) = name := by
      rw [trim_append hafter hfirst, trim_of_solid fun c hc => (hplain c hc).1]
    rw [parts_append (hbar hbefore), parts_separator, parts_append (hbar hafter),
      parts_append fun hmem => (hplain _ hmem).2.1 rfl, List.append_nil]
    refine ⟨hbefore, ?_, ?_⟩
    · rw [List.map_cons, htrim, List.all_cons, hname, hall, Bool.true_and]
    · rw [List.map_cons, htrim, List.map_cons, hnames]

theorem Reads.read {cs : List Char} {e : Expression String} (h : Reads cs e) : read cs = .ok e := by
  cases h with
  | @intro blank head path filters segments names hblank hhead hpath hfilters =>
    obtain ⟨hfirst, hall, hnames⟩ := parts_filters hfilters
    obtain ⟨hnil, hsegmented, hsegments⟩ := parts_segments hpath
    have hplain := fun c hc => isNamePart_plain (isNamePart_of_isName hhead c hc)
    have hsolid : ∀ c ∈ head ++ path, isBlank c = false := by
      intro c hc
      rcases List.mem_append.1 hc with hc | hc
      · exact (hplain c hc).1
      · exact (segments_plain hpath c hc).1
    have hparts : parts '|' (blank ++ (head ++ (path ++ filters))) =
        (blank ++ (head ++ path ++ (parts '|' filters).1), (parts '|' filters).2) := by
      rw [parts_append fun hmem => absurd (hblank _ hmem) (by decide),
        parts_append fun hmem => (hplain _ hmem).2.1 rfl,
        parts_append fun hmem => (segments_plain hpath _ hmem).2 rfl, List.append_assoc]
    have htrim : trim (blank ++ (head ++ path ++ (parts '|' filters).1)) = head ++ path := by
      rw [trim_append hblank hfirst, trim_of_solid hsolid]
    have hdots : parts '.' (head ++ path) = (head, (parts '.' path).2) := by
      rw [parts_append fun hmem => (hplain _ hmem).2.2 rfl, hnil, List.append_nil]
    have hsome : (trim (blank ++ (head ++ (path ++ filters)))).isEmpty = false := by
      obtain ⟨hpath, -⟩ := parts_trim '|' rfl (blank ++ (head ++ (path ++ filters)))
      rw [hparts, htrim] at hpath
      cases htext : trim (blank ++ (head ++ (path ++ filters))) with
      | cons c cs => rfl
      | nil =>
        rw [htext] at hpath
        obtain ⟨rfl, -⟩ := List.append_eq_nil_iff.1 hpath.symm
        cases hhead
    rw [read_eq, hsome, hparts, htrim, hdots, hhead, hsegmented, hall, hsegments, hnames]
    rfl

theorem segments_join (head : List Char) {segments : List (List Char)}
    (h : segments.all isSegment = true) :
    ∃ path, join '.' head segments = head ++ path ∧ Segments path (segments.map String.ofList) := by
  induction segments generalizing head with
  | nil => exact ⟨[], (List.append_nil head).symm, .nil⟩
  | cons segment rest ih =>
    obtain ⟨hsegment, hrest⟩ := (Bool.and_eq_true _ _).mp h
    obtain ⟨path, hjoin, hpath⟩ := ih segment hrest
    exact ⟨'.' :: (segment ++ path), by rw [join, hjoin], .cons hsegment hpath⟩

theorem filters_join {blank : List Char} (hblank : Blank blank) {filters : List (List Char)}
    (h : (filters.map trim).all isName = true) :
    Filters (join '|' blank filters) ((filters.map trim).map String.ofList) := by
  induction filters generalizing blank with
  | nil => exact .nil hblank
  | cons filter rest ih =>
    obtain ⟨hname, hrest⟩ := (Bool.and_eq_true _ _).mp h
    obtain ⟨before, after, hbefore, hafter, hfilter⟩ := exists_trim filter
    have hjoin : join '|' filter rest = before ++ (trim filter ++ join '|' after rest) := by
      rw [← join_append, ← join_append, ← hfilter]
    rw [join, hjoin]
    exact .cons hblank hbefore hname (ih hafter hrest)

theorem reads_of_read {cs : List Char} {e : Expression String} (h : Expression.read cs = .ok e) :
    Reads cs e := by
  rw [read_eq] at h
  split at h
  next => cases h
  split at h
  next hvalid =>
    cases h
    simp only [Bool.and_eq_true] at hvalid
    obtain ⟨⟨hhead, hsegments⟩, hfilters⟩ := hvalid
    -- The blanks that trimming took from the parts are those around the bars and at the ends.
    obtain ⟨before, after, hbefore, hafter, hfirst⟩ := exists_trim (parts '|' cs).1
    obtain ⟨path, hjoin, hpath⟩ := segments_join (parts '.' (trim (parts '|' cs).1)).1 hsegments
    rw [join_parts] at hjoin
    have hcs :
        cs = before ++ ((parts '.' (trim (parts '|' cs).1)).1 ++
          (path ++ join '|' after (parts '|' cs).2)) := by
      rw [← List.append_assoc _ path, ← hjoin, ← join_append, ← join_append, ← hfirst, join_parts]
    have hreads := Reads.intro hbefore hhead hpath (filters_join hafter hfilters)
    rwa [← hcs] at hreads
  next => cases h

theorem read_ok_iff {cs : List Char} {e : Expression String} :
    Expression.read cs = .ok e ↔ Reads cs e :=
  ⟨reads_of_read, Reads.read⟩

end Expression

end Stencil
