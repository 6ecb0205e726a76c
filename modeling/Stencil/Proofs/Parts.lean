import Stencil.Expression.Parts
import Stencil.Proofs.Expressions
import Stencil.Proofs.Recovery

/-! Expressions and their parts. A text is read at any place of a draft just when the grammar has
it, and the parts are those of the text; parts that are written one after the other are read
back. -/

namespace Stencil

namespace Text

theorem isAlpha_iff {c : Char} : c.isAlpha = true ↔ 'A' ≤ c ∧ c ≤ 'Z' ∨ 'a' ≤ c ∧ c ≤ 'z' := by
  have hupper : c.isUpper = decide ('A' ≤ c ∧ c ≤ 'Z') := rfl
  have hlower : c.isLower = (decide ('a' ≤ c) && decide (c ≤ 'z')) := rfl
  have halpha : c.isAlpha = (c.isUpper || c.isLower) := rfl
  rw [halpha, hupper, hlower, Bool.or_eq_true, Bool.and_eq_true]
  simp only [decide_eq_true_eq]

theorem isDigit_iff {c : Char} : c.isDigit = true ↔ Digit c := by
  simp [Char.isDigit, Digit, Char.le_def]

theorem isNameStart_iff {c : Char} : isNameStart c = true ↔ Letter c := by
  rw [isNameStart, Bool.or_eq_true, decide_eq_true_eq, isAlpha_iff, Letter]
  tauto

theorem isNamePart_iff {c : Char} : isNamePart c = true ↔ Letter c ∨ Digit c := by
  rw [isNamePart, Char.isAlphanum, ← Bool.or_assoc, Bool.or_eq_true, isDigit_iff, ← isNameStart,
    isNameStart_iff]

end Text

theorem isName_iff {cs : List Char} : isName cs = true ↔ Identifier cs := by
  cases cs with
  | nil => exact ⟨nofun, nofun⟩
  | cons first rest =>
    rw [isName, Bool.and_eq_true, List.all_eq_true, Text.isNameStart_iff]
    simp only [Text.isNamePart_iff]
    constructor
    · rintro ⟨hfirst, hrest⟩
      exact .intro hfirst hrest
    · rintro ⟨hfirst, hrest⟩
      exact ⟨hfirst, hrest⟩

theorem isIndex_iff {cs : List Char} : isIndex cs = true ↔ Numeral cs := by
  cases cs with
  | nil => exact ⟨nofun, nofun⟩
  | cons first rest =>
    rw [isIndex, List.isEmpty_cons, Bool.not_false, Bool.true_and, List.all_eq_true]
    simp only [Text.isDigit_iff]
    constructor
    · exact fun hdigits => .intro hdigits
    · rintro ⟨hdigits⟩
      exact hdigits

theorem isSegment_iff {cs : List Char} : isSegment cs = true ↔ Identifier cs ∨ Numeral cs := by
  rw [isSegment, Bool.or_eq_true, isName_iff, isIndex_iff]

namespace Expression

open Text

theorem isEmpty_trim_iff {cs : List Char} : (trim cs).isEmpty = true ↔ Blank cs := by
  constructor
  · intro h
    obtain ⟨before, after, hbefore, hafter, hcs⟩ := exists_trim cs
    rw [List.isEmpty_iff.1 h, List.nil_append] at hcs
    rw [hcs]
    exact hbefore.append hafter
  · intro h
    have htrim := trim_append h (List.forall_mem_nil _) []
    rw [List.append_nil, List.append_nil] at htrim
    rw [htrim]
    rfl

theorem read_empty_iff {cs : List Char} :
    Expression.read cs = .error .emptyExpression ↔ Blank cs := by
  rw [← isEmpty_trim_iff, read_eq]
  split
  next h => exact ⟨fun _ => h, fun _ => rfl⟩
  next h =>
    refine ⟨fun hread => ?_, fun htrim => absurd htrim h⟩
    split at hread <;> cases hread

theorem read_cases (cs : List Char) :
    (∃ e, Expression.read cs = .ok e) ∨ Expression.read cs = .error .emptyExpression ∨
      Expression.read cs = .error .invalidName := by
  rw [read_eq]
  split
  next => exact .inr (.inl rfl)
  split
  next => exact .inl ⟨_, rfl⟩
  next => exact .inr (.inr rfl)

theorem read_invalid_iff {cs : List Char} :
    Expression.read cs = .error .invalidName ↔ ¬Blank cs ∧ ∀ e, ¬Reads cs e := by
  simp only [← read_empty_iff, ← read_ok_iff]
  rcases read_cases cs with ⟨e, h⟩ | h | h <;> simp [h]

theorem reads_spell {head : String} {path filters : List String} (h : Valid head path filters) :
    Reads (spell head path filters) ⟨String.ofList (trim (spell head path filters)), head, path,
      filters⟩ := by
  have hstrings : ∀ parts : List String, (parts.map String.toList).map String.ofList = parts := by
    intro parts
    rw [List.map_map]
    exact (List.map_congr_left fun part _ => String.ofList_toList).trans (List.map_id parts)
  have hpath : (path.map String.toList).all isSegment = true := by
    simp only [List.all_map, List.all_eq_true, Function.comp_apply, isSegment_iff]
    exact h.path
  have hname : ∀ name ∈ filters, isName name.toList = true :=
    fun name hname => isName_iff.2 (h.filters name hname)
  -- A name has no white space in it, so trimming a filter leaves it as it is.
  have htrim : (filters.map String.toList).map trim = filters.map String.toList := by
    rw [List.map_map]
    refine List.map_congr_left fun name hmem => trim_of_solid fun c hc => ?_
    exact (isNamePart_plain (isNamePart_of_isName (hname name hmem) c hc)).1
  have hfilters : ((filters.map String.toList).map trim).all isName = true := by
    rw [htrim]
    simpa only [List.all_map, List.all_eq_true, Function.comp_apply] using hname
  obtain ⟨text, hjoin, hsegments⟩ := segments_join head.toList hpath
  have hbars := filters_join (List.forall_mem_nil _ : Blank []) hfilters
  rw [htrim, hstrings] at hbars
  rw [hstrings] at hsegments
  have hspell : spell head path filters =
      [] ++ (head.toList ++ (text ++ join '|' [] (filters.map String.toList))) := by
    rw [spell, hjoin, List.nil_append, ← join_append, ← join_append, List.append_nil]
  have hreads := Reads.intro (List.forall_mem_nil _ : Blank [])
    (isName_iff.2 h.head) hsegments hbars
  rwa [← hspell, String.ofList_toList] at hreads

end Expression

namespace Draft

theorem expression_named (scope : Scope) (d : Draft) (e : Expression String) :
    (d.expression scope e).1.named = e := by
  have hhead := resolve_name scope d e.head
  have hfilters := resolveAll_names scope (d.resolve scope e.head).2 e.filters
  rw [expression, Expression.named, hhead, hfilters]

theorem readExpression_ok_iff {scope : Scope} {d : Draft} {cs : List Char} {e : Expression String} :
    (∃ v d', d.readExpression scope cs = .ok (v, d') ∧ v.named = e) ↔
      Expression.read cs = .ok e := by
  rw [readExpression]
  cases Expression.read cs with
  | error fault => exact ⟨nofun, nofun⟩
  | ok e' =>
    constructor
    · rintro ⟨v, d', hread, rfl⟩
      cases hread
      exact congrArg Except.ok (expression_named scope d e').symm
    · rintro ⟨⟩
      exact ⟨_, _, rfl, expression_named scope d e⟩

theorem readExpression_error_iff {scope : Scope} {d : Draft} {cs : List Char}
    {fault : SyntaxFault} :
    d.readExpression scope cs = .error fault ↔ Expression.read cs = .error fault := by
  rw [readExpression]
  cases Expression.read cs with
  | error fault' =>
    exact ⟨fun h => congrArg _ (Except.error.inj h), fun h => congrArg _ (Except.error.inj h)⟩
  | ok e => exact ⟨nofun, nofun⟩

/-- At every place of every draft the texts that are read are those of the grammar, with their parts
in order; of the others those of white space alone are empty expressions, and the rest have an
invalid name. And parts that are valid, written one after the other, are read back. -/
theorem readExpression_exact (scope : Scope) (d : Draft) :
    (∀ cs e, (∃ v d', d.readExpression scope cs = .ok (v, d') ∧ v.named = e) ↔
      Expression.Reads cs e) ∧
    (∀ cs, isName cs = true ↔ Identifier cs) ∧
    (∀ cs, isSegment cs = true ↔ Identifier cs ∨ Numeral cs) ∧
    (∀ cs, d.readExpression scope cs = .error .emptyExpression ↔ Text.Blank cs) ∧
    (∀ cs, d.readExpression scope cs = .error .invalidName ↔
      ¬Text.Blank cs ∧ ∀ e, ¬Expression.Reads cs e) ∧
    ∀ head path filters, Expression.Valid head path filters →
      ∃ v d', d.readExpression scope (Expression.spell head path filters) = .ok (v, d') ∧
        v.head.name = head ∧ v.path = path ∧ v.filters.map Variable.name = filters := by
  refine ⟨fun cs e => ?_, fun cs => isName_iff, fun cs => isSegment_iff, fun cs => ?_,
    fun cs => ?_, ?_⟩
  · rw [readExpression_ok_iff, Expression.read_ok_iff]
  · rw [readExpression_error_iff, Expression.read_empty_iff]
  · rw [readExpression_error_iff, Expression.read_invalid_iff]
  · intro head path filters hvalid
    have hread := Expression.read_ok_iff.2 (Expression.reads_spell hvalid)
    obtain ⟨v, d', hv, hnamed⟩ : ∃ v d', d.readExpression scope _ = .ok (v, d') ∧ v.named = _ :=
      readExpression_ok_iff.2 hread
    exact ⟨v, d', hv, congrArg Expression.head hnamed, congrArg Expression.path hnamed,
      congrArg Expression.filters hnamed⟩

theorem readExpression_exact_loop : Expression.Valid "row" ["0", "id"] ["up"] ∧
    ∃ v d', entry.readExpression [("row", 3)] "row.0.id|up".toList = .ok (v, d') ∧
      v.head = ⟨"row", 3, true⟩ ∧ v.path = ["0", "id"] ∧ v.filters.map Variable.name = ["up"] := by
  have hvalid : Expression.Valid "row" ["0", "id"] ["up"] := by
    refine ⟨isName_iff.1 rfl, fun segment hsegment => isSegment_iff.1 ?_, fun name hname =>
      isName_iff.1 ?_⟩
    · rcases hsegment with _ | ⟨_, _ | ⟨_, ⟨⟩⟩⟩ <;> rfl
    · rcases hname with _ | ⟨_, ⟨⟩⟩
      rfl
  obtain ⟨v, d', hv, -, hpath, hfilters⟩ :=
    (readExpression_exact [("row", 3)] entry).2.2.2.2.2 _ _ _ hvalid
  refine ⟨hvalid, v, d', hv, ?_, hpath, hfilters⟩
  cases hv
  rfl

end Draft

end Stencil
