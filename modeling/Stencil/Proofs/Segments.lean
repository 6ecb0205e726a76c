import Stencil.Lookup
import Stencil.Proofs.Parts

/-! Path segments on lists. A run of digits leads to the element at its exact value, however long it
is, since a word that would overflow on the way is longer than any list; a name leads to none. -/

namespace Stencil

theorem exists_word {n : Nat} (h : n < UInt64.size) : ∃ word : UInt64, n = word.toNat :=
  ⟨UInt64.ofNat n, (UInt64.toNat_ofNat_of_lt' h).symm⟩

theorem checkedWord_eq_some_iff {n : Nat} {word : UInt64} :
    checkedWord n = some word ↔ n = word.toNat := by
  unfold checkedWord
  split
  next h =>
    obtain ⟨word', rfl⟩ := exists_word h
    rw [UInt64.ofNat_toNat, Option.some_inj, UInt64.toNat_inj]
  next h =>
    refine ⟨nofun, ?_⟩
    rintro rfl
    exact absurd word.toNat_lt_size h

theorem digitsValue_cons (n : Nat) (c : Char) (cs : List Char) :
    digitsValue n (c :: cs) = digitsValue (n * 10 + (c.toNat - '0'.toNat)) cs := by
  rw [digitsValue, List.foldl_cons, digitsValue]

theorem le_digitsValue (n : Nat) (cs : List Char) : n ≤ digitsValue n cs := by
  induction cs generalizing n with
  | nil => exact Nat.le_refl n
  | cons c cs ih =>
    have hstep := ih (n * 10 + (c.toNat - '0'.toNat))
    rw [digitsValue_cons]
    omega

theorem digitsValue_zeros (zeros : Nat) (cs : List Char) :
    digitsValue 0 (List.replicate zeros '0' ++ cs) = digitsValue 0 cs := by
  induction zeros with
  | zero => rfl
  | succ zeros ih =>
    rw [List.replicate_succ, List.cons_append, digitsValue_cons]
    exact ih

/-- A word is read just from digits, and it has their exact value: no step overflows on the way to a
value that fits. -/
theorem readWord_eq_some_iff {word result : UInt64} {cs : List Char} :
    readWord word cs = some result ↔
    (∀ c ∈ cs, Text.Digit c) ∧ digitsValue word.toNat cs = result.toNat := by
  induction cs generalizing word with
  | nil =>
    rw [readWord, Option.some_inj, ← UInt64.toNat_inj]
    exact (and_iff_right (List.forall_mem_nil _)).symm
  | cons c rest ih =>
    rw [readWord, List.forall_mem_cons, digitsValue_cons]
    split
    next hdigit =>
      simp only [Option.bind_eq_some_iff, checkedWord_eq_some_iff, ih]
      constructor
      · rintro ⟨tens, htens, next, hnext, hrest, hvalue⟩
        rw [htens, hnext]
        exact ⟨⟨Text.isDigit_iff.1 hdigit, hrest⟩, hvalue⟩
      · rintro ⟨⟨-, hrest⟩, hvalue⟩
        -- The value so far is at most the value in the end, which fits.
        have hle := le_digitsValue (word.toNat * 10 + (c.toNat - '0'.toNat)) rest
        have hfits : word.toNat * 10 + (c.toNat - '0'.toNat) < UInt64.size :=
          hle.trans_lt (hvalue.trans_lt result.toNat_lt_size)
        obtain ⟨tens, htens⟩ := exists_word ((Nat.le_add_right _ _).trans_lt hfits)
        obtain ⟨next, hnext⟩ := exists_word hfits
        rw [hnext] at hvalue
        rw [htens] at hnext
        exact ⟨tens, htens, next, hnext, hrest, hvalue⟩
    next hdigit => exact ⟨nofun, fun h => absurd (Text.isDigit_iff.2 h.1.1) hdigit⟩

theorem Text.Letter.not_digit {c : Char} (h : Letter c) : ¬Digit c := by
  intro hdigit
  simp only [Letter, Digit, Char.le_def, UInt32.le_iff_toNat_le] at h hdigit
  have hupper : 'A'.val.toNat = 65 := rfl
  have hlower : 'a'.val.toNat = 97 := rfl
  have hnine : '9'.val.toNat = 57 := rfl
  rcases h with h | h | rfl
  · omega
  · omega
  · exact absurd hdigit.2 (by decide)

theorem Identifier.not_numeral {cs : List Char} (h : Identifier cs) : ¬Numeral cs := by
  cases h with
  | intro hfirst _ =>
    rintro ⟨hdigits⟩
    exact hfirst.not_digit (hdigits _ List.mem_cons_self)

namespace Expression

theorem Segments.isSegment {path : List Char} {segments : List String}
    (h : Segments path segments) :
    ∀ segment ∈ segments, isSegment segment.toList = true := by
  induction h with
  | nil => exact List.forall_mem_nil _
  | cons hsegment _ ih =>
    refine List.forall_mem_cons.2 ⟨?_, ih⟩
    rwa [String.toList_ofList]

theorem isSegment_of_read {cs : List Char} {e : Expression String} (h : Expression.read cs = .ok e)
    {segment : String} (hsegment : segment ∈ e.path) : isSegment segment.toList = true := by
  cases reads_of_read h with
  | intro hblank hhead hpath hfilters => exact hpath.isSegment segment hsegment

end Expression

theorem numeral_iff {cs : List Char} (h : cs ≠ []) : Numeral cs ↔ ∀ c ∈ cs, Text.Digit c := by
  cases cs with
  | nil => exact absurd rfl h
  | cons first rest =>
    constructor
    · rintro ⟨hdigits⟩
      exact hdigits
    · exact fun hdigits => .intro hdigits

theorem Numeral.zeros {cs : List Char} (h : Numeral cs) (zeros : Nat) :
    Numeral (List.replicate zeros '0' ++ cs) := by
  cases h with
  | intro hdigits =>
    refine (numeral_iff (List.append_ne_nil_of_right_ne_nil _ (List.cons_ne_nil _ _))).2 ?_
    refine List.forall_mem_append.2 ⟨fun c hc => ?_, hdigits⟩
    rw [List.eq_of_mem_replicate hc]
    exact ⟨by decide, by decide⟩

theorem readIndex_eq_some_iff {segment : String} (h : isSegment segment.toList = true) {n : Nat} :
    readIndex segment = some n ↔ Numeral segment.toList ∧ digitsValue 0 segment.toList = n ∧
    n < UInt64.size := by
  have hne : segment.toList ≠ [] := by
    intro hnil
    rw [hnil] at h
    cases h
  -- No segment begins with a sign, so its index is read from all of it.
  have hread : readIndex segment = (readWord 0 segment.toList).map UInt64.toNat := by
    unfold readIndex
    split
    next hsign =>
      have hplus : isNamePart '+' = true :=
        isNamePart_of_isSegment h '+' (hsign ▸ List.mem_cons_self)
      cases hplus
    next => exact if_neg (mt List.isEmpty_iff.1 hne)
  rw [hread, Option.map_eq_some_iff, numeral_iff hne]
  constructor
  · rintro ⟨word, hword, rfl⟩
    obtain ⟨hdigits, hvalue⟩ := readWord_eq_some_iff.1 hword
    exact ⟨hdigits, hvalue, word.toNat_lt_size⟩
  · rintro ⟨hdigits, rfl, hfits⟩
    obtain ⟨word, hword⟩ := exists_word hfits
    exact ⟨word, readWord_eq_some_iff.2 ⟨hdigits, hword⟩, hword.symm⟩

theorem readIndex_zeros {segment : String} (h : Numeral segment.toList) (zeros : Nat) :
    readIndex (String.ofList (List.replicate zeros '0' ++ segment.toList)) = readIndex segment := by
  have hmore := h.zeros zeros
  have hsegment : isSegment (String.ofList (List.replicate zeros '0' ++ segment.toList)).toList =
      true := by
    rw [String.toList_ofList]
    exact isSegment_iff.2 (.inr hmore)
  refine Option.ext fun n => ?_
  rw [readIndex_eq_some_iff hsegment, readIndex_eq_some_iff (isSegment_iff.2 (.inr h)),
    String.toList_ofList, digitsValue_zeros]
  exact and_congr_left fun _ => iff_of_true hmore h

namespace Resolver

variable {F O : Type} [Host F O] {segment : String}

theorem dots_list_eq_some {items : List (Value F O)} {value : Value F O}
    (hsegment : isSegment segment.toList = true) (h : dots (.list items) segment = some value) :
    Numeral segment.toList ∧ items[digitsValue 0 segment.toList]? = some value := by
  obtain ⟨n, hindex, hvalue⟩ := Option.bind_eq_some_iff.1 h
  obtain ⟨hnumeral, rfl, -⟩ := (readIndex_eq_some_iff hsegment).1 hindex
  exact ⟨hnumeral, hvalue⟩

theorem dots_list_of_getElem? {items : List (Value F O)} {value : Value F O}
    (hitems : items.length ≤ UInt64.size)
    (hnumeral : Numeral segment.toList) (h : items[digitsValue 0 segment.toList]? = some value) :
    dots (.list items) segment = some value := by
  obtain ⟨hlt, -⟩ := List.getElem?_eq_some_iff.1 h
  have hindex := (readIndex_eq_some_iff (isSegment_iff.2 (.inr hnumeral))).2
    ⟨hnumeral, rfl, hlt.trans_le hitems⟩
  exact Option.bind_eq_some_iff.2 ⟨_, hindex, h⟩

theorem dots_list_eq_none {items : List (Value F O)} (hsegment : isSegment segment.toList = true)
    (h : Numeral segment.toList → items.length ≤ digitsValue 0 segment.toList) :
    dots (.list items) segment = none := by
  refine Option.eq_none_iff_forall_ne_some.2 fun value hvalue => ?_
  obtain ⟨hnumeral, hfound⟩ := dots_list_eq_some hsegment hvalue
  obtain ⟨hlt, -⟩ := List.getElem?_eq_some_iff.1 hfound
  exact absurd (h hnumeral) hlt.not_ge

/-- A segment of a path that is read finds, in a list whose positions fit a word, just the element
at the exact value of its digits, if it is made of digits and the list goes on that far. Zeros
before the digits make no difference. In any list, digits whose value is beyond its end find
nothing, even if no word can hold it, and neither does a name. -/
theorem dots_index {cs : List Char} {e : Expression String} (hread : Expression.read cs = .ok e)
    (hsegment : segment ∈ e.path) (items : List (Value F O)) :
    (items.length ≤ UInt64.size → ∀ value, dots (.list items) segment = some value ↔
      Numeral segment.toList ∧
        ∃ h : digitsValue 0 segment.toList < items.length,
          items[digitsValue 0 segment.toList] = value) ∧
    (Numeral segment.toList → ∀ zeros,
      dots (.list items) (String.ofList (List.replicate zeros '0' ++ segment.toList)) =
        dots (.list items) segment) ∧
    (Numeral segment.toList → items.length ≤ digitsValue 0 segment.toList →
      dots (.list items) segment = none) ∧
    (Identifier segment.toList → dots (.list items) segment = none) := by
  have haccepted := Expression.isSegment_of_read hread hsegment
  refine ⟨fun hitems value => ?_, fun hnumeral zeros => ?_, fun _ hlength => ?_, fun hname => ?_⟩
  · rw [← List.getElem?_eq_some_iff]
    exact ⟨dots_list_eq_some haccepted, fun ⟨hnumeral, hfound⟩ =>
      dots_list_of_getElem? hitems hnumeral hfound⟩
  · rw [dots, dots, readIndex_zeros hnumeral zeros]
  · exact dots_list_eq_none haccepted fun _ => hlength
  · exact dots_list_eq_none haccepted fun hnumeral => absurd hnumeral hname.not_numeral

theorem dots_index_beyond :
    ∃ e : Expression String, Expression.read "xs.01.18446744073709551617".toList = .ok e ∧
    e.path = ["01", "18446744073709551617"] ∧
    dots (.list [.string "a", .string "b"] : Value Empty Empty) "01" = some (.string "b") ∧
    dots (.list [.string "a", .string "b"] : Value Empty Empty) "18446744073709551617" = none := by
  have h : Expression.read "xs.01.18446744073709551617".toList =
      .ok ⟨"xs.01.18446744073709551617", "xs", ["01", "18446744073709551617"], []⟩ := rfl
  have hfirst : "01" ∈ ["01", "18446744073709551617"] := by decide
  have hsecond : "18446744073709551617" ∈ ["01", "18446744073709551617"] := by decide
  obtain ⟨hfinds, -⟩ := dots_index h hfirst ([.string "a", .string "b"] : List (Value Empty Empty))
  obtain ⟨-, -, hbeyond, -⟩ :=
    dots_index h hsecond ([.string "a", .string "b"] : List (Value Empty Empty))
  refine ⟨_, h, rfl, (hfinds (by decide) (.string "b")).2 ⟨isIndex_iff.1 rfl, by decide, rfl⟩,
    hbeyond (isIndex_iff.1 rfl) ?_⟩
  decide

end Resolver

end Stencil
