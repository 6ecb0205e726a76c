import Stencil.Token

/-! Byte offsets in a text: what its bytes are, the slices that can be taken between two offsets,
and the first place of a pattern. -/

namespace Stencil.Source

open Token (byteSize)

def bytes (cs : List Char) : List UInt8 := cs.flatMap String.utf8EncodeChar

/-- At byte `p` of the text stand the bytes of the pattern. -/
def Occurs (pattern cs : List Char) (p : Nat) : Prop := bytes pattern <+: (bytes cs).drop p

/-- What follows byte `n` of a text. Nothing does inside a character or beyond the end. -/
def suffix? : List Char → Nat → Option (List Char)
  | cs, 0 => some cs
  | [], _ + 1 => none
  | c :: cs, n + 1 => if c.utf8Size ≤ n + 1 then suffix? cs (n + 1 - c.utf8Size) else none

def initial? : List Char → Nat → Option (List Char)
  | _, 0 => some []
  | [], _ + 1 => none
  | c :: cs, n + 1 =>
    if c.utf8Size ≤ n + 1 then (initial? cs (n + 1 - c.utf8Size)).map (c :: ·) else none

def slice? (cs : List Char) (start stop : Nat) : Option (List Char) :=
  if start ≤ stop then (suffix? cs start).bind fun rest => initial? rest (stop - start) else none

def find? (pattern : List Char) : List Char → Option Nat
  | [] => if pattern.isEmpty then some 0 else none
  | c :: cs =>
    if pattern.isPrefixOf (c :: cs) then some 0 else (find? pattern cs).map (c.utf8Size + ·)

theorem byteSize_append (a b : List Char) : byteSize (a ++ b) = byteSize a + byteSize b := by
  induction a with
  | nil => exact (Nat.zero_add _).symm
  | cons c rest ih =>
    change c.utf8Size + byteSize (rest ++ b) = c.utf8Size + byteSize rest + byteSize b
    rw [ih, Nat.add_assoc]

theorem byteSize_cons (c : Char) (cs : List Char) : byteSize (c :: cs) = c.utf8Size + byteSize cs :=
  rfl

theorem byteSize_pos {cs : List Char} (h : cs ≠ []) : 0 < byteSize cs := by
  cases cs with
  | nil => exact absurd rfl h
  | cons c rest => exact Nat.add_pos_left c.utf8Size_pos _

theorem byteSize_reverse (cs : List Char) : byteSize cs.reverse = byteSize cs := by
  induction cs with
  | nil => rfl
  | cons c rest ih =>
    rw [List.reverse_cons, byteSize_append, byteSize_cons, byteSize_cons, ih, Nat.add_comm]
    rfl

theorem bytes_append (a b : List Char) : bytes (a ++ b) = bytes a ++ bytes b := List.flatMap_append

theorem length_bytes (cs : List Char) : (bytes cs).length = byteSize cs := by
  induction cs with
  | nil => rfl
  | cons c rest ih =>
    change (String.utf8EncodeChar c ++ bytes rest).length = c.utf8Size + byteSize rest
    rw [List.length_append, String.length_utf8EncodeChar, ih]

theorem eq_nil_of_byteSize {cs : List Char} (h : byteSize cs = 0) : cs = [] :=
  Classical.byContradiction fun hne => absurd h (Nat.ne_of_gt (byteSize_pos hne))

theorem suffix?_eq_some_iff {cs rest : List Char} {n : Nat} :
    suffix? cs n = some rest ↔ ∃ before, cs = before ++ rest ∧ byteSize before = n := by
  fun_induction suffix? cs n with
  | case1 cs =>
    constructor
    · rintro ⟨⟩
      exact ⟨[], rfl, rfl⟩
    · rintro ⟨before, rfl, hsize⟩
      rw [eq_nil_of_byteSize hsize, List.nil_append]
  | case2 n =>
    refine ⟨nofun, ?_⟩
    rintro ⟨before, hbefore, hsize⟩
    rw [(List.append_eq_nil_iff.1 hbefore.symm).1] at hsize
    cases hsize
  | case3 c cs n hle ih =>
    rw [ih]
    constructor
    · rintro ⟨before, rfl, hsize⟩
      refine ⟨c :: before, rfl, ?_⟩
      rw [byteSize_cons, hsize, Nat.add_sub_of_le hle]
    · rintro ⟨before, hbefore, hsize⟩
      cases before with
      | nil => cases hsize
      | cons c' before =>
        cases hbefore
        rw [byteSize_cons] at hsize
        exact ⟨before, rfl, by omega⟩
  | case4 c cs n hgt =>
    refine ⟨nofun, ?_⟩
    rintro ⟨before, hbefore, hsize⟩
    cases before with
    | nil => cases hsize
    | cons c' before =>
      cases hbefore
      rw [byteSize_cons] at hsize
      omega

theorem initial?_eq_some_iff {cs part : List Char} {n : Nat} :
    initial? cs n = some part ↔ ∃ rest, cs = part ++ rest ∧ byteSize part = n := by
  fun_induction initial? cs n generalizing part with
  | case1 cs =>
    constructor
    · rintro ⟨⟩
      exact ⟨cs, rfl, rfl⟩
    · rintro ⟨rest, -, hsize⟩
      rw [eq_nil_of_byteSize hsize]
  | case2 n =>
    refine ⟨nofun, ?_⟩
    rintro ⟨rest, hpart, hsize⟩
    rw [(List.append_eq_nil_iff.1 hpart.symm).1] at hsize
    cases hsize
  | case3 c cs n hle ih =>
    constructor
    · intro h
      obtain ⟨part, hpart, rfl⟩ := Option.map_eq_some_iff.1 h
      obtain ⟨rest, rfl, hsize⟩ := ih.1 hpart
      refine ⟨rest, rfl, ?_⟩
      rw [byteSize_cons, hsize, Nat.add_sub_of_le hle]
    · rintro ⟨rest, hpart, hsize⟩
      cases part with
      | nil => cases hsize
      | cons c' part =>
        cases hpart
        rw [byteSize_cons] at hsize
        rw [ih.2 ⟨rest, rfl, by omega⟩]
        rfl
  | case4 c cs n hgt =>
    refine ⟨nofun, ?_⟩
    rintro ⟨rest, hpart, hsize⟩
    cases part with
    | nil => cases hsize
    | cons c' part =>
      cases hpart
      rw [byteSize_cons] at hsize
      omega

theorem slice?_eq_some_iff {cs part : List Char} {start stop : Nat} :
    slice? cs start stop = some part ↔
    ∃ before after, cs = before ++ (part ++ after) ∧ byteSize before = start ∧
      start + byteSize part = stop := by
  unfold slice?
  split
  next hle =>
    simp only [Option.bind_eq_some_iff, suffix?_eq_some_iff, initial?_eq_some_iff]
    constructor
    · rintro ⟨_, ⟨before, rfl, hbefore⟩, after, rfl, hpart⟩
      exact ⟨before, after, rfl, hbefore, by omega⟩
    · rintro ⟨before, after, rfl, hbefore, hpart⟩
      exact ⟨_, ⟨before, rfl, hbefore⟩, after, rfl, by omega⟩
  next hlt =>
    refine ⟨nofun, ?_⟩
    rintro ⟨before, after, -, -, hstop⟩
    omega

theorem byteSize_toList (s : String) : byteSize s.toList = s.utf8ByteSize := by
  rw [← length_bytes, ← String.size_toByteArray, ← String.utf8Encode_toList, List.utf8Encode,
    List.size_toByteArray]
  rfl

def Ascii (cs : List Char) : Prop := ∀ c ∈ cs, c.val.toNat ≤ 127

theorem bytes_ascii {c : Char} (h : c.val.toNat ≤ 127) :
    String.utf8EncodeChar c = [UInt8.ofNat c.val.toNat] := by
  simp only [String.utf8EncodeChar, if_pos h]

theorem bytes_wide {c : Char} (h : ¬c.val.toNat ≤ 127) :
    ∀ b ∈ String.utf8EncodeChar c, 128 ≤ b.toNat := by
  intro b hb
  simp only [String.utf8EncodeChar, if_neg h] at hb
  split at hb
  · simp only [List.mem_cons, List.not_mem_nil, or_false] at hb
    rcases hb with rfl | rfl <;> simp only [UInt8.toNat_ofNat'] <;> omega
  · split at hb
    · simp only [List.mem_cons, List.not_mem_nil, or_false] at hb
      rcases hb with rfl | rfl | rfl <;> simp only [UInt8.toNat_ofNat'] <;> omega
    · simp only [List.mem_cons, List.not_mem_nil, or_false] at hb
      rcases hb with rfl | rfl | rfl | rfl <;> simp only [UInt8.toNat_ofNat'] <;> omega

/-- No byte of an ASCII character stands inside the bytes of another character. -/
theorem not_prefix_wide {c : Char} (hc : ¬c.val.toNat ≤ 127) {n : Nat} (hn : n < c.utf8Size)
    {b : UInt8}
    (hb : b.toNat ≤ 127) (bs after : List UInt8) :
    ¬b :: bs <+: (String.utf8EncodeChar c).drop n ++ after := by
  rw [← String.length_utf8EncodeChar] at hn
  rw [List.drop_eq_getElem_cons hn, List.cons_append, List.cons_prefix_cons]
  rintro ⟨rfl, -⟩
  exact absurd (bytes_wide hc _ (List.getElem_mem hn)) (by omega)

theorem bytes_cons (c : Char) (cs : List Char) :
    bytes (c :: cs) = String.utf8EncodeChar c ++ bytes cs := rfl

theorem toNat_ofNat_ascii {c : Char} (h : c.val.toNat ≤ 127) :
    (UInt8.ofNat c.val.toNat).toNat = c.val.toNat := by
  rw [UInt8.toNat_ofNat', Nat.mod_eq_of_lt (by omega)]

theorem ofNat_ascii_inj {a c : Char} (ha : a.val.toNat ≤ 127) (hc : c.val.toNat ≤ 127) :
    UInt8.ofNat a.val.toNat = UInt8.ofNat c.val.toNat ↔ a = c := by
  rw [← UInt8.toNat_inj, toNat_ofNat_ascii ha, toNat_ofNat_ascii hc, Char.ext_iff,
    ← UInt32.toNat_inj]

theorem bytes_prefix_iff {pattern cs : List Char} (h : Ascii pattern) :
    bytes pattern <+: bytes cs ↔ pattern <+: cs := by
  induction pattern generalizing cs with
  | nil => exact ⟨fun _ => List.nil_prefix, fun _ => List.nil_prefix⟩
  | cons a rest ih =>
    have ha : a.val.toNat ≤ 127 := h a List.mem_cons_self
    rw [bytes_cons, bytes_ascii ha, List.singleton_append]
    cases cs with
    | nil => simp [bytes]
    | cons c cs =>
      rw [bytes_cons, List.cons_prefix_cons]
      by_cases hc : c.val.toNat ≤ 127
      · rw [bytes_ascii hc, List.singleton_append, List.cons_prefix_cons, ofNat_ascii_inj ha hc,
          ih fun c hc => h c (List.mem_cons_of_mem _ hc)]
      · refine ⟨fun hinitial => ?_, ?_⟩
        · have hbyte : (UInt8.ofNat a.val.toNat).toNat ≤ 127 := by rwa [toNat_ofNat_ascii ha]
          exact absurd hinitial (not_prefix_wide hc c.utf8Size_pos hbyte _ _)
        · rintro ⟨rfl, -⟩
          exact absurd ha hc

theorem occurs_iff {a : Char} {pattern cs : List Char} (h : Ascii (a :: pattern)) {p : Nat} :
    Occurs (a :: pattern) cs p ↔ ∃ before after, cs = before ++ (a :: pattern ++ after) ∧
    byteSize before = p := by
  have hsuffix : Occurs (a :: pattern) cs p ↔ ∃ rest, suffix? cs p = some rest ∧
      a :: pattern <+: rest := by
    have ha : a.val.toNat ≤ 127 := h a List.mem_cons_self
    unfold Occurs
    fun_induction suffix? cs p with
    | case1 cs => simp [bytes_prefix_iff h]
    | case2 n => simp [bytes_ascii ha, bytes]
    | case3 c cs n hle ih =>
      refine Iff.trans ?_ ih
      rw [bytes_cons c, List.drop_append, List.drop_eq_nil_of_le, List.nil_append,
        String.length_utf8EncodeChar]
      rwa [String.length_utf8EncodeChar]
    | case4 c cs n hgt =>
      refine ⟨fun hinitial => ?_, nofun⟩
      have hwide : ¬c.val.toNat ≤ 127 := by
        intro hc
        rw [← String.length_utf8EncodeChar, bytes_ascii hc] at hgt
        exact hgt (Nat.le_add_left 1 n)
      have hbyte : (UInt8.ofNat a.val.toNat).toNat ≤ 127 := by rwa [toNat_ofNat_ascii ha]
      rw [bytes_cons, bytes_ascii ha, bytes_cons c, List.drop_append] at hinitial
      exact (not_prefix_wide hwide (Nat.lt_of_not_le hgt) hbyte _ _ hinitial).elim
  rw [hsuffix]
  simp only [suffix?_eq_some_iff]
  constructor
  · rintro ⟨rest, ⟨before, rfl, hsize⟩, after, rfl⟩
    exact ⟨before, after, rfl, hsize⟩
  · rintro ⟨before, after, rfl, hsize⟩
    exact ⟨_, ⟨before, rfl, hsize⟩, after, rfl⟩

theorem occurs_append (pattern before cs : List Char) (n : Nat) :
    Occurs pattern (before ++ cs) (byteSize before + n) ↔ Occurs pattern cs n := by
  rw [Occurs, Occurs, bytes_append, ← length_bytes, ← List.drop_drop, List.drop_left]

theorem lt_of_find? {cs rest : List Char} {n offset : Nat} {c : Char}
    (hrest : suffix? cs n = some rest)
    (hfind : find? [c] rest = some offset) : n < byteSize cs := by
  obtain ⟨before, rfl, rfl⟩ := suffix?_eq_some_iff.1 hrest
  have hne : rest ≠ [] := by
    rintro rfl
    cases hfind
  rw [byteSize_append]
  exact Nat.lt_add_of_pos_right (byteSize_pos hne)

end Stencil.Source
