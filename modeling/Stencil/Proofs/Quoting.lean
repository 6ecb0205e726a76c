import Mathlib.Data.List.Basic
import Mathlib.Tactic.Common
import Stencil.Text.Quoted

/-! Quoted texts end at their closing quotes, and lists of them where no comma follows: of two texts
that start alike the first parts are alike, and so are the rests. -/

namespace Stencil

theorem takeWhile_append_cons {p : Char → Bool} {a rest : List Char} {c : Char}
    (ha : ∀ x ∈ a, p x = true) (hc : p c = false) : (a ++ c :: rest).takeWhile p = a := by
  simp [List.takeWhile_append_of_pos ha, hc]

theorem run_inj {p : Char → Bool} {a a' rest rest' : List Char} {c c' : Char}
    (ha : ∀ x ∈ a, p x = true) (ha' : ∀ x ∈ a', p x = true) (hc : p c = false) (hc' : p c' = false)
    (h : a ++ c :: rest = a' ++ c' :: rest') : a = a' ∧ c = c' ∧ rest = rest' := by
  have hrun : a = a' := by
    rw [← takeWhile_append_cons ha hc, h, takeWhile_append_cons ha' hc']
  subst hrun
  have hrest := List.append_cancel_left h
  exact ⟨rfl, List.cons_eq_cons.1 hrest⟩

namespace Text

theorem digitChar_inj {m n : Nat} (hm : m < 16) (hn : n < 16) (h : m.digitChar = n.digitChar) :
    m = n := by
  have hall : ∀ m : Fin 16, ∀ n : Fin 16, m.val.digitChar = n.val.digitChar → m.val = n.val := by
    decide
  exact hall ⟨m, hm⟩ ⟨n, hn⟩ h

theorem toDigits_inj {m n : Nat} (h : Nat.toDigits 16 m = Nat.toDigits 16 n) : m = n := by
  induction m using Nat.strongRecOn generalizing n with
  | ind m ih =>
    have hone : (1 : Nat) < 16 := by decide
    rw [Nat.toDigits_eq_if hone, Nat.toDigits_eq_if (n := n) hone] at h
    split at h <;> split at h
    next hm hn => exact digitChar_inj hm hn (List.singleton_inj.1 h)
    next => exact absurd (congrArg List.length h) (by simp [Nat.toDigits_ne_nil])
    next => exact absurd (congrArg List.length h) (by simp [Nat.toDigits_ne_nil])
    next hm hn =>
      obtain ⟨hleft, hright⟩ := List.append_inj' h rfl
      have hquotient : m / 16 = n / 16 := ih (m / 16) (by omega) hleft
      have hremainder : m % 16 = n % 16 :=
        digitChar_inj (Nat.mod_lt _ (by decide)) (Nat.mod_lt _ (by decide))
          (List.singleton_inj.1 hright)
      omega

theorem ne_brace_of_mem_toDigits {n : Nat} {c : Char} (h : c ∈ Nat.toDigits 16 n) :
    (c != '}') = true := by
  induction n using Nat.strongRecOn with
  | ind n ih =>
    have hdigit : ∀ m < 16, (m.digitChar != '}') = true := by decide
    rw [Nat.toDigits_eq_if (by decide)] at h
    split at h
    next hn =>
      rw [List.mem_singleton.1 h]
      exact hdigit n hn
    next hn =>
      rcases List.mem_append.1 h with h | h
      · exact ih (n / 16) (by omega) h
      · rw [List.mem_singleton.1 h]
        exact hdigit _ (Nat.mod_lt _ (by decide))

def letters : List (Char × Char) :=
  [('\x00', '0'), ('\t', 't'), ('\r', 'r'), ('\n', 'n'), ('"', '"'), ('\\', '\\')]

variable {hidden : Char → Bool}

theorem escape_cases (hidden : Char → Bool) (c : Char) :
    (∃ letter, (c, letter) ∈ letters ∧ escape hidden c = ['\\', letter]) ∨
    escape hidden c = '\\' :: 'u' :: '{' :: (Nat.toDigits 16 c.toNat ++ ['}']) ∨
    (c ≠ '\\' ∧ c ≠ '"' ∧ escape hidden c = [c]) := by
  unfold escape
  split_ifs with h0 ht hr hn hq hb hh
  · exact .inl ⟨'0', by simp [letters, h0], rfl⟩
  · exact .inl ⟨'t', by simp [letters, ht], rfl⟩
  · exact .inl ⟨'r', by simp [letters, hr], rfl⟩
  · exact .inl ⟨'n', by simp [letters, hn], rfl⟩
  · exact .inl ⟨'"', by simp [letters, hq], rfl⟩
  · exact .inl ⟨'\\', by simp [letters, hb], rfl⟩
  · exact .inr (.inl rfl)
  · exact .inr (.inr ⟨hb, hq, rfl⟩)

theorem letters_inj : ∀ p ∈ letters, ∀ q ∈ letters, p.2 = q.2 → p.1 = q.1 := by decide

theorem letters_ne : ∀ p ∈ letters, p.2 ≠ 'u' := by decide

theorem escape_inj {c c' : Char} {rest rest' : List Char}
    (h : escape hidden c ++ rest = escape hidden c' ++ rest') : c = c' ∧ rest = rest' := by
  rcases escape_cases hidden c with ⟨x, hx, hc⟩ | hc | ⟨hb, -, hc⟩ <;>
    rcases escape_cases hidden c' with ⟨x', hx', hc'⟩ | hc' | ⟨hb', -, hc'⟩ <;> rw [hc, hc'] at h
  · obtain ⟨hletter, hrest⟩ : x = x' ∧ rest = rest' := by simpa using h
    exact ⟨letters_inj _ hx _ hx' hletter, hrest⟩
  · exact absurd (List.cons.inj (List.cons.inj h).2).1 (letters_ne _ hx)
  · exact absurd (List.cons.inj h).1.symm hb'
  · exact absurd (List.cons.inj (List.cons.inj h).2).1.symm (letters_ne _ hx')
  · -- Hexadecimal digits end at the brace.
    have hdigits : Nat.toDigits 16 c.toNat ++ '}' :: rest =
        Nat.toDigits 16 c'.toNat ++ '}' :: rest' := by simpa using h
    obtain ⟨hvalue, -, hrest⟩ := run_inj (p := (· != '}')) (fun _ => ne_brace_of_mem_toDigits)
      (fun _ => ne_brace_of_mem_toDigits) (by decide) (by decide) hdigits
    exact ⟨Char.toNat_inj.1 (toDigits_inj hvalue), hrest⟩
  · exact absurd (List.cons.inj h).1.symm hb'
  · exact absurd (List.cons.inj h).1 hb
  · exact absurd (List.cons.inj h).1 hb
  · exact List.cons.inj h

theorem escape_ne_quote (c : Char) (rest rest' : List Char) :
    escape hidden c ++ rest ≠ '"' :: rest' := by
  rcases escape_cases hidden c with ⟨x, hx, hc⟩ | hc | ⟨-, hquote, hc⟩
  · simp [hc]
  · simp [hc]
  · simp [hc, hquote]

/-- A quoted text ends at its closing quote, whatever stands in it and after it. -/
theorem quotedWith_inj {cs cs' rest rest' : List Char}
    (h : quotedWith hidden cs ++ rest = quotedWith hidden cs' ++ rest') :
    cs = cs' ∧ rest = rest' := by
  have hinside : cs.flatMap (escape hidden) ++ '"' :: rest =
      cs'.flatMap (escape hidden) ++ '"' :: rest' := by
    simpa [quotedWith] using h
  clear h
  induction cs generalizing cs' with
  | nil =>
    cases cs' with
    | nil => simpa using hinside
    | cons c' cs' =>
      rw [List.flatMap_cons, List.append_assoc] at hinside
      exact absurd hinside.symm (escape_ne_quote _ _ _)
  | cons c cs ih =>
    cases cs' with
    | nil =>
      rw [List.flatMap_cons, List.append_assoc] at hinside
      exact absurd hinside (escape_ne_quote _ _ _)
    | cons c' cs' =>
      rw [List.flatMap_cons, List.flatMap_cons, List.append_assoc, List.append_assoc] at hinside
      obtain ⟨hc, hrest⟩ := escape_inj hinside
      obtain ⟨hcs, htail⟩ := ih hrest
      exact ⟨congrArg₂ List.cons hc hcs, htail⟩

theorem quotedBy_inj {s s' : String} {rest rest' : List Char}
    (h : (quotedBy hidden s).toList ++ rest = (quotedBy hidden s').toList ++ rest') :
    s = s' ∧ rest = rest' := by
  simp only [quotedBy, String.toList_ofList] at h
  obtain ⟨hs, hrest⟩ := quotedWith_inj h
  exact ⟨String.toList_inj.1 hs, hrest⟩

end Text

def listed {α : Type} (write : α → List Char) (items : List α) : List Char :=
  items.flatMap fun item => ',' :: ' ' :: write item

theorem toList_intercalate_map {α : Type} (write : α → String) (item : α) (rest : List α) :
    (", ".intercalate ((item :: rest).map write)).toList =
      (write item).toList ++ listed (fun item => (write item).toList) rest := by
  induction rest generalizing item with
  | nil => simp [listed]
  | cons next rest ih =>
    have hne : (next :: rest).map write ≠ [] := by simp
    rw [List.map_cons, String.intercalate_cons_of_ne_nil hne, String.toList_append, ih]
    simp [listed]

theorem listed_inj {α β : Type} {write : α → List Char} {view : α → β} {good : α → Prop}
    (hwrite : ∀ a a' rest rest', good a → good a' → write a ++ rest = write a' ++ rest' →
      view a = view a' ∧ rest = rest')
    {items items' : List α} {c c' : Char} {rest rest' : List Char} (hgood : ∀ a ∈ items, good a)
    (hgood' : ∀ a ∈ items', good a) (hc : c ≠ ',') (hc' : c' ≠ ',')
    (h : listed write items ++ c :: rest = listed write items' ++ c' :: rest') :
    items.map view = items'.map view ∧ c = c' ∧ rest = rest' := by
  induction items generalizing items' with
  | nil =>
    cases items' with
    | nil => exact ⟨rfl, List.cons.inj h⟩
    | cons a' items' => exact absurd (List.cons.inj h).1 hc
  | cons a items ih =>
    cases items' with
    | nil => exact absurd (List.cons.inj h).1.symm hc'
    | cons a' items' =>
      obtain ⟨ha, hitems⟩ := List.forall_mem_cons.1 hgood
      obtain ⟨ha', hitems'⟩ := List.forall_mem_cons.1 hgood'
      have hcut : write a ++ (listed write items ++ c :: rest) =
          write a' ++ (listed write items' ++ c' :: rest') := by
        simpa [listed] using h
      obtain ⟨hview, hlater⟩ := hwrite a a' _ _ ha ha' hcut
      obtain ⟨hviews, hend⟩ := ih hitems hitems' hlater
      exact ⟨congrArg₂ List.cons hview hviews, hend⟩

end Stencil
