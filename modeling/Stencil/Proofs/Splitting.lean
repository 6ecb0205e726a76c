import Stencil.Token.Split

/-! The tokens of a source are its only split. Two splits that agree up to a byte agree on the span
that starts there, and what the scanner returns is a split of the source from the place where its
pending text starts. -/

namespace Stencil

open Token (byteSize)

namespace TokenKind

theorem length_opener {kind : TokenKind} (h : kind ≠ .text) :
    (Source.bytes kind.opener).length = 2 := by
  cases kind with
  | text => exact absurd rfl h
  | expression => rfl
  | tag => rfl
  | comment => rfl

theorem opener_injective {kind kind' : TokenKind}
    (h : Source.bytes kind.opener = Source.bytes kind'.opener) :
    kind = kind' := by
  revert h
  cases kind <;> cases kind' <;> decide

theorem byteSize_opener {kind : TokenKind} (h : kind ≠ .text) : byteSize kind.opener = 2 :=
  (Source.length_bytes _).symm.trans (length_opener h)

theorem byteSize_closer {kind : TokenKind} (h : kind ≠ .text) : byteSize kind.closer = 2 := by
  cases kind with
  | text => exact absurd rfl h
  | expression => rfl
  | tag => rfl
  | comment => rfl

theorem ascii_opener (kind : TokenKind) : Source.Ascii kind.opener := by
  cases kind <;> simp [Source.Ascii, opener, mark?]

theorem ascii_closer (kind : TokenKind) : Source.Ascii kind.closer := by
  cases kind <;> simp [Source.Ascii, closer]

theorem occurs_opener_iff {kind : TokenKind} (h : kind ≠ .text) {cs : List Char} {p : Nat} :
    Source.Occurs kind.opener cs p ↔ ∃ before after, cs = before ++ (kind.opener ++ after) ∧
    byteSize before = p := by
  have hascii := ascii_opener kind
  cases kind with
  | text => exact absurd rfl h
  | expression => exact Source.occurs_iff hascii
  | tag => exact Source.occurs_iff hascii
  | comment => exact Source.occurs_iff hascii

theorem occurs_closer_iff {kind : TokenKind} (h : kind ≠ .text) {cs : List Char} {p : Nat} :
    Source.Occurs kind.closer cs p ↔ ∃ before after, cs = before ++ (kind.closer ++ after) ∧
    byteSize before = p := by
  have hascii := ascii_closer kind
  cases kind with
  | text => exact absurd rfl h
  | expression => exact Source.occurs_iff hascii
  | tag => exact Source.occurs_iff hascii
  | comment => exact Source.occurs_iff hascii

theorem opener_unique {kind kind' : TokenKind} (h : kind ≠ .text) (h' : kind' ≠ .text)
    {source : List Char} {p : Nat}
    (hopener : Source.Occurs kind.opener source p)
    (hopener' : Source.Occurs kind'.opener source p) : kind = kind' := by
  have hlength := (length_opener h).trans (length_opener h').symm
  exact opener_injective ((List.prefix_of_prefix_length_le hopener hopener' hlength.le).eq_of_length
    hlength)

theorem ofOpener_eq_some {a b : Char} {kind : TokenKind} (h : ofOpener a b = some kind) :
    kind ≠ .text ∧ kind.opener = [a, b] := by
  unfold ofOpener at h
  split at h <;> cases h <;> exact ⟨nofun, rfl⟩

end TokenKind

namespace Token

theorem lexeme_text (start : Nat) (inner : List Char) : lexeme ⟨.text, start, inner⟩ = inner :=
  List.append_nil inner

theorem stop_text (start : Nat) (inner : List Char) :
    stop ⟨.text, start, inner⟩ = start + byteSize inner := by
  rw [stop, lexeme_text]

theorem stop_delimited {t : Token} (h : t.kind ≠ .text) :
    t.stop = t.start + 2 + byteSize t.inner + 2 := by
  rw [stop, lexeme, Source.byteSize_append, Source.byteSize_append, TokenKind.byteSize_opener h,
    TokenKind.byteSize_closer h]
  omega

theorem cutAt_cons (first second c : Char) (cs : List Char) : cutAt first second (c :: cs) =
    if c = first ∧ cs.head? = some second then some ([], cs.tail)
    else (cutAt first second cs).map fun (inner, after) => (c :: inner, after) := by
  cases cs with
  | nil => simp [cutAt]
  | cons d rest => simp [cutAt]

theorem cutAt_append (first second : Char) (before after : List Char) : ∃ inner rest,
    cutAt first second (before ++ first :: second :: after) = some (inner, rest) ∧
      inner <+: before := by
  induction before with
  | nil => exact ⟨[], after, by rw [List.nil_append, cutAt_cons]; simp, List.nil_prefix⟩
  | cons c before ih =>
    obtain ⟨inner, rest, hcut, hinitial⟩ := ih
    rw [List.cons_append, cutAt_cons, hcut]
    split
    · exact ⟨[], _, rfl, List.nil_prefix⟩
    · exact ⟨c :: inner, rest, rfl, List.cons_prefix_cons.2 ⟨rfl, hinitial⟩⟩

theorem delimited?_opener {kind : TokenKind} (h : kind ≠ .text) :
    ∃ first, kind.closer = [first, '}'] ∧
      ∀ cs, delimited? (kind.opener ++ cs) = (cutAt first '}' cs).map fun (inner, after) =>
      (kind, inner, after) := by
  cases kind with
  | text => exact absurd rfl h
  | expression => exact ⟨'}', rfl, fun _ => rfl⟩
  | tag => exact ⟨'%', rfl, fun _ => rfl⟩
  | comment => exact ⟨'#', rfl, fun _ => rfl⟩

theorem opener_of_delimited? {cs inner after : List Char} {kind : TokenKind}
    (h : delimited? cs = some (kind, inner, after)) :
    kind ≠ .text ∧ ∃ rest, cs = kind.opener ++ rest := by
  unfold delimited? at h
  split at h
  next a b rest =>
    split at h
    next => cases h
    next found hfound =>
      obtain ⟨hkind, hopener⟩ := TokenKind.ofOpener_eq_some hfound
      split at h
      next =>
        obtain ⟨_, -, hmap⟩ := Option.map_eq_some_iff.1 h
        cases hmap
        exact ⟨hkind, rest, by rw [hopener]; rfl⟩
      next => cases h
  next => cases h

theorem delimited?_eq_some {cs inner after : List Char} {kind : TokenKind}
    (h : delimited? cs = some (kind, inner, after)) :
    kind ≠ .text ∧ cs = kind.opener ++ (inner ++ (kind.closer ++ after)) ∧
      ∀ before rest, inner ++ (kind.closer ++ after) = before ++ (kind.closer ++ rest) →
      inner <+: before := by
  obtain ⟨hkind, cs, rfl⟩ := opener_of_delimited? h
  obtain ⟨first, hcloser, hcut⟩ := delimited?_opener hkind
  rw [hcut] at h
  obtain ⟨⟨i, r⟩, hfound, hmap⟩ := Option.map_eq_some_iff.1 h
  simp only [Prod.mk.injEq, true_and] at hmap
  obtain ⟨rfl, rfl⟩ := hmap
  have hcs : cs = i ++ (kind.closer ++ r) := by
    rw [hcloser]
    exact cutAt_eq hfound
  refine ⟨hkind, by rw [hcs], fun before rest heq => ?_⟩
  rw [← hcs, hcloser] at heq
  obtain ⟨inner', rest', hcut', hinitial⟩ := cutAt_append first '}' before rest
  rw [heq] at hfound
  cases hcut'.symm.trans hfound
  exact hinitial

theorem delimited?_append {kind : TokenKind} (h : kind ≠ .text) (before after : List Char) :
    delimited? (kind.opener ++ (before ++ (kind.closer ++ after))) ≠ none := by
  obtain ⟨first, hcloser, hcut⟩ := delimited?_opener h
  obtain ⟨inner, rest, hfound, -⟩ := cutAt_append first '}' before after
  have happend : cutAt first '}' (before ++ (kind.closer ++ after)) = some (inner, rest) := by
    rwa [hcloser]
  rw [hcut, happend]
  exact nofun

end Token

namespace Span

variable {source : List Char} {start stop : Nat} {s t : Span} {spans rest : List Span}

theorem Tiles.le (h : Tiles start spans stop) : start ≤ stop := by
  induction h with
  | nil n => exact Nat.le_refl n
  | cons hnonempty _ ih => exact hnonempty.le.trans ih

theorem Tiles.of_nil (h : Tiles start [] stop) : start = stop := by
  cases h
  rfl

theorem Tiles.of_cons (h : Tiles start (s :: rest) stop) :
    s.start = start ∧ s.start < s.stop ∧ Tiles s.stop rest stop := by
  cases h with
  | cons hnonempty hrest => exact ⟨rfl, hnonempty, hrest⟩

theorem Tiles.lt_of_mem (h : Tiles start spans stop) (hmem : s ∈ spans) : s.start < s.stop := by
  induction h with
  | nil => cases hmem
  | cons hnonempty _ ih =>
    rcases List.mem_cons.1 hmem with rfl | hmem
    · exact hnonempty
    · exact ih hmem

theorem Split.start_eq (h : Split source start (s :: rest)) : s.start = start := h.tiles.of_cons.1

theorem Split.nonempty (h : Split source start (s :: rest)) : s.start < s.stop :=
  h.tiles.of_cons.2.1

theorem Split.tail (h : Split source start (s :: rest)) : Split source s.stop rest where
  tiles := h.tiles.of_cons.2.2
  apart := h.apart.tail
  delimited t ht := h.delimited t (List.mem_cons_of_mem _ ht)
  plain t ht := h.plain t (List.mem_cons_of_mem _ ht)

theorem Delimited.live (h : Delimited source s) (hkind : s.kind ≠ .text) :
    Live source s.kind s.start := by
  obtain ⟨close, hle, -, hcloser, -⟩ := h.closer
  exact ⟨hkind, h.opener, close, hle, hcloser⟩

theorem Delimited.stop_eq (hs : Delimited source s) (ht : Delimited source t)
    (hkind : s.kind = t.kind) (hstart : s.start = t.start) : s.stop = t.stop := by
  obtain ⟨close, hle, hstop, hcloser, hfirst⟩ := hs.closer
  obtain ⟨close', hle', hstop', hcloser', hfirst'⟩ := ht.closer
  rw [← hstart] at hle' hfirst'
  rw [← hkind] at hcloser' hfirst'
  rw [hstop, hstop']
  rcases Nat.lt_trichotomy close close' with hlt | rfl | hgt
  · exact absurd hcloser (hfirst' close hle hlt)
  · rfl
  · exact absurd hcloser' (hfirst close' hle' hgt)

/-- Of two texts that start at one place neither stops first: a token would start within the
other. -/
theorem Split.text_stop_le (h : Split source start (s :: spans))
    (h' : Split source start (t :: rest))
    (hs : s.kind = .text) (ht : t.kind = .text) : t.stop ≤ s.stop := by
  by_contra hlt
  cases spans with
  | nil =>
    refine hlt ?_
    rw [h.tail.tiles.of_nil]
    exact h'.tail.tiles.le
  | cons next after =>
    have hnext : next.kind ≠ .text := (List.isChain_cons_cons.1 h.apart).1 hs
    have hlive := (h.delimited next (by simp) hnext).live hnext
    rw [h.tail.start_eq] at hlive
    refine h'.plain t List.mem_cons_self ht s.stop ?_ (Nat.lt_of_not_le hlt) _ hlive
    rw [h'.start_eq, ← h.start_eq]
    exact h.nonempty.le

theorem Split.head_eq (h : Split source start (s :: spans)) (h' : Split source start (t :: rest)) :
    s = t := by
  have hstart : s.start = t.start := h.start_eq.trans h'.start_eq.symm
  have hkind : s.kind = t.kind ∧ s.stop = t.stop := by
    by_cases hs : s.kind = .text <;> by_cases ht : t.kind = .text
    · exact ⟨hs.trans ht.symm, (h'.text_stop_le h ht hs).antisymm (h.text_stop_le h' hs ht)⟩
    · have hlive := (h'.delimited t List.mem_cons_self ht).live ht
      rw [← hstart] at hlive
      exact absurd hlive (h.plain s List.mem_cons_self hs s.start le_rfl h.nonempty _)
    · have hlive := (h.delimited s List.mem_cons_self hs).live hs
      rw [hstart] at hlive
      exact absurd hlive (h'.plain t List.mem_cons_self ht t.start le_rfl h'.nonempty _)
    · have hsplit := h.delimited s List.mem_cons_self hs
      have hsplit' := h'.delimited t List.mem_cons_self ht
      have hkind :=
        TokenKind.opener_unique hs ht hsplit.opener (by rw [hstart]; exact hsplit'.opener)
      exact ⟨hkind, hsplit.stop_eq hsplit' hkind hstart⟩
  cases s
  cases t
  simp_all

theorem Split.unique (h : Split source start spans) (h' : Split source start rest) :
    spans = rest := by
  induction spans generalizing start rest with
  | nil =>
    cases rest with
    | nil => rfl
    | cons t rest =>
      have hlt := h'.nonempty.trans_le h'.tail.tiles.le
      rw [h'.start_eq, h.tiles.of_nil] at hlt
      exact absurd hlt (lt_irrefl _)
  | cons s spans ih =>
    cases rest with
    | nil =>
      have hlt := h.nonempty.trans_le h.tail.tiles.le
      rw [h.start_eq, h'.tiles.of_nil] at hlt
      exact absurd hlt (lt_irrefl _)
    | cons t rest =>
      obtain rfl := h.head_eq h'
      rw [ih h.tail h'.tail]

theorem live_append (before cs : List Char) (kind : TokenKind) (n : Nat) :
    Live (before ++ cs) kind (byteSize before + n) ↔ Live cs kind n := by
  have hcloser : (∃ q, byteSize before + n + 2 ≤ q ∧ Source.Occurs kind.closer (before ++ cs) q) ↔
      ∃ q, n + 2 ≤ q ∧ Source.Occurs kind.closer cs q := by
    constructor
    · rintro ⟨q, hq, hoccurs⟩
      obtain ⟨k, rfl⟩ := Nat.exists_eq_add_of_le (show byteSize before ≤ q by omega)
      exact ⟨k, by omega, (Source.occurs_append _ _ _ k).1 hoccurs⟩
    · rintro ⟨q, hq, hoccurs⟩
      exact ⟨byteSize before + q, by omega, (Source.occurs_append _ _ _ q).2 hoccurs⟩
  rw [Live, Live, Source.occurs_append, hcloser]

theorem Live.delimited {c : Char} {cs : List Char} {kind : TokenKind} {n : Nat}
    (h : Live (c :: cs) kind n) (hn : n < c.utf8Size) : Token.delimited? (c :: cs) ≠ none := by
  obtain ⟨hkind, hopener, q, hq, hcloser⟩ := h
  obtain ⟨before, inside, hcs, hbefore⟩ := (TokenKind.occurs_opener_iff hkind).1 hopener
  have hnil : before = [] := by
    cases before with
    | nil => rfl
    | cons d before =>
      cases hcs
      rw [Source.byteSize_cons] at hbefore
      omega
  rw [hnil, List.nil_append] at hcs
  have hsize := TokenKind.byteSize_opener hkind
  obtain ⟨k, rfl⟩ := Nat.exists_eq_add_of_le (show byteSize kind.opener ≤ q by omega)
  rw [hcs] at hcloser ⊢
  obtain ⟨before', after, rfl, -⟩ :=
    (TokenKind.occurs_closer_iff hkind).1 ((Source.occurs_append _ _ _ k).1 hcloser)
  exact Token.delimited?_append hkind before' after

theorem delimited_of_delimited? (before : List Char) {cs inner after : List Char} {kind : TokenKind}
    (h : Token.delimited? cs = some (kind, inner, after)) :
    Delimited (before ++ cs) (Token.span ⟨kind, byteSize before, inner⟩) := by
  obtain ⟨hkind, rfl, hfirst⟩ := Token.delimited?_eq_some h
  have hstop : Token.stop ⟨kind, byteSize before, inner⟩ =
      byteSize before + 2 + byteSize inner + 2 :=
    Token.stop_delimited hkind
  have hinside : ∀ k, Source.Occurs kind.closer
      (before ++ (kind.opener ++ (inner ++ (kind.closer ++ after)))) (byteSize before + 2 + k) ↔
        ∃ x y, inner ++ (kind.closer ++ after) = x ++ (kind.closer ++ y) ∧ byteSize x = k := by
    intro k
    rw [← TokenKind.occurs_closer_iff hkind, Nat.add_assoc, Source.occurs_append,
      ← TokenKind.byteSize_opener hkind, Source.occurs_append]
  refine ⟨(TokenKind.occurs_opener_iff hkind).2 ⟨before, _, rfl, rfl⟩,
    byteSize before + 2 + byteSize inner, Nat.le_add_right _ _, hstop, ?_, ?_⟩
  · exact (hinside _).2 ⟨inner, after, rfl, rfl⟩
  · intro q (hq : byteSize before + 2 ≤ q) hlt hoccurs
    obtain ⟨k, rfl⟩ := Nat.exists_eq_add_of_le hq
    obtain ⟨x, y, heq, rfl⟩ := (hinside k).1 hoccurs
    obtain ⟨rest, rfl⟩ := hfirst x y heq
    rw [Source.byteSize_append] at hlt
    omega

theorem Split.cons_delimited (h : Split source s.stop rest) (hkind : s.kind ≠ .text)
    (hs : Delimited source s) :
    Split source s.start (s :: rest) where
  tiles := by
    obtain ⟨close, hle, hstop, -⟩ := hs.closer
    exact .cons (by omega) h.tiles
  apart := h.apart.cons fun _ _ htext => absurd htext hkind
  delimited := List.forall_mem_cons.2 ⟨fun _ => hs, h.delimited⟩
  plain := List.forall_mem_cons.2 ⟨fun htext => absurd htext hkind, h.plain⟩

theorem Split.cons_text (h : Split source s.stop rest) (hkind : s.kind = .text)
    (hnonempty : s.start < s.stop) (hhead : ∀ t ∈ rest.head?, t.kind ≠ .text)
    (hplain : ∀ p, s.start ≤ p → p < s.stop → ∀ kind, ¬Live source kind p) :
    Split source s.start (s :: rest) where
  tiles := .cons hnonempty h.tiles
  apart := h.apart.cons fun t ht _ => hhead t ht
  delimited := List.forall_mem_cons.2 ⟨fun hne => absurd hkind hne, h.delimited⟩
  plain := List.forall_mem_cons.2 ⟨fun _ => hplain, h.plain⟩

theorem Split.pending {pending : List Char} (h : Split source (start + byteSize pending) spans)
    (hhead : ∀ t ∈ spans.head?, t.kind ≠ .text)
    (hplain : ∀ p, start ≤ p → p < start + byteSize pending → ∀ kind, ¬Live source kind p) :
    Split source start ((Token.ofPending start pending).map Token.span ++ spans) := by
  unfold Token.ofPending
  split
  next hnil =>
    rw [List.isEmpty_iff.1 hnil] at h
    exact h
  next hne =>
    have hstop : Token.stop ⟨.text, start, pending.reverse⟩ = start + byteSize pending := by
      rw [Token.stop_text, Source.byteSize_reverse]
    have hpos : start < start + byteSize pending :=
      Nat.lt_add_of_pos_right (Source.byteSize_pos fun hnil => hne (List.isEmpty_iff.2 hnil))
    rw [List.map_singleton, List.singleton_append]
    rw [← hstop] at h hplain hpos
    exact Split.cons_text (s := Token.span ⟨.text, start, pending.reverse⟩) h rfl hpos hhead hplain

end Span

namespace Token

theorem scan_split {source before pending cs : List Char} {start : Nat}
    (hstart : byteSize before = start) (hsource : source = before ++ (pending.reverse ++ cs))
    (hplain : ∀ p, start ≤ p → p < start + byteSize pending → ∀ kind, ¬Span.Live source kind p) :
    Span.Split source start ((scan start pending cs).map span) := by
  fun_induction scan start pending cs generalizing before with
  | case1 start pending =>
    have hend : start + byteSize pending = byteSize source := by
      rw [hsource, List.append_nil, Source.byteSize_append, Source.byteSize_reverse, hstart]
    have hlast : Span.Split source (start + byteSize pending) [] :=
      ⟨by rw [hend]; exact .nil _, .nil, nofun, nofun⟩
    have hsplit := hlast.pending nofun hplain
    rwa [List.append_nil] at hsplit
  | case2 start pending c rest hnone ih =>
    refine ih hstart (by rw [hsource, List.reverse_cons, List.append_assoc]; rfl) fun p hp hlt kind
      hlive => ?_
    -- The new character adds its bytes to the pending text, and no token starts at any of them.
    rcases Nat.lt_or_ge p (start + byteSize pending) with hold | hnew
    · exact hplain p hp hold kind hlive
    · obtain ⟨n, rfl⟩ := Nat.exists_eq_add_of_le hnew
      rw [Source.byteSize_cons] at hlt
      have hplace : start + byteSize pending = byteSize (before ++ pending.reverse) := by
        rw [Source.byteSize_append, Source.byteSize_reverse, hstart]
      rw [hsource, hplace, ← List.append_assoc] at hlive
      exact ((Span.live_append _ _ kind n).1 hlive).delimited (by omega) hnone
  | case3 start pending c rest kind inner after hsome hlt token =>
    rename_i ih
    obtain ⟨hkind, hcs, -⟩ := delimited?_eq_some hsome
    have hlexeme : token.lexeme = kind.opener ++ (inner ++ kind.closer) := List.append_assoc _ _ _
    have hplace : byteSize (before ++ pending.reverse) = token.start := by
      rw [Source.byteSize_append, Source.byteSize_reverse, hstart]
    have hafter : source = before ++ pending.reverse ++ token.lexeme ++ ([].reverse ++ after) := by
      rw [hsource, hcs, hlexeme]
      simp only [List.append_assoc, List.reverse_nil, List.nil_append]
    have hrest : Span.Split source token.stop ((scan token.stop [] after).map span) := by
      refine ih ?_ hafter fun p hp hlt => absurd hlt (Nat.not_lt.2 hp)
      rw [Source.byteSize_append, hplace, stop]
    have hdelimited := Span.delimited_of_delimited? (before ++ pending.reverse) hsome
    rw [List.append_assoc, ← hsource, hplace] at hdelimited
    rw [List.map_append, List.map_cons]
    exact Span.Split.pending (hrest.cons_delimited hkind hdelimited)
      (fun _ ht => by cases ht; exact hkind) hplain

theorem scan_lexemes (start : Nat) (pending cs : List Char) :
    (scan start pending cs).flatMap lexeme = pending.reverse ++ cs := by
  have hpending : ∀ (start : Nat) (pending : List Char),
      (ofPending start pending).flatMap lexeme = pending.reverse := by
    intro start pending
    unfold ofPending
    split
    next hnil => rw [List.isEmpty_iff.1 hnil]; rfl
    next => rw [List.flatMap_singleton, lexeme_text]
  fun_induction scan start pending cs with
  | case1 start pending => rw [hpending, List.append_nil]
  | case2 start pending c rest hnone ih =>
    rw [ih, List.reverse_cons, List.append_assoc, List.singleton_append]
  | case3 start pending c rest kind inner after hsome hlt token =>
    rename_i ih
    obtain ⟨-, hcs, -⟩ := delimited?_eq_some hsome
    have hlexeme : token.lexeme = kind.opener ++ (inner ++ kind.closer) := List.append_assoc _ _ _
    rw [List.flatMap_append, hpending, List.flatMap_cons, ih, List.reverse_nil, List.nil_append,
      hcs, hlexeme]
    simp only [List.append_assoc]

theorem slices_of_tiles {tokens : List Token} (before : List Char) {stop : Nat}
    (h : Span.Tiles (byteSize before) (tokens.map span) stop) :
    tokens.map (fun t => Source.slice? (before ++ tokens.flatMap lexeme) t.start t.stop) =
      tokens.map fun t => some t.lexeme := by
  induction tokens generalizing before with
  | nil => rfl
  | cons t rest ih =>
    obtain ⟨hstart, -, hrest⟩ := h.of_cons
    have hsize : byteSize (before ++ t.lexeme) = t.stop := by
      rw [Source.byteSize_append, ← hstart]
      rfl
    have hslice : Source.slice? (before ++ (t.lexeme ++ rest.flatMap lexeme)) t.start t.stop =
        some t.lexeme :=
      Source.slice?_eq_some_iff.2 ⟨before, _, rfl, hstart.symm, rfl⟩
    have hlater := ih (before ++ t.lexeme) (by rw [hsize]; exact hrest)
    rw [List.append_assoc] at hlater
    rw [List.flatMap_cons, List.map_cons, List.map_cons, hslice, hlater]

end Token

theorem tokenize_split (source : String) :
    Span.Split source.toList 0 ((tokenize source).map Token.span) :=
  Token.scan_split (rfl : Token.byteSize [] = 0) rfl fun _ hp hlt => absurd hlt (Nat.not_lt.2 hp)

theorem tokenize_lexemes (source : String) :
    (tokenize source).flatMap Token.lexeme = source.toList :=
  Token.scan_lexemes 0 [] source.toList

theorem tokenize_slices (source : String) :
    (tokenize source).map (fun t => Source.slice? source.toList t.start t.stop) =
      (tokenize source).map fun t => some t.lexeme := by
  have h := Token.slices_of_tiles [] (tokenize_split source).tiles
  rwa [tokenize_lexemes] at h

theorem Token.slice_of_mem {source : String} {t : Token} (h : t ∈ tokenize source) :
    Source.slice? source.toList t.start t.stop = some t.lexeme :=
  List.map_inj_left.1 (tokenize_slices source) t h

/-- The tokens are the one split of the source at the leftmost openers that are closed, each up to
its first closer. Each token's text is the slice of its span, and the texts in order are the
source. -/
theorem split_iff_tokenize (source : String) :
    (∀ spans, Span.Split source.toList 0 spans ↔ spans = (tokenize source).map Token.span) ∧
    (tokenize source).map (fun t => Source.slice? source.toList t.start t.stop) =
      ((tokenize source).map fun t => some t.lexeme) ∧
    (tokenize source).flatMap Token.lexeme = source.toList := by
  refine ⟨fun spans => ⟨fun h => h.unique (tokenize_split source), ?_⟩, tokenize_slices source,
    tokenize_lexemes source⟩
  rintro rfl
  exact tokenize_split source

example : tokenize "{#}" = [⟨.text, 0, "{#}".toList⟩] := by decide +kernel

end Stencil
