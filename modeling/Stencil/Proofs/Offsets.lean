import Stencil.Guarded
import Stencil.Proofs.Grammar
import Stencil.Proofs.Splitting

/-! Reading by byte offsets. The guarded scan stands at the byte where the scanner stands, so it
finds the same tokens; each cut that it and the reader make is in range, and the guarded compiler
does what the compiler does. -/

namespace Stencil

open Token (byteSize)

namespace Source

theorem find?_pair (first second : Char) (cs : List Char) : find? [first, second] cs =
    (Token.cutAt first second cs).map fun (inner, _) => byteSize inner := by
  induction cs with
  | nil => rfl
  | cons c cs ih =>
    have hhead : [second] <+: cs ↔ cs.head? = some second := by
      cases cs with
      | nil => simp
      | cons d cs =>
        rw [List.cons_prefix_cons, List.head?_cons, Option.some_inj]
        exact ⟨fun h => h.1.symm, fun h => ⟨h.symm, List.nil_prefix⟩⟩
    have hinitial : ([first, second] : List Char).isPrefixOf (c :: cs) = true ↔ c = first ∧
        cs.head? = some second := by
      rw [List.isPrefixOf_iff_prefix, List.cons_prefix_cons, hhead, eq_comm]
    rw [find?, Token.cutAt_cons, ih]
    simp only [hinitial]
    split
    · rfl
    · rw [Option.map_map, Option.map_map]
      rfl

theorem find?_char_none {c : Char} {cs : List Char} (h : find? [c] cs = none) : c ∉ cs := by
  induction cs with
  | nil => exact List.not_mem_nil
  | cons d cs ih =>
    rw [find?] at h
    split at h
    next => cases h
    next hne =>
      have hd : c ≠ d := by simpa using hne
      exact List.not_mem_cons_of_ne_of_not_mem hd (ih (Option.map_eq_none_iff.1 h))

theorem find?_char_some {c : Char} {cs : List Char} {n : Nat} (h : find? [c] cs = some n) :
    ∃ plain rest, cs = plain ++ c :: rest ∧ c ∉ plain ∧ byteSize plain = n := by
  induction cs generalizing n with
  | nil => cases h
  | cons d cs ih =>
    rw [find?] at h
    split at h
    next heq =>
      cases h
      have hd : c = d := by simpa using heq
      exact ⟨[], cs, by rw [hd]; rfl, List.not_mem_nil, rfl⟩
    next hne =>
      have hd : c ≠ d := by simpa using hne
      obtain ⟨k, hk, rfl⟩ := Option.map_eq_some_iff.1 h
      obtain ⟨plain, rest, rfl, hplain, rfl⟩ := ih hk
      exact ⟨d :: plain, rest, rfl, List.not_mem_cons_of_ne_of_not_mem hd hplain, rfl⟩

end Source

namespace Token

theorem delimited?_plain {c : Char} (h : c ≠ '{') (cs : List Char) :
    delimited? (c :: cs) = none := by
  cases hsome : delimited? (c :: cs) with
  | none => rfl
  | some found =>
    obtain ⟨kind, inner, after⟩ := found
    obtain ⟨hkind, rest, hcs⟩ := opener_of_delimited? hsome
    cases kind with
    | text => exact absurd rfl hkind
    | expression => exact absurd (List.cons_eq_cons.1 hcs).1 h
    | tag => exact absurd (List.cons_eq_cons.1 hcs).1 h
    | comment => exact absurd (List.cons_eq_cons.1 hcs).1 h

theorem scan_cons_none {start : Nat} {pending rest : List Char} {c : Char}
    (h : delimited? (c :: rest) = none) :
    scan start pending (c :: rest) = scan start (c :: pending) rest := by
  rw [scan]
  split
  next => rfl
  next hsome => cases h.symm.trans hsome

theorem scan_cons_some {start : Nat} {pending rest inner after : List Char} {c : Char}
    {kind : TokenKind} (h : delimited? (c :: rest) = some (kind, inner, after)) :
    scan start pending (c :: rest) = ofPending start pending ++
      ⟨kind, start + byteSize pending, inner⟩ :: scan (stop ⟨kind, start + byteSize pending, inner⟩)
        [] after := by
  rw [scan]
  split
  next hnone => cases h.symm.trans hnone
  next hsome =>
    cases h.symm.trans hsome
    rfl

theorem scan_plain {plain : List Char} (h : '{' ∉ plain) (start : Nat) (pending cs : List Char) :
    scan start pending (plain ++ cs) = scan start (plain.reverse ++ pending) cs := by
  induction plain generalizing pending with
  | nil => rfl
  | cons c plain ih =>
    obtain ⟨hc, hplain⟩ := not_or.1 (mt List.mem_cons.2 h)
    rw [List.cons_append, scan_cons_none (delimited?_plain (Ne.symm hc) _), ih hplain,
      List.reverse_cons, List.append_assoc]
    rfl

end Token

namespace Guarded

theorem kindOf_cons (b : UInt8) (bs : List UInt8) : kindOf (123 :: b :: bs) =
    if b = 123 then some .expression else if b = 37 then some .tag else if b = 35 then some .comment
        else none := by
  unfold kindOf
  split <;> simp_all

theorem ofOpener_brace (mark : Char) : TokenKind.ofOpener '{' mark =
    if mark = '{' then some .expression else if mark = '%' then some .tag
      else if mark = '#' then some .comment
    else none := by
  unfold TokenKind.ofOpener
  split <;> simp_all

theorem kindOf_bytes (mark : Char) (inside : List Char) :
    kindOf (Source.bytes ('{' :: mark :: inside)) = TokenKind.ofOpener '{' mark := by
  have hbytes : Source.bytes ('{' :: mark :: inside) =
      123 :: (String.utf8EncodeChar mark ++ Source.bytes inside) := rfl
  rw [hbytes, ofOpener_brace]
  by_cases hmark : mark.val.toNat ≤ 127
  · have hbyte : ∀ c : Char, c.val.toNat ≤ 127 →
        (UInt8.ofNat mark.val.toNat = UInt8.ofNat c.val.toNat ↔ mark = c) :=
      fun _ => Source.ofNat_ascii_inj hmark
    have hbrace : UInt8.ofNat mark.val.toNat = 123 ↔ mark = '{' := hbyte '{' (by decide)
    have hpercent : UInt8.ofNat mark.val.toNat = 37 ↔ mark = '%' := hbyte '%' (by decide)
    have hhash : UInt8.ofNat mark.val.toNat = 35 ↔ mark = '#' := hbyte '#' (by decide)
    rw [Source.bytes_ascii hmark, List.singleton_append, kindOf_cons]
    simp only [hbrace, hpercent, hhash]
  · obtain ⟨b, more, hmore⟩ : ∃ b more, String.utf8EncodeChar mark = b :: more :=
      List.exists_cons_of_length_pos (by rw [String.length_utf8EncodeChar]; exact mark.utf8Size_pos)
    have hb : 128 ≤ b.toNat := Source.bytes_wide hmark b (by rw [hmore]; exact List.mem_cons_self)
    have hne : ∀ {n : UInt8}, n.toNat ≤ 127 → b ≠ n := by
      rintro n hn rfl
      omega
    have hwide : ∀ {c : Char}, c.val.toNat ≤ 127 → mark ≠ c := by
      rintro c hc rfl
      exact hmark hc
    rw [hmore, List.cons_append, kindOf_cons, if_neg (hne (by decide)), if_neg (hne (by decide)),
      if_neg (hne (by decide)), if_neg (hwide (by decide)), if_neg (hwide (by decide)),
      if_neg (hwide (by decide))]

theorem delimited?_of_kindOf_none {rest : List Char}
    (h : kindOf (Source.bytes ('{' :: rest)) = none) :
    Token.delimited? ('{' :: rest) = none := by
  cases rest with
  | nil => rfl
  | cons mark inside =>
    rw [kindOf_bytes] at h
    rw [Token.delimited?, h]

theorem opener_of_kindOf {rest : List Char} {kind : TokenKind}
    (h : kindOf (Source.bytes ('{' :: rest)) = some kind) :
    kind ≠ .text ∧ ∃ inside, '{' :: rest = kind.opener ++ inside := by
  cases rest with
  | nil => cases h
  | cons mark inside =>
    rw [kindOf_bytes] at h
    obtain ⟨hkind, hopener⟩ := TokenKind.ofOpener_eq_some h
    exact ⟨hkind, inside, by rw [hopener]; rfl⟩

theorem delimited?_of_find?_none {kind : TokenKind} (h : kind ≠ .text) {inside : List Char}
    (hfind : Source.find? kind.closer inside = none) :
    Token.delimited? (kind.opener ++ inside) = none := by
  obtain ⟨first, hcloser, hcut⟩ := Token.delimited?_opener h
  rw [hcloser, Source.find?_pair, Option.map_eq_none_iff] at hfind
  rw [hcut, hfind]
  rfl

theorem delimited?_of_find? {kind : TokenKind} (h : kind ≠ .text) {inside : List Char} {close : Nat}
    (hfind : Source.find? kind.closer inside = some close) : ∃ inner after,
      Token.delimited? (kind.opener ++ inside) = some (kind, inner, after) ∧
        byteSize inner = close := by
  obtain ⟨first, hcloser, hcut⟩ := Token.delimited?_opener h
  rw [hcloser, Source.find?_pair] at hfind
  obtain ⟨⟨inner, after⟩, hfound, hsize⟩ := Option.map_eq_some_iff.1 hfind
  exact ⟨inner, after, by rw [hcut, hfound]; rfl, hsize⟩

/-- The characters `cs` are still to be read; those that are pending start at byte `textStart` and
end at byte `pos`. -/
def Stands (source pending cs : List Char) (textStart pos : Nat) : Prop :=
  ∃ before, source = before ++ (pending.reverse ++ cs) ∧ byteSize before = textStart ∧
    textStart + byteSize pending = pos

namespace Stands

variable {source pending cs : List Char} {textStart pos : Nat}

theorem place (h : Stands source pending cs textStart pos) :
    textStart + byteSize pending = pos := by
  obtain ⟨-, -, -, hpos⟩ := h
  exact hpos

theorem suffix (h : Stands source pending cs textStart pos) :
    Source.suffix? source pos = some cs := by
  obtain ⟨before, rfl, rfl, rfl⟩ := h
  refine Source.suffix?_eq_some_iff.2 ⟨before ++ pending.reverse, (List.append_assoc _ _ _).symm,
    ?_⟩
  rw [Source.byteSize_append, Source.byteSize_reverse]

theorem bytes (h : Stands source pending cs textStart pos) :
    bytesFrom? source pos = some (Source.bytes cs) := by
  obtain ⟨before, rfl, rfl⟩ := Source.suffix?_eq_some_iff.1 h.suffix
  have hle : byteSize before ≤ (Source.bytes (before ++ cs)).length := by
    rw [Source.length_bytes, Source.byteSize_append]
    exact Nat.le_add_right _ _
  rw [bytesFrom?, if_pos hle, Source.bytes_append, ← Source.length_bytes, List.drop_left]

theorem size (h : Stands source pending cs textStart pos) :
    byteSize source = pos + byteSize cs := by
  obtain ⟨before, rfl, rfl, rfl⟩ := h
  simp only [Source.byteSize_append, Source.byteSize_reverse, Nat.add_assoc]

theorem read (plain : List Char) (h : Stands source pending (plain ++ cs) textStart pos) :
    Stands source (plain.reverse ++ pending) cs textStart (pos + byteSize plain) := by
  obtain ⟨before, rfl, rfl, rfl⟩ := h
  refine ⟨before, ?_, rfl, ?_⟩
  · simp only [List.reverse_append, List.reverse_reverse, List.append_assoc]
  · simp only [Source.byteSize_append, Source.byteSize_reverse]
    omega

theorem token (lexeme : List Char) (h : Stands source pending (lexeme ++ cs) textStart pos) :
    Stands source [] cs (pos + byteSize lexeme) (pos + byteSize lexeme) := by
  obtain ⟨before, hbefore, hsize⟩ := Source.suffix?_eq_some_iff.1 h.suffix
  refine ⟨before ++ lexeme, ?_, ?_, rfl⟩
  · rw [hbefore, List.reverse_nil, List.nil_append, List.append_assoc]
  · rw [Source.byteSize_append, hsize]

theorem delimited {kind : TokenKind} {inner after : List Char}
    (h : Stands source pending cs textStart pos)
    (hsome : Token.delimited? cs = some (kind, inner, after)) :
    Stands source [] after (Token.stop ⟨kind, pos, inner⟩) (Token.stop ⟨kind, pos, inner⟩) := by
  obtain ⟨-, rfl, -⟩ := Token.delimited?_eq_some hsome
  have hlexeme : kind.opener ++ (inner ++ (kind.closer ++ after)) =
      Token.lexeme ⟨kind, pos, inner⟩ ++ after := by
    simp only [Token.lexeme, List.append_assoc]
  rw [hlexeme] at h
  exact h.token _

end Stands

theorem span_ofPending (start : Nat) (pending : List Char) :
    (Token.ofPending start pending).map Token.span = textSpan start (start + byteSize pending) := by
  unfold Token.ofPending textSpan
  split
  next hnil =>
    rw [List.isEmpty_iff.1 hnil]
    exact (if_neg (Nat.lt_irrefl _)).symm
  next hne =>
    have hpos := Source.byteSize_pos fun hnil => hne (List.isEmpty_iff.2 hnil)
    rw [if_pos (Nat.lt_add_of_pos_right hpos), List.map_singleton, Token.span, Token.stop_text,
      Source.byteSize_reverse]

theorem scan_of_no_brace {source cs : List Char} {pos : Nat}
    (hrest : Source.suffix? source pos = some cs)
    (hfind : Source.find? ['{'] cs = none) (textStart : Nat) :
    scan source textStart pos = some (textSpan textStart (byteSize source)) := by
  rw [scan]
  split
  next hnone => cases hnone.symm.trans hrest
  next hsome =>
    cases hsome.symm.trans hrest
    split
    next => rfl
    next hoffset => cases hoffset.symm.trans hfind

theorem scan_of_brace {source cs : List Char} {pos offset : Nat}
    (hrest : Source.suffix? source pos = some cs)
    (hfind : Source.find? ['{'] cs = some offset) (textStart : Nat) :
    scan source textStart pos = (bytesFrom? source (pos + offset)).bind fun bs =>
      match kindOf bs with
      | none => scan source textStart (pos + offset + 1)
      | some kind =>
        (Source.suffix? source (pos + offset + 2)).bind fun inside =>
          match Source.find? kind.closer inside with
          | none => scan source textStart (pos + offset + 1)
          | some close =>
            (scan source (pos + offset + 2 + close + 2) (pos + offset + 2 + close + 2)).map
              fun spans =>
              textSpan textStart (pos + offset) ++
                ⟨kind, pos + offset, pos + offset + 2 + close + 2⟩ :: spans := by
  rw [scan]
  split
  next hnone => cases hnone.symm.trans hrest
  next hsome =>
    cases hsome.symm.trans hrest
    split
    next hnone => cases hnone.symm.trans hfind
    next hoffset =>
      cases hoffset.symm.trans hfind
      rfl

theorem scan_brace {source pending plain rest : List Char} {textStart pos : Nat}
    (h : Stands source pending (plain ++ '{' :: rest) textStart pos)
    (hfind : Source.find? ['{'] (plain ++ '{' :: rest) = some (byteSize plain)) :
    scan source textStart pos = match Token.delimited? ('{' :: rest) with
      | none => scan source textStart (pos + byteSize plain + 1)
      | some (kind, inner, _) =>
        let t : Token := ⟨kind, pos + byteSize plain, inner⟩
        (scan source t.stop t.stop).map fun spans => textSpan textStart t.start ++ t.span ::
          spans := by
  have hbrace := h.read plain
  rw [scan_of_brace h.suffix hfind, hbrace.bytes, Option.bind_some]
  cases hkind : kindOf (Source.bytes ('{' :: rest)) with
  | none => rw [delimited?_of_kindOf_none hkind]
  | some kind =>
    obtain ⟨hne, inside, hinside⟩ := opener_of_kindOf hkind
    rw [hinside] at hbrace ⊢
    have hinner := (hbrace.token kind.opener).suffix
    rw [TokenKind.byteSize_opener hne] at hinner
    simp only [hinner, Option.bind_some]
    cases hclose : Source.find? kind.closer inside with
    | none => rw [delimited?_of_find?_none hne hclose]
    | some close =>
      obtain ⟨inner, after, hsome, rfl⟩ := delimited?_of_find? hne hclose
      rw [hsome]
      simp only [Token.span, Token.stop_delimited (t := ⟨kind, pos + byteSize plain, inner⟩) hne]

theorem scan_eq {source pending cs : List Char} {textStart pos : Nat}
    (h : Stands source pending cs textStart pos) :
    scan source textStart pos = some ((Token.scan textStart pending cs).map Token.span) := by
  -- Both go on behind the next brace, or behind the token that starts there.
  induction hn : cs.length using Nat.strong_induction_on generalizing pending cs textStart pos with
  | _ n ih =>
    cases hfind : Source.find? ['{'] cs with
    | none =>
      have hplain := Token.scan_plain (Source.find?_char_none hfind) textStart pending []
      rw [List.append_nil] at hplain
      have hsize : byteSize source = textStart + byteSize (cs.reverse ++ pending) := by
        rw [h.size, ← h.place, Source.byteSize_append, Source.byteSize_reverse]
        omega
      rw [scan_of_no_brace h.suffix hfind, hplain, Token.scan, span_ofPending, hsize]
    | some offset =>
      obtain ⟨plain, rest, rfl, hplain, rfl⟩ := Source.find?_char_some hfind
      have hbrace : Stands source (plain.reverse ++ pending) ('{' :: rest) textStart
          (pos + byteSize plain) :=
        h.read plain
      have hlength : rest.length < n := by
        rw [← hn, List.length_append, List.length_cons]
        omega
      rw [scan_brace h hfind, Token.scan_plain hplain]
      cases hdelimited : Token.delimited? ('{' :: rest) with
      | none =>
        rw [Token.scan_cons_none hdelimited]
        exact ih _ hlength (hbrace.read ['{']) rfl
      | some found =>
        obtain ⟨kind, inner, after⟩ := found
        have hlater : after.length < n := (Token.delimited?_length hdelimited).trans_le hlength
        rw [Token.scan_cons_some hdelimited, hbrace.place, List.map_append, List.map_cons,
          span_ofPending, hbrace.place]
        simp only [ih _ hlater (hbrace.delimited hdelimited) rfl, Option.map_some]

theorem scan_tokenize (source : String) :
    scan source.toList 0 0 = some ((tokenize source).map Token.span) :=
  scan_eq ⟨[], rfl, rfl, rfl⟩

def Sliced (source : List Char) (t : Token) : Prop :=
  Source.slice? source t.start t.stop = some t.lexeme

theorem sliced_tokenize (source : String) : ∀ t ∈ tokenize source, Sliced source.toList t :=
  fun _ => Token.slice_of_mem

theorem token_of_text {source : List Char} {s : Span} (h : s.kind = .text) :
    token source s = (Source.slice? source s.start s.stop).map fun inner =>
      ⟨s.kind, s.start, inner⟩ := by
  unfold token
  simp only [h]

theorem token_of_delimited {source : List Char} {s : Span} (h : s.kind ≠ .text)
    (hstop : 2 ≤ s.stop) :
    token source s =
      (Source.slice? source (s.start + 2) (s.stop - 2)).map fun inner =>
        ⟨s.kind, s.start, inner⟩ := by
  unfold token
  split
  next heq => exact absurd heq h
  next => simp only [if_pos hstop]

theorem Sliced.token {source : List Char} {t : Token} (h : Sliced source t) :
    token source t.span = some t := by
  by_cases htext : t.kind = .text
  · obtain ⟨kind, start, inner⟩ := t
    cases htext
    rw [Sliced, Token.lexeme_text] at h
    exact (token_of_text rfl).trans (congrArg (Option.map _) h)
  · obtain ⟨before, after, hsource, hbefore, -⟩ := Source.slice?_eq_some_iff.1 h
    have hstop := Token.stop_delimited htext
    have hinner : Source.slice? source (t.start + 2) (t.stop - 2) = some t.inner := by
      refine Source.slice?_eq_some_iff.2 ⟨before ++ t.kind.opener, t.kind.closer ++ after, ?_, ?_,
        by omega⟩
      · rw [hsource, Token.lexeme]
        simp only [List.append_assoc]
      · rw [Source.byteSize_append, hbefore, TokenKind.byteSize_opener htext]
    have hle : 2 ≤ t.stop := by omega
    exact (token_of_delimited htext hle).trans (congrArg (Option.map _) hinner)

theorem Sliced.faultAt {source : List Char} {t : Token} (h : Sliced source t)
    (fault : SyntaxFault) :
    faultAt source t.start t.stop fault = .error (SyntaxError.at t fault) := by
  rw [Guarded.faultAt, h]
  rfl

theorem readTag_eq (words : List (List Char)) :
    readTag words = (Tag.read words).mapError .error := by
  unfold readTag
  split
  next word rest =>
    have hword : Source.suffix? ('e' :: 'n' :: 'd' :: word) 3 = some word :=
      Source.suffix?_eq_some_iff.2 ⟨['e', 'n', 'd'], rfl, rfl⟩
    rw [hword, Tag.read]
    split <;> rfl
  next => rfl

theorem apply_eq (r : Reading) (t : Token) : apply r t = (r.apply t).mapError .error := by
  unfold apply
  split
  next hkind =>
    rw [Reading.apply, hkind, readTag_eq]
    cases Tag.read (Text.words t.inner) with
    | error fault => rfl
    | ok tag => cases tag <;> rfl
  next => rfl

theorem step_eq {source : List Char} {t : Token} (h : Sliced source t) (r : Reading) :
    step source r t.span = (r.step t).mapError .error := by
  simp only [step, h.token, taken, bind, Except.bind, apply_eq, Reading.step]
  cases r.apply t with
  | ok r => rfl
  | error fault => exact congrArg Except.error (h.faultAt fault)

theorem steps_eq {source : List Char} {tokens : List Token} (h : ∀ t ∈ tokens, Sliced source t)
    (r : Reading) :
    steps source r (tokens.map Token.span) = (r.steps tokens).mapError .error := by
  induction tokens generalizing r with
  | nil => rfl
  | cons t rest ih =>
    obtain ⟨ht, hrest⟩ := List.forall_mem_cons.1 h
    rw [List.map_cons, steps, step_eq ht, Reading.steps]
    cases r.step t with
    | ok r => exact ih hrest r
    | error e => rfl

theorem sliced_enclosing {source : List Char} {tokens : List Token}
    (h : ∀ t ∈ tokens, Sliced source t)
    {r r' : Reading} (hr : ∀ b ∈ r.enclosing, Sliced source b.token)
    (hsteps : r.steps tokens = .ok r') :
    ∀ b ∈ r'.enclosing, Sliced source b.token := by
  induction tokens generalizing r with
  | nil =>
    cases hsteps
    exact hr
  | cons t rest ih =>
    obtain ⟨ht, hrest⟩ := List.forall_mem_cons.1 h
    obtain ⟨next, happly, hnext⟩ := Reading.steps_cons_ok hsteps
    refine ih hrest ?_ hnext
    rcases Reading.apply_cases happly with ⟨_, -, -, rfl⟩ | ⟨_, -, -, rfl⟩ |
      ⟨b, enclosing, henclosing, -, rfl⟩
    · exact hr
    · exact List.forall_mem_cons.2 ⟨ht, hr⟩
    · rw [henclosing] at hr
      exact (List.forall_mem_cons.1 hr).2

theorem finish_eq {source : List Char} {r : Reading}
    (h : ∀ b ∈ r.enclosing, Sliced source b.token) :
    finish source r = r.finish.mapError .error := by
  rw [finish, Reading.finish]
  cases henclosing : r.enclosing with
  | nil => rfl
  | cons b rest =>
    rw [henclosing] at h
    exact congrArg Except.error ((List.forall_mem_cons.1 h).1.faultAt _)

theorem blocks_eq {source : List Char} {tokens : List Token} (h : ∀ t ∈ tokens, Sliced source t) :
    (steps source .start (tokens.map Token.span)).bind (finish source) =
      (Block.ofTokens tokens).mapError .error := by
  rw [steps_eq h, Block.ofTokens]
  cases hsteps : Reading.start.steps tokens with
  | error e => rfl
  | ok r => exact finish_eq (sliced_enclosing h (List.forall_mem_nil _) hsteps)

theorem compile_eq (source : String) :
    compile source = (Stencil.compile source).mapError .error := by
  rw [compile, scan_tokenize, Stencil.compile, compileWith]
  change (((steps _ _ _).bind _).mapError _ >>= _) = _
  rw [blocks_eq (sliced_tokenize source)]
  cases Block.ofTokens (tokenize source) with
  | error e => rfl
  | ok body =>
    change (Draft.ofBlocks body).finish.mapError _ =
      ((Draft.ofBlocks body).finish.mapError _).mapError _
    cases (Draft.ofBlocks body).finish <;> rfl

end Guarded

end Stencil
