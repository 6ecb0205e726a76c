import Stencil.Block.Grammar
import Stencil.Proofs.Expressions
import Stencil.Proofs.Lowering

/-! The reader accepts what the grammar derives. A derivation is read from its first token to its
last and leaves the open blocks as they are; and what has been read so far is, between the tags
still open, derived. -/

namespace Stencil

namespace Tag

theorem map_read_ok_iff {α : Type} {cs : List Char} {f : Expression String → α} {a : α} :
    (Expression.read cs).map f = .ok a ↔ ∃ e, Expression.Reads cs e ∧ a = f e := by
  simp only [← Expression.read_ok_iff]
  cases Expression.read cs with
  | error fault => simp [Except.map]
  | ok e => simp [Except.map, eq_comm]

theorem readBranch_ok_iff {words : List (List Char)} {tag : Tag} : readBranch words = .ok tag ↔
    ∃ condition e, words = [condition] ∧ Expression.Reads condition e ∧
      tag = .opening (.branch e) := by
  unfold readBranch
  split
  next condition =>
    rw [map_read_ok_iff]
    constructor
    · rintro ⟨e, he, htag⟩
      exact ⟨condition, e, rfl, he, htag⟩
    · rintro ⟨condition', e, hwords, he, htag⟩
      cases hwords
      exact ⟨e, he, htag⟩
  next hwords =>
    refine ⟨nofun, ?_⟩
    rintro ⟨condition, -, rfl, -, -⟩
    exact absurd rfl (hwords condition)

theorem readLoop_ok_iff {words : List (List Char)} {tag : Tag} : readLoop words = .ok tag ↔
    ∃ name items e, words = [name, "in".toList, items] ∧ isName name = true ∧
      Expression.Reads items e ∧
      tag = .opening (.loop (String.ofList name) e) := by
  unfold readLoop
  split
  next name items =>
    split
    next hname =>
      rw [map_read_ok_iff]
      constructor
      · rintro ⟨e, he, htag⟩
        exact ⟨name, items, e, rfl, hname, he, htag⟩
      · rintro ⟨name', items', e, hwords, -, he, htag⟩
        cases hwords
        exact ⟨e, he, htag⟩
    next hname =>
      refine ⟨nofun, ?_⟩
      rintro ⟨name', items', e, hwords, hname', -, -⟩
      cases hwords
      exact absurd hname' hname
  next hwords =>
    refine ⟨nofun, ?_⟩
    rintro ⟨name, items, -, rfl, -, -, -⟩
    exact absurd rfl (hwords name items)

theorem read_ok_iff {words : List (List Char)} {tag : Tag} : read words = .ok tag ↔
    (∃ condition e, words = ["if".toList, condition] ∧ Expression.Reads condition e ∧
      tag = .opening (.branch e)) ∨
    (∃ name items e, words = ["for".toList, name, "in".toList, items] ∧ isName name = true ∧
      Expression.Reads items e ∧ tag = .opening (.loop (String.ofList name) e)) ∨
    ∃ word, words = ["end".toList ++ word] ∧ tag = .closing word := by
  constructor
  · intro h
    unfold read at h
    split at h
    next => cases h
    next rest =>
      obtain ⟨condition, e, rfl, he, rfl⟩ := readBranch_ok_iff.1 h
      exact .inl ⟨condition, e, rfl, he, rfl⟩
    next rest =>
      obtain ⟨name, items, e, rfl, hname, he, rfl⟩ := readLoop_ok_iff.1 h
      exact .inr (.inl ⟨name, items, e, rfl, hname, he, rfl⟩)
    next word rest =>
      split at h
      next hrest =>
        cases h
        exact .inr (.inr ⟨word, by rw [List.isEmpty_iff.1 hrest]; rfl, rfl⟩)
      next => cases h
    next => cases h
  · rintro (⟨condition, e, rfl, he, rfl⟩ | ⟨name, items, e, rfl, hname, he, rfl⟩ | ⟨word, rfl, rfl⟩)
    · exact readBranch_ok_iff.2 ⟨condition, e, rfl, he, rfl⟩
    · exact readLoop_ok_iff.2 ⟨name, items, e, rfl, hname, he, rfl⟩
    · rfl

end Tag

theorem opens_iff {t : Token} (hkind : t.kind = .tag) {opener : Opener} :
    Tag.read (Text.words t.inner) = .ok (.opening opener) ↔ Opens t opener := by
  rw [Tag.read_ok_iff]
  constructor
  · rintro (⟨condition, e, hwords, he, htag⟩ | ⟨name, items, e, hwords, hname, he, htag⟩ |
      ⟨word, -, htag⟩)
    · cases htag
      exact .branch hkind hwords he
    · cases htag
      exact .loop hkind hwords hname he
    · cases htag
  · rintro (⟨-, hwords, he⟩ | ⟨-, hwords, hname, he⟩)
    · exact .inl ⟨_, _, hwords, he, rfl⟩
    · exact .inr (.inl ⟨_, _, _, hwords, hname, he, rfl⟩)

theorem closes_iff {t : Token} (hkind : t.kind = .tag) {opener : Opener} :
    Tag.read (Text.words t.inner) = .ok (.closing opener.word) ↔ Closes t opener := by
  rw [Tag.read_ok_iff]
  constructor
  · rintro (⟨condition, e, -, -, htag⟩ | ⟨name, items, e, -, -, -, htag⟩ | ⟨word, hwords, htag⟩)
    · cases htag
    · cases htag
    · cases htag
      cases opener with
      | branch e => exact .branch hkind hwords
      | loop name e => exact .loop hkind hwords
  · rintro (⟨-, hwords⟩ | ⟨-, hwords⟩)
    · exact .inr (.inr ⟨_, hwords, rfl⟩)
    · exact .inr (.inr ⟨_, hwords, rfl⟩)

theorem Opens.kind {t : Token} {opener : Opener} (h : Opens t opener) : t.kind = .tag := by
  cases h <;> assumption

theorem Closes.kind {t : Token} {opener : Opener} (h : Closes t opener) : t.kind = .tag := by
  cases h <;> assumption

theorem Derives.append {a b : List Token} {body body' : List Block} (h : Derives a body)
    (h' : Derives b body') :
    Derives (a ++ b) (body ++ body') := by
  induction h with
  | nil => exact h'
  | text hkind _ ih => exact .text hkind ih
  | comment hkind _ ih => exact .comment hkind ih
  | output hkind he _ ih => exact .output hkind he ih
  | block hopen hinside hclose _ _ ih =>
    rw [List.cons_append, List.append_assoc, List.cons_append]
    exact .block hopen hinside hclose ih

namespace Reading

variable {r r' : Reading} {t : Token}

theorem apply_opens {opener : Opener} (h : Opens t opener) : r.apply t = r.openBlock t opener := by
  rw [apply, h.kind, (opens_iff h.kind).2 h]

theorem apply_closes {opener : Opener} (h : Closes t opener) :
    r.apply t = r.closeBlock opener.word := by
  rw [apply, h.kind, (closes_iff h.kind).2 h]

theorem steps_cons (h : r.apply t = .ok r') (rest : List Token) :
    r.steps (t :: rest) = r'.steps rest := by
  rw [steps, step, h]
  rfl

theorem steps_cons_ok {rest : List Token} (h : r.steps (t :: rest) = .ok r') :
    ∃ next, r.apply t = .ok next ∧ next.steps rest = .ok r' := by
  cases happly : r.apply t with
  | error fault =>
    rw [steps, step, happly] at h
    cases h
  | ok next => exact ⟨next, rfl, (steps_cons happly rest).symm.trans h⟩

theorem steps_append_ok {a b : List Token} (h : r.steps (a ++ b) = .ok r') :
    ∃ next, r.steps a = .ok next ∧ next.steps b = .ok r' := by
  rw [steps_append] at h
  cases ha : r.steps a with
  | error e =>
    rw [ha] at h
    cases h
  | ok next =>
    rw [ha] at h
    exact ⟨next, rfl, h⟩

theorem apply_cases (h : r.apply t = .ok r') :
    (∃ more, Derives [t] more ∧ Nesting.depthAll (Block.nestingAll more) = 0 ∧
      r' = ⟨r.enclosing, more.reverse ++ r.body⟩) ∨
    (∃ opener, Opens t opener ∧ r.enclosing.length < maxDepth ∧
      r' = ⟨⟨t, opener, r.body⟩ :: r.enclosing, []⟩) ∨
    ∃ b rest, r.enclosing = b :: rest ∧ Closes t b.opener ∧
      r' = ⟨rest, b.opener.close r.body.reverse :: b.before⟩ := by
  unfold apply at h
  split at h
  next hkind =>
    cases h
    exact .inl ⟨[.text (String.ofList t.inner)], .text hkind .nil, rfl, rfl⟩
  next hkind =>
    cases h
    exact .inl ⟨[], .comment hkind .nil, rfl, rfl⟩
  next hkind =>
    obtain ⟨e, he, rfl⟩ := Tag.map_read_ok_iff.1 h
    exact .inl ⟨[.output e], .output hkind he .nil, rfl, rfl⟩
  next hkind =>
    split at h
    next opener hread =>
      unfold openBlock at h
      split at h
      next hdepth =>
        cases h
        exact .inr (.inl ⟨opener, (opens_iff hkind).1 hread, hdepth, rfl⟩)
      next => cases h
    next word hread =>
      unfold closeBlock at h
      split at h
      next => cases h
      next b rest henclosing =>
        split at h
        next hword =>
          cases h
          refine .inr (.inr ⟨b, rest, henclosing, (closes_iff hkind).1 ?_, rfl⟩)
          rw [hword, hread]
        next => cases h
    next => cases h

end Reading

namespace Nesting

theorem depthAll_append (a b : List Nesting) :
    depthAll (a ++ b) = max (depthAll a) (depthAll b) := by
  induction a with
  | nil => exact (Nat.zero_max _).symm
  | cons n rest ih => rw [List.cons_append, depthAll, depthAll, ih, Nat.max_assoc]

theorem depthAll_close (opener : Opener) (within : List Block) :
    depthAll (Block.nesting (opener.close within)) = depthAll (Block.nestingAll within) + 1 := by
  cases opener with
  | branch e => rw [Opener.close, Block.nesting, depthAll, depthAll, depth, Nat.max_zero]
  | loop name e => rw [Opener.close, Block.nesting, depthAll, depthAll, depth, Nat.max_zero]

end Nesting

theorem Block.nestingAll_append (a b : List Block) :
    nestingAll (a ++ b) = nestingAll a ++ nestingAll b := by
  induction a with
  | nil => rfl
  | cons first rest ih => rw [List.cons_append, nestingAll, nestingAll, ih, List.append_assoc]

theorem Derives.steps {tokens : List Token} {body : List Block} (h : Derives tokens body)
    {enclosing : List OpenBlock}
    {before : List Block} (hdepth : enclosing.length + Nesting.depthAll (Block.nestingAll body) ≤
      maxDepth) :
    Reading.steps ⟨enclosing, before⟩ tokens = .ok ⟨enclosing, body.reverse ++ before⟩ := by
  induction h generalizing enclosing before with
  | nil => rfl
  | @text t rest body hkind _ ih =>
    have happly : Reading.apply ⟨enclosing, before⟩ t =
        .ok ⟨enclosing, .text (String.ofList t.inner) :: before⟩ := by
      rw [Reading.apply, hkind]
      rfl
    rw [Reading.steps_cons happly, ih hdepth, List.reverse_cons, List.append_assoc]
    rfl
  | @comment t rest body hkind _ ih =>
    have happly : Reading.apply ⟨enclosing, before⟩ t = .ok ⟨enclosing, before⟩ := by
      rw [Reading.apply, hkind]
    rw [Reading.steps_cons happly, ih hdepth]
  | @output t rest e body hkind he _ ih =>
    have happly : Reading.apply ⟨enclosing, before⟩ t = .ok ⟨enclosing, .output e :: before⟩ := by
      rw [Reading.apply, hkind]
      exact Tag.map_read_ok_iff.2 ⟨e, he, rfl⟩
    rw [Reading.steps_cons happly, ih hdepth, List.reverse_cons, List.append_assoc]
    rfl
  | @block t t' inside rest opener within body hopen _ hclose _ ihInside ihRest =>
    rw [Block.nestingAll, Nesting.depthAll_append, Nesting.depthAll_close] at hdepth
    -- The opening tag stacks a block, the inside is read on top of it, and the closing tag finds it
    -- again.
    have hroom : enclosing.length < maxDepth := by omega
    have hopened : Reading.apply ⟨enclosing, before⟩ t =
        .ok ⟨⟨t, opener, before⟩ :: enclosing, []⟩ := by
      rw [Reading.apply_opens hopen, Reading.openBlock, if_pos hroom]
    have hinner : Reading.steps ⟨⟨t, opener, before⟩ :: enclosing, []⟩ inside =
        .ok ⟨⟨t, opener, before⟩ :: enclosing, within.reverse ++ []⟩ := by
      apply ihInside
      rw [List.length_cons]
      omega
    have hclosed : Reading.apply ⟨⟨t, opener, before⟩ :: enclosing, within.reverse ++ []⟩ t' =
        .ok ⟨enclosing, opener.close within :: before⟩ := by
      rw [Reading.apply_closes hclose]
      simp only [Reading.closeBlock, if_true, List.append_nil, List.reverse_reverse]
    have hrest : Reading.steps ⟨enclosing, opener.close within :: before⟩ rest =
        .ok ⟨enclosing, body.reverse ++ opener.close within :: before⟩ := ihRest (by omega)
    rw [Reading.steps_cons hopened, Reading.steps_append, hinner, Except.bind,
      Reading.steps_cons hclosed, hrest, List.reverse_cons, List.append_assoc]
    rfl

/-- What the tokens read so far derive: what stands before the first open tag, between one open tag
and the next, and after the last. -/
inductive Parsed : List Token → Reading → Prop
  | outer {tokens : List Token} {body : List Block} (h : Derives tokens body)
    (hdepth : Nesting.depthAll (Block.nestingAll body) ≤ maxDepth) :
    Parsed tokens ⟨[], body.reverse⟩
  | inner {before inside : List Token} {t : Token} {opener : Opener} {enclosing : List OpenBlock}
    {outer within : List Block} (houter : Parsed before ⟨enclosing, outer⟩) (hopen : Opens t opener)
    (hinside : Derives inside within)
    (hdepth : enclosing.length + 1 + Nesting.depthAll (Block.nestingAll within) ≤ maxDepth) :
    Parsed (before ++ t :: inside) ⟨⟨t, opener, outer⟩ :: enclosing, within.reverse⟩

namespace Parsed

variable {tokens more : List Token} {r r' : Reading} {t : Token}

theorem depth (h : Parsed tokens r) : r.enclosing.length ≤ maxDepth := by
  cases h with
  | outer => exact Nat.zero_le _
  | inner _ _ _ hdepth => exact (Nat.le_add_right _ _).trans hdepth

theorem extend {body : List Block} (h : Parsed tokens r) (hmore : Derives more body)
    (hdepth : r.enclosing.length + Nesting.depthAll (Block.nestingAll body) ≤ maxDepth) :
    Parsed (tokens ++ more) ⟨r.enclosing, body.reverse ++ r.body⟩ := by
  cases h with
  | outer h hbound =>
    rw [← List.reverse_append]
    refine .outer (h.append hmore) ?_
    rw [Block.nestingAll_append, Nesting.depthAll_append]
    rw [List.length_nil] at hdepth
    omega
  | inner houter hopen hinside hbound =>
    rw [← List.reverse_append, List.append_assoc, List.cons_append]
    refine .inner houter hopen (hinside.append hmore) ?_
    rw [Block.nestingAll_append, Nesting.depthAll_append]
    rw [List.length_cons] at hdepth
    omega

theorem apply (h : Parsed tokens r) (happly : r.apply t = .ok r') : Parsed (tokens ++ [t]) r' := by
  rcases Reading.apply_cases happly with ⟨more, hmore, hflat, rfl⟩ | ⟨opener, hopen, hroom, rfl⟩ |
    ⟨b, rest, henclosing, hclose, rfl⟩
  · exact h.extend hmore (by rw [hflat]; exact h.depth)
  · exact .inner h hopen .nil hroom
  · cases h with
    | outer => cases henclosing
    | @inner before inside t₀ opener enclosing outer within houter hopen hinside hdepth =>
      cases henclosing
      -- The block is whole now and goes to the body around it.
      have hblock : Derives (t₀ :: (inside ++ [t])) [opener.close within] :=
        .block hopen hinside hclose .nil
      have hfits : rest.length + Nesting.depthAll (Block.nestingAll [opener.close within]) ≤
          maxDepth := by
        rw [Block.nestingAll, Block.nestingAll, List.append_nil, Nesting.depthAll_close]
        omega
      rw [List.append_assoc, List.cons_append, List.reverse_reverse]
      exact houter.extend hblock hfits

theorem steps (h : Parsed tokens r) (hsteps : r.steps more = .ok r') :
    Parsed (tokens ++ more) r' := by
  induction more generalizing tokens r with
  | nil =>
    cases hsteps
    rwa [List.append_nil]
  | cons t rest ih =>
    cases happly : r.apply t with
    | error fault =>
      rw [Reading.steps, Reading.step, happly] at hsteps
      cases hsteps
    | ok next =>
      rw [Reading.steps_cons happly] at hsteps
      rw [← List.singleton_append, ← List.append_assoc]
      exact ih (h.apply happly) hsteps

end Parsed

theorem ofTokens_ok_iff {tokens : List Token} {body : List Block} :
    Block.ofTokens tokens = .ok body ↔
    Derives tokens body ∧ Nesting.depthAll (Block.nestingAll body) ≤ maxDepth := by
  constructor
  · intro h
    rw [Block.ofTokens] at h
    cases hsteps : Reading.start.steps tokens with
    | error e =>
      rw [hsteps] at h
      cases h
    | ok r =>
      rw [hsteps, Except.bind, Reading.finish] at h
      have hstart : Parsed [] Reading.start := .outer .nil (Nat.zero_le _)
      cases hstart.steps hsteps with
      | outer hbody hdepth =>
        cases h
        rw [List.reverse_reverse]
        exact ⟨hbody, hdepth⟩
      | inner => cases h
  · rintro ⟨hbody, hdepth⟩
    have hsteps : Reading.start.steps tokens = .ok ⟨[], body.reverse ++ []⟩ :=
      hbody.steps (by rwa [List.length_nil, Nat.zero_add])
    rw [Block.ofTokens, hsteps, Except.bind, Reading.finish, List.append_nil, List.reverse_reverse]

namespace Node

theorem nestingAll_append (a b : List Node) :
    nestingAll (a ++ b) = nestingAll a ++ nestingAll b := by
  induction a with
  | nil => rfl
  | cons first rest ih => rw [List.cons_append, nestingAll, nestingAll, ih, List.append_assoc]

theorem nestingAll_held (d : Draft) : nestingAll d.held = [] := by
  unfold Draft.held
  split <;> rfl

theorem nestingAll_bindNodes (free : Entries Nat) : nestingAll (Draft.bindNodes free) = [] := by
  induction free with
  | nil => rfl
  | cons entry rest ih => exact ih

theorem nestingAll_bodyNodes (scope : Scope) (d : Draft) (body : List Block) :
    nestingAll (Draft.bodyNodes scope d body) = Block.nestingAll body := by
  induction body using Block.forest generalizing scope d with
  | nil => exact nestingAll_held d
  | text s rest ih =>
    rw [Draft.bodyNodes_text, ih]
    rfl
  | output e rest ih =>
    rw [Draft.bodyNodes_output, ih]
    rfl
  | branch condition body rest ihBody ihRest =>
    rw [Draft.bodyNodes_branch, nestingAll_append, nestingAll_held, List.nil_append, nestingAll,
      nesting, ihBody, ihRest]
    rfl
  | loop name items body rest ihBody ihRest =>
    rw [Draft.bodyNodes_loop, nestingAll_append, nestingAll_held, List.nil_append, nestingAll,
      nesting, ihBody, ihRest]
    rfl

end Node

theorem Draft.compiled_nesting (body : List Block) :
    Node.nestingAll (compiled body).program.body = Block.nestingAll body := by
  have happend := Node.nestingAll_append (bindNodes (ofBlocks body).free) (bodyNodes [] entry body)
  rwa [Node.nestingAll_bindNodes, Node.nestingAll_bodyNodes, List.nil_append] at happend

/-- A text compiles, to a program of this nesting, just when its tokens have a derivation of this
nesting that never has too many blocks open. -/
theorem compile_iff_derives (source : String) (nesting : List Nesting) :
    (∃ c, compile source = .ok c ∧ Node.nestingAll c.program.body = nesting) ↔
      ∃ body, Derives (tokenize source) body ∧ Block.nestingAll body = nesting ∧
        Nesting.depthAll nesting ≤ maxDepth := by
  rw [compile_eq]
  constructor
  · rintro ⟨c, hcompile, rfl⟩
    cases hbody : Block.ofTokens (tokenize source) with
    | error e =>
      rw [hbody] at hcompile
      cases hcompile
    | ok body =>
      rw [hbody] at hcompile
      cases hcompile
      obtain ⟨hderives, hdepth⟩ := ofTokens_ok_iff.1 hbody
      refine ⟨body, hderives, (Draft.compiled_nesting body).symm, ?_⟩
      rwa [Draft.compiled_nesting]
  · rintro ⟨body, hderives, rfl, hdepth⟩
    refine ⟨Draft.compiled body, ?_, Draft.compiled_nesting body⟩
    rw [ofTokens_ok_iff.2 ⟨hderives, hdepth⟩]
    rfl

end Stencil
