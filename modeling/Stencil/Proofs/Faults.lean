import Stencil.Block.Grammar
import Stencil.Proofs.Grammar
import Stencil.Proofs.Splitting

/-! Errors stand at the first problem. What has been read can always be completed by closing the
open blocks, and a token that is refused is refused with whatever follows it; only the end of the
source finds a block open. -/

namespace Stencil

variable {tokens more : List Token} {t : Token} {r r' : Reading} {fault : SyntaxFault}

theorem acceptable_iff : Acceptable tokens ↔ ∃ body, Block.ofTokens tokens = .ok body :=
  exists_congr fun _ => ofTokens_ok_iff.symm

def Opener.endTag (opener : Opener) : Token := ⟨.tag, 0, "end".toList ++ opener.word⟩

theorem Opener.closes_endTag (opener : Opener) : Closes opener.endTag opener := by
  cases opener with
  | branch e =>
    have hwords : Text.words "endif".toList = ["endif".toList] := by decide +kernel
    exact .branch rfl hwords
  | loop name e =>
    have hwords : Text.words "endfor".toList = ["endfor".toList] := by decide +kernel
    exact .loop rfl hwords

theorem Parsed.completable (h : Parsed tokens r) : Completable tokens := by
  obtain ⟨enclosing, body⟩ := r
  induction enclosing generalizing tokens body with
  | nil =>
    cases h with
    | outer hbody hdepth => exact ⟨[], List.forall_mem_nil _, _, by rwa [List.append_nil], hdepth⟩
  | cons b rest ih =>
    have hclose : Reading.apply ⟨b :: rest, body⟩ b.opener.endTag =
        .ok ⟨rest, b.opener.close body.reverse :: b.before⟩ := by
      rw [Reading.apply_closes b.opener.closes_endTag]
      exact if_pos rfl
    obtain ⟨ends, hends, haccept⟩ := ih _ (h.apply hclose)
    refine ⟨b.opener.endTag :: ends, List.forall_mem_cons.2 ⟨⟨_, b.opener.closes_endTag⟩, hends⟩,
      ?_⟩
    rwa [List.append_assoc, List.singleton_append] at haccept

theorem parsed_of_steps (h : Reading.start.steps tokens = .ok r) : Parsed tokens r :=
  Parsed.steps (.outer .nil (Nat.zero_le _)) h

theorem not_acceptable_of_refused (h : Reading.start.steps tokens = .ok r)
    (happly : r.apply t = .error fault) :
    ¬Acceptable (tokens ++ t :: more) := by
  rw [acceptable_iff, Block.ofTokens, Reading.steps_append, h, Except.bind, Reading.steps,
    Reading.step, happly]
  rintro ⟨_, hblocks⟩
  cases hblocks

namespace Reading

theorem steps_error {e : SyntaxError} (h : r.steps tokens = .error e) :
    ∃ before t after next fault, tokens = before ++ t :: after ∧ r.steps before = .ok next ∧
      next.apply t = .error fault ∧ e = SyntaxError.at t fault := by
  induction tokens generalizing r with
  | nil => cases h
  | cons t rest ih =>
    cases happly : r.apply t with
    | error fault =>
      rw [steps, step, happly] at h
      cases h
      exact ⟨[], t, rest, r, fault, rfl, rfl, happly, rfl⟩
    | ok next =>
      rw [steps_cons happly] at h
      obtain ⟨before, u, after, last, fault, rfl, hbefore, hu, he⟩ := ih h
      refine ⟨t :: before, u, after, last, fault, rfl, ?_, hu, he⟩
      rw [steps_cons happly, hbefore]

end Reading

/-! A block is left open by the end of the source alone. -/

theorem Expression.read_error {cs : List Char} (h : read cs = .error fault) :
    fault ≠ .unclosed := by
  unfold read at h
  dsimp only at h
  split at h
  next =>
    cases h
    exact nofun
  next =>
    split at h <;> cases h
    exact nofun

theorem Tag.map_read_error {α : Type} {cs : List Char} {f : Expression String → α}
    (h : (Expression.read cs).map f = .error fault) : fault ≠ .unclosed := by
  cases hread : Expression.read cs with
  | ok e =>
    rw [hread] at h
    cases h
  | error fault' =>
    rw [hread] at h
    cases h
    exact Expression.read_error hread

theorem Tag.read_error {words : List (List Char)} (h : read words = .error fault) :
    fault ≠ .unclosed := by
  unfold read at h
  split at h
  next =>
    cases h
    exact nofun
  next rest =>
    unfold readBranch at h
    split at h
    next => exact map_read_error h
    next =>
      cases h
      exact nofun
  next rest =>
    unfold readLoop at h
    split at h
    next =>
      split at h
      next => exact map_read_error h
      next =>
        cases h
        exact nofun
    next =>
      cases h
      exact nofun
  next word rest =>
    split at h <;> cases h
    exact nofun
  next =>
    cases h
    exact nofun

theorem Reading.apply_error (h : r.apply t = .error fault) : fault ≠ .unclosed := by
  unfold apply at h
  split at h
  next => cases h
  next => cases h
  next => exact Tag.map_read_error h
  next =>
    split at h
    next opener hread =>
      unfold openBlock at h
      split at h <;> cases h
      exact nofun
    next word hread =>
      unfold closeBlock at h
      split at h
      next =>
        cases h
        exact nofun
      next =>
        split at h <;> cases h
        exact nofun
    next fault' hread =>
      cases h
      exact Tag.read_error hread

/-! Blocks that are closed. -/

theorem Opens.not_closes {opener opener' : Opener} (h : Opens t opener) : ¬Closes t opener' := by
  intro hclose
  have hread := (opens_iff h.kind).2 h
  rw [(closes_iff h.kind).2 hclose] at hread
  cases hread

theorem Matched.append {after : List Token} (h : Matched t after) (more : List Token) :
    Matched t (after ++ more) := by
  obtain ⟨opener, inside, within, t', rest, hopen, hinside, hclose, rfl⟩ := h
  exact ⟨opener, inside, within, t', rest ++ more, hopen, hinside, hclose,
    by rw [List.append_assoc, List.cons_append]⟩

theorem Opens.later {opener : Opener} (h : Opens t opener) {u : Token} (hu : ¬Opens u opener)
    {tail between rest : List Token} (heq : u :: tail = between ++ t :: rest) :
    ∃ between', tail = between' ++ t :: rest := by
  cases between with
  | nil =>
    cases heq
    exact absurd h hu
  | cons v between =>
    cases heq
    exact ⟨between, rfl⟩

theorem Derives.matched {body : List Block} (h : Derives tokens body) {between rest : List Token}
    (htokens : tokens = between ++ t :: rest) {opener : Opener} (hopen : Opens t opener) :
    Matched t rest := by
  induction h generalizing between rest with
  | nil => cases between <;> cases htokens
  | text hkind _ ih =>
    obtain ⟨between', htail⟩ := hopen.later (fun hu => by cases hkind.symm.trans hu.kind) htokens
    exact ih htail
  | comment hkind _ ih =>
    obtain ⟨between', htail⟩ := hopen.later (fun hu => by cases hkind.symm.trans hu.kind) htokens
    exact ih htail
  | output hkind _ _ ih =>
    obtain ⟨between', htail⟩ := hopen.later (fun hu => by cases hkind.symm.trans hu.kind) htokens
    exact ih htail
  | @block t₀ t' inside tail opener₀ within body hopen₀ hinside hclose _ ihInside ihRest =>
    cases between with
    | nil =>
      cases htokens
      exact ⟨opener₀, inside, within, t', tail, hopen₀, hinside, hclose, rfl⟩
    | cons v between =>
      obtain ⟨rfl, htail⟩ := List.cons_eq_cons.1 htokens
      -- The tag is inside the block, or it comes after the closing tag.
      rcases List.append_eq_append_iff.1 htail with ⟨gap, -, hgap⟩ | ⟨gap, hwithin, hgap⟩
      · obtain ⟨between', hlate⟩ := hopen.later (fun hu => hu.not_closes hclose) hgap
        exact ihRest hlate
      · cases gap with
        | nil =>
          cases hgap
          exact absurd hclose hopen.not_closes
        | cons u gap =>
          cases hgap
          exact (ihInside hwithin).append _

theorem Reading.apply_enclosing (hkind : t.kind ≠ .tag) (h : r.apply t = .ok r') :
    r'.enclosing = r.enclosing := by
  rcases apply_cases h with ⟨more, -, -, rfl⟩ | ⟨opener, hopen, -, -⟩ | ⟨b, rest, -, hclose, -⟩
  · rfl
  · exact absurd hopen.kind hkind
  · exact absurd hclose.kind hkind

theorem Reading.openBlock_enclosing {opener : Opener} (h : r.openBlock t opener = .ok r') :
    r'.enclosing = ⟨t, opener, r.body⟩ :: r.enclosing := by
  unfold openBlock at h
  split at h <;> cases h
  rfl

theorem Reading.closeBlock_enclosing {word : List Char} (h : r.closeBlock word = .ok r') :
    ∃ b, r.enclosing = b :: r'.enclosing := by
  unfold closeBlock at h
  split at h
  next => cases h
  next b rest henclosing =>
    split at h <;> cases h
    exact ⟨b, henclosing⟩

theorem Derives.steps_enclosing {body : List Block} (h : Derives tokens body)
    (hsteps : r.steps tokens = .ok r') :
    r'.enclosing = r.enclosing := by
  have hflat {u : Token} {rest : List Token} {r r' : Reading} (hkind : u.kind ≠ .tag)
      (ih : ∀ {r r' : Reading}, r.steps rest = .ok r' → r'.enclosing = r.enclosing)
      (hsteps : r.steps (u :: rest) = .ok r') : r'.enclosing = r.enclosing := by
    obtain ⟨next, happly, hrest⟩ := Reading.steps_cons_ok hsteps
    rw [ih hrest, Reading.apply_enclosing hkind happly]
  induction h generalizing r r' with
  | nil =>
    cases hsteps
    rfl
  | text hkind _ ih => exact hflat (by rw [hkind]; decide) ih hsteps
  | comment hkind _ ih => exact hflat (by rw [hkind]; decide) ih hsteps
  | output hkind _ _ ih => exact hflat (by rw [hkind]; decide) ih hsteps
  | block hopen _ hclose _ ihInside ihRest =>
    obtain ⟨opened, happly, hsteps⟩ := Reading.steps_cons_ok hsteps
    obtain ⟨inner, hinside, hsteps⟩ := Reading.steps_append_ok hsteps
    obtain ⟨closed, happly', hrest⟩ := Reading.steps_cons_ok hsteps
    rw [Reading.apply_opens hopen] at happly
    rw [Reading.apply_closes hclose] at happly'
    obtain ⟨b, hb⟩ := Reading.closeBlock_enclosing happly'
    rw [ihInside hinside, Reading.openBlock_enclosing happly] at hb
    rw [ihRest hrest]
    exact (List.cons_eq_cons.1 hb).2.symm

/-- Before a derivation nothing is open, so no prefix of it closes one block more than it opens. -/
theorem Derives.unmatched {body : List Block} (h : Derives tokens body)
    (hdepth : Nesting.depthAll (Block.nestingAll body) ≤ maxDepth) : ¬Matched t tokens := by
  rintro ⟨opener, inside, within, t', rest, -, hinside, hclose, rfl⟩
  have hsteps : Reading.start.steps (inside ++ t' :: rest) = .ok ⟨[], body.reverse ++ []⟩ :=
    h.steps (by rwa [List.length_nil, Nat.zero_add])
  obtain ⟨inner, hread, hsteps⟩ := Reading.steps_append_ok hsteps
  obtain ⟨closed, happly, -⟩ := Reading.steps_cons_ok hsteps
  rw [Reading.apply_closes hclose] at happly
  obtain ⟨b, hb⟩ := Reading.closeBlock_enclosing happly
  rw [hinside.steps_enclosing hread] at hb
  cases hb

theorem Parsed.lastOpen {b : OpenBlock} {rest : List OpenBlock} (h : Parsed tokens r)
    (hopen : r.enclosing = b :: rest) :
    ∃ before after, tokens = before ++ b.token :: after ∧ LastOpen b.token after := by
  cases h with
  | outer => cases hopen
  | @inner before inside t opener enclosing outer within _ hopens hinside hdepth =>
    cases hopen
    refine ⟨before, inside, rfl, ⟨opener, hopens⟩, hinside.unmatched (by omega), ?_⟩
    rintro between rest u hafter ⟨opener', hu⟩
    exact hinside.matched hafter hu

theorem Block.ofTokens_error {e : SyntaxError} (h : ofTokens tokens = .error e) :
    ∃ before t after, tokens = before ++ t :: after ∧ e = SyntaxError.at t e.fault ∧
      (e.fault ≠ .unclosed → Completable before ∧ ∀ more, ¬Acceptable (before ++ t :: more)) ∧
      (e.fault = .unclosed → Completable tokens ∧ ¬Acceptable tokens ∧ LastOpen t after) := by
  have hnever : ¬Acceptable tokens := by
    rw [acceptable_iff, h]
    exact nofun
  rw [ofTokens] at h
  cases hsteps : Reading.start.steps tokens with
  | error e' =>
    rw [hsteps] at h
    cases h
    obtain ⟨before, t, after, r, fault, heq, hbefore, happly, rfl⟩ := Reading.steps_error hsteps
    have hfirst : Completable before ∧ ∀ more, ¬Acceptable (before ++ t :: more) :=
      ⟨(parsed_of_steps hbefore).completable, fun _ => not_acceptable_of_refused hbefore happly⟩
    exact ⟨before, t, after, heq, rfl, fun _ => hfirst, fun hfault =>
      absurd hfault (Reading.apply_error happly)⟩
  | ok r =>
    rw [hsteps, Except.bind, Reading.finish] at h
    have hparsed := parsed_of_steps hsteps
    split at h
    next => cases h
    next b rest hopen =>
      cases h
      obtain ⟨before, after, heq, hlast⟩ := hparsed.lastOpen hopen
      exact ⟨before, b.token, after, heq, rfl, fun hfault => absurd rfl hfault,
        fun _ => ⟨hparsed.completable, hnever, hlast⟩⟩

/-- A malformed source is reported at one of its tokens, as it stands there. A fault other than
`unclosed` is that of the first token that no template goes on with, after tokens that closing tags
complete; `unclosed` is that of the last tag left open, in tokens that closing tags complete. -/
theorem compile_error_first {source : String} {e : SyntaxError}
    (h : compile source = .error (.malformed e)) :
    ∃ before t after, tokenize source = before ++ t :: after ∧ e.start = t.start ∧ e.stop = t.stop ∧
      Source.slice? source.toList e.start e.stop = some e.token.toList ∧
      (e.fault ≠ .unclosed → Completable before ∧ ∀ more, ¬Acceptable (before ++ t :: more)) ∧
      (e.fault = .unclosed →
        Completable (tokenize source) ∧ ¬Acceptable (tokenize source) ∧ LastOpen t after) := by
  have htokens : Block.ofTokens (tokenize source) = .error e := by
    rw [compile_eq] at h
    cases hread : Block.ofTokens (tokenize source) with
    | ok body =>
      rw [hread] at h
      cases h
    | error e' =>
      rw [hread] at h
      cases h
      rfl
  obtain ⟨before, t, after, heq, hat, hfirst, hlast⟩ := Block.ofTokens_error htokens
  have ht : t ∈ tokenize source := by
    rw [heq]
    exact List.mem_append_right _ List.mem_cons_self
  have hslice : Source.slice? source.toList e.start e.stop = some e.token.toList := by
    rw [hat]
    exact (Token.slice_of_mem ht).trans (congrArg some String.toList_ofList.symm)
  exact ⟨before, t, after, heq, congrArg SyntaxError.start hat, congrArg SyntaxError.stop hat,
    hslice, hfirst, hlast⟩

theorem compile_error_first_tags :
    (∃ before t after, tokenize "a{% endif %}" = before ++ t :: after ∧ t.start = 1 ∧
      ∀ more, ¬Acceptable (before ++ t :: more)) ∧
    ∃ before t after, tokenize "{% if a %}{% if b %}{% endif %}" = before ++ t :: after ∧
      t.start = 0 ∧ LastOpen t after := by
  have hends : tokenize "a{% endif %}" = [⟨.text, 0, "a".toList⟩, ⟨.tag, 1, " endif ".toList⟩] := by
    decide +kernel
  have hopens : tokenize "{% if a %}{% if b %}{% endif %}" =
      [⟨.tag, 0, " if a ".toList⟩, ⟨.tag, 10, " if b ".toList⟩, ⟨.tag, 20, " endif ".toList⟩] := by
        decide +kernel
  have hends' : compile "a{% endif %}" =
      .error (.malformed ⟨.tooManyEnds, "{% endif %}", 1, 12⟩) := by
    rw [compile_eq, hends]
    rfl
  have hopens' : compile "{% if a %}{% if b %}{% endif %}" =
      .error (.malformed ⟨.unclosed, "{% if a %}", 0, 10⟩) := by
    rw [compile_eq, hopens]
    rfl
  constructor
  · obtain ⟨before, t, after, heq, hstart, -, -, hfirst, -⟩ := compile_error_first hends'
    exact ⟨before, t, after, heq, hstart.symm, (hfirst nofun).2⟩
  · obtain ⟨before, t, after, heq, hstart, -, -, -, hlast⟩ := compile_error_first hopens'
    exact ⟨before, t, after, heq, hstart.symm, (hlast rfl).2.2⟩

end Stencil
