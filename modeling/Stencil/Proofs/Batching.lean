import Mathlib.Data.List.Forall2
import Stencil.Program.Outline
import Stencil.Proofs.Scoping
import Stencil.Proofs.Splitting

/-! Output is batched. A template and its program have the same outline, so each text and each
expression is written once, in order and between the same tags; and since output is held back until
the next tag, what stands together is emitted at once. -/

namespace Stencil

namespace Block

theorem outline_close (opener : Opener) (within : List Block) :
    outline (opener.close within) = Sign.enclose opener (outlineAll within) := by
  cases opener <;> rw [Opener.close, outline]

end Block

theorem Derives.outline {tokens : List Token} {body : List Block} (h : Derives tokens body) :
    List.Forall₂ Token.Stands (tokens.filter fun t => t.kind ≠ .comment)
      (Block.outlineAll body) := by
  have hkept : ∀ {t : Token} {rest : List Token}, t.kind ≠ .comment →
      (t :: rest).filter (fun t => t.kind ≠ .comment) = t :: rest.filter fun t => t.kind ≠
        .comment := fun hkind =>
    List.filter_cons_of_pos (decide_eq_true hkind)
  have htag : ∀ {t : Token}, t.kind = .tag → t.kind ≠ .comment := by
    rintro t hkind
    rw [hkind]
    exact nofun
  induction h with
  | nil => exact .nil
  | text hkind hrest ih =>
    rw [hkept (by rw [hkind]; exact nofun)]
    exact .cons (.text hkind) ih
  | comment hkind hrest ih =>
    rwa [List.filter_cons_of_neg (by simp [hkind])]
  | output hkind he hrest ih =>
    rw [hkept (by rw [hkind]; exact nofun)]
    exact .cons (.output hkind he) ih
  | block hopen hinside hclose hrest ihInside ihRest =>
    rw [hkept (htag hopen.kind), List.filter_append, hkept (htag hclose.kind), Block.outlineAll,
      Block.outline_close, Sign.enclose, List.cons_append, List.append_assoc]
    exact .cons (.opening hopen) (List.rel_append ihInside (.cons (.closing hclose) ihRest))

namespace Node

theorem outlineAll_append (a b : List Node) :
    outlineAll (a ++ b) = outlineAll a ++ outlineAll b := by
  induction a with
  | nil => rfl
  | cons first rest ih => rw [List.cons_append, outlineAll, outlineAll, ih, List.append_assoc]

theorem filter_outlineAll (indent : Nat) (nodes : List Node) :
    (outlineAll nodes).filter Sign.isOutput =
    ((linesAll indent nodes).flatMap fun line => line.2.pieces).map Piece.sign := by
  have hpieces : ∀ pieces : List Piece, (pieces.map Piece.sign).filter Sign.isOutput =
      pieces.map Piece.sign := by
    intro pieces
    refine List.filter_eq_self.2 fun sign hsign => ?_
    obtain ⟨p, -, rfl⟩ := List.mem_map.1 hsign
    cases p <;> rfl
  have henclose : ∀ (opener : Opener) (inside : List Sign),
      (Sign.enclose opener inside).filter Sign.isOutput = inside.filter Sign.isOutput := by
    intro opener inside
    rw [Sign.enclose, List.filter_cons_of_neg Bool.false_ne_true, List.filter_append,
      List.filter_cons_of_neg Bool.false_ne_true, List.filter_nil, List.append_nil]
  induction nodes using Node.forest generalizing indent with
  | nil => rfl
  | bind v rest ih =>
    rw [outlineAll, outline, List.nil_append, ih indent, linesAll, lines]
    rfl
  | emit pieces rest ih =>
    rw [outlineAll, outline, List.filter_append, hpieces, ih indent, linesAll, lines,
      List.singleton_append, List.flatMap_cons, List.map_append, Statement.pieces]
  | branch condition body rest ihBody ihRest =>
    rw [outlineAll, outline, List.filter_append, henclose, ihBody (indent + indentStep),
      ihRest indent, ← List.map_append, ← List.flatMap_append, linesAll, lines]
    rfl
  | loop v items body rest ihBody ihRest =>
    rw [outlineAll, outline, List.filter_append, henclose, ihBody (indent + indentStep),
      ihRest indent, ← List.map_append, ← List.flatMap_append, linesAll, lines]
    rfl

end Node

namespace Draft

def heldSigns (d : Draft) : List Sign := d.pieces.reverse.map Piece.sign

theorem outlineAll_held (d : Draft) : Node.outlineAll d.held = d.heldSigns := by
  unfold held heldSigns
  split
  next h => rw [List.isEmpty_iff.1 h, List.reverse_nil, List.map_nil, Node.outlineAll]
  next => rw [Node.outlineAll, Node.outline, Node.outlineAll, List.append_nil]

theorem heldSigns_hold (d : Draft) (piece : Piece) :
    (d.hold piece).heldSigns = d.heldSigns ++ [piece.sign] := by
  rw [hold, heldSigns, List.reverse_cons, List.map_append, List.map_singleton, heldSigns]

theorem heldSigns_output (scope : Scope) (d : Draft) (e : Expression String) :
    (block scope d (.output e)).heldSigns = d.heldSigns ++ [.output e] := by
  have hheld : (d.expression scope e).2.heldSigns = d.heldSigns := by
    rw [heldSigns, (expression_writes scope d e).2, heldSigns]
  have hpiece : Sign.output e = (Piece.output (d.expression scope e).1).sign :=
    congrArg Sign.output (expression_named scope d e).symm
  rw [hpiece, ← hheld]
  exact heldSigns_hold (d.expression scope e).2 (.output (d.expression scope e).1)

theorem heldSigns_of_nil {d : Draft} (h : d.pieces = []) : d.heldSigns = [] := by
  rw [heldSigns, h, List.reverse_nil, List.map_nil]

/-- The outline of the nodes of a body is that of its blocks, after what was held back before it. -/
theorem outlineAll_bodyNodes (scope : Scope) (d : Draft) (body : List Block) :
    Node.outlineAll (bodyNodes scope d body) = d.heldSigns ++ Block.outlineAll body := by
  -- What is held back goes out before a tag, so nothing is held where the body of a block begins,
  -- nor behind its end.
  induction body using Block.forest generalizing scope d with
  | nil =>
    rw [Block.outlineAll, List.append_nil]
    exact outlineAll_held d
  | text s rest ih =>
    rw [bodyNodes_text, ih, block, heldSigns_hold, List.append_assoc]
    rfl
  | output e rest ih =>
    rw [bodyNodes_output, ih, heldSigns_output, List.append_assoc]
    rfl
  | branch condition body rest ihBody ihRest =>
    have hcondition : (d.openBranch scope condition).1.named = condition :=
      expression_named scope d.flush condition
    have hafter : (block scope d (.branch condition body)).heldSigns = [] :=
      heldSigns_of_nil (closeBlock_pieces _)
    rw [bodyNodes_branch, Node.outlineAll_append, outlineAll_held, Node.outlineAll, Node.outline,
      ihBody, ihRest, hcondition, hafter, heldSigns_of_nil (openBranch_pieces scope d condition)]
    rfl
  | loop name items body rest ihBody ihRest =>
    have hitems : (d.openLoop scope name items).2.1.named = items :=
      expression_named scope d.flush items
    have hafter : (block scope d (.loop name items body)).heldSigns = [] :=
      heldSigns_of_nil (closeBlock_pieces _)
    rw [bodyNodes_loop, Node.outlineAll_append, outlineAll_held, Node.outlineAll, Node.outline,
      ihBody, ihRest, hitems, hafter, heldSigns_of_nil (openLoop_pieces scope d name items)]
    rfl

theorem outlineAll_compiled (hidden : Char → Bool) (body : List Block) :
    Node.outlineAll (compiledWith hidden body).program.body = Block.outlineAll body := by
  have hbinds : ∀ free : Entries Nat, Node.outlineAll (bindNodes free) = [] := by
    intro free
    induction free with
    | nil => rfl
    | cons entry rest ih => exact ih
  have happend := Node.outlineAll_append (bindNodes (ofBlocks body).free) (bodyNodes [] entry body)
  rw [hbinds, outlineAll_bodyNodes] at happend
  exact happend

end Draft

namespace Node

variable {inner outer rest : List Node} {node : Node}

theorem BodyIn.of_cons (h : BodyIn inner (node :: rest)) :
    inner = node :: rest ∨ (∃ body, node.body? = some body ∧ BodyIn inner body) ∨
      BodyIn inner rest := by
  cases h with
  | self => exact .inl rfl
  | inside hnode hbody h =>
    rcases List.mem_cons.1 hnode with rfl | hnode
    · exact .inr (.inl ⟨_, hbody, h⟩)
    · exact .inr (.inr (.inside hnode hbody h))

theorem BodyIn.trans (h : BodyIn inner outer) {innermost : List Node}
    (h' : BodyIn innermost inner) :
    BodyIn innermost outer := by
  induction h with
  | self => exact h'
  | inside hnode hbody _ ih => exact .inside hnode hbody ih

theorem BodyIn.of_binds {free : Entries Nat} {body : List Node}
    (h : BodyIn inner (Draft.bindNodes free ++ rest))
    (hnode : node ∈ inner) (hbody : node.body? = some body) : BodyIn body rest := by
  induction free generalizing inner with
  | nil => exact h.trans (.inside hnode hbody .self)
  | cons entry free ih =>
    rcases h.of_cons with rfl | ⟨_, hbind, -⟩ | h
    · rcases List.mem_cons.1 hnode with rfl | hnode
      · cases hbody
      · exact ih .self hnode
    · cases hbind
    · exact ih h hnode

theorem mem_linesAll {indent : Nat} {line : Nat × Statement} :
    line ∈ linesAll indent outer ↔ ∃ node ∈ outer, line ∈ lines indent node := by
  induction outer with
  | nil => simp [linesAll]
  | cons first rest ih => simp only [linesAll, List.mem_append, ih, List.mem_cons, exists_eq_or_imp]

theorem BodyIn.lines (h : BodyIn inner outer) (indent : Nat) :
    ∃ indent', ∀ line ∈ linesAll indent' inner, line ∈ linesAll indent outer := by
  induction h generalizing indent with
  | self => exact ⟨indent, fun _ hline => hline⟩
  | @inside node body outer hnode hbody _ ih =>
    obtain ⟨indent', hlines⟩ := ih (indent + indentStep)
    refine ⟨indent', fun line hline => mem_linesAll.2 ⟨node, hnode, ?_⟩⟩
    cases node with
    | bind v => cases hbody
    | emit pieces => cases hbody
    | branch condition body =>
      cases hbody
      exact List.mem_cons_of_mem _ (hlines line hline)
    | loop v items body =>
      cases hbody
      exact List.mem_cons_of_mem _ (hlines line hline)

def Apart (body : List Node) : Prop :=
  body.IsChain fun node next => node.isEmission → next.isEmission = false

theorem Apart.cons (h : Apart rest) (hnode : node.isEmission = false) : Apart (node :: rest) := by
  refine List.IsChain.cons h fun next _ hemission => ?_
  rw [hnode] at hemission
  cases hemission

def ApartWithin (outer : List Node) : Prop := ∀ inner, BodyIn inner outer → Apart inner

theorem ApartWithin.cons (h : ApartWithin rest) (hhere : Apart (node :: rest))
    (hbody : ∀ body, node.body? = some body → ApartWithin body) : ApartWithin (node :: rest) := by
  intro inner hinner
  rcases hinner.of_cons with rfl | ⟨body, hnode, hinner⟩ | hinner
  · exact hhere
  · exact hbody body hnode inner hinner
  · exact h inner hinner

theorem apartWithin_nil : ApartWithin [] := by
  intro inner hinner
  cases hinner with
  | self => exact .nil
  | inside hnode => cases hnode

theorem ApartWithin.emit (h : ApartWithin outer)
    (hnext : ∀ next ∈ outer.head?, next.isEmission = false)
    (pieces : List Piece) : ApartWithin (.emit pieces :: outer) :=
  h.cons (List.IsChain.cons (h outer .self) fun next hmem _ => hnext next hmem) nofun

theorem ApartWithin.held (h : ApartWithin outer)
    (hnext : ∀ next ∈ outer.head?, next.isEmission = false) (d : Draft) :
    ApartWithin (d.held ++ outer) := by
  unfold Draft.held
  split
  next => exact h
  next => exact h.emit hnext _

theorem ApartWithin.block (h : ApartWithin rest) (hnode : node.isEmission = false)
    (hbody : ∀ body, node.body? = some body → ApartWithin body) (d : Draft) :
    ApartWithin (d.held ++ node :: rest) := by
  refine (h.cons ((h rest .self).cons hnode) hbody).held ?_ d
  rintro next ⟨⟩
  exact hnode

end Node

namespace Draft

theorem apartWithin_bodyNodes (scope : Scope) (d : Draft) (body : List Block) :
    Node.ApartWithin (bodyNodes scope d body) := by
  induction body using Block.forest generalizing scope d with
  | nil =>
    have hheld := Node.apartWithin_nil.held nofun d
    rwa [List.append_nil] at hheld
  | text s rest ih => exact ih scope (block scope d (.text s))
  | output e rest ih => exact ih scope (block scope d (.output e))
  | branch condition body rest ihBody ihRest =>
    rw [bodyNodes_branch]
    refine (ihRest _ _).block rfl ?_ d
    rintro inner ⟨⟩
    exact ihBody _ _
  | loop name items body rest ihBody ihRest =>
    rw [bodyNodes_loop]
    refine (ihRest _ _).block rfl ?_ d
    rintro inner ⟨⟩
    exact ihBody _ _

theorem apartWithin_compiled (hidden : Char → Bool) (body : List Block) :
    Node.ApartWithin (compiledWith hidden body).program.body := by
  have hbinds : ∀ free : Entries Nat,
      Node.ApartWithin (bindNodes free ++ bodyNodes [] entry body) := by
    intro free
    induction free with
    | nil => exact apartWithin_bodyNodes [] entry body
    | cons entry rest ih => exact ih.cons ((ih _ .self).cons rfl) nofun
  exact hbinds (ofBlocks body).free

theorem ne_emit_nil_of_compiled {hidden : Char → Bool} {body : List Block} {indent : Nat}
    {line : Nat × Statement}
    (h : line ∈ Node.linesAll indent (compiledWith hidden body).program.body) :
    line.2 ≠ .emit [] := by
  have happend := Node.linesAll_append indent (bindNodes (ofBlocks body).free)
    (bodyNodes [] entry body)
  have hmem := happend ▸ h
  rcases List.mem_append.1 hmem with hbind | hbody
  · obtain ⟨node, hnode, hline⟩ := Node.mem_linesAll.1 hbind
    obtain ⟨entry, -, rfl⟩ := List.mem_map.1 hnode
    rw [List.mem_singleton.1 hline]
    exact nofun
  · exact line_of_body (P := (· ≠ .emit []))
      (fun pieces hpieces heq => hpieces (Statement.emit.inj heq))
      (fun _ => nofun) (fun _ _ => nofun) hbody

end Draft

theorem Token.Stands.ne_empty {source : String} {t : Token} {sign : Sign} (h : t.Stands sign)
    (hmem : t ∈ tokenize source) : sign ≠ .text "" := by
  rintro rfl
  obtain ⟨kind, start, inner⟩ := t
  generalize hs : "" = s at h
  cases h with
  | text hkind =>
    cases hkind
    have hempty : inner = [] := String.ofList_injective hs.symm
    subst hempty
    have hlt : start < Token.stop ⟨.text, start, []⟩ :=
      (tokenize_split source).tiles.lt_of_mem (List.mem_map_of_mem (f := Token.span) hmem)
    exact absurd hlt (Token.stop_text start [] ▸ Nat.lt_irrefl start)

theorem exists_stands {tokens : List Token} {signs : List Sign}
    (h : List.Forall₂ Token.Stands tokens signs) {sign : Sign}
    (hmem : sign ∈ signs) : ∃ t ∈ tokens, t.Stands sign := by
  induction h with
  | nil => cases hmem
  | cons hhead _ ih =>
    rcases List.mem_cons.1 hmem with rfl | hmem
    · exact ⟨_, List.mem_cons_self, hhead⟩
    · obtain ⟨t, ht, hstands⟩ := ih hmem
      exact ⟨t, List.mem_cons_of_mem _ ht, hstands⟩

theorem Token.Stands.isOutput_iff {t : Token} {sign : Sign} (h : t.Stands sign) :
    t.isOutput ↔ sign.isOutput := by
  cases h with
  | text hkind => simp [Token.isOutput, Sign.isOutput, hkind]
  | output hkind => simp [Token.isOutput, Sign.isOutput, hkind]
  | opening hopen => simp [Token.isOutput, Sign.isOutput, hopen.kind]
  | closing hclose => simp [Token.isOutput, Sign.isOutput, hclose.kind]

/-- In the program of a template, no body at any depth has two emissions side by side, an empty
emission or an empty text, and names are looked up before all else, in no inner body. The pieces of
the emissions, in the order of the listing, are the texts and expressions of the source, in its
order. Between the same tags, too: but for its comments, the tokens of the source are one by one the
outline of the program. -/
theorem compile_batches {source : String} {c : Compiled} (h : compile source = .ok c) :
    (∀ inner, Node.BodyIn inner c.program.body → Node.Batched inner) ∧
    (∃ (binds : List Variable) (rest : List Node), c.program.body = binds.map .bind ++ rest ∧
      ∀ inner, Node.BodyIn inner rest → ∀ v, .bind v ∉ inner) ∧
    List.Forall₂ Token.Stands ((tokenize source).filter Token.isOutput)
      ((Node.pieces c.program.body).map Piece.sign) ∧
    List.Forall₂ Token.Stands ((tokenize source).filter fun t => t.kind ≠ .comment)
      (Node.outlineAll c.program.body) := by
  obtain ⟨body, hderives, rfl⟩ := compileWith_ok h
  have houtline := hderives.outline
  rw [← Draft.outlineAll_compiled Text.isHidden] at houtline
  have hpieces := List.rel_filter (R := Token.Stands) (fun _ _ hstands => hstands.isOutput_iff)
    houtline
  rw [Node.filter_outlineAll indentStep, List.filter_filter,
    List.filter_congr (q := Token.isOutput) ?_] at hpieces
  refine ⟨fun inner hinner => ?_, ?_, hpieces, houtline⟩
  · obtain ⟨indent, hlines⟩ := hinner.lines indentStep
    have hline : ∀ {pieces : List Piece}, .emit pieces ∈ inner →
        (indent, .emit pieces) ∈ Node.linesAll indentStep
          (Draft.compiledWith Text.isHidden body).program.body :=
      fun hmem => hlines _ (Node.mem_linesAll.2 ⟨_, hmem, List.mem_singleton_self _⟩)
    refine ⟨Draft.apartWithin_compiled _ body inner hinner, ?_, fun {pieces} hmem hempty => ?_⟩
    · rintro pieces hmem rfl
      exact Draft.ne_emit_nil_of_compiled (hline hmem) rfl
    · have hpiece : Piece.literal "" ∈ Node.pieces
          (Draft.compiledWith Text.isHidden body).program.body :=
        List.mem_flatMap.2 ⟨_, hline hmem, hempty⟩
      obtain ⟨t, ht, hstands⟩ := exists_stands hpieces (List.mem_map_of_mem hpiece)
      exact hstands.ne_empty (List.mem_of_mem_filter ht) rfl
  · refine ⟨(Draft.ofBlocks body).free.map fun entry => ⟨entry.1, entry.2, false⟩,
      Draft.bodyNodes [] Draft.entry body, ?_, fun inner hinner v hmem => ?_⟩
    · rw [List.map_map]
      rfl
    · obtain ⟨indent, hlines⟩ := hinner.lines indentStep
      exact Draft.ne_bind_of_body (hlines (indent, .bind v)
        (Node.mem_linesAll.2 ⟨_, hmem, List.mem_singleton_self _⟩)) v rfl
  · intro t _
    cases hkind : t.kind <;> simp [Token.isOutput, hkind]

theorem compile_batches_comment :
    ∃ c : Compiled, compile "a{# b #}{{ c }}{% if c %}d{% endif %}" = .ok c ∧
    (∀ inner, Node.BodyIn inner c.program.body → Node.Batched inner) ∧
    c.program.body = [.bind ⟨"c", 0, false⟩,
      .emit [.literal "a", .output ⟨"c", ⟨"c", 0, false⟩, [], []⟩],
      .branch ⟨"c", ⟨"c", 0, false⟩, [], []⟩ [.emit [.literal "d"]]] := by
  have htokens : tokenize "a{# b #}{{ c }}{% if c %}d{% endif %}" =
      [⟨.text, 0, ['a']⟩, ⟨.comment, 1, " b ".toList⟩,
      ⟨.expression, 8, " c ".toList⟩, ⟨.tag, 15, " if c ".toList⟩, ⟨.text, 25, ['d']⟩,
      ⟨.tag, 26, " endif ".toList⟩] := by decide +kernel
  have h : compile "a{# b #}{{ c }}{% if c %}d{% endif %}" = .ok (Draft.compiled
      [.text "a", .output ⟨"c", "c", [], []⟩, .branch ⟨"c", "c", [], []⟩ [.text "d"]]) := by
    rw [compile_eq, htokens]
    rfl
  exact ⟨_, h, (compile_batches h).1, rfl⟩

end Stencil
