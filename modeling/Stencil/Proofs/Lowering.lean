import Stencil.Proofs.Assembly
import Stencil.Proofs.Numbering
import Stencil.Template

/-! From blocks to nodes. The lines that a draft writes are those of the nodes below, the listing
that it closes is balanced and is assembled to these nodes, and so every block tree compiles. -/

namespace Stencil

namespace Chunk

def ofLine (line : Nat × Statement) : Chunk := .line line.1 line.2

theorem linesAll_append (a b : List Chunk) : linesAll (a ++ b) = linesAll a ++ linesAll b := by
  induction a with
  | nil => rfl
  | cons chunk rest ih => simp only [List.cons_append, linesAll, ih, List.append_assoc]

theorem linesAll_ofLine (ls : List (Nat × Statement)) : linesAll (ls.map ofLine) = ls := by
  induction ls with
  | nil => rfl
  | cons line rest ih => rw [List.map_cons, linesAll, ih, ofLine, lines, List.singleton_append]

theorem checkAll_append {a : List Chunk} (h : checkAll a = .ok ()) (b : List Chunk) :
    checkAll (a ++ b) = checkAll b := by
  induction a with
  | nil => rfl
  | cons chunk rest ih =>
    rw [checkAll] at h
    rw [List.cons_append, checkAll]
    cases hchunk : check chunk with
    | error e =>
      rw [hchunk] at h
      cases h
    | ok u =>
      rw [hchunk] at h
      exact ih h

theorem checkAll_ofLine (ls : List (Nat × Statement)) : checkAll (ls.map ofLine) = .ok () := by
  induction ls with
  | nil => rfl
  | cons line rest ih => exact ih

end Chunk

namespace Listing

def extend (l : Listing) (ls : List (Nat × Statement)) : Listing :=
  { l with chunks := l.chunks ++ ls.map Chunk.ofLine }

theorem extend_nil (l : Listing) : l.extend [] = l := by
  rw [extend, List.map_nil, List.append_nil]

theorem extend_extend (l : Listing) (a b : List (Nat × Statement)) :
    (l.extend a).extend b = l.extend (a ++ b) := by
  simp only [extend, List.map_append, List.append_assoc]

theorem dedent_indent_extend (l : Listing) (ls : List (Nat × Statement)) :
    (l.indent.extend ls).dedent = l.extend ls := by
  have hle : indentStep ≤ l.margin.level + indentStep := Nat.le_add_left _ _
  simp only [dedent, extend, indent, if_pos hle, Nat.add_sub_cancel]

end Listing

namespace Draft

def held (d : Draft) : List Node := if d.pieces.isEmpty then [] else [.emit d.pieces.reverse]

mutual

def nodes (scope : Scope) (d : Draft) : Block → List Node
  | .text _ => []
  | .output _ => []
  | .branch condition body =>
    let (e, d') := d.openBranch scope condition
    d.held ++ [.branch e (nodesAll scope d' body ++ (blocks scope d' body).held)]
  | .loop name items body =>
    let (slot, e, d') := d.openLoop scope name items
    let inner := (name, slot) :: scope
    d.held ++ [.loop ⟨name, slot, true⟩ e (nodesAll inner d' body ++ (blocks inner d' body).held)]

def nodesAll (scope : Scope) (d : Draft) : List Block → List Node
  | [] => []
  | b :: rest => nodes scope d b ++ nodesAll scope (block scope d b) rest

end

/-- The nodes of a body, with the output held back at its end. -/
def bodyNodes (scope : Scope) (d : Draft) (body : List Block) : List Node :=
  nodesAll scope d body ++ (blocks scope d body).held

theorem block_branch (scope : Scope) (d : Draft) (condition : Expression String)
    (body : List Block) :
    block scope d (.branch condition body) =
      (blocks scope (d.openBranch scope condition).2 body).closeBlock := rfl

theorem block_loop (scope : Scope) (d : Draft) (name : String) (items : Expression String)
    (body : List Block) :
    block scope d (.loop name items body) =
      (blocks ((name, (d.openLoop scope name items).1) :: scope) (d.openLoop scope name items).2.2
        body).closeBlock :=
  rfl

theorem nodes_branch (scope : Scope) (d : Draft) (condition : Expression String)
    (body : List Block) :
    nodes scope d (.branch condition body) = d.held ++
      [.branch (d.openBranch scope condition).1
        (bodyNodes scope (d.openBranch scope condition).2 body)] := rfl

theorem nodes_loop (scope : Scope) (d : Draft) (name : String) (items : Expression String)
    (body : List Block) :
    nodes scope d (.loop name items body) = d.held ++
      [.loop ⟨name, (d.openLoop scope name items).1, true⟩ (d.openLoop scope name items).2.1
        (bodyNodes ((name, (d.openLoop scope name items).1) :: scope)
          (d.openLoop scope name items).2.2 body)] := rfl

theorem bodyNodes_text (scope : Scope) (d : Draft) (s : String) (rest : List Block) :
    bodyNodes scope d (.text s :: rest) = bodyNodes scope (block scope d (.text s)) rest := rfl

theorem bodyNodes_output (scope : Scope) (d : Draft) (e : Expression String) (rest : List Block) :
    bodyNodes scope d (.output e :: rest) = bodyNodes scope (block scope d (.output e)) rest := rfl

theorem bodyNodes_branch (scope : Scope) (d : Draft) (condition : Expression String)
    (body rest : List Block) :
    bodyNodes scope d (.branch condition body :: rest) =
      d.held ++ (.branch (d.openBranch scope condition).1
        (bodyNodes scope (d.openBranch scope condition).2 body) ::
        bodyNodes scope (block scope d (.branch condition body)) rest) := by
  rw [bodyNodes, nodesAll, nodes_branch, List.append_assoc, List.append_assoc]
  rfl

theorem bodyNodes_loop (scope : Scope) (d : Draft) (name : String) (items : Expression String)
    (body rest : List Block) :
    bodyNodes scope d (.loop name items body :: rest) =
      d.held ++ (.loop ⟨name, (d.openLoop scope name items).1, true⟩
        (d.openLoop scope name items).2.1
        (bodyNodes ((name, (d.openLoop scope name items).1) :: scope)
          (d.openLoop scope name items).2.2 body) ::
          bodyNodes scope (block scope d (.loop name items body)) rest) := by
  rw [bodyNodes, nodesAll, nodes_loop, List.append_assoc, List.append_assoc]
  rfl

theorem flush_listing (d : Draft) :
    d.flush.listing = d.listing.extend (Node.linesAll d.listing.margin.level d.held) := by
  unfold flush held
  split
  next => exact (Listing.extend_nil d.listing).symm
  next => rfl

theorem expression_writes (scope : Scope) (d : Draft) (e : Expression String) :
    (d.expression scope e).2.listing = d.listing ∧ (d.expression scope e).2.pieces = d.pieces := by
  have hresolve : ∀ (d : Draft) (name : String),
      (d.resolve scope name).2.listing = d.listing ∧
        (d.resolve scope name).2.pieces = d.pieces := by
    intro d name
    rcases resolve_cases scope d name with ⟨slot, -, h⟩ | ⟨slot, -, -, h⟩ | ⟨-, -, h⟩ <;> rw [h] <;>
      exact ⟨rfl, rfl⟩
  have hall : ∀ (d : Draft) (names : List String),
      (d.resolveAll scope names).2.listing = d.listing ∧
        (d.resolveAll scope names).2.pieces = d.pieces := by
    intro d names
    induction names generalizing d with
    | nil => exact ⟨rfl, rfl⟩
    | cons name rest ih =>
      obtain ⟨hlisting, hpieces⟩ := ih (d.resolve scope name).2
      exact ⟨hlisting.trans (hresolve d name).1, hpieces.trans (hresolve d name).2⟩
  obtain ⟨hlisting, hpieces⟩ := hall (d.resolve scope e.head).2 e.filters
  exact ⟨hlisting.trans (hresolve d e.head).1, hpieces.trans (hresolve d e.head).2⟩

theorem expression_listing (scope : Scope) (d : Draft) (e : Expression String) :
    (d.expression scope e).2.listing = d.listing := (expression_writes scope d e).1

@[simp] theorem openBranch_pieces (scope : Scope) (d : Draft) (condition : Expression String) :
    (d.openBranch scope condition).2.pieces = [] :=
  (expression_writes scope d.flush condition).2.trans (flush_pieces d)

@[simp] theorem openLoop_pieces (scope : Scope) (d : Draft) (name : String)
  (items : Expression String) :
    (d.openLoop scope name items).2.2.pieces = [] :=
  (expression_writes scope d.flush items).2.trans (flush_pieces d)

@[simp] theorem closeBlock_pieces (d : Draft) : d.closeBlock.pieces = [] := flush_pieces d

theorem openBranch_listing (scope : Scope) (d : Draft) (condition : Expression String) :
    (d.openBranch scope condition).2.listing =
      (d.flush.listing.line (.branch (d.openBranch scope condition).1)).indent := by
  rw [← expression_listing scope d.flush condition]
  rfl

theorem openLoop_listing (scope : Scope) (d : Draft) (name : String) (items : Expression String) :
    (d.openLoop scope name items).2.2.listing =
      (d.flush.listing.line
        (.loop ⟨name, (d.openLoop scope name items).1, true⟩
          (d.openLoop scope name items).2.1)).indent := by
  rw [← expression_listing scope d.flush items]
  rfl

theorem closeBlock_listing (d d' : Draft) (statement : Statement) (body : List Node)
    (h : d'.listing = (d.flush.listing.line statement).indent.extend
      (Node.linesAll (d.flush.listing.line statement).indent.margin.level body)) :
    d'.closeBlock.listing = d.listing.extend (Node.linesAll d.listing.margin.level d.held ++
      (d.listing.margin.level, statement) ::
        Node.linesAll (d.listing.margin.level + indentStep) (body ++ d'.held)) := by
  -- The body is written one step in, and the step is taken back at its end.
  have hlevel : (d.flush.listing.line statement).indent.margin.level =
      d.listing.margin.level + indentStep := by
    rw [flush_listing]
    rfl
  have hline : d.flush.listing.line statement = d.listing.extend
      (Node.linesAll d.listing.margin.level d.held ++ [(d.listing.margin.level, statement)]) := by
    rw [← Listing.extend_extend, ← flush_listing]
    simp only [Listing.line, Listing.extend, flush_listing, List.map_cons, List.map_nil,
      Chunk.ofLine]
  have hmargin : d'.listing.margin.level = d.listing.margin.level + indentStep := by
    rw [h, ← hlevel]
    rfl
  rw [closeBlock, dedent, flush_listing, hmargin, h, hlevel, Listing.extend_extend,
    ← Node.linesAll_append,
    Listing.dedent_indent_extend, hline, Listing.extend_extend, List.append_assoc,
    List.singleton_append]

theorem branch_listing {scope : Scope} {d : Draft} {condition : Expression String}
    {body : List Block}
    (h : (blocks scope (d.openBranch scope condition).2 body).listing =
      (d.openBranch scope condition).2.listing.extend
      (Node.linesAll (d.openBranch scope condition).2.listing.margin.level
        (nodesAll scope (d.openBranch scope condition).2 body))) :
    (block scope d (.branch condition body)).listing =
      d.listing.extend (Node.linesAll d.listing.margin.level
        (nodes scope d (.branch condition body))) := by
  rw [openBranch_listing] at h
  rw [block_branch, closeBlock_listing _ _ _ _ h, nodes_branch, ← bodyNodes, Node.linesAll_concat,
    Node.lines]

theorem loop_listing {scope inner : Scope} {d : Draft} {name : String} {items : Expression String}
    {body : List Block} (hinner : inner = (name, (d.openLoop scope name items).1) :: scope)
    (h : (blocks inner (d.openLoop scope name items).2.2 body).listing =
      (d.openLoop scope name items).2.2.listing.extend
        (Node.linesAll (d.openLoop scope name items).2.2.listing.margin.level
          (nodesAll inner (d.openLoop scope name items).2.2 body))) :
    (block scope d (.loop name items body)).listing =
      d.listing.extend (Node.linesAll d.listing.margin.level
        (nodes scope d (.loop name items body))) := by
  rw [openLoop_listing] at h
  rw [block_loop, ← hinner, closeBlock_listing _ _ _ _ h, nodes_loop, ← hinner, ← bodyNodes,
    Node.linesAll_concat, Node.lines]

theorem blocks_listing (scope : Scope) (d : Draft) (body : List Block) :
    (blocks scope d body).listing =
      d.listing.extend (Node.linesAll d.listing.margin.level (nodesAll scope d body)) := by
  -- Each block is written right after the one before it; texts and outputs write nothing yet.
  have hcons : ∀ (scope : Scope) (d : Draft) (b : Block) (rest : List Block),
      (block scope d b).listing =
        d.listing.extend (Node.linesAll d.listing.margin.level (nodes scope d b)) →
      (blocks scope (block scope d b) rest).listing = (block scope d b).listing.extend
        (Node.linesAll (block scope d b).listing.margin.level
          (nodesAll scope (block scope d b) rest)) →
      (blocks scope d (b :: rest)).listing =
        d.listing.extend (Node.linesAll d.listing.margin.level (nodesAll scope d (b :: rest))) := by
    intro scope d b rest hblock hrest
    rw [blocks, hrest, hblock, Listing.extend_extend, nodesAll, Node.linesAll_append]
    rfl
  induction body using Block.forest generalizing scope d with
  | nil => exact (Listing.extend_nil d.listing).symm
  | text s rest ih => exact hcons _ _ _ _ (Listing.extend_nil d.listing).symm (ih scope _)
  | output e rest ih =>
    refine hcons _ _ _ _ ?_ (ih scope _)
    exact (expression_listing scope d e).trans (Listing.extend_nil d.listing).symm
  | branch condition body rest ihBody ihRest =>
    exact hcons _ _ _ _ (branch_listing (ihBody _ _)) (ihRest scope _)
  | loop name items body rest ihBody ihRest =>
    exact hcons _ _ _ _ (loop_listing rfl (ihBody _ _)) (ihRest scope _)

theorem ofBlocks_listing (body : List Block) :
    (ofBlocks body).listing = entry.listing.extend
      (Node.linesAll indentStep (bodyNodes [] entry body)) := by
  have hlevel : (blocks [] entry body).listing.margin.level = indentStep := by
    rw [blocks_listing]
    rfl
  rw [ofBlocks, flush_listing, hlevel, blocks_listing, Listing.extend_extend, bodyNodes,
    Node.linesAll_append]
  rfl

def bindNodes (free : Entries Nat) : List Node :=
  free.map fun (name, slot) => .bind ⟨name, slot, false⟩

theorem bindLines_eq (free : Entries Nat) (l : Listing) :
    bindLines free l = l.extend (Node.linesAll l.margin.level (bindNodes free)) := by
  induction free generalizing l with
  | nil => exact (Listing.extend_nil l).symm
  | cons entry rest ih =>
    obtain ⟨name, slot⟩ := entry
    have hrest := ih (l.line (.bind ⟨name, slot, false⟩))
    refine hrest.trans ?_
    simp only [Listing.line, Listing.extend, bindNodes, List.map_cons, Node.linesAll, Node.lines,
      List.singleton_append, List.append_assoc, Chunk.ofLine]

def procedure (binds body : List Node) : Listing where
  margin := .at 0
  chunks := .line 0 .define :: .part (.at indentStep)
    ((Node.linesAll indentStep binds).map Chunk.ofLine) ::
    ((Node.linesAll indentStep body).map Chunk.ofLine ++ [.line indentStep .finish])

theorem procedure_check (binds body : List Node) : (procedure binds body).check = .ok () := by
  have hbinds := Chunk.checkAll_ofLine (Node.linesAll indentStep binds)
  have hbody := Chunk.checkAll_append (Chunk.checkAll_ofLine (Node.linesAll indentStep body))
    [.line indentStep .finish]
  simp only [procedure, Listing.check, Chunk.check, Margin.check, Margin.at, Chunk.checkAll, hbinds,
    hbody, if_true, Bool.false_eq_true, if_false]

theorem procedure_lines (binds body : List Node) : (procedure binds body).lines =
    (0, .define) :: (Node.linesAll indentStep (binds ++ body) ++ [(indentStep, .finish)]) := by
  simp only [procedure, Listing.lines, Chunk.linesAll, Chunk.lines, Chunk.linesAll_append,
    Chunk.linesAll_ofLine,
    Node.linesAll_append, List.singleton_append, List.append_nil, List.append_assoc]

theorem modifyAt_bindSection (ls : List (Nat × Statement)) (f : Listing → Listing) :
    (entry.listing.extend ls).modifyAt [bindSection] f =
      .ok ⟨entry.listing.margin, .line 0 .define ::
        .part (f ⟨.at indentStep, []⟩).margin (f ⟨.at indentStep, []⟩).chunks ::
          ls.map Chunk.ofLine⟩ := rfl

theorem close_ofBlocks (body : List Block) :
    (ofBlocks body).close =
      .ok (procedure (bindNodes (ofBlocks body).free) (bodyNodes [] entry body)) := by
  rw [close, ofBlocks_listing, modifyAt_bindSection, bindLines_eq]
  rfl

def compiledWith (hidden : Char → Bool) (body : List Block) : Compiled :=
  let d := ofBlocks body
  let nodes := bindNodes d.free ++ bodyNodes [] entry body
  { program := ⟨nodes, frameFor (Node.varsAll nodes)⟩
    code := (procedure (bindNodes d.free) (bodyNodes [] entry body)).textWith hidden
    free := Entries.keys d.free
    looped := d.looped
    mentioned := d.mentioned }

def compiled (body : List Block) : Compiled := compiledWith Text.isHidden body

theorem slot_lt_of_free {body : List Block} {entry : String × Nat}
    (h : entry ∈ (ofBlocks body).free) :
    entry.2 < (compiled body).program.slots := by
  have hmem : ∀ free : Entries Nat, entry ∈ free →
      ⟨entry.1, entry.2, false⟩ ∈ Node.varsAll (bindNodes free) := by
    intro free
    induction free with
    | nil => exact nofun
    | cons first rest ih =>
      intro h
      rcases List.mem_cons.1 h with rfl | h
      · exact List.mem_cons_self
      · exact List.mem_cons_of_mem _ (ih h)
  have hvar : (⟨entry.1, entry.2, false⟩ : Variable) ∈ Node.varsAll
      (compiled body).program.body := by
    rw [compiled, compiledWith, Node.varsAll_append]
    exact List.mem_append_left _ (hmem _ h)
  exact slot_lt_frameFor hvar

theorem slot_lt_of_body {body : List Block} {v : Variable}
    (h : v ∈ Node.varsAll (bodyNodes [] entry body)) :
    v.slot < (compiled body).program.slots := by
  have hvar : v ∈ Node.varsAll (compiled body).program.body := by
    rw [compiled, compiledWith, Node.varsAll_append]
    exact List.mem_append_right _ h
  exact slot_lt_frameFor hvar

theorem procedure_materialize (body : List Block) :
    (procedure (bindNodes (ofBlocks body).free) (bodyNodes [] entry body)).materialize =
      .ok (compiled body).program :=
  Listing.materialize_procedure (procedure_check _ _) (procedure_lines _ _)

theorem procedure_render (hidden : Char → Bool) (binds body : List Node) :
    (procedure binds body).renderWith hidden = .ok ((procedure binds body).textWith hidden) := by
  rw [Listing.renderWith, procedure_check]
  rfl

theorem finishWith_ofBlocks (hidden : Char → Bool) (body : List Block) :
    (ofBlocks body).finishWith hidden = .ok (compiledWith hidden body) := by
  rw [finishWith, close_ofBlocks, Except.bind, procedure_materialize, Except.bind, procedure_render]
  rfl

end Draft

theorem compileWith_eq (hidden : Char → Bool) (source : String) : compileWith hidden source =
    ((Block.ofTokens (tokenize source)).mapError .malformed).map (Draft.compiledWith hidden) := by
  unfold compileWith
  cases Block.ofTokens (tokenize source) with
  | error e => rfl
  | ok body =>
    change ((Draft.ofBlocks body).finishWith hidden).mapError CompileError.internal =
      .ok (Draft.compiledWith hidden body)
    rw [Draft.finishWith_ofBlocks]
    rfl

theorem compile_eq (source : String) : compile source =
    ((Block.ofTokens (tokenize source)).mapError .malformed).map Draft.compiled :=
      compileWith_eq Text.isHidden source

theorem Template.withContexts_ok {F O : Type} {source : String} {contexts : List (Context F O)}
    {t : Template F O} (h : withContexts source contexts = .ok t) :
    ∃ body, Block.ofTokens (tokenize source) = .ok body ∧
      t = ⟨mergeContexts contexts, Draft.compiled body⟩ := by
  rw [withContexts, compile_eq] at h
  cases hbody : Block.ofTokens (tokenize source) with
  | error e =>
    rw [hbody] at h
    cases h
  | ok body =>
    rw [hbody] at h
    cases h
    exact ⟨body, rfl, rfl⟩

theorem Template.withContexts_of_ofTokens {F O : Type} {source : String} {body : List Block}
    (h : Block.ofTokens (tokenize source) = .ok body) (contexts : List (Context F O)) :
    withContexts source contexts = .ok ⟨mergeContexts contexts, Draft.compiled body⟩ := by
  rw [withContexts, compile_eq, h]
  rfl

/-- No text makes the compiler fail inside: whatever tokens pass the reader, the section of the
binds is found, the listing is balanced, and it is both assembled and written out. -/
theorem Template.never_internal {F O : Type} (source : String) (contexts : List (Context F O)) :
    (∀ e, (ofSource source : Except CompileError (Template F O)) ≠ .error (.internal e)) ∧
    (∀ e, withContexts source contexts ≠ .error (.internal e)) ∧
    ∀ tokens, (∃ e, Block.ofTokens tokens = .error e) ∨ ∃ body listing program code,
      Block.ofTokens tokens = .ok body ∧ (Draft.ofBlocks body).close = .ok listing ∧
        listing.check = .ok () ∧
        listing.materialize = .ok program ∧ listing.render = .ok code := by
  have hnever : ∀ contexts : List (Context F O), ∀ e, withContexts source contexts ≠
      .error (.internal e) := by
    intro contexts e
    rw [withContexts, compile_eq]
    cases Block.ofTokens (tokenize source) <;> exact nofun
  refine ⟨hnever [], hnever contexts, fun tokens => ?_⟩
  cases htokens : Block.ofTokens tokens with
  | error e => exact .inl ⟨e, rfl⟩
  | ok body =>
    exact .inr ⟨body, _, _, _, rfl, Draft.close_ofBlocks body, Draft.procedure_check _ _,
      Draft.procedure_materialize body, Draft.procedure_render _ _ _⟩

end Stencil
