import Stencil.Proofs.Bare
import Stencil.Proofs.Grammar
import Stencil.Proofs.Legible

/-! The template behind a listing. The lines give back the nodes and the nodes give back the blocks,
all but the texts that expressions were read from; and the blocks give back the program with its
slots. -/

namespace Stencil

variable {hidden : Char → Bool}

namespace Expression

variable {α β γ : Type}

theorem retell_retell (f : α → β) (g : β → γ) (e : Expression α) :
    (e.retell f).retell g = e.retell (g ∘ f) := by
  simp only [retell, List.map_map, Function.comp_apply]

end Expression

theorem Piece.block_retell {f : Variable → Variable} (hf : ∀ v, (f v).name = v.name) (p : Piece) :
    (p.retell f).block = p.block := by
  have hname : Variable.name ∘ f = Variable.name := funext hf
  cases p with
  | literal s => rfl
  | output e => simp only [retell, block, Expression.retell_retell, hname]

namespace Node

theorem blocksAll_append (a b : List Node) : blocksAll (a ++ b) = blocksAll a ++ blocksAll b := by
  induction a with
  | nil => rfl
  | cons node rest ih => rw [List.cons_append, blocksAll, ih, blocksAll, List.append_assoc]

theorem blocksAll_retellAll {f : Variable → Variable} (hf : ∀ v, (f v).name = v.name)
    (nodes : List Node) :
    blocksAll (retellAll f nodes) = blocksAll nodes := by
  have hname : Variable.name ∘ f = Variable.name := funext hf
  induction nodes using Node.forest with
  | nil => rfl
  | bind v rest ih => rw [retellAll, retell, blocksAll, blocksAll, blocks, blocks, ih]
  | emit pieces rest ih =>
    have hpieces : (pieces.map (Piece.retell f)).map Piece.block = pieces.map Piece.block := by
      rw [List.map_map]
      exact List.map_congr_left fun p _ => Piece.block_retell hf p
    rw [retellAll, retell, blocksAll, blocksAll, blocks, blocks, ih, hpieces]
  | branch condition body rest ihBody ihRest =>
    rw [retellAll, retell, blocksAll, blocksAll, blocks, blocks, ihBody, ihRest,
      Expression.retell_retell, hname]
  | loop v items body rest ihBody ihRest =>
    rw [retellAll, retell, blocksAll, blocksAll, blocks, blocks, ihBody, ihRest,
      Expression.retell_retell, hname, hf]

theorem linesAll_shown (indent : Nat) (nodes : List Node) :
    (linesAll indent nodes).map lineShown = linesAll indent (retellAll Variable.shown nodes) := by
  induction nodes using Node.forest generalizing indent with
  | nil => rfl
  | bind v rest ih =>
    rw [linesAll, List.map_append, ih]
    rfl
  | emit pieces rest ih =>
    rw [linesAll, List.map_append, ih]
    rfl
  | branch condition body rest ihBody ihRest =>
    rw [linesAll, lines, List.map_append, List.map_cons, ihBody, ihRest]
    rfl
  | loop v items body rest ihBody ihRest =>
    rw [linesAll, lines, List.map_append, List.map_cons, ihBody, ihRest]
    rfl

theorem procedure_shown (base : Nat) (nodes : List Node) :
    (procedure base nodes).map lineShown = procedure base (retellAll Variable.shown nodes) := by
  rw [procedure, List.map_cons, List.map_append, linesAll_shown]
  rfl

theorem procedure_inj {base : Nat} {nodes nodes' : List Node}
    (h : procedure base nodes = procedure base nodes') :
    nodes = nodes' := by
  have hnodes := Assembly.steps_procedure (base + indentStep) 2 nodes
  rw [List.tail_eq_of_cons_eq h, Assembly.steps_procedure] at hnodes
  exact (Except.ok.inj hnodes).symm

end Node

namespace Block

theorem namesAll_append (a b : List Block) : namesAll (a ++ b) = namesAll a ++ namesAll b := by
  induction a with
  | nil => rfl
  | cons block rest ih => rw [List.cons_append, namesAll, ih, namesAll, List.append_assoc]

theorem freeUsesAll_sublist (bound : List String) (body : List Block) :
    (freeUsesAll bound body).Sublist (namesAll body) := by
  have hexpression : ∀ (bound : List String) (e : Expression String),
      (e.freeNames bound).Sublist e.names :=
    fun _ _ => List.filter_sublist
  induction body using Block.forest generalizing bound with
  | nil => exact List.Sublist.slnil
  | text s rest ih => exact ih bound
  | output e rest ih => exact (hexpression bound e).append (ih bound)
  | branch condition body rest ihBody ihRest =>
    exact ((hexpression bound condition).append (ihBody bound)).append (ihRest bound)
  | loop name items body rest ihBody ihRest =>
    exact (((hexpression bound items).append (ihBody (name :: bound))).cons name).append
      (ihRest bound)

end Block

theorem Expression.Reads.names {cs : List Char} {e : Expression String} (h : Reads cs e) :
    ∀ name ∈ e.names, isName name.toList = true := by
  obtain ⟨-, hhead, -, hfilters⟩ := h
  refine List.forall_mem_cons.2 ⟨by rwa [String.toList_ofList], ?_⟩
  induction hfilters with
  | nil => exact nofun
  | cons hbefore hafter hname hrest ih =>
    exact List.forall_mem_cons.2 ⟨by rwa [String.toList_ofList], ih⟩

theorem Derives.names {tokens : List Token} {body : List Block} (h : Derives tokens body) :
    ∀ name ∈ Block.namesAll body, isName name.toList = true := by
  induction h with
  | nil => exact nofun
  | text hkind hrest ih => exact ih
  | comment hkind hrest ih => exact ih
  | output hkind he hrest ih => exact List.forall_mem_append.2 ⟨he.names, ih⟩
  | block hopen hinside hclose hrest ihInside ihRest =>
    refine List.forall_mem_append.2 ⟨?_, ihRest⟩
    cases hopen with
    | branch hkind hwords he => exact List.forall_mem_append.2 ⟨he.names, ihInside⟩
    | loop hkind hwords hname he =>
      have hloop := List.forall_mem_cons.2 ⟨by rwa [String.toList_ofList], he.names⟩
      exact List.forall_mem_append.2 ⟨hloop, ihInside⟩

namespace Draft

theorem resolveAll_names (scope : Scope) (d : Draft) (names : List String) :
    (d.resolveAll scope names).1.map Variable.name = names := by
  induction names generalizing d with
  | nil => rfl
  | cons name rest ih => exact congrArg₂ List.cons (resolve_name scope d name) (ih _)

theorem expression_retell (scope : Scope) (d : Draft) (e : Expression String) :
    (d.expression scope e).1.retell Variable.name = e.retell id := by
  have hhead := resolve_name scope d e.head
  have hfilters := resolveAll_names scope (d.resolve scope e.head).2 e.filters
  rw [expression, Expression.retell, Expression.retell, hhead, hfilters, List.map_id]
  rfl

def heldBlocks (d : Draft) : List Block := d.pieces.reverse.map Piece.block

theorem blocksAll_held (d : Draft) : Node.blocksAll d.held = d.heldBlocks := by
  unfold held heldBlocks
  split
  next h => rw [List.isEmpty_iff.1 h, List.reverse_nil, List.map_nil, Node.blocksAll]
  next => rw [Node.blocksAll, Node.blocks, Node.blocksAll, List.append_nil]

theorem heldBlocks_hold (d : Draft) (piece : Piece) :
    (d.hold piece).heldBlocks = d.heldBlocks ++ [piece.block] := by
  rw [hold, heldBlocks, List.reverse_cons, List.map_append, List.map_singleton, heldBlocks]

theorem heldBlocks_output (scope : Scope) (d : Draft) (e : Expression String) :
    (block scope d (.output e)).heldBlocks = d.heldBlocks ++ [.output (e.retell id)] := by
  have hheld : (d.expression scope e).2.heldBlocks = d.heldBlocks := by
    rw [heldBlocks, (expression_writes scope d e).2, heldBlocks]
  rw [← hheld, ← expression_retell scope d e]
  exact heldBlocks_hold (d.expression scope e).2 (.output (d.expression scope e).1)

theorem heldBlocks_of_nil {d : Draft} (h : d.pieces = []) : d.heldBlocks = [] := by
  rw [heldBlocks, h, List.reverse_nil, List.map_nil]

theorem blocksAll_bodyNodes (scope : Scope) (d : Draft) (body : List Block) :
    Node.blocksAll (bodyNodes scope d body) = d.heldBlocks ++ Block.bareAll body := by
  induction body using Block.forest generalizing scope d with
  | nil =>
    rw [Block.bareAll, List.append_nil]
    exact blocksAll_held d
  | text s rest ih =>
    rw [bodyNodes_text, ih, block, heldBlocks_hold, List.append_assoc]
    rfl
  | output e rest ih =>
    rw [bodyNodes_output, ih, heldBlocks_output, List.append_assoc]
    rfl
  | branch condition body rest ihBody ihRest =>
    have hcondition : (d.openBranch scope condition).1.retell Variable.name = condition.retell id :=
      expression_retell scope d.flush condition
    have hafter : (block scope d (.branch condition body)).heldBlocks = [] :=
      heldBlocks_of_nil (closeBlock_pieces _)
    rw [bodyNodes_branch, Node.blocksAll_append, blocksAll_held, Node.blocksAll, Node.blocks,
      ihBody, ihRest, hcondition, hafter, heldBlocks_of_nil (openBranch_pieces scope d condition)]
    rfl
  | loop name items body rest ihBody ihRest =>
    have hitems : (d.openLoop scope name items).2.1.retell Variable.name = items.retell id :=
      expression_retell scope d.flush items
    have hafter : (block scope d (.loop name items body)).heldBlocks = [] :=
      heldBlocks_of_nil (closeBlock_pieces _)
    rw [bodyNodes_loop, Node.blocksAll_append, blocksAll_held, Node.blocksAll, Node.blocks, ihBody,
      ihRest, hitems, hafter, heldBlocks_of_nil (openLoop_pieces scope d name items)]
    rfl

theorem blocksAll_bindNodes (free : Entries Nat) : Node.blocksAll (bindNodes free) = [] := by
  induction free with
  | nil => rfl
  | cons entry rest ih => exact ih

theorem blocksAll_compiled (hidden : Char → Bool) (body : List Block) :
    Node.blocksAll (compiledWith hidden body).program.body = Block.bareAll body := by
  have happend := Node.blocksAll_append (bindNodes (ofBlocks body).free) (bodyNodes [] entry body)
  rw [blocksAll_bindNodes, blocksAll_bodyNodes] at happend
  exact happend

theorem expression_names (scope : Scope) (d : Draft) (e : Expression String) :
    (d.expression scope e).1.vars.map Variable.name = e.names :=
  congrArg₂ List.cons (resolve_name scope d e.head) (resolveAll_names scope _ e.filters)

theorem names_held (d : Draft) :
    (Node.varsAll d.held).map Variable.name = Block.namesAll d.heldBlocks := by
  have hpiece : ∀ p : Piece, p.vars.map Variable.name = p.block.names := by
    rintro (s | e) <;> rfl
  have hpieces : ∀ pieces : List Piece,
      (pieces.flatMap Piece.vars).map Variable.name = Block.namesAll (pieces.map Piece.block) := by
    intro pieces
    induction pieces with
    | nil => rfl
    | cons p rest ih =>
      rw [List.flatMap_cons, List.map_append, hpiece, ih, List.map_cons, Block.namesAll]
  unfold held heldBlocks
  split
  next h =>
    rw [List.isEmpty_iff.1 h, List.reverse_nil, List.map_nil, Node.varsAll, Block.namesAll,
      List.map_nil]
  next => rw [Node.varsAll, Node.vars, Node.varsAll, List.append_nil, hpieces]

theorem names_bodyNodes (scope : Scope) (d : Draft) (body : List Block) :
    (Node.varsAll (bodyNodes scope d body)).map Variable.name =
      Block.namesAll d.heldBlocks ++ Block.namesAll body := by
  induction body using Block.forest generalizing scope d with
  | nil =>
    rw [Block.namesAll, List.append_nil]
    exact names_held d
  | text s rest ih =>
    rw [bodyNodes_text, ih, block, heldBlocks_hold, Block.namesAll_append, List.append_assoc]
    rfl
  | output e rest ih =>
    have hnames : (e.retell id).names = e.names := congrArg (e.head :: ·) (List.map_id _)
    rw [bodyNodes_output, ih, heldBlocks_output, Block.namesAll_append, List.append_assoc,
      Block.namesAll, Block.names, hnames, Block.namesAll, List.append_nil]
    rfl
  | branch condition body rest ihBody ihRest =>
    have hcondition : (d.openBranch scope condition).1.vars.map Variable.name = condition.names :=
      expression_names scope d.flush condition
    have hafter : (block scope d (.branch condition body)).heldBlocks = [] :=
      heldBlocks_of_nil (closeBlock_pieces _)
    rw [bodyNodes_branch, Node.varsAll_append, Node.varsAll, Node.vars, List.map_append,
      List.map_append, List.map_append,
      names_held, ihBody, ihRest, hcondition, hafter,
      heldBlocks_of_nil (openBranch_pieces scope d condition)]
    rfl
  | loop name items body rest ihBody ihRest =>
    have hitems : (d.openLoop scope name items).2.1.vars.map Variable.name = items.names :=
      expression_names scope d.flush items
    have hafter : (block scope d (.loop name items body)).heldBlocks = [] :=
      heldBlocks_of_nil (closeBlock_pieces _)
    rw [bodyNodes_loop, Node.varsAll_append, Node.varsAll, Node.vars, List.map_append,
      List.map_append, List.map_append, List.map_cons, names_held, ihBody, ihRest, hitems, hafter,
      heldBlocks_of_nil (openLoop_pieces scope d name items)]
    rfl

theorem names_bindNodes (free : Entries Nat) :
    (Node.varsAll (bindNodes free)).map Variable.name = Entries.keys free := by
  induction free with
  | nil => rfl
  | cons entry rest ih => exact congrArg (entry.1 :: ·) ih

theorem names_compiled (hidden : Char → Bool) {body : List Block} {v : Variable}
    (h : v ∈ Node.varsAll (compiledWith hidden body).program.body) :
    v.name ∈ Block.namesAll body := by
  rw [compiledWith, Node.varsAll_append] at h
  rcases List.mem_append.1 h with h | h
  · have hname := List.mem_map_of_mem (f := Variable.name) h
    rw [names_bindNodes, ofBlocks_keys, Block.freeNames, Names.mem_ofList] at hname
    exact (Block.freeUsesAll_sublist [] body).subset hname
  · have hname := List.mem_map_of_mem (f := Variable.name) h
    rw [names_bodyNodes] at hname
    exact hname

theorem named_compiled (hidden : Char → Bool) {tokens : List Token} {body : List Block}
    (h : Derives tokens body) :
    ∀ line ∈ Node.procedure 0 (compiledWith hidden body).program.body, line.2.Named := by
  have hbody : ∀ line ∈ Node.linesAll indentStep (compiledWith hidden body).program.body,
      line.2.Named := by
    intro line hline v hv
    have hvars : v ∈ Node.varsAll (compiledWith hidden body).program.body := by
      rw [← Node.linesAll_vars indentStep]
      exact List.mem_flatMap.2 ⟨line, hline, hv⟩
    exact h.names v.name (names_compiled hidden hvars)
  refine List.forall_mem_cons.2 ⟨nofun,
    List.forall_mem_append.2 ⟨?_, List.forall_mem_singleton.2 nofun⟩⟩
  rwa [Nat.zero_add]

theorem code_compiled (hidden : Char → Bool) (body : List Block) : (compiledWith hidden body).code =
    Listing.linesText hidden (Node.procedure 0 (compiledWith hidden body).program.body) := by
  rw [compiledWith, Listing.textWith, procedure_lines, Node.procedure, Nat.zero_add]

end Draft

theorem compileWith_ok {source : String} {c : Compiled} (h : compileWith hidden source = .ok c) :
    ∃ body, Derives (tokenize source) body ∧ c = Draft.compiledWith hidden body := by
  rw [compileWith_eq] at h
  cases hbody : Block.ofTokens (tokenize source) with
  | error e =>
    rw [hbody] at h
    cases h
  | ok body =>
    rw [hbody] at h
    exact ⟨body, (ofTokens_ok_iff.1 hbody).1, (Except.ok.inj h).symm⟩

theorem Draft.lines_of_code {tokens : List Token} {body : List Block} (h : Derives tokens body)
    {lines : List (Nat × Statement)} (hnamed : ∀ line ∈ lines, line.2.Named)
    (htext : Listing.linesText hidden lines = (compiledWith hidden body).code) :
    lines.map lineShown = (Node.procedure 0 (compiledWith hidden body).program.body).map
      lineShown := by
  rw [code_compiled] at htext
  exact Listing.linesText_inj hnamed (named_compiled hidden h) htext

theorem Draft.bareAll_of_code {tokens tokens' : List Token} {body body' : List Block}
    (h : Derives tokens body)
    (h' : Derives tokens' body') (hcode : (compiledWith hidden body).code =
      (compiledWith hidden body').code) :
    Block.bareAll body = Block.bareAll body' := by
  have hlines := lines_of_code h' (named_compiled hidden h)
    ((code_compiled hidden body).symm.trans hcode)
  rw [Node.procedure_shown, Node.procedure_shown] at hlines
  have hblocks := congrArg Node.blocksAll (Node.procedure_inj hlines)
  rwa [Node.blocksAll_retellAll Variable.name_shown, Node.blocksAll_retellAll Variable.name_shown,
    blocksAll_compiled, blocksAll_compiled] at hblocks

namespace Template

/-- A listing tells its program. Two sources with one listing have one program, but for the texts
that expressions were read from, and render alike; and no other lines, whatever texts they quote,
are written as the listing is. -/
theorem listing_determines {source source' : String} {c c' : Compiled}
    (h : compileWith hidden source = .ok c)
    (h' : compileWith hidden source' = .ok c') (hcode : c.code = c'.code) :
    c.program.bare = c'.program.bare ∧
    (∀ lines : List (Nat × Statement), (∀ line ∈ lines, line.2.Named) →
      Listing.linesText hidden lines = c.code →
      lines.map lineShown = (Node.procedure 0 c.program.body).map lineShown) ∧
    ∀ (F O : Type) [Host F O] (context : Context F O) (values : Lookup F O)
      (resolver : Resolver F O), (render ⟨context, c⟩ values resolver).mapError RenderError.bare =
        (render ⟨context, c'⟩ values resolver).mapError RenderError.bare := by
  obtain ⟨body, hbody, rfl⟩ := compileWith_ok h
  obtain ⟨body', hbody', rfl⟩ := compileWith_ok h'
  have hblocks := Draft.bareAll_of_code hbody hbody' hcode
  refine ⟨?_, fun lines hnamed htext => Draft.lines_of_code hbody hnamed htext, ?_⟩
  · rw [← Draft.program_bareAll, ← Draft.program_bareAll, hblocks]
  · intro F O _ context values resolver
    have hrender : ∀ body, render ⟨context, Draft.compiledWith hidden body⟩ values resolver =
        Meaning.render ⟨values.over (.ofContext context), resolver⟩ body := fun body =>
      Program.render_compiled _ body
    rw [hrender, hrender, ← Meaning.render_bareAll, ← Meaning.render_bareAll, hblocks]

theorem listing_determines_blanks :
    ∃ c c' : Compiled, compileWith Text.isHidden "{{ a | up }}" = .ok c ∧
      compileWith Text.isHidden "{{a|up}}" = .ok c' ∧ c.code = c'.code ∧
      c.program.bare = c'.program.bare := by
  have htokens : tokenize "{{ a | up }}" = [⟨.expression, 0, " a | up ".toList⟩] := by
    decide +kernel
  have htokens' : tokenize "{{a|up}}" = [⟨.expression, 0, "a|up".toList⟩] := by decide +kernel
  have h : compileWith Text.isHidden "{{ a | up }}" =
      .ok (Draft.compiledWith Text.isHidden [.output ⟨"a | up", "a", [], ["up"]⟩]) := by
    rw [compileWith_eq, htokens]
    rfl
  have h' : compileWith Text.isHidden "{{a|up}}" =
      .ok (Draft.compiledWith Text.isHidden [.output ⟨"a|up", "a", [], ["up"]⟩]) := by
    rw [compileWith_eq, htokens']
    rfl
  have hcode : (Draft.compiledWith Text.isHidden [.output ⟨"a | up", "a", [], ["up"]⟩]).code =
      (Draft.compiledWith Text.isHidden [.output ⟨"a|up", "a", [], ["up"]⟩]).code := by
    rw [Draft.code_compiled, Draft.code_compiled]
    rfl
  exact ⟨_, _, h, h', hcode, (listing_determines h h' hcode).1⟩

end Template

end Stencil
