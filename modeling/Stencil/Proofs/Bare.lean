import Stencil.Listing.Shown
import Stencil.Proofs.Render
import Stencil.Proofs.Runs

/-! Blocks without the texts that their expressions were read from. They compile to the same program
but for these texts, and mean the same but for the one error that tells such a text. -/

namespace Stencil

namespace Expression

theorem vars_retell (f : Variable → Variable) (e : Expression Variable) :
    (e.retell f).vars = e.vars.map f := rfl

theorem freeNames_retell (bound : List String) (e : Expression String) :
    (e.retell id).freeNames bound = e.freeNames bound := by
  simp only [freeNames, names, retell, id, List.map_id]

end Expression

theorem Piece.vars_retell (f : Variable → Variable) (p : Piece) :
    (p.retell f).vars = p.vars.map f := by
  cases p <;> rfl

namespace Node

theorem retellAll_append (f : Variable → Variable) (a b : List Node) :
    retellAll f (a ++ b) = retellAll f a ++ retellAll f b := by
  induction a with
  | nil => rfl
  | cons node rest ih => rw [List.cons_append, retellAll, ih, retellAll, List.cons_append]

theorem varsAll_retellAll (f : Variable → Variable) (nodes : List Node) :
    varsAll (retellAll f nodes) = (varsAll nodes).map f := by
  induction nodes using Node.forest with
  | nil => rfl
  | bind v rest ih =>
    rw [retellAll, retell, varsAll, varsAll, vars, vars, ih, List.map_append, List.map_singleton]
  | emit pieces rest ih =>
    have hpieces : (pieces.map (Piece.retell f)).flatMap Piece.vars =
        (pieces.flatMap Piece.vars).map f := by
      rw [List.flatMap_map, List.map_flatMap]
      exact congrArg (pieces.flatMap ·) (funext (Piece.vars_retell f))
    rw [retellAll, retell, varsAll, varsAll, vars, vars, ih, hpieces, List.map_append]
  | branch condition body rest ihBody ihRest =>
    rw [retellAll, retell, varsAll, varsAll, vars, vars, ihBody, ihRest, Expression.vars_retell,
      List.map_append, List.map_append]
  | loop v items body rest ihBody ihRest =>
    rw [retellAll, retell, varsAll, varsAll, vars, vars, ihBody, ihRest, Expression.vars_retell,
      List.map_append, List.map_append, List.map_cons]

end Node

theorem Block.freeUsesAll_bareAll (bound : List String) (body : List Block) :
    freeUsesAll bound (bareAll body) = freeUsesAll bound body := by
  induction body using Block.forest generalizing bound with
  | nil => rfl
  | text s rest ih => exact ih bound
  | output e rest ih =>
    rw [bareAll, bare, freeUsesAll, freeUsesAll, freeUses, freeUses, ih,
      Expression.freeNames_retell]
  | branch condition body rest ihBody ihRest =>
    rw [bareAll, bare, freeUsesAll, freeUsesAll, freeUses, freeUses, ihBody, ihRest,
      Expression.freeNames_retell]
  | loop name items body rest ihBody ihRest =>
    rw [bareAll, bare, freeUsesAll, freeUsesAll, freeUses, freeUses, ihBody, ihRest,
      Expression.freeNames_retell]

namespace Draft

/-- Drafts of the same numbering and the same output held back, but for the texts that expressions
were read from. -/
structure Alike (d d' : Draft) : Prop where
  free : d'.free = d.free
  slots : d'.slots = d.slots
  pieces : d'.pieces = d.pieces.map (Piece.retell id)

theorem alike_entry : Alike entry entry := ⟨rfl, rfl, rfl⟩

namespace Alike

variable {d d' : Draft}

theorem held (h : Alike d d') : d'.held = Node.retellAll id d.held := by
  unfold Draft.held
  rw [h.pieces, List.isEmpty_map, ← List.map_reverse]
  cases d.pieces.isEmpty <;> rfl

theorem hold (h : Alike d d') (piece : Piece) : Alike (d.hold piece) (d'.hold (piece.retell id)) :=
  ⟨h.free, h.slots, congrArg (piece.retell id :: ·) h.pieces⟩

theorem flush (h : Alike d d') : Alike d.flush d'.flush := by
  refine ⟨?_, ?_, ?_⟩
  · rw [flush_free, flush_free, h.free]
  · rw [flush_slots, flush_slots, h.slots]
  · rw [flush_pieces, flush_pieces, List.map_nil]

theorem resolve (h : Alike d d') (scope : Scope) (name : String) :
    (d'.resolve scope name).1 = (d.resolve scope name).1 ∧
    Alike (d.resolve scope name).2 (d'.resolve scope name).2 := by
  unfold Draft.resolve
  simp only [h.free, h.slots]
  cases scope.lookup name with
  | some slot => exact ⟨rfl, rfl, rfl, h.pieces⟩
  | none =>
    cases Entries.find? d.free name with
    | some slot => exact ⟨rfl, rfl, rfl, h.pieces⟩
    | none => exact ⟨rfl, rfl, rfl, h.pieces⟩

theorem resolveAll (h : Alike d d') (scope : Scope) (names : List String) :
    (d'.resolveAll scope names).1 = (d.resolveAll scope names).1 ∧
      Alike (d.resolveAll scope names).2 (d'.resolveAll scope names).2 := by
  induction names generalizing d d' with
  | nil => exact ⟨rfl, h⟩
  | cons name rest ih =>
    obtain ⟨hname, hafter⟩ := h.resolve scope name
    obtain ⟨hrest, hlast⟩ := ih hafter
    exact ⟨congrArg₂ List.cons hname hrest, hlast⟩

theorem expression (h : Alike d d') (scope : Scope) (e : Expression String) :
    (d'.expression scope (e.retell id)).1 = (d.expression scope e).1.retell id ∧
      Alike (d.expression scope e).2 (d'.expression scope (e.retell id)).2 := by
  obtain ⟨hhead, hafter⟩ := h.resolve scope e.head
  obtain ⟨hfilters, hlast⟩ := hafter.resolveAll scope e.filters
  simp only [Draft.expression, Expression.retell, List.map_id, id]
  exact ⟨by rw [hhead, hfilters], hlast⟩

theorem openBranch (h : Alike d d') (scope : Scope) (condition : Expression String) :
    (d'.openBranch scope (condition.retell id)).1 = (d.openBranch scope condition).1.retell id ∧
      Alike (d.openBranch scope condition).2 (d'.openBranch scope (condition.retell id)).2 := by
  obtain ⟨hcondition, hafter⟩ := h.flush.expression scope condition
  exact ⟨hcondition, hafter.free, hafter.slots, hafter.pieces⟩

theorem openLoop (h : Alike d d') (scope : Scope) (name : String) (items : Expression String) :
    (d'.openLoop scope name (items.retell id)).1 = (d.openLoop scope name items).1 ∧
      (d'.openLoop scope name (items.retell id)).2.1 = (d.openLoop scope name items).2.1.retell id ∧
      Alike (d.openLoop scope name items).2.2 (d'.openLoop scope name (items.retell id)).2.2 := by
  obtain ⟨hitems, hafter⟩ := h.flush.expression scope items
  exact ⟨hafter.slots, hitems, hafter.free, congrArg (· + 1) hafter.slots, hafter.pieces⟩

theorem closeBlock (h : Alike d d') : Alike d.closeBlock d'.closeBlock :=
  ⟨h.flush.free, h.flush.slots, h.flush.pieces⟩

theorem blocks (h : Alike d d') (scope : Scope) (body : List Block) :
    bodyNodes scope d' (Block.bareAll body) = Node.retellAll id (bodyNodes scope d body) ∧
      Alike (Draft.blocks scope d body) (Draft.blocks scope d' (Block.bareAll body)) := by
  induction body using Block.forest generalizing scope d d' with
  | nil => exact ⟨h.held, h⟩
  | text s rest ih => exact ih (h.hold (.literal s)) scope
  | output e rest ih =>
    obtain ⟨he, hafter⟩ := h.expression scope e
    have hheld := hafter.hold (.output (d.expression scope e).1)
    rw [Piece.retell, ← he] at hheld
    exact ih hheld scope
  | branch condition body rest ihBody ihRest =>
    obtain ⟨hcondition, hopened⟩ := h.openBranch scope condition
    obtain ⟨hnodes, hinner⟩ := ihBody hopened scope
    obtain ⟨hrest, hlast⟩ := ihRest hinner.closeBlock scope
    rw [Block.bareAll, Block.bare, bodyNodes_branch, bodyNodes_branch, Node.retellAll_append,
      Node.retellAll, Node.retell, h.held, hcondition, hnodes]
    exact ⟨congrArg (Node.retellAll id d.held ++ _ :: ·) hrest, hlast⟩
  | loop name items body rest ihBody ihRest =>
    obtain ⟨hslot, hitems, hopened⟩ := h.openLoop scope name items
    obtain ⟨hnodes, hinner⟩ := ihBody hopened ((name, (d.openLoop scope name items).1) :: scope)
    obtain ⟨hrest, hlast⟩ := ihRest hinner.closeBlock scope
    have hblock : block scope d' (.loop name (items.retell id) (Block.bareAll body)) =
        (Draft.blocks ((name, (d.openLoop scope name items).1) :: scope)
          (d'.openLoop scope name (items.retell id)).2.2
          (Block.bareAll body)).closeBlock := by
      rw [block_loop, hslot]
    rw [Block.bareAll, Block.bare, bodyNodes_loop, bodyNodes_loop, Node.retellAll_append,
      Node.retellAll, Node.retell,
      h.held, hslot, hitems, hnodes, Draft.blocks, Draft.blocks, hblock]
    exact ⟨congrArg (Node.retellAll id d.held ++ _ :: ·) hrest, hlast⟩

end Alike

theorem program_bareAll (hidden : Char → Bool) (body : List Block) :
    (compiledWith hidden (Block.bareAll body)).program =
      (compiledWith hidden body).program.bare := by
  obtain ⟨hnodes, hlast⟩ := alike_entry.blocks [] body
  have hfree : (ofBlocks (Block.bareAll body)).free = (ofBlocks body).free := hlast.flush.free
  have hbinds : ∀ free : Entries Nat, Node.retellAll id (bindNodes free) = bindNodes free := by
    intro free
    induction free with
    | nil => rfl
    | cons entry rest ih => exact congrArg (Node.bind ⟨entry.1, entry.2, false⟩ :: ·) ih
  have hbody : bindNodes (ofBlocks (Block.bareAll body)).free ++ bodyNodes [] entry
      (Block.bareAll body) =
      Node.retellAll id (bindNodes (ofBlocks body).free ++ bodyNodes [] entry body) := by
    rw [hfree, hnodes, Node.retellAll_append, hbinds]
  simp only [compiledWith, Program.bare, hbody, Node.varsAll_retellAll, List.map_id]

end Draft

namespace Meaning

variable {F O : Type} {m : Type → Type} [Monad m] [LawfulMonad m]

theorem told_bare {α : Type} {x : Run m α} (h : ErrorsIn RenderError.OfExpression x) :
    told RenderError.bare x = x := by
  have hplain : ∀ e : RenderError, e.OfExpression → e.bare = id e := by
    rintro e ⟨⟩ <;> rfl
  rw [h _ _ _ hplain, told_id]

variable (stage : Stage m F O) (bindings : Bindings F O)

omit [LawfulMonad m] in
theorem expression_retell (e : Expression String) :
    expression stage bindings (e.retell id) = expression stage bindings e := by
  simp only [expression, Expression.retell, List.map_id, id]

theorem expression_told (e : Expression String) :
    told RenderError.bare (expression stage bindings e) =
      expression stage bindings (e.retell id) := by
  rw [expression_retell, told_bare (ErrorsIn.expression stage bindings e)]

variable [Host F O]

theorem blocks_bareAll (body : List Block) :
    blocks stage bindings (Block.bareAll body) =
      told RenderError.bare (blocks stage bindings body) := by
  have hcons : ∀ (bindings : Bindings F O) (b : Block) (rest : List Block),
      block stage bindings b.bare = told RenderError.bare (block stage bindings b) →
      blocks stage bindings (Block.bareAll rest) =
        told RenderError.bare (blocks stage bindings rest) →
      blocks stage bindings (Block.bareAll (b :: rest)) =
        told RenderError.bare (blocks stage bindings (b :: rest)) := by
    intro bindings b rest hblock hrest
    rw [Block.bareAll, blocks, blocks, told_bind, hblock, hrest]
  induction body using Block.forest generalizing bindings with
  | nil => exact (told_pure ()).symm
  | text s rest ih =>
    exact hcons bindings (.text s) rest (told_liftM (stage.write s)).symm (ih bindings)
  | output e rest ih =>
    refine hcons bindings (.output e) rest ?_ (ih bindings)
    rw [Block.bare, block, block, told_bind, expression_told]
    exact bind_congr fun value => (told_liftM _).symm
  | branch condition body rest ihBody ihRest =>
    refine hcons bindings (.branch condition body) rest ?_ (ihRest bindings)
    rw [Block.bare, block, block, told_bind, expression_told]
    refine bind_congr fun value => ?_
    cases value.isTrue with
    | true => exact ihBody bindings
    | false => exact (told_pure ()).symm
  | loop name items body rest ihBody ihRest =>
    refine hcons bindings (.loop name items body) rest ?_ (ihRest bindings)
    rw [Block.bare, block, block, told_bind, expression_told]
    refine bind_congr fun value => ?_
    cases value.items? with
    | none =>
      symm
      exact told_throw _
    | some values =>
      have hbody : (fun item => blocks stage ((name, item) :: bindings) (Block.bareAll body)) =
          fun item => told RenderError.bare (blocks stage ((name, item) :: bindings) body) :=
        funext fun item => ihBody ((name, item) :: bindings)
      exact (congrArg values.forM hbody).trans (told_forM _ values).symm

theorem template_bareAll (body : List Block) :
    template stage (Block.bareAll body) = told RenderError.bare (template stage body) := by
  have hfree : Block.freeNames (Block.bareAll body) = Block.freeNames body :=
    congrArg Names.ofList (Block.freeUsesAll_bareAll [] body)
  rw [template, template, told_bind, told_bare (ErrorsIn.find stage _), hfree]
  exact bind_congr fun bindings => blocks_bareAll stage bindings body

theorem render_bareAll (scene : Scene F O) (body : List Block) :
    render scene (Block.bareAll body) = (render scene body).mapError RenderError.bare := by
  rw [render, render, template_bareAll, run_told_state]
  rcases (template scene.stage body).run.run "" with ⟨answer | answer, output⟩ <;> rfl

end Meaning

end Stencil
