import Mathlib.Tactic.Common
import Stencil.Block.Renaming
import Stencil.Proofs.FreeNames
import Stencil.Proofs.Runs

/-! The names of loops do not matter. Under paired loops the bindings of two runs are never the
same, but names that refer to the same thing are bound to the same value in both; and so the runs
have the same effects, and errors that differ in the names they quote alone. -/

namespace Stencil

section

variable {loops : List (String × String)} {name name' : String}

theorem SameName.mem_iff (h : SameName loops name name') :
    name ∈ loops.map Prod.fst ↔ name' ∈ loops.map Prod.snd := by
  induction h with
  | free name => exact Iff.rfl
  | here loops name name' => exact iff_of_true List.mem_cons_self List.mem_cons_self
  | outer h h' _ ih =>
    rw [List.map_cons, List.map_cons, List.mem_cons, List.mem_cons, or_iff_right h, or_iff_right h']
    exact ih

theorem SameName.eq_of_free (h : SameName loops name name') (hfree : name ∉ loops.map Prod.fst) :
    name = name' := by
  induction h with
  | free name => rfl
  | here loops name name' => exact absurd List.mem_cons_self hfree
  | outer _ _ _ ih => exact ih fun hmem => hfree (List.mem_cons_of_mem _ hmem)

theorem filter_renamed {names names' : List String}
    (h : List.Forall₂ (SameName loops) names names') :
    (names.filter fun name => !(loops.map Prod.fst).contains name) =
      names'.filter fun name => !(loops.map Prod.snd).contains name := by
  induction h with
  | nil => rfl
  | @cons name name' rest rest' hname _ ih =>
    have hcontains : (loops.map Prod.fst).contains name = (loops.map Prod.snd).contains name' := by
      rw [Bool.eq_iff_iff, List.contains_iff_mem, List.contains_iff_mem]
      exact hname.mem_iff
    rw [List.filter_cons, List.filter_cons, hcontains, ih]
    cases hbound : (loops.map Prod.snd).contains name' with
    | true => rfl
    | false =>
      have hfree : name ∉ loops.map Prod.fst := by
        rw [← List.contains_iff_mem, hcontains, hbound]
        exact Bool.false_ne_true
      rw [hname.eq_of_free hfree]

theorem Expression.Renamed.names {e e' : Expression String} (h : e.Renamed loops e') :
    List.Forall₂ (SameName loops) e.names e'.names := .cons h.head h.filters

theorem Block.Renamed.freeUses {body body' : List Block} (h : Renamed loops body body') :
    freeUsesAll (loops.map Prod.fst) body = freeUsesAll (loops.map Prod.snd) body' := by
  induction h with
  | nil loops => rfl
  | text s _ ih => exact ih
  | output h _ ih =>
    rw [freeUsesAll, freeUsesAll, Block.freeUses, Block.freeUses, Expression.freeNames,
      Expression.freeNames, filter_renamed h.names, ih]
  | branch h _ _ ihBody ihRest =>
    rw [freeUsesAll, freeUsesAll, Block.freeUses, Block.freeUses, Expression.freeNames,
      Expression.freeNames, filter_renamed h.names, ihBody, ihRest]
  | loop h _ _ ihBody ihRest =>
    rw [freeUsesAll, freeUsesAll, Block.freeUses, Block.freeUses, Expression.freeNames,
      Expression.freeNames, filter_renamed h.names, ihRest]
    exact congrArg (fun uses => _ ++ uses ++ _) ihBody

theorem Block.Renamed.freeNames {body body' : List Block} (h : Renamed [] body body') :
    Block.freeNames body = Block.freeNames body' := congrArg Names.ofList h.freeUses

end

namespace Meaning

variable {F O : Type} {loops : List (String × String)} {bindings bindings' : Bindings F O}

/-- Names that refer to the same thing under the paired loops have the same value. -/
def Alike (loops : List (String × String)) (bindings bindings' : Bindings F O) : Prop :=
  ∀ name name', SameName loops name name' → bindings.lookup name = bindings'.lookup name'

theorem Alike.refl (bindings : Bindings F O) : Alike [] bindings bindings := by
  rintro name name' ⟨⟩
  rfl

theorem Alike.cons (h : Alike loops bindings bindings') (name name' : String) (item : Value F O) :
    Alike ((name, name') :: loops) ((name, item) :: bindings) ((name', item) :: bindings') := by
  intro used used' hsame
  cases hsame with
  | here => rw [List.lookup_cons_self, List.lookup_cons_self]
  | outer hne hne' hsame =>
    rw [List.lookup_cons, List.lookup_cons, beq_false_of_ne hne, beq_false_of_ne hne']
    exact h _ _ hsame

theorem Alike.value {name name' : String} (h : Alike loops bindings bindings')
    (hsame : SameName loops name name') :
    (bindings.value name).mapError RenderError.nameless =
      (bindings'.value name').mapError RenderError.nameless := by
  rw [Bindings.value, Bindings.value, h name name' hsame]
  cases bindings'.lookup name' <;> rfl

variable {m : Type → Type} [Monad m] [LawfulMonad m]

theorem told_throw_congr {α : Type} {e e' : RenderError} (h : e.nameless = e'.nameless) :
    told RenderError.nameless (throw e : Run m α) = told RenderError.nameless (throw e') := by
  rw [told_throw, told_throw, h]

variable (stage : Stage m F O)

theorem told_follow (taken taken' : List String) (value : Value F O) (path : List String) :
    told RenderError.nameless (follow stage taken value path) =
      told RenderError.nameless (follow stage taken' value path) := by
  induction path generalizing taken taken' value with
  | nil => rfl
  | cons segment rest ih =>
    rw [follow, follow, told_bind, told_bind]
    refine bind_congr fun found => ?_
    cases found with
    | none => exact told_throw_congr rfl
    | some value => exact ih _ _ value

theorem told_filtered (h : Alike loops bindings bindings') {names names' : List String}
    (hnames : List.Forall₂ (SameName loops) names names') (value : Value F O) :
    told RenderError.nameless (filtered stage bindings value names) =
      told RenderError.nameless (filtered stage bindings' value names') := by
  induction hnames generalizing value with
  | nil => rfl
  | cons hname _ ih =>
    rw [filtered, filtered, told_bind, told_bind, told_except, told_except, h.value hname]
    refine bind_congr fun callee => ?_
    cases callee.filter? with
    | none => exact told_throw_congr rfl
    | some filter =>
      simp only [told_bind]
      refine bind_congr fun answer => ?_
      cases answer with
      | ok value => exact ih value
      | error cause => exact told_throw_congr rfl

theorem told_expression (h : Alike loops bindings bindings') {e e' : Expression String}
    (he : e.Renamed loops e') :
    told RenderError.nameless (expression stage bindings e) =
      told RenderError.nameless (expression stage bindings' e') := by
  simp only [expression, told_bind, told_except, h.value he.head, he.path]
  refine bind_congr fun head => ?_
  rw [told_follow stage [e.head] [e'.head]]
  exact bind_congr fun value => told_filtered stage h he.filters value

variable [Host F O]

theorem told_blocks {body body' : List Block} (h : Alike loops bindings bindings')
    (hbody : Block.Renamed loops body body') :
    told RenderError.nameless (blocks stage bindings body) =
      told RenderError.nameless (blocks stage bindings' body') := by
  induction hbody generalizing bindings bindings' with
  | nil loops => rfl
  | text s _ ih =>
    simp only [blocks, told_bind, ih h]
    rfl
  | output he _ ih => simp only [blocks, block, told_bind, told_expression stage h he, ih h]
  | branch he _ _ ihBody ihRest =>
    simp only [blocks, block, told_bind, told_expression stage h he, ihRest h]
    refine congrArg (· >>= _) (bind_congr fun value => ?_)
    cases value.isTrue with
    | true => exact ihBody h
    | false => rfl
  | loop he _ _ ihBody ihRest =>
    simp only [blocks, block, told_bind, told_expression stage h he, ihRest h]
    refine congrArg (· >>= _) (bind_congr fun value => ?_)
    cases value.items? with
    | none => exact told_throw_congr rfl
    | some values =>
      simp only [told_forM]
      exact congrArg (List.forM values) (funext fun item => ihBody (h.cons _ _ item))

theorem told_template {body body' : List Block} (h : Block.Renamed [] body body') :
    told RenderError.nameless (template stage body) =
      told RenderError.nameless (template stage body') := by
  rw [template, template, told_bind, told_bind, h.freeNames]
  exact bind_congr fun bindings => told_blocks stage (.refl bindings) h

end Meaning

theorem mapError_eq_cases {ε δ α : Type} {f : ε → δ} {x y : Except ε α}
    (h : x.mapError f = y.mapError f) :
    (∃ a, x = .ok a ∧ y = .ok a) ∨ ∃ e e', x = .error e ∧ y = .error e' ∧ f e = f e' := by
  cases x with
  | ok a =>
    cases y with
    | ok a' => exact .inl ⟨a, rfl, congrArg _ (Except.ok.inj h).symm⟩
    | error e => cases h
  | error e =>
    cases y with
    | ok a => cases h
    | error e' => exact .inr ⟨e, e', rfl, rfl, Except.error.inj h⟩

namespace Template

variable {F O : Type} [Host F O]

/-- The names of loops do not matter. Of two texts whose blocks are alike but for these, both are
templates over any base contexts, with the same free names; and with any values and resolver both
render to the same text, or else both end in an error of the same kind, which says the same but for
the names and expressions that it quotes. -/
theorem renaming_invisible {source source' : String} {body body' : List Block}
    (hbody : Block.ofTokens (tokenize source) = .ok body)
    (hbody' : Block.ofTokens (tokenize source') = .ok body')
    (hrenamed : Block.Renamed [] body body') (contexts : List (Context F O)) :
    ∃ t t', withContexts source contexts = .ok t ∧ withContexts source' contexts = .ok t' ∧
      t.free = t'.free ∧
      ∀ values resolver,
        (∃ out, t.render values resolver = .ok out ∧ t'.render values resolver = .ok out) ∨
        ∃ e e', t.render values resolver = .error e ∧ t'.render values resolver = .error e' ∧
          e.nameless = e'.nameless := by
  refine ⟨_, _, withContexts_of_ofTokens hbody contexts, withContexts_of_ofTokens hbody' contexts,
    ?_, fun values resolver => mapError_eq_cases ?_⟩
  · calc (Draft.compiled body).free = Block.freeNames body := Draft.ofBlocks_keys body
      _ = Block.freeNames body' := hrenamed.freeNames
      _ = (Draft.compiled body').free := (Draft.ofBlocks_keys body').symm
  · rw [render, render, Program.render_compiled, Program.render_compiled]
    exact Meaning.render_congr (Meaning.told_template _ hrenamed)

/-- Loops over what their own names mean outside them, one in the other, against loops of other
names. An item that is no filter ends both renders, each with its own name for the item. -/
theorem renaming_invisible_nested : ∃ t t' : Template Empty Empty,
    ofSource "{% for x in x %}{% for x in x %}{{ x|x }}{% endfor %}{% endfor %}" = .ok t ∧
      ofSource "{% for y in x %}{% for z in y %}{{ z|z }}{% endfor %}{% endfor %}" = .ok t' ∧
      t.free = t'.free ∧
      t.render (fun _ => some (.list [.list [.none]])) .dots = .error (.notCallable "x") ∧
      ∃ e, t'.render (fun _ => some (.list [.list [.none]])) .dots = .error e ∧
        e.nameless = .notCallable "" := by
  have htokens : tokenize "{% for x in x %}{% for x in x %}{{ x|x }}{% endfor %}{% endfor %}" =
      [⟨.tag, 0, " for x in x ".toList⟩, ⟨.tag, 16, " for x in x ".toList⟩,
        ⟨.expression, 32, " x|x ".toList⟩,
        ⟨.tag, 41, " endfor ".toList⟩, ⟨.tag, 53, " endfor ".toList⟩] := by decide +kernel
  have htokens' : tokenize "{% for y in x %}{% for z in y %}{{ z|z }}{% endfor %}{% endfor %}" =
      [⟨.tag, 0, " for y in x ".toList⟩, ⟨.tag, 16, " for z in y ".toList⟩,
        ⟨.expression, 32, " z|z ".toList⟩,
        ⟨.tag, 41, " endfor ".toList⟩, ⟨.tag, 53, " endfor ".toList⟩] := by decide +kernel
  have hbody :
      Block.ofTokens
        (tokenize "{% for x in x %}{% for x in x %}{{ x|x }}{% endfor %}{% endfor %}") =
      .ok [.loop "x" ⟨"x", "x", [], []⟩
        [.loop "x" ⟨"x", "x", [], []⟩ [.output ⟨"x|x", "x", [], ["x"]⟩]]] := by
    rw [htokens]
    rfl
  have hbody' :
      Block.ofTokens
        (tokenize "{% for y in x %}{% for z in y %}{{ z|z }}{% endfor %}{% endfor %}") =
      .ok [.loop "y" ⟨"x", "x", [], []⟩
        [.loop "z" ⟨"y", "y", [], []⟩ [.output ⟨"z|z", "z", [], ["z"]⟩]]] := by
    rw [htokens']
    rfl
  have hitems : Expression.Renamed [] ⟨"x", "x", [], []⟩ ⟨"x", "x", [], []⟩ :=
    ⟨.free "x", rfl, .nil⟩
  have hinner : Expression.Renamed [("x", "y")] ⟨"x", "x", [], []⟩ ⟨"y", "y", [], []⟩ :=
    ⟨.here _ _ _, rfl, .nil⟩
  have houtput : Expression.Renamed [("x", "z"), ("x", "y")] ⟨"x|x", "x", [], ["x"]⟩
      ⟨"z|z", "z", [], ["z"]⟩ :=
    ⟨.here _ _ _, rfl, .cons (.here _ _ _) .nil⟩
  obtain ⟨t, t', ht, ht', hfree, hrenders⟩ := renaming_invisible hbody hbody'
    (.loop hitems (.loop hinner (.output houtput (.nil _)) (.nil _)) (.nil _))
    ([] : List (Context Empty Empty))
  obtain ⟨body, hparsed, rfl⟩ := withContexts_ok ht
  cases hbody.symm.trans hparsed
  refine ⟨_, t', ht, ht', hfree, by decide +kernel, ?_⟩
  rcases hrenders (fun _ => some (.list [.list [.none]])) .dots with ⟨out, hout, -⟩ |
    ⟨e, e', he, he', hsame⟩
  · cases hout
  · cases he
    exact ⟨e', he', hsame.symm⟩

end Template

end Stencil
