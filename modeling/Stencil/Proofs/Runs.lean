import Stencil.Proofs.Simulation

/-! Errors of runs. A run may be told with its errors put in another way, and what blocks mean can
end in a few errors only: none of them names a slot or tells of a refused write. -/

namespace Stencil

variable {F O : Type} {m : Type → Type} [Monad m] {ε α β : Type}

def told (f : RenderError → ε) (x : Run m α) : ExceptT ε m α := ExceptT.adapt f x

theorem run_told (f : RenderError → ε) (x : Run m α) :
    (told f x).run = Except.mapError f <$> x.run := rfl

theorem run_told_state {σ : Type} (f : RenderError → ε) (x : Run (StateM σ) α) (s : σ) :
    (told f x).run.run s = ((x.run.run s).1.mapError f, (x.run.run s).2) := rfl

variable [LawfulMonad m] {f : RenderError → ε}

theorem told_id (x : Run m α) : told id x = x := by
  apply ExceptT.ext
  have hid : (Except.mapError id : Except RenderError α → Except RenderError α) = id := by
    funext answer
    cases answer <;> rfl
  rw [run_told, hid, id_map]

theorem told_pure (a : α) : told f (pure a : Run m α) = pure a := by
  apply ExceptT.ext
  rw [run_told, ExceptT.run_pure, ExceptT.run_pure, map_pure]
  rfl

theorem told_throw (e : RenderError) : told f (throw e : Run m α) = throw (f e) := by
  apply ExceptT.ext
  rw [run_told, ExceptT.run_throw, ExceptT.run_throw, map_pure]
  rfl

theorem told_liftM (x : m α) : told f (liftM x : Run m α) = liftM x := by
  apply ExceptT.ext
  rw [run_told]
  change Except.mapError f <$> Except.ok <$> x = Except.ok <$> x
  rw [← comp_map]
  rfl

theorem told_except (x : Except RenderError α) :
    told f (liftM x : Run m α) = (liftM (x.mapError f) : ExceptT ε m α) := by
  cases x with
  | ok a => exact told_pure a
  | error e => exact told_throw e

theorem told_bind (x : Run m α) (k : α → Run m β) :
    told f (x >>= k) = told f x >>= fun a => told f (k a) := by
  apply ExceptT.ext
  rw [run_told, ExceptT.run_bind, ExceptT.run_bind, run_told, map_bind, bind_map_left]
  refine bind_congr fun answer => ?_
  cases answer with
  | ok a => rfl
  | error e => exact map_pure _ _

theorem told_forM (said : α → Run m Unit) (as : List α) :
    told f (as.forM said) = as.forM fun a => told f (said a) := by
  induction as with
  | nil => exact told_pure ()
  | cons a rest ih =>
    have hrest := told_bind (f := f) (said a) fun _ => rest.forM said
    rw [ih] at hrest
    exact hrest

/-- All errors of the run satisfy `P`: ways to tell errors that agree on those agree on the run. -/
def ErrorsIn (P : RenderError → Prop) (x : Run m α) : Prop :=
  ∀ (ε : Type) (f g : RenderError → ε), (∀ e, P e → f e = g e) → told f x = told g x

inductive RenderError.OfExpression : RenderError → Prop
  | missingVariable (name : String) : OfExpression (.missingVariable name)
  | unresolved (path segment : String) : OfExpression (.unresolved path segment)
  | notCallable (name : String) : OfExpression (.notCallable name)
  | filterFailed (name : String) (cause : FilterFault) : OfExpression (.filterFailed name cause)

inductive RenderError.OfTemplate : RenderError → Prop
  | expression {e : RenderError} (h : e.OfExpression) : OfTemplate e
  | notIterable (expression kind : String) : OfTemplate (.notIterable expression kind)

namespace ErrorsIn

variable {P Q : RenderError → Prop}

omit [LawfulMonad m] in
theorem mono {x : Run m α} (h : ErrorsIn P x) (hPQ : ∀ e, P e → Q e) : ErrorsIn Q x :=
  fun ε f g hfg => h ε f g fun e he => hfg e (hPQ e he)

theorem pure (a : α) : ErrorsIn P (Pure.pure a : Run m α) :=
  fun _ _ _ _ => (told_pure a).trans (told_pure a).symm

theorem throw {e : RenderError} (h : P e) : ErrorsIn P (throw e : Run m α) := by
  intro ε f g hfg
  rw [told_throw, told_throw, hfg e h]

theorem liftM (x : m α) : ErrorsIn P (liftM x : Run m α) :=
  fun _ _ _ _ => (told_liftM x).trans (told_liftM x).symm

theorem bind {x : Run m α} {k : α → Run m β} (h : ErrorsIn P x) (hk : ∀ a, ErrorsIn P (k a)) :
    ErrorsIn P (x >>= k) := by
  intro ε f g hfg
  rw [told_bind, told_bind, h ε f g hfg]
  exact bind_congr fun a => hk a ε f g hfg

theorem forM {said : α → Run m Unit} (h : ∀ a, ErrorsIn P (said a)) (as : List α) :
    ErrorsIn P (as.forM said) := by
  induction as with
  | nil => exact pure ()
  | cons a rest ih => exact (h a).bind fun _ => ih

theorem map {x : Run m α} (h : ErrorsIn P x) (k : α → β) : ErrorsIn P (k <$> x) := by
  rw [← bind_pure_comp]
  exact h.bind fun a => pure (k a)

theorem foldlM {said : β → α → Run m β} (h : ∀ b a, ErrorsIn P (said b a)) (as : List α) (b : β) :
    ErrorsIn P (as.foldlM said b) := by
  induction as generalizing b with
  | nil => exact pure b
  | cons a rest ih =>
    rw [List.foldlM_cons]
    exact (h b a).bind ih

theorem of_run {σ : Type} {x : Run (StateM σ) α} (h : ErrorsIn P x) {s s' : σ} {e : RenderError}
    (hrun : x.run.run s = (.error e, s')) : P e := by
  have htold := congrArg (fun y : ExceptT Prop (StateM σ) α => (y.run.run s).1)
    (h Prop P (fun _ => True) fun _ he => eq_true he)
  simp only [run_told_state, hrun] at htold
  exact of_eq_true (Except.error.inj htold)

open RenderError (OfExpression OfTemplate)

variable (stage : Stage m F O) (bindings : Meaning.Bindings F O)

theorem value (name : String) :
    ErrorsIn OfExpression (MonadLiftT.monadLift (bindings.value name) : Run m (Value F O)) := by
  rw [Meaning.Bindings.value]
  cases bindings.lookup name with
  | none => exact throw (.missingVariable name)
  | some value => exact pure value

theorem follow (taken : List String) (value : Value F O) (path : List String) :
    ErrorsIn OfExpression (Meaning.follow stage taken value path) := by
  induction path generalizing taken value with
  | nil => exact pure value
  | cons segment rest ih =>
    refine (liftM (stage.resolve value segment)).bind fun found => ?_
    cases found with
    | none => exact throw (.unresolved _ segment)
    | some value => exact ih _ value

theorem filtered (value : Value F O) (names : List String) :
    ErrorsIn OfExpression (Meaning.filtered stage bindings value names) := by
  induction names generalizing value with
  | nil => exact pure value
  | cons name rest ih =>
    refine (ErrorsIn.value bindings name).bind fun callee => ?_
    cases callee.filter? with
    | none => exact throw (.notCallable name)
    | some filter =>
      refine (liftM (stage.call filter value)).bind fun answer => ?_
      cases answer with
      | ok value => exact ih value
      | error cause => exact throw (.filterFailed name cause)

theorem expression (e : Expression String) :
    ErrorsIn OfExpression (Meaning.expression stage bindings e) :=
  (value bindings e.head).bind fun head =>
    (follow stage [e.head] head e.path).bind fun value => filtered stage bindings value e.filters

theorem find (names : List String) : ErrorsIn OfExpression (Meaning.find stage names) := by
  induction names with
  | nil => exact pure []
  | cons name rest ih =>
    refine (liftM (stage.lookup name)).bind fun found => ?_
    cases found with
    | none => exact throw (.missingVariable name)
    | some value => exact ih.bind fun bindings => pure _

variable [Host F O]

theorem blocks (body : List Block) : ErrorsIn OfTemplate (Meaning.blocks stage bindings body) := by
  have hexpression : ∀ (bindings : Meaning.Bindings F O) (e : Expression String),
      ErrorsIn OfTemplate (Meaning.expression stage bindings e) := fun bindings e =>
    (expression stage bindings e).mono fun _ => .expression
  induction body using Block.forest generalizing bindings with
  | nil => exact pure ()
  | text s rest ih => exact (liftM (stage.write s)).bind fun _ => ih bindings
  | output e rest ih =>
    refine bind ?_ fun _ => ih bindings
    exact (hexpression bindings e).bind fun value => liftM (stage.write value.text)
  | branch condition body rest ihBody ihRest =>
    refine bind ?_ fun _ => ihRest bindings
    refine (hexpression bindings condition).bind fun value => ?_
    cases value.isTrue with
    | true => exact ihBody bindings
    | false => exact pure ()
  | loop name items body rest ihBody ihRest =>
    refine bind ?_ fun _ => ihRest bindings
    refine (hexpression bindings items).bind fun value => ?_
    cases value.items? with
    | none => exact throw (.notIterable items.source value.kind)
    | some values => exact forM (fun item => ihBody ((name, item) :: bindings)) values

theorem template (body : List Block) : ErrorsIn OfTemplate (Meaning.template stage body) :=
  ((find stage (Block.freeNames body)).mono fun _ => .expression).bind fun bindings =>
    blocks stage bindings body

end ErrorsIn

variable [Host F O]

theorem Meaning.render_congr {g : RenderError → ε} {scene : Scene F O} {body body' : List Block}
    (h : told f (template scene.stage body) = told g (template scene.stage body')) :
    (render scene body).mapError f = (render scene body').mapError g := by
  have hrun := congrArg (fun x : ExceptT ε (StateM String) Unit => x.run.run "") h
  simp only [run_told_state] at hrun
  rw [render, render]
  revert hrun
  rcases (template scene.stage body).run.run "" with ⟨answer | answer, output⟩ <;>
    rcases (template scene.stage body').run.run "" with ⟨answer' | answer', output'⟩ <;> intro hrun
  · exact congrArg Except.error (Except.error.inj (congrArg Prod.fst hrun))
  · cases congrArg Prod.fst hrun
  · cases congrArg Prod.fst hrun
  · exact congrArg Except.ok (congrArg Prod.snd hrun)

theorem Meaning.render_told {g : RenderError → ε} (h : ∀ e : RenderError, e.OfTemplate → f e = g e)
    (scene : Scene F O) (body : List Block) :
    (render scene body).mapError f = (render scene body).mapError g :=
  render_congr (ErrorsIn.template scene.stage body ε f g h)

theorem Meaning.render_error {scene : Scene F O} {body : List Block} {e : RenderError}
    (h : render scene body = .error e) : e.OfTemplate := by
  have htold := render_told (f := fun e => e.OfTemplate) (g := fun _ => True)
    (fun e he => eq_true he) scene body
  rw [h] at htold
  exact of_eq_true (Except.error.inj htold)

end Stencil
