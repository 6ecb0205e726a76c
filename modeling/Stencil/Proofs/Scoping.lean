import Stencil.Block.Names
import Stencil.Proofs.FreeNames
import Stencil.Proofs.Layers
import Stencil.Proofs.Parts
import Stencil.Source

/-! The names of a template are those of its text: a name is free when some use of it stands in no
loop that binds it, and bound when a loop binds it. A draft notes them as it goes, and their order
is that of their bytes. -/

namespace Stencil

namespace Block

variable {name bound : String} {e : Expression String} {body rest : List Block}

theorem freeIn_cons {b : Block} :
    FreeIn name (b :: rest) ↔ (∃ around, Uses name around b ∧ name ∉ around) ∨
      FreeIn name rest := by
  simp only [FreeIn, List.mem_cons, exists_eq_or_imp]

theorem boundIn_cons {b : Block} : BoundIn name (b :: rest) ↔ Binds name b ∨ BoundIn name rest := by
  simp only [BoundIn, List.mem_cons, exists_eq_or_imp]

theorem freeIn_nil : ¬FreeIn name [] := by
  rintro ⟨b, hb, -⟩
  cases hb

theorem boundIn_nil : ¬BoundIn name [] := by
  rintro ⟨b, hb, -⟩
  cases hb

theorem freeIn_text {s : String} : FreeIn name (.text s :: rest) ↔ FreeIn name rest := by
  refine freeIn_cons.trans (or_iff_right ?_)
  rintro ⟨around, h, -⟩
  cases h

theorem boundIn_text {s : String} : BoundIn name (.text s :: rest) ↔ BoundIn name rest :=
  boundIn_cons.trans (or_iff_right nofun)

theorem freeIn_output : FreeIn name (.output e :: rest) ↔ name ∈ e.names ∨ FreeIn name rest := by
  refine freeIn_cons.trans (or_congr_left ⟨?_, fun h => ⟨[], .output h, List.not_mem_nil⟩⟩)
  rintro ⟨around, ⟨h⟩, -⟩
  exact h

theorem boundIn_output : BoundIn name (.output e :: rest) ↔ BoundIn name rest :=
  boundIn_cons.trans (or_iff_right nofun)

theorem freeIn_branch :
    FreeIn name (.branch e body :: rest) ↔ (name ∈ e.names ∨ FreeIn name body) ∨
      FreeIn name rest := by
  refine freeIn_cons.trans (or_congr_left ⟨?_, ?_⟩)
  · rintro ⟨around, huse, hfree⟩
    cases huse with
    | condition h => exact .inl h
    | branch hb h => exact .inr ⟨_, hb, around, h, hfree⟩
  · rintro (h | ⟨b, hb, around, h, hfree⟩)
    · exact ⟨[], .condition h, List.not_mem_nil⟩
    · exact ⟨around, .branch hb h, hfree⟩

theorem boundIn_branch :
    BoundIn name (.branch e body :: rest) ↔ BoundIn name body ∨ BoundIn name rest := by
  refine boundIn_cons.trans (or_congr_left ⟨?_, ?_⟩)
  · rintro (_ | ⟨hb, h⟩)
    exact ⟨_, hb, h⟩
  · rintro ⟨b, hb, h⟩
    exact .branch hb h

theorem freeIn_loop : FreeIn name (.loop bound e body :: rest) ↔
    (name ∈ e.names ∨ FreeIn name body ∧ name ≠ bound) ∨ FreeIn name rest := by
  refine freeIn_cons.trans (or_congr_left ⟨?_, ?_⟩)
  · rintro ⟨around, huse, hfree⟩
    cases huse with
    | items h => exact .inl h
    | loop hb h =>
      obtain ⟨hne, hinner⟩ := not_or.1 (mt List.mem_cons.2 hfree)
      exact .inr ⟨⟨_, hb, _, h, hinner⟩, hne⟩
  · rintro (h | ⟨⟨b, hb, around, h, hinner⟩, hne⟩)
    · exact ⟨[], .items h, List.not_mem_nil⟩
    · exact ⟨bound :: around, .loop hb h, mt List.mem_cons.1 (not_or.2 ⟨hne, hinner⟩)⟩

theorem boundIn_loop : BoundIn name (.loop bound e body :: rest) ↔
    (name = bound ∨ BoundIn name body) ∨ BoundIn name rest := by
  refine boundIn_cons.trans (or_congr_left ⟨?_, ?_⟩)
  · intro hbinds
    cases hbinds with
    | here => exact .inl rfl
    | loop hb h => exact .inr ⟨_, hb, h⟩
  · rintro (rfl | ⟨b, hb, h⟩)
    · exact .here
    · exact .loop hb h

theorem mem_freeUsesAll (around : List String) :
    name ∈ freeUsesAll around body ↔ FreeIn name body ∧ name ∉ around := by
  have hexpression : ∀ (around : List String) (e : Expression String),
      name ∈ e.freeNames around ↔ name ∈ e.names ∧ name ∉ around := by
    intro around e
    simp [Expression.freeNames]
  induction body using Block.forest generalizing around with
  | nil => simp only [freeUsesAll, List.not_mem_nil, freeIn_nil, false_and]
  | text s rest ih => simp only [freeUsesAll, freeUses, List.nil_append, ih, freeIn_text]
  | output e rest ih =>
    simp only [freeUsesAll, freeUses, List.mem_append, hexpression, ih, freeIn_output, or_and_right]
  | branch condition body rest ihBody ihRest =>
    simp only [freeUsesAll, freeUses, List.mem_append, hexpression, ihBody, ihRest, freeIn_branch,
      or_and_right]
  | loop bound items body rest ihBody ihRest =>
    simp only [freeUsesAll, freeUses, List.mem_append, hexpression, ihBody, ihRest, freeIn_loop,
      List.mem_cons, not_or, or_and_right, and_assoc]

theorem BoundIn.mem_namesAll (h : BoundIn name body) : name ∈ namesAll body := by
  induction body using Block.forest with
  | nil => exact absurd h boundIn_nil
  | text s rest ih => exact ih (boundIn_text.1 h)
  | output e rest ih => exact List.mem_append_right _ (ih (boundIn_output.1 h))
  | branch condition body rest ihBody ihRest =>
    simp only [namesAll, names, List.mem_append]
    exact (boundIn_branch.1 h).imp (fun h => .inr (ihBody h)) ihRest
  | loop bound items body rest ihBody ihRest =>
    simp only [namesAll, names, List.mem_append, List.cons_append, List.mem_cons]
    rcases boundIn_loop.1 h with (rfl | h) | h
    · exact .inl rfl
    · exact .inr (.inl (.inr (ihBody h)))
    · exact .inr (.inr (ihRest h))

theorem FreeIn.mem_namesAll (h : FreeIn name body) : name ∈ namesAll body :=
  (freeUsesAll_sublist [] body).subset ((mem_freeUsesAll []).2 ⟨h, List.not_mem_nil⟩)

theorem mem_freeNames : name ∈ freeNames body ↔ FreeIn name body := by
  rw [freeNames, Names.mem_ofList, mem_freeUsesAll]
  exact and_iff_left List.not_mem_nil

end Block

namespace Draft

/-- How a draft goes on when the names with `used` are used in it, and loops bind those with
`bound`. -/
structure Notes (used bound : String → Prop) (d d' : Draft) : Prop where
  mentioned (n : String) : n ∈ d'.mentioned ↔ n ∈ d.mentioned ∨ used n ∨ bound n
  looped (n : String) : n ∈ d'.looped ↔ n ∈ d.looped ∨ bound n
  sorted_mentioned : d.mentioned.Sorted → d'.mentioned.Sorted
  sorted_looped : d.looped.Sorted → d'.looped.Sorted

variable {used bound used' bound' : String → Prop} {d d' d'' : Draft}

theorem Notes.trans (h : Notes used bound d d') (h' : Notes used' bound' d' d'') :
    Notes (fun n => used n ∨ used' n) (fun n => bound n ∨ bound' n) d d'' := by
  refine ⟨fun n => ?_, fun n => ?_, h'.sorted_mentioned ∘ h.sorted_mentioned,
    h'.sorted_looped ∘ h.sorted_looped⟩
  · rw [h'.mentioned, h.mentioned]
    tauto
  · rw [h'.looped, h.looped, or_assoc]

theorem Notes.congr (h : Notes used bound d d') (hbound : ∀ n, bound n ↔ bound' n)
    (hused : ∀ n, used n ∨ bound' n ↔ used' n ∨ bound' n) : Notes used' bound' d d' := by
  refine ⟨fun n => ?_, fun n => ?_, h.sorted_mentioned, h.sorted_looped⟩
  · rw [h.mentioned, hbound, hused]
  · rw [h.looped, hbound]

theorem notes_of_eq (hmentioned : d'.mentioned = d.mentioned) (hlooped : d'.looped = d.looped) :
    Notes (fun _ => False) (fun _ => False) d d' := by
  refine ⟨fun n => ?_, fun n => ?_, fun h => hmentioned ▸ h, fun h => hlooped ▸ h⟩
  · rw [hmentioned, or_self, or_false]
  · rw [hlooped, or_false]

theorem Notes.onward (h : Notes used bound d d') (hmentioned : d''.mentioned = d'.mentioned)
    (hlooped : d''.looped = d'.looped) : Notes used bound d d'' :=
  (h.trans (notes_of_eq hmentioned hlooped)).congr (fun _ => or_iff_left id) fun _ => by
    rw [or_false]

theorem notes_flush (d : Draft) : Notes (fun _ => False) (fun _ => False) d d.flush := by
  unfold flush
  split <;> exact notes_of_eq rfl rfl

theorem Notes.flush (h : Notes used bound d.flush d') : Notes used bound d d' :=
  ((notes_flush d).trans h).congr (fun _ => or_iff_right id) fun _ => by rw [false_or]

theorem Notes.closeBlock (h : Notes used bound d d') : Notes used bound d d'.closeBlock :=
  ((h.trans (notes_flush d')).congr (fun _ => or_iff_left id) fun _ => by rw [or_false]).onward rfl
    rfl

theorem notes_mention (d : Draft) (name : String) :
    Notes (fun n => n = name) (fun _ => False) d
      { d with mentioned := d.mentioned.insert name } := by
  refine ⟨fun n => ?_, fun n => ?_, fun h => Names.sorted_insert h name, id⟩
  · rw [Names.mem_insert, or_false, or_comm]
  · rw [or_false]

theorem notes_resolve (scope : Scope) (d : Draft) (name : String) :
    Notes (fun n => n = name) (fun _ => False) d (d.resolve scope name).2 := by
  rcases resolve_cases scope d name with ⟨slot, -, h⟩ | ⟨slot, -, -, h⟩ | ⟨-, -, h⟩ <;> rw [h]
  · exact notes_mention d name
  · exact notes_mention d name
  · exact (notes_mention d name).onward rfl rfl

theorem notes_resolveAll (scope : Scope) (d : Draft) (names : List String) :
    Notes (fun n => n ∈ names) (fun _ => False) d (d.resolveAll scope names).2 := by
  induction names generalizing d with
  | nil => exact (notes_of_eq rfl rfl).congr (fun _ => Iff.rfl) fun _ => by simp
  | cons name rest ih =>
    refine ((notes_resolve scope d name).trans (ih _)).congr (fun _ => or_self_iff) fun n => ?_
    rw [List.mem_cons]

theorem notes_expression (scope : Scope) (d : Draft) (e : Expression String) :
    Notes (fun n => n ∈ e.names) (fun _ => False) d (d.expression scope e).2 := by
  refine ((notes_resolve scope d e.head).trans (notes_resolveAll scope _ e.filters)).congr
    (fun _ => or_self_iff)
    fun n => ?_
  rw [Expression.names, List.mem_cons]

theorem notes_bindLoop (d : Draft) (name : String) :
    Notes (fun _ => False) (fun n => n = name) d (d.bindLoop name).2 := by
  refine ⟨fun n => ?_, fun n => ?_, fun h => Names.sorted_insert h name,
    fun h => Names.sorted_insert h name⟩
  · rw [false_or, or_comm]
    exact Names.mem_insert
  · rw [or_comm]
    exact Names.mem_insert

theorem notes_openBranch (scope : Scope) (d : Draft) (condition : Expression String) :
    Notes (fun n => n ∈ condition.names) (fun _ => False) d (d.openBranch scope condition).2 :=
  Notes.flush ((notes_expression scope d.flush condition).onward rfl rfl)

theorem notes_openLoop (scope : Scope) (d : Draft) (name : String) (items : Expression String) :
    Notes (fun n => n ∈ items.names) (fun n => n = name) d (d.openLoop scope name items).2.2 := by
  have h := (notes_expression scope d.flush items).trans (notes_bindLoop _ name)
  exact Notes.flush ((h.congr (fun _ => or_iff_right id) fun _ => by rw [or_false]).onward rfl rfl)

theorem notes_blocks (scope : Scope) (d : Draft) (body : List Block) :
    Notes (fun n => Block.FreeIn n body) (fun n => Block.BoundIn n body) d
      (blocks scope d body) := by
  induction body using Block.forest generalizing scope d with
  | nil =>
    refine (notes_of_eq rfl rfl).congr (fun n => ?_) fun n => ?_
    · exact iff_of_false id Block.boundIn_nil
    · exact or_congr_left (iff_of_false id Block.freeIn_nil)
  | text s rest ih =>
    have htext : Notes (fun _ => False) (fun _ => False) d (d.hold (.literal s)) :=
      notes_of_eq rfl rfl
    refine (htext.trans (ih scope _)).congr (fun n => ?_) fun n => ?_
    · rw [false_or, Block.boundIn_text]
    · rw [false_or, Block.freeIn_text]
  | output e rest ih =>
    have houtput : Notes (fun n => n ∈ e.names) (fun _ => False) d (block scope d (.output e)) :=
      (notes_expression scope d e).onward rfl rfl
    refine (houtput.trans (ih scope _)).congr (fun n => ?_) fun n => ?_
    · rw [false_or, Block.boundIn_output]
    · rw [Block.freeIn_output]
  | branch condition body rest ihBody ihRest =>
    have hbody :=
      (notes_openBranch scope d condition).trans (ihBody scope (d.openBranch scope condition).2)
    refine (hbody.closeBlock.trans (ihRest scope _)).congr (fun n => ?_) fun n => ?_
    · rw [false_or, Block.boundIn_branch]
    · rw [Block.freeIn_branch]
  | loop name items body rest ihBody ihRest =>
    have hbody := (notes_openLoop scope d name items).trans
      (ihBody ((name, (d.openLoop scope name items).1) :: scope) (d.openLoop scope name items).2.2)
    refine (hbody.closeBlock.trans (ihRest scope _)).congr (fun n => ?_) fun n => ?_
    · rw [Block.boundIn_loop]
    -- The loop's own name is mentioned as well, though it need not be free.
    · rw [Block.freeIn_loop, Block.boundIn_loop]
      tauto

theorem noted_ofBlocks (body : List Block) :
    Notes (fun n => Block.FreeIn n body) (fun n => Block.BoundIn n body) entry (ofBlocks body) := by
  have h := (notes_blocks [] entry body).trans (notes_flush (blocks [] entry body))
  exact h.congr (fun _ => or_iff_left id) fun _ => by rw [or_false]

theorem line_of_body {P : Statement → Prop} (hemit : ∀ pieces, pieces ≠ [] → P (.emit pieces))
    (hbranch : ∀ condition, P (.branch condition)) (hloop : ∀ v items, P (.loop v items))
    {scope : Scope} {d : Draft} {body : List Block} {indent : Nat} {line : Nat × Statement}
    (h : line ∈ Node.linesAll indent (bodyNodes scope d body)) : P line.2 := by
  have hheld : ∀ {indent : Nat} {d : Draft}, line ∈ Node.linesAll indent d.held → P line.2 := by
    intro indent d hline
    unfold held at hline
    split at hline
    next => cases hline
    next hpieces =>
      rw [List.mem_singleton.1 hline]
      exact hemit _ fun hnil => hpieces (List.isEmpty_iff.2 (List.reverse_eq_nil_iff.1 hnil))
  induction body using Block.forest generalizing scope d indent with
  | nil => exact hheld h
  | text s rest ih => exact ih h
  | output e rest ih => exact ih h
  | branch condition body rest ihBody ihRest =>
    rw [bodyNodes_branch, Node.linesAll_append, Node.linesAll, Node.lines] at h
    simp only [List.mem_append, List.cons_append, List.mem_cons] at h
    rcases h with h | rfl | h | h
    · exact hheld h
    · exact hbranch _
    · exact ihBody h
    · exact ihRest h
  | loop name items body rest ihBody ihRest =>
    rw [bodyNodes_loop, Node.linesAll_append, Node.linesAll, Node.lines] at h
    simp only [List.mem_append, List.cons_append, List.mem_cons] at h
    rcases h with h | rfl | h | h
    · exact hheld h
    · exact hloop _ _
    · exact ihBody h
    · exact ihRest h

theorem ne_bind_of_body {scope : Scope} {d : Draft} {body : List Block} {indent : Nat}
    {line : Nat × Statement}
    (h : line ∈ Node.linesAll indent (bodyNodes scope d body)) (v : Variable) : line.2 ≠ .bind v :=
  line_of_body (P := (· ≠ .bind v)) (fun _ _ => nofun) (fun _ => nofun) (fun _ _ => nofun) h

theorem linesAll_bindNodes {free : Entries Nat} (h : (Entries.keys free).Nodup) (indent : Nat) :
    Node.linesAll indent (bindNodes free) = (Entries.keys free).map fun name =>
      (indent, .bind ⟨name, (Entries.find? free name).getD 0, false⟩) := by
  have hall : ∀ entries : Entries Nat,
      (∀ entry ∈ entries, Entries.find? free entry.1 = some entry.2) →
      Node.linesAll indent (bindNodes entries) = (Entries.keys entries).map fun name =>
        (indent, .bind ⟨name, (Entries.find? free name).getD 0, false⟩) := by
    intro entries hentries
    induction entries with
    | nil => rfl
    | cons entry rest ih =>
      obtain ⟨hentry, hrest⟩ := List.forall_mem_cons.1 hentries
      rw [Entries.keys, List.map_cons, List.map_cons, hentry, ← Entries.keys, ← ih hrest]
      rfl
  exact hall free fun entry hentry => Entries.find?_of_mem h hentry

theorem code_binds (body : List Block) : ∃ (slot : String → Nat) (rest : List (Nat × Statement)),
    (compiled body).code = Listing.linesText Text.isHidden ((0, .define) ::
      ((Block.freeNames body).map (fun name => (indentStep, .bind ⟨name, slot name, false⟩)) ++
        rest)) ∧
    ∀ line ∈ rest, ∀ v, line.2 ≠ .bind v := by
  have hsorted := (ofBlocks_numbered body).sorted.nodup
  have hlines := Node.linesAll_append indentStep (bindNodes (ofBlocks body).free)
    (bodyNodes [] entry body)
  rw [linesAll_bindNodes hsorted, ofBlocks_keys] at hlines
  refine ⟨fun name => (Entries.find? (ofBlocks body).free name).getD 0,
    Node.linesAll indentStep (bodyNodes [] entry body) ++ [(indentStep, .finish)], ?_, ?_⟩
  · rw [compiled, code_compiled, Node.procedure, Nat.zero_add, ← List.append_assoc, ← hlines]
    rfl
  · intro line hline v
    rcases List.mem_append.1 hline with hline | hline
    · exact ne_bind_of_body hline v
    · rw [List.mem_singleton.1 hline]
      rintro ⟨⟩

end Draft

theorem ascii_of_isName {cs : List Char} (h : isName cs = true) : Source.Ascii cs := by
  intro c hc
  have hpart := Text.isNamePart_iff.1 (isNamePart_of_isName h c hc)
  simp only [Text.Letter, Text.Digit, Char.le_def, UInt32.le_iff_toNat_le] at hpart
  have hupper : 'Z'.val.toNat = 90 := rfl
  have hlower : 'z'.val.toNat = 122 := rfl
  have hdigit : '9'.val.toNat = 57 := rfl
  rcases hpart with (hpart | hpart | rfl) | hpart
  · omega
  · omega
  · decide
  · omega

theorem Source.bytes_lt {a b : List Char} (ha : Ascii a) (hb : Ascii b) (h : a < b) :
    bytes a < bytes b := by
  induction a generalizing b with
  | nil =>
    cases b with
    | nil => cases h
    | cons c b =>
      rw [bytes_cons, bytes_ascii (hb c List.mem_cons_self)]
      exact List.nil_lt_cons _ _
  | cons c a ih =>
    cases b with
    | nil => cases h
    | cons c' b =>
      obtain ⟨hc, ha⟩ := List.forall_mem_cons.1 ha
      obtain ⟨hc', hb'⟩ := List.forall_mem_cons.1 hb
      rw [bytes_cons, bytes_cons, bytes_ascii hc, bytes_ascii hc', List.singleton_append,
        List.singleton_append]
      rw [List.cons_lt_cons_iff] at h ⊢
      rcases h with h | ⟨rfl, h⟩
      · refine .inl ?_
        rw [UInt8.lt_iff_toNat_lt, toNat_ofNat_ascii hc, toNat_ofNat_ascii hc']
        exact h
      · exact .inr ⟨rfl, ih ha hb' h⟩

theorem Names.Sorted.bytes {names : Names} (h : names.Sorted)
    (hnames : ∀ name ∈ names, isName name.toList = true) :
    names.Pairwise fun a b => Source.bytes a.toList < Source.bytes b.toList := by
  refine List.Pairwise.imp_of_mem (fun {a b} ha hb hlt => ?_) h
  have hless : a < b := compareOfLessAndEq_eq_lt.1 hlt
  exact Source.bytes_lt (ascii_of_isName (hnames a ha)) (ascii_of_isName (hnames b hb)) hless

namespace Template

variable {F O : Type}

/-- The free names of a template are those with a use that stands in no loop over them, the bound
ones those of its loops, and it mentions no others; each set is listed in the order of its bytes,
and the listing looks up just the free ones, in this order, before it does anything else. -/
theorem names_lexical {source : String} {contexts : List (Context F O)} {t : Template F O}
    (h : withContexts source contexts = .ok t) :
    ∃ body, Derives (tokenize source) body ∧
      (∀ name, name ∈ t.free ↔ ∃ b ∈ body, ∃ around, Block.Uses name around b ∧ name ∉ around) ∧
      (∀ name, name ∈ t.compiled.looped ↔ ∃ b ∈ body, Block.Binds name b) ∧
      (∀ name, name ∈ t.compiled.mentioned ↔ name ∈ t.free ∨ name ∈ t.compiled.looped) ∧
      (∀ names ∈ [t.free, t.compiled.looped, t.compiled.mentioned],
        names.Pairwise fun a b => Source.bytes a.toList < Source.bytes b.toList) ∧
      ∃ (slot : String → Nat) (rest : List (Nat × Statement)),
        t.compiled.code = Listing.linesText Text.isHidden ((0, .define) ::
          (t.free.map (fun name => (indentStep, .bind ⟨name, slot name, false⟩)) ++ rest)) ∧
        ∀ line ∈ rest, ∀ v, line.2 ≠ .bind v := by
  obtain ⟨body, hbody, hcompiled, hfree⟩ := free_of_withContexts h
  obtain ⟨hderives, -⟩ := ofTokens_ok_iff.1 hbody
  have hnoted := Draft.noted_ofBlocks body
  have hlooped : t.compiled.looped = (Draft.ofBlocks body).looped := by
    rw [hcompiled]
    rfl
  have hmentioned : t.compiled.mentioned = (Draft.ofBlocks body).mentioned := by
    rw [hcompiled]
    rfl
  have hmem : ∀ name, name ∈ t.free ↔ Block.FreeIn name body := by
    intro name
    rw [hfree, Block.mem_freeNames]
  have hmemLooped : ∀ name, name ∈ t.compiled.looped ↔ Block.BoundIn name body := by
    intro name
    rw [hlooped, hnoted.looped]
    exact or_iff_right List.not_mem_nil
  have hmemMentioned : ∀ name, name ∈ t.compiled.mentioned ↔ Block.FreeIn name body ∨
      Block.BoundIn name body := by
    intro name
    rw [hmentioned, hnoted.mentioned]
    exact or_iff_right List.not_mem_nil
  have hnamed : ∀ name, Block.FreeIn name body ∨ Block.BoundIn name body →
      isName name.toList = true := by
    intro name hname
    exact hderives.names name (hname.elim Block.FreeIn.mem_namesAll Block.BoundIn.mem_namesAll)
  refine ⟨body, hderives, hmem, hmemLooped, fun name => ?_, ?_, ?_⟩
  · rw [hmemMentioned, hmem, hmemLooped]
  · refine List.forall_mem_cons.2 ⟨?_, List.forall_mem_cons.2 ⟨?_, List.forall_mem_singleton.2 ?_⟩⟩
    · rw [hfree]
      refine (Names.sorted_ofList _).bytes fun name hname => hnamed name (.inl ?_)
      exact Block.mem_freeNames.1 hname
    · refine Names.Sorted.bytes ?_ fun name hname => hnamed name (.inr ((hmemLooped name).1 hname))
      rw [hlooped]
      exact hnoted.sorted_looped List.Pairwise.nil
    · refine Names.Sorted.bytes ?_ fun name hname => hnamed name ((hmemMentioned name).1 hname)
      rw [hmentioned]
      exact hnoted.sorted_mentioned List.Pairwise.nil
  · rw [hcompiled, hfree]
    exact Draft.code_binds body

theorem names_lexical_iterable : ∃ t : Template Empty Empty,
    ofSource "{% for x in x %}{{ x|f }}{% endfor %}" = .ok t ∧ t.free = ["f", "x"] ∧
      t.compiled.looped = ["x"] ∧
      ∃ body, Derives (tokenize "{% for x in x %}{{ x|f }}{% endfor %}") body ∧
        ∃ b ∈ body, ∃ around, Block.Uses "x" around b ∧ "x" ∉ around := by
  have htokens : tokenize "{% for x in x %}{{ x|f }}{% endfor %}" =
      [⟨.tag, 0, " for x in x ".toList⟩,
      ⟨.expression, 16, " x|f ".toList⟩, ⟨.tag, 25, " endfor ".toList⟩] := by decide +kernel
  have hbody : Block.ofTokens (tokenize "{% for x in x %}{{ x|f }}{% endfor %}") =
      .ok [.loop "x" ⟨"x", "x", [], []⟩ [.output ⟨"x|f", "x", [], ["f"]⟩]] := by
    rw [htokens]
    rfl
  have h : ofSource "{% for x in x %}{{ x|f }}{% endfor %}" = .ok (⟨[], Draft.compiled
      [.loop "x" ⟨"x", "x", [], []⟩ [.output ⟨"x|f", "x", [], ["f"]⟩]]⟩ : Template Empty Empty) :=
    withContexts_of_ofTokens hbody _
  obtain ⟨body, hderives, hfree, -⟩ := names_lexical h
  have hnames :
      (⟨[], Draft.compiled [.loop "x" ⟨"x", "x", [], []⟩ [.output ⟨"x|f", "x", [], ["f"]⟩]]⟩ :
      Template Empty Empty).free = ["f", "x"] := by decide +kernel
  refine ⟨_, h, hnames, by decide +kernel, body, hderives, (hfree "x").1 ?_⟩
  rw [hnames]
  decide

end Template

end Stencil
