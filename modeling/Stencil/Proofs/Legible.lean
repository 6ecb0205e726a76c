import Stencil.Listing.Shown
import Stencil.Proofs.Expressions
import Stencil.Proofs.Quoting

/-! A listing is read in one way only. Each part of a statement ends where what comes after it
begins, no two kinds of statement start alike, and so the lines of a listing are told by its text,
but for what it does not show. -/

namespace Stencil

variable {hidden : Char → Bool}

namespace Variable

theorem toList_text (v : Variable) : v.text.toList =
    if v.bound then 'l' :: (Nat.toDigits 10 v.slot ++ '_' :: v.name.toList)
        else 'c' :: '_' :: v.name.toList := by
  unfold text
  split <;> simp

theorem isNamePart_text {v : Variable} (h : isName v.name.toList = true) :
    ∀ c ∈ v.text.toList, isNamePart c = true := by
  have hname := isNamePart_of_isName h
  have hdigits : ∀ c ∈ Nat.toDigits 10 v.slot, isNamePart c = true := by
    intro c hc
    have hdigit : c.isDigit = true := Nat.isDigit_of_mem_toDigits (by decide) (by decide) hc
    simp [isNamePart, Char.isAlphanum, hdigit]
  rw [toList_text]
  split
  · refine List.forall_mem_cons.2 ⟨by decide, fun c hc => ?_⟩
    rcases List.mem_append.1 hc with hc | hc
    · exact hdigits c hc
    · exact (List.forall_mem_cons.2 ⟨by decide, hname⟩) c hc
  · exact List.forall_mem_cons.2 ⟨by decide, List.forall_mem_cons.2 ⟨by decide, hname⟩⟩

theorem shown_of_text {v v' : Variable} (h : v.text.toList = v'.text.toList) :
    v.shown = v'.shown := by
  obtain ⟨name, slot, bound⟩ := v
  obtain ⟨name', slot', bound'⟩ := v'
  rw [toList_text, toList_text] at h
  cases bound <;> cases bound'
  · obtain rfl : name = name' := by simpa [String.toList_inj] using h
    rfl
  · simp at h
  · simp at h
  · -- The slot ends at the first underscore.
    have htail : Nat.toDigits 10 slot ++ '_' :: name.toList =
        Nat.toDigits 10 slot' ++ '_' :: name'.toList := by
      simpa using h
    have hdigit : ∀ n, ∀ c ∈ Nat.toDigits 10 n, c.isDigit = true := fun n c hc =>
      Nat.isDigit_of_mem_toDigits (by decide) (by decide) hc
    obtain ⟨hslot, -, hname⟩ := run_inj (hdigit slot) (hdigit slot') (by decide) (by decide) htail
    obtain rfl : name = name' := String.toList_inj.1 hname
    obtain rfl : slot = slot' := by
      rw [← Nat.ofDigitChars_ten_toDigits (n := slot), hslot, Nat.ofDigitChars_ten_toDigits]
    rfl

theorem text_inj {v v' : Variable} {c c' : Char} {rest rest' : List Char}
    (hv : isName v.name.toList = true)
    (hv' : isName v'.name.toList = true) (hc : isNamePart c = false) (hc' : isNamePart c' = false)
    (h : v.text.toList ++ c :: rest = v'.text.toList ++ c' :: rest') :
    v.shown = v'.shown ∧ c = c' ∧ rest = rest' := by
  obtain ⟨htext, hrest⟩ := run_inj (isNamePart_text hv) (isNamePart_text hv') hc hc' h
  exact ⟨shown_of_text htext, hrest⟩

theorem text_head (v : Variable) (rest : List Char) :
    ∃ tail, v.text.toList ++ rest = 'l' :: tail ∨ v.text.toList ++ rest = 'c' :: tail := by
  rw [toList_text]
  split
  · exact ⟨_, .inl rfl⟩
  · exact ⟨_, .inr rfl⟩

theorem name_shown (v : Variable) : v.shown.name = v.name := by
  unfold shown
  split <;> rfl

end Variable

def nested (value : List Char) : List Variable → List Char
  | [] => value
  | f :: rest => f.text.toList ++ '(' :: (nested value rest ++ [')'])

theorem nested_eq (value : List Char) (fs : List Variable) : nested value fs =
    fs.flatMap (fun f => f.text.toList ++ ['(']) ++ value ++ List.replicate fs.length ')' := by
  induction fs with
  | nil => simp [nested]
  | cons f rest ih => simp [nested, ih, List.replicate_succ']

namespace Expression

def valueText (hidden : Char → Bool) (e : Expression Variable) : List Char :=
  if e.path.isEmpty then e.head.text.toList
  else "resolve(".toList ++ (e.head.text.toList ++
    (listed (fun s => (Text.quotedBy hidden s).toList) e.path ++ [')']))

theorem toList_text (hidden : Char → Bool) (e : Expression Variable) :
    (e.text hidden).toList = nested (e.valueText hidden) e.filters.reverse := by
  have hcalls : (String.join (e.filters.reverse.map fun f => f.text ++ "(")).toList =
      e.filters.reverse.flatMap fun f => f.text.toList ++ ['('] := by
    rw [String.toList_join, List.flatMap_map]
    simp
  have hends : (String.join (e.filters.map fun _ => ")")).toList =
      List.replicate e.filters.length ')' := by
    rw [String.toList_join, List.flatMap_map]
    induction e.filters with
    | nil => rfl
    | cons f rest ih => simpa [List.replicate_succ] using ih
  have hvalue : (if e.path.isEmpty then e.head.text
      else "resolve(" ++ e.head.text ++ ", " ++ ", ".intercalate
        (e.path.map (Text.quotedBy hidden)) ++ ")").toList =
        e.valueText hidden := by
    unfold valueText
    cases e.path with
    | nil => rfl
    | cons segment rest =>
      simp only [List.isEmpty_cons, Bool.false_eq_true, if_false, String.toList_append,
        toList_intercalate_map]
      simp [listed]
  simp only [text, String.toList_append, hcalls, hends, hvalue, nested_eq, List.length_reverse]

/-- What a value's text tells: its head but for the slot of a free variable, and its path. -/
theorem valueText_inj {e e' : Expression Variable} {c c' : Char} {rest rest' : List Char}
    (he : isName e.head.name.toList = true) (he' : isName e'.head.name.toList = true)
    (hc : isNamePart c = false)
    (hc' : isNamePart c' = false) (h : e.valueText hidden ++ c :: rest =
      e'.valueText hidden ++ c' :: rest') :
    (e.head.shown = e'.head.shown ∧ e.path = e'.path) ∧ c = c' ∧ rest = rest' := by
  have hresolve : ∀ (v : Variable) (rest tail : List Char), v.text.toList ++ rest ≠
      'r' :: tail := by
    intro v rest tail hv
    obtain ⟨tail', hl | hl⟩ := v.text_head rest <;> rw [hv] at hl <;> simp at hl
  unfold valueText at h
  split at h
  next hpath =>
    split at h
    next hpath' =>
      obtain ⟨hhead, hrest⟩ := Variable.text_inj he he' hc hc' h
      rw [List.isEmpty_iff] at hpath hpath'
      exact ⟨⟨hhead, hpath.trans hpath'.symm⟩, hrest⟩
    next => exact absurd h (hresolve _ _ _)
  next hpath =>
    split at h
    next => exact absurd h.symm (hresolve _ _ _)
    next hpath' =>
      have hsegment : ∀ s s' : String, ∀ rest rest', True → True →
          (Text.quotedBy hidden s).toList ++ rest = (Text.quotedBy hidden s').toList ++ rest' →
          id s = id s' ∧ rest = rest' :=
        fun _ _ _ _ _ _ hquoted => Text.quotedBy_inj hquoted
      cases hsegments : e.path with
      | nil => simp [hsegments] at hpath
      | cons s path =>
        cases hsegments' : e'.path with
        | nil => simp [hsegments'] at hpath'
        | cons s' path' =>
          -- The head ends at the first comma.
          have hinside : e.head.text.toList ++ ',' :: (' ' :: ((Text.quotedBy hidden s).toList ++
              (listed (fun s => (Text.quotedBy hidden s).toList) path ++ ')' :: c :: rest))) =
            e'.head.text.toList ++ ',' :: (' ' :: ((Text.quotedBy hidden s').toList ++
              (listed (fun s => (Text.quotedBy hidden s).toList) path' ++ ')' :: c' :: rest')))
                := by
            simpa [hsegments, hsegments', listed] using h
          obtain ⟨hhead, -, htail⟩ := Variable.text_inj he he' (by decide) (by decide) hinside
          obtain ⟨hs, hlater⟩ := Text.quotedBy_inj (List.cons.inj htail).2
          obtain ⟨hpaths, -, hend⟩ := listed_inj hsegment (fun _ _ => trivial) (fun _ _ => trivial)
            (by decide) (by decide) hlater
          rw [List.map_id, List.map_id] at hpaths
          exact ⟨⟨hhead, congrArg₂ List.cons hs hpaths⟩, List.cons.inj hend⟩

theorem nested_inj {e e' : Expression Variable} {fs fs' : List Variable} {c c' : Char}
    {rest rest' : List Char}
    (he : isName e.head.name.toList = true) (he' : isName e'.head.name.toList = true)
    (hfs : ∀ f ∈ fs, isName f.name.toList = true) (hfs' : ∀ f ∈ fs', isName f.name.toList = true)
    (hc : isNamePart c = false ∧ c ≠ '(') (hc' : isNamePart c' = false ∧ c' ≠ '(')
    (h : nested (e.valueText hidden) fs ++ c :: rest =
      nested (e'.valueText hidden) fs' ++ c' :: rest') :
    fs.map Variable.shown = fs'.map Variable.shown ∧
    (e.head.shown = e'.head.shown ∧ e.path = e'.path) ∧
      c = c' ∧ rest = rest' := by
  -- A value that starts like a call is a variable, but no bracket follows it.
  have hcall : ∀ {e : Expression Variable} {f : Variable} {c : Char} {rest tail : List Char},
      isName e.head.name.toList = true → isName f.name.toList = true → isNamePart c = false ∧
        c ≠ '(' →
      e.valueText hidden ++ c :: rest ≠ f.text.toList ++ '(' :: tail := by
    intro e f c rest tail he hf hc h
    unfold valueText at h
    split at h
    · exact hc.2 (Variable.text_inj he hf hc.1 (by decide) h).2.1
    · obtain ⟨tail', hl | hl⟩ := f.text_head ('(' :: tail) <;> rw [hl] at h <;> simp at h
  induction fs generalizing fs' c c' rest rest' with
  | nil =>
    cases fs' with
    | nil => exact ⟨rfl, valueText_inj he he' hc.1 hc'.1 h⟩
    | cons f' fs' =>
      rw [nested, nested, List.append_assoc, List.cons_append] at h
      exact absurd h (hcall he (hfs' f' List.mem_cons_self) hc)
  | cons f fs ih =>
    cases fs' with
    | nil =>
      rw [nested, nested, List.append_assoc, List.cons_append] at h
      exact absurd h.symm (hcall he' (hfs f List.mem_cons_self) hc')
    | cons f' fs' =>
      rw [nested, nested, List.append_assoc, List.append_assoc, List.cons_append, List.cons_append,
        List.append_assoc, List.append_assoc, List.singleton_append, List.singleton_append] at h
      obtain ⟨hf, hrest⟩ := List.forall_mem_cons.1 hfs
      obtain ⟨hf', hrest'⟩ := List.forall_mem_cons.1 hfs'
      obtain ⟨hname, -, hinner⟩ := Variable.text_inj hf hf' (by decide) (by decide) h
      obtain ⟨hnames, hvalue, -, hend⟩ := ih hrest hrest' (by decide) (by decide) hinner
      exact ⟨congrArg₂ List.cons hname hnames, hvalue, List.cons.inj hend⟩

theorem text_inj {e e' : Expression Variable} {c c' : Char} {rest rest' : List Char}
    (he : ∀ v ∈ e.vars, isName v.name.toList = true)
    (he' : ∀ v ∈ e'.vars, isName v.name.toList = true)
    (hc : isNamePart c = false ∧ c ≠ '(') (hc' : isNamePart c' = false ∧ c' ≠ '(')
    (h : (e.text hidden).toList ++ c :: rest = (e'.text hidden).toList ++ c' :: rest') :
    e.retell Variable.shown = e'.retell Variable.shown ∧ c = c' ∧ rest = rest' := by
  rw [toList_text, toList_text] at h
  obtain ⟨hhead, hfilters⟩ := List.forall_mem_cons.1 he
  obtain ⟨hhead', hfilters'⟩ := List.forall_mem_cons.1 he'
  obtain ⟨hnames, ⟨hvalue, hpath⟩, hrest⟩ := nested_inj hhead hhead'
    (fun f hf => hfilters f (List.mem_reverse.1 hf))
    (fun f hf => hfilters' f (List.mem_reverse.1 hf)) hc hc' h
  rw [List.map_reverse, List.map_reverse, List.reverse_inj] at hnames
  refine ⟨?_, hrest⟩
  rw [retell, retell, hvalue, hpath, hnames]

end Expression

theorem Piece.text_inj {p p' : Piece} {rest rest' : List Char}
    (hp : ∀ v ∈ p.vars, isName v.name.toList = true)
    (hp' : ∀ v ∈ p'.vars, isName v.name.toList = true)
    (h : (p.text hidden).toList ++ rest = (p'.text hidden).toList ++ rest') :
    p.retell Variable.shown = p'.retell Variable.shown ∧ rest = rest' := by
  have hquote : ∀ (s : String) (rest tail : List Char), (Text.quotedBy hidden s).toList ++ rest ≠
      't' :: tail := by
    intro s rest tail hs
    simp [Text.quotedBy, Text.quotedWith] at hs
  cases p <;> cases p'
  case literal.literal s s' =>
    obtain ⟨rfl, hrest⟩ := Text.quotedBy_inj h
    exact ⟨rfl, hrest⟩
  case literal.output s e' =>
    simp only [text, String.toList_append] at h
    exact absurd h (hquote _ _ _)
  case output.literal e s' =>
    simp only [text, String.toList_append] at h
    exact absurd h.symm (hquote _ _ _)
  case output.output e e' =>
    have hinside : (e.text hidden).toList ++ ')' :: rest =
        (e'.text hidden).toList ++ ')' :: rest' := by
      simpa [text] using h
    obtain ⟨he, -, hrest⟩ := Expression.text_inj hp hp' (by decide) (by decide) hinside
    exact ⟨congrArg Piece.output he, hrest⟩

theorem pieces_inj {pieces pieces' : List Piece} {rest rest' : List Char}
    (hp : ∀ v ∈ pieces.flatMap Piece.vars, isName v.name.toList = true)
    (hp' : ∀ v ∈ pieces'.flatMap Piece.vars, isName v.name.toList = true)
    (h : (", ".intercalate (pieces.map (Piece.text hidden))).toList ++ ']' :: rest =
      (", ".intercalate (pieces'.map (Piece.text hidden))).toList ++ ']' :: rest') :
    pieces.map (Piece.retell Variable.shown) = pieces'.map (Piece.retell Variable.shown) ∧
    rest = rest' := by
  have hbracket : ∀ (p : Piece) (rest tail : List Char), (p.text hidden).toList ++ rest ≠
      ']' :: tail := by
    intro p rest tail hpiece
    cases p <;> simp [Piece.text, Text.quotedBy, Text.quotedWith] at hpiece
  have hnamed : ∀ {pieces : List Piece},
      (∀ v ∈ pieces.flatMap Piece.vars, isName v.name.toList = true) →
      ∀ p ∈ pieces, ∀ v ∈ p.vars, isName v.name.toList = true :=
    fun hall p hmem v hv => hall v (List.mem_flatMap.2 ⟨p, hmem, hv⟩)
  cases pieces with
  | nil =>
    cases pieces' with
    | nil => exact ⟨rfl, (List.cons.inj h).2⟩
    | cons p' pieces' =>
      rw [toList_intercalate_map, List.append_assoc] at h
      exact absurd h.symm (hbracket _ _ _)
  | cons p pieces =>
    cases pieces' with
    | nil =>
      rw [toList_intercalate_map, List.append_assoc] at h
      exact absurd h (hbracket _ _ _)
    | cons p' pieces' =>
      rw [toList_intercalate_map, toList_intercalate_map, List.append_assoc, List.append_assoc] at h
      obtain ⟨hfirst, hothers⟩ := List.forall_mem_cons.1 (hnamed hp)
      obtain ⟨hfirst', hothers'⟩ := List.forall_mem_cons.1 (hnamed hp')
      obtain ⟨hpiece, hlater⟩ := Piece.text_inj hfirst hfirst' h
      obtain ⟨hpieces, -, hrest⟩ :=
        listed_inj (fun _ _ _ _ => Piece.text_inj) hothers hothers' (by decide) (by decide)
        hlater
      exact ⟨congrArg₂ List.cons hpiece hpieces, hrest⟩

theorem toList_emission (hidden : Char → Bool) (pieces : List Piece) :
    (∃ p, pieces = [p] ∧
      (emission hidden pieces).toList =
        "append_result(".toList ++ ((p.text hidden).toList ++ [')'])) ∨
    (emission hidden pieces).toList = "extend_result([".toList ++
      ((", ".intercalate (pieces.map (Piece.text hidden))).toList ++ [']', ')']) := by
  unfold emission
  match pieces with
  | [] => exact .inr (by simp)
  | [p] => exact .inl ⟨p, rfl, by simp⟩
  | p :: p' :: rest => exact .inr (by simp)

theorem emission_inj {pieces pieces' : List Piece} {rest rest' : List Char}
    (hp : ∀ v ∈ pieces.flatMap Piece.vars, isName v.name.toList = true)
    (hp' : ∀ v ∈ pieces'.flatMap Piece.vars, isName v.name.toList = true)
    (h : (emission hidden pieces).toList ++ rest = (emission hidden pieces').toList ++ rest') :
    pieces.map (Piece.retell Variable.shown) = pieces'.map (Piece.retell Variable.shown) ∧
    rest = rest' := by
  rcases toList_emission hidden pieces with ⟨p, rfl, htext⟩ | htext <;>
    rcases toList_emission hidden pieces' with ⟨p', rfl, htext'⟩ | htext' <;>
      rw [htext, htext'] at h
  · rw [List.append_assoc, List.append_assoc, List.append_assoc, List.append_assoc] at h
    obtain ⟨hpiece, hend⟩ := Piece.text_inj (by simpa using hp) (by simpa using hp')
      (List.append_cancel_left h)
    exact ⟨congrArg (fun p => [p]) hpiece, (List.cons.inj hend).2⟩
  · simp at h
  · simp at h
  · rw [List.append_assoc, List.append_assoc, List.append_assoc, List.append_assoc] at h
    obtain ⟨hpieces, hend⟩ := pieces_inj hp hp' (List.append_cancel_left h)
    exact ⟨hpieces, (List.cons.inj hend).2⟩

namespace Statement

/-- Six kinds of statement, by their number. -/
def kind : Statement → Nat
  | .define => 0
  | .bind _ => 1
  | .emit _ => 2
  | .branch _ => 3
  | .loop _ _ => 4
  | .finish => 5

def kindOf : List Char → Nat
  | 'r' :: 'e' :: 'n' :: _ => 0
  | 'c' :: _ => 1
  | 'l' :: _ => 1
  | 'a' :: _ => 2
  | 'e' :: _ => 2
  | 'i' :: _ => 3
  | 'f' :: _ => 4
  | 'r' :: 'e' :: 't' :: _ => 5
  | _ => 6

theorem kindOf_text (hidden : Char → Bool) (s : Statement) (rest : List Char) :
    kindOf ((s.text hidden).toList ++ rest) = s.kind := by
  cases s with
  | define => simp [text, kindOf, kind]
  | bind v =>
    simp only [text, String.toList_append, List.append_assoc]
    obtain ⟨tail, hl | hc⟩ :=
      v.text_head (" = context[".toList ++ ((Text.quotedBy hidden v.name).toList ++
      ("]".toList ++ rest)))
    · rw [hl]
      rfl
    · rw [hc]
      rfl
  | emit pieces =>
    rcases toList_emission hidden pieces with ⟨p, -, htext⟩ | htext <;> rw [text, htext] <;> rfl
  | branch condition => simp [text, kindOf, kind]
  | loop v items => simp [text, kindOf, kind]
  | finish => simp [text, kindOf, kind]

theorem text_inj {s s' : Statement} {rest rest' : List Char} (hs : s.Named) (hs' : s'.Named)
    (h : (s.text hidden).toList ++ rest = (s'.text hidden).toList ++ rest') :
    s.retell Variable.shown = s'.retell Variable.shown ∧ rest = rest' := by
  have hkind : s.kind = s'.kind := by rw [← kindOf_text hidden s rest, h, kindOf_text]
  cases s <;> cases s' <;> try cases hkind
  case define.define => exact ⟨rfl, List.append_cancel_left h⟩
  case finish.finish => exact ⟨rfl, List.append_cancel_left h⟩
  case bind.bind v v' =>
    have hname : isName v.name.toList = true := hs v List.mem_cons_self
    have hname' : isName v'.name.toList = true := hs' v' List.mem_cons_self
    have hcut : v.text.toList ++ ' ' ::
        ("= context[".toList ++ ((Text.quotedBy hidden v.name).toList ++ ']' :: rest)) =
        v'.text.toList ++ ' ' ::
          ("= context[".toList ++ ((Text.quotedBy hidden v'.name).toList ++ ']' :: rest')) := by
      simpa [text] using h
    obtain ⟨hv, -, htail⟩ := Variable.text_inj hname hname' (by decide) (by decide) hcut
    obtain ⟨-, hend⟩ := Text.quotedBy_inj (List.append_cancel_left htail)
    exact ⟨congrArg Statement.bind hv, (List.cons.inj hend).2⟩
  case branch.branch condition condition' =>
    have hcut : (condition.text hidden).toList ++ ':' :: rest =
        (condition'.text hidden).toList ++ ':' :: rest' := by
      simpa [text] using h
    obtain ⟨hcondition, -, hrest⟩ := Expression.text_inj hs hs' (by decide) (by decide) hcut
    exact ⟨congrArg Statement.branch hcondition, hrest⟩
  case loop.loop v items v' items' =>
    obtain ⟨hname, hitems⟩ := List.forall_mem_cons.1 hs
    obtain ⟨hname', hitems'⟩ := List.forall_mem_cons.1 hs'
    have hcut :
        v.text.toList ++ ' ' :: ("in ".toList ++ ((items.text hidden).toList ++ ':' :: rest)) =
        v'.text.toList ++ ' ' ::
          ("in ".toList ++ ((items'.text hidden).toList ++ ':' :: rest')) := by
      simpa [text] using h
    obtain ⟨hv, -, htail⟩ := Variable.text_inj hname hname' (by decide) (by decide) hcut
    obtain ⟨he, -, hrest⟩ :=
      Expression.text_inj hitems hitems' (by decide) (by decide) (List.append_cancel_left htail)
    exact ⟨congrArg₂ Statement.loop hv he, hrest⟩
  case emit.emit pieces pieces' =>
    obtain ⟨hpieces, hrest⟩ := emission_inj hs hs' h
    exact ⟨congrArg Statement.emit hpieces, hrest⟩

end Statement

namespace Listing

theorem toList_lineText (hidden : Char → Bool) (indent : Nat) (s : Statement) :
    (lineText hidden indent s).toList =
    List.replicate indent ' ' ++ ((s.text hidden).toList ++ ['\n']) := by
  simp [lineText]

theorem lineText_inj {indent indent' : Nat} {s s' : Statement} {rest rest' : List Char}
    (hs : s.Named) (hs' : s'.Named)
    (h : (lineText hidden indent s).toList ++ rest = (lineText hidden indent' s').toList ++ rest') :
    lineShown (indent, s) = lineShown (indent', s') ∧ rest = rest' := by
  have hstart : ∀ (s : Statement) (rest : List Char),
      ∃ c tail, (s.text hidden).toList ++ rest = c :: tail ∧ (c == ' ') = false := by
    intro s rest
    have hkind := Statement.kindOf_text hidden s rest
    cases htext : (s.text hidden).toList ++ rest with
    | nil =>
      rw [htext] at hkind
      cases s <;> cases hkind
    | cons c tail =>
      refine ⟨c, tail, rfl, beq_false_of_ne ?_⟩
      rintro rfl
      rw [htext] at hkind
      cases s <;> cases hkind
  have hblank : ∀ n, ∀ c ∈ List.replicate n ' ', (c == ' ') = true := by
    intro n c hc
    rw [List.eq_of_mem_replicate hc]
    rfl
  rw [toList_lineText, toList_lineText, List.append_assoc, List.append_assoc, List.append_assoc,
    List.append_assoc] at h
  obtain ⟨c, tail, htext, hc⟩ := hstart s (['\n'] ++ rest)
  obtain ⟨c', tail', htext', hc'⟩ := hstart s' (['\n'] ++ rest')
  have hcut : List.replicate indent ' ' ++ c :: tail =
      List.replicate indent' ' ' ++ c' :: tail' := by
    rw [← htext, ← htext', h]
  obtain ⟨hindent, rfl, rfl⟩ := run_inj (hblank indent) (hblank indent') hc hc' hcut
  obtain ⟨hstatement, hend⟩ := Statement.text_inj hs hs' (htext.trans htext'.symm)
  have hcolumn : indent = indent' := by simpa using congrArg List.length hindent
  exact ⟨Prod.ext hcolumn hstatement, (List.cons.inj hend).2⟩

theorem linesText_inj {lines lines' : List (Nat × Statement)}
    (hnamed : ∀ line ∈ lines, line.2.Named)
    (hnamed' : ∀ line ∈ lines', line.2.Named)
    (h : linesText hidden lines = linesText hidden lines') :
    lines.map lineShown = lines'.map lineShown := by
  have hcons : ∀ (line : Nat × Statement) (rest : List (Nat × Statement)),
      linesText hidden (line :: rest) =
      lineText hidden line.1 line.2 ++ linesText hidden rest := fun _ _ => String.join_cons
  have hne : ∀ (line : Nat × Statement) (rest : List (Nat × Statement)),
      linesText hidden (line :: rest) ≠ "" := by
    intro line rest hempty
    rw [hcons] at hempty
    simpa [toList_lineText] using congrArg String.toList hempty
  induction lines generalizing lines' with
  | nil =>
    cases lines' with
    | nil => rfl
    | cons line' rest' => exact absurd h.symm (hne line' rest')
  | cons line rest ih =>
    cases lines' with
    | nil => exact absurd h (hne line rest)
    | cons line' rest' =>
      obtain ⟨hline, hrest⟩ := List.forall_mem_cons.1 hnamed
      obtain ⟨hline', hrest'⟩ := List.forall_mem_cons.1 hnamed'
      have htext := congrArg String.toList h
      rw [hcons, hcons, String.toList_append, String.toList_append] at htext
      obtain ⟨hshown, hlater⟩ := lineText_inj hline hline' htext
      exact congrArg₂ List.cons hshown (ih hrest hrest' (String.toList_inj.1 hlater))

end Listing

end Stencil
