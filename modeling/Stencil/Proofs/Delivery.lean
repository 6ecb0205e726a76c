import Mathlib.Data.List.TakeDrop
import Mathlib.Tactic.Common
import Stencil.Proofs.Render
import Stencil.Source
import Stencil.Writer

/-! Deliveries to a writer with room for so many bytes: it takes just as many of the first of them,
in whatever pieces, and all is well just when that is all of them. -/

namespace Stencil

theorem toList_loop (bytes : ByteArray) (i : Nat) (before : List UInt8) :
    ByteArray.toList.loop bytes i before = before.reverse ++ bytes.data.toList.drop i := by
  fun_induction ByteArray.toList.loop bytes i before with
  | case1 i before hlt ih =>
    have hlength : i < bytes.data.toList.length := hlt
    rw [ih, List.reverse_cons, List.append_assoc, List.drop_eq_getElem_cons hlength]
    simp [ByteArray.get!, hlt]
  | case2 i before hle =>
    have hlength : bytes.data.toList.length ≤ i := Nat.le_of_not_lt hle
    rw [List.drop_eq_nil_of_le hlength, List.append_nil]

theorem toList_toUTF8 (text : String) : text.toUTF8.toList = Source.bytes text.toList := by
  have hdata : text.toUTF8.toList = text.toUTF8.data.toList := toList_loop _ 0 []
  rw [hdata, String.toUTF8_eq_toByteArray, ← String.utf8Encode_toList, List.utf8Encode,
    List.toList_data_toByteArray]
  rfl

theorem length_toUTF8 (text : String) : text.toUTF8.toList.length = text.utf8ByteSize := by
  rw [toList_toUTF8, Source.length_bytes, Source.byteSize_toList]

theorem admitted_append (room : Option Nat) (a b : List UInt8) :
    admitted room (a ++ b) = admitted room a ++ admitted (room.map (· - a.length)) b := by
  cases room with
  | none => rfl
  | some n => exact List.take_append

theorem admitted_eq_self_iff {room : Option Nat} {bytes : List UInt8} :
    admitted room bytes = bytes ↔ ∀ n, room = some n → bytes.length ≤ n := by
  cases room with
  | none => exact ⟨fun _ => nofun, fun _ => rfl⟩
  | some n =>
    rw [admitted, List.take_eq_self_iff]
    exact ⟨fun h k hk => Option.some.inj hk ▸ h, fun h => h n rfl⟩

theorem exists_lt_of_admitted_ne {room : Option Nat} {bytes : List UInt8}
    (h : admitted room bytes ≠ bytes) :
    ∃ n, room = some n ∧ n < bytes.length := by
  cases room with
  | none => exact absurd rfl h
  | some n => exact ⟨n, rfl, Nat.lt_of_not_le fun hle => h (List.take_of_length_le hle)⟩

theorem length_admitted_le (room : Option Nat) (bytes : List UInt8) :
    (admitted room bytes).length ≤ bytes.length := by
  cases room with
  | none => exact Nat.le_refl _
  | some n => exact List.length_take_le' n bytes

theorem admitted_full (bytes : List UInt8) : admitted (some 0) bytes = [] := rfl

theorem admitted_split {room : Option Nat} {bytes : List UInt8} {n : Nat}
    (hn : n ≤ (admitted room bytes).length) :
    admitted room bytes = bytes.take n ++ admitted (room.map (· - n)) (bytes.drop n) ∧
      (admitted (room.map (· - n)) (bytes.drop n) = bytes.drop n ↔ admitted room bytes = bytes) ∧
      (room.map (· - n)).map (· - (bytes.drop n).length) = room.map (· - bytes.length) := by
  have hle : n ≤ bytes.length := hn.trans (length_admitted_le room bytes)
  have hlength : (bytes.take n).length = n := List.length_take_of_le hle
  have hpiece : admitted room (bytes.take n) = bytes.take n := by
    refine admitted_eq_self_iff.2 fun k hk => ?_
    rw [hk, admitted, List.length_take] at hn
    rw [hlength]
    exact hn.trans (Nat.min_le_left _ _)
  have hwhole := admitted_append room (bytes.take n) (bytes.drop n)
  rw [List.take_append_drop, hpiece, hlength] at hwhole
  refine ⟨hwhole, ⟨fun h => ?_, fun h => ?_⟩, ?_⟩
  · rw [hwhole, h, List.take_append_drop]
  · exact List.append_cancel_left (hwhole.symm.trans (h.trans (List.take_append_drop n bytes).symm))
  · rw [Option.map_map, List.length_drop]
    congr 1
    funext k
    simp only [Function.comp_apply]
    omega

theorem length_drop_succ_lt {bytes : List UInt8} (h : bytes ≠ []) (n : Nat) :
    (bytes.drop (n + 1)).length < bytes.length := by
  have hpos := List.length_pos_of_ne_nil h
  rw [List.length_drop]
  omega

theorem Delivery.result_mapError_ok_iff {σ ε ε' : Type} (f : ε → ε') (d : Delivery σ ε) :
    (d.mapError f).result = .ok () ↔ d.result = .ok () := by
  rw [mapError]
  cases d.result with
  | ok _ => exact ⟨fun _ => rfl, fun _ => rfl⟩
  | error e => exact ⟨nofun, nofun⟩

namespace Writer

variable {σ : Type} {w : Writer σ} {room : σ → Option Nat}

theorem HasRoom.offer_cases (h : w.HasRoom room) {s : σ} {bytes : List UInt8}
    (hoffer : bytes ≠ []) :
    (∃ s' answer, w.offer s bytes = (s', answer) ∧
      (answer = .ok 0 ∨ ∃ cause, answer = .error cause) ∧
      room s = some 0 ∧ room s' = some 0) ∨
    ∃ s' n, w.offer s bytes = (s', .ok (n + 1)) ∧ n + 1 ≤ (admitted (room s) bytes).length ∧
      room s' = (room s).map (· - (n + 1)) := by
  by_cases hroom : room s = some 0
  · obtain ⟨s', answer, hanswer, hrefused, hfull⟩ := h.refuses hoffer hroom
    exact .inl ⟨s', answer, hanswer, hrefused, hroom, hfull⟩
  · obtain ⟨s', n, hanswer, hpos, hle, hleft⟩ := h.takes hoffer hroom
    obtain ⟨n, rfl⟩ := Nat.exists_eq_succ_of_ne_zero hpos.ne'
    exact .inr ⟨s', n, hanswer, hle, hleft⟩

theorem writeAll_refused {s s' : σ} {bytes : List UInt8} {answer : Except String Nat}
    (hoffer : bytes ≠ [])
    (hanswer : w.offer s bytes = (s', answer))
    (hrefused : answer = .ok 0 ∨ ∃ cause, answer = .error cause) :
    ∃ cause, w.writeAll s bytes = ⟨s', [], .error cause⟩ := by
  cases bytes with
  | nil => exact absurd rfl hoffer
  | cons byte bytes =>
    rw [writeAll, hanswer]
    rcases hrefused with rfl | ⟨cause, rfl⟩
    · exact ⟨_, rfl⟩
    · exact ⟨cause, rfl⟩

theorem writeAll_taken {s s' : σ} {bytes : List UInt8} {n : Nat} (hoffer : bytes ≠ [])
    (hanswer : w.offer s bytes = (s', .ok (n + 1))) : w.writeAll s bytes =
      { w.writeAll s' (bytes.drop (n + 1)) with
        taken := bytes.take (n + 1) ++ (w.writeAll s' (bytes.drop (n + 1))).taken } := by
  cases bytes with
  | nil => exact absurd rfl hoffer
  | cons byte bytes =>
    rw [writeAll, hanswer]
    rfl

/-- A writer takes what it has room for, and all is well just when that is all. -/
theorem HasRoom.writeAll (h : w.HasRoom room) (s : σ) (bytes : List UInt8) :
    (w.writeAll s bytes).taken = admitted (room s) bytes ∧
      room (w.writeAll s bytes).writer = (room s).map (· - bytes.length) ∧
      ((w.writeAll s bytes).result = .ok () ↔ admitted (room s) bytes = bytes) := by
  -- Along the offers: each takes a first piece of what is left, or it is the last and there was no
  -- room for it.
  induction hlength : bytes.length using Nat.strong_induction_on generalizing s bytes with
  | _ length ih =>
    subst hlength
    by_cases hoffer : bytes = []
    · subst hoffer
      have hroom : room s = (room s).map (· - 0) := by cases room s <;> rfl
      rw [Writer.writeAll]
      exact ⟨(List.eq_nil_of_length_eq_zero (Nat.le_zero.1 (length_admitted_le _ _))).symm, hroom,
        ⟨fun _ => List.eq_nil_of_length_eq_zero (Nat.le_zero.1 (length_admitted_le _ _)),
          fun _ => rfl⟩⟩
    · rcases h.offer_cases hoffer with ⟨s', answer, hanswer, hrefused, hroom, hfull⟩ |
        ⟨s', n, hanswer, hle, hroom⟩
      · obtain ⟨cause, hwrite⟩ := writeAll_refused hoffer hanswer hrefused
        rw [hwrite, hroom, admitted_full]
        refine ⟨rfl, ?_, fun hdone => ?_, fun h => absurd h.symm hoffer⟩
        · rw [hfull, Option.map_some, Nat.zero_sub]
        · cases hdone
      · obtain ⟨hwhole, hall, hleft⟩ := admitted_split hle
        obtain ⟨htaken, hafter, hresult⟩ :=
          ih _ (length_drop_succ_lt hoffer n) s' (bytes.drop (n + 1)) rfl
        rw [hroom] at htaken hafter hresult
        rw [writeAll_taken hoffer hanswer]
        refine ⟨?_, hafter.trans hleft, hresult.trans hall⟩
        rw [hwhole, ← htaken]

theorem bytewise_hasRoom : bytewise.HasRoom some where
  takes {left bytes} hoffer hroom := by
    obtain ⟨n, rfl⟩ := Nat.exists_eq_succ_of_ne_zero fun h => hroom (congrArg some h)
    have hpos := List.length_pos_of_ne_nil hoffer
    refine ⟨n, 1, rfl, Nat.one_pos, ?_, rfl⟩
    rw [admitted, List.length_take]
    omega
  refuses {left bytes} _ hroom := by
    cases hroom
    exact ⟨0, .ok 0, rfl, .inl rfl, rfl⟩

end Writer

namespace Sink

theorem admitted_ne_nil {room : Option Nat} {bytes : List UInt8} (hoffer : bytes ≠ [])
    (hroom : room ≠ some 0) :
    admitted room bytes ≠ [] := by
  cases room with
  | none => exact hoffer
  | some n =>
    simpa only [admitted, ne_eq, List.take_eq_nil_iff, not_or]
      using ⟨fun h => hroom (congrArg some h), hoffer⟩

theorem writer_hasRoom : Sink.writer.HasRoom Sink.room where
  takes hoffer hroom :=
    ⟨_, _, if_neg hroom, List.length_pos_of_ne_nil (admitted_ne_nil hoffer hroom),
      Nat.le_refl _, rfl⟩
  refuses _ hroom := ⟨_, _, if_pos hroom, .inr ⟨_, rfl⟩, hroom⟩

theorem writeAll_full {sink : Sink} {bytes : List UInt8} (hroom : sink.room = some 0)
    (hoffer : bytes ≠ []) :
    Sink.writer.writeAll sink bytes = ⟨sink, [], .error sink.refusal⟩ := by
  cases bytes with
  | nil => exact absurd rfl hoffer
  | cons byte bytes =>
    rw [Writer.writeAll, Sink.writer]
    simp only [hroom, if_pos]

theorem writeAll_eq (sink : Sink) (bytes : List UInt8) :
    Sink.writer.writeAll sink bytes =
      ⟨{ sink with
          room := sink.room.map (· - bytes.length)
          taken := sink.taken ++ admitted sink.room bytes },
        admitted sink.room bytes,
        if admitted sink.room bytes = bytes then .ok () else .error sink.refusal⟩ := by
  obtain ⟨room, refusal, taken⟩ := sink
  induction hlength : bytes.length using Nat.strong_induction_on generalizing room taken bytes with
  | _ length ih =>
    subst hlength
    by_cases hoffer : bytes = []
    · subst hoffer
      cases room <;> simp [Writer.writeAll, admitted]
    by_cases hroom : room = some 0
    · subst hroom
      rw [writeAll_full rfl hoffer, admitted_full, if_neg (Ne.symm hoffer), Option.map_some,
        Nat.zero_sub, List.append_nil]
    · obtain ⟨k, hk⟩ :=
        Nat.exists_eq_succ_of_ne_zero (List.length_pos_of_ne_nil (admitted_ne_nil hoffer hroom)).ne'
      have hanswer : Sink.writer.offer ⟨room, refusal, taken⟩ bytes =
          (⟨room.map (· - (k + 1)), refusal, taken ++ admitted room bytes⟩, .ok (k + 1)) := by
        rw [Sink.writer]
        simp only [if_neg hroom, hk]
      obtain ⟨hwhole, hall, hleft⟩ := admitted_split (n := k + 1) hk.ge
      -- The first offer took all there was room for, so nothing more is admitted.
      have hpiece : bytes.take (k + 1) = admitted room bytes ∧
          admitted (room.map (· - (k + 1))) (bytes.drop (k + 1)) = [] := by
        have hle : k + 1 ≤ bytes.length := hk.ge.trans (length_admitted_le room bytes)
        have hsize := congrArg List.length hwhole
        rw [hk, List.length_append, List.length_take_of_le hle] at hsize
        have hnil := List.eq_nil_of_length_eq_zero (Nat.left_eq_add.1 hsize)
        rw [hnil, List.append_nil] at hwhole
        exact ⟨hwhole.symm, hnil⟩
      rw [Writer.writeAll_taken hoffer hanswer, ih _ (length_drop_succ_lt hoffer k) _ _ _ rfl]
      simp only [hpiece, hleft, List.append_nil, ← hall]

theorem write_eq (sink : Sink) (text : String) : sink.write text =
    ((Sink.writer.writeAll sink text.toUTF8.toList).writer,
      decide (admitted sink.room text.toUTF8.toList = text.toUTF8.toList)) := by
  rw [writeAll_eq, write]
  obtain ⟨room, refusal, taken⟩ := sink
  cases room with
  | none => simp [admitted]
  | some n => simp [admitted, List.take_eq_self_iff]

end Sink

namespace Template

variable {F O : Type} [Host F O]

theorem renderInto_eq (t : Template F O) (sink : Sink) (values : Lookup F O)
    (resolver : Resolver F O) :
    t.renderInto sink values resolver =
      ((t.renderTo Sink.writer sink values resolver).writer,
        (t.renderTo Sink.writer sink values resolver).result) := by
  rw [renderInto, renderTo]
  cases t.render values resolver with
  | error e => rfl
  | ok text =>
    simp only [Sink.write_eq, Sink.writeAll_eq, Delivery.mapError]
    by_cases hfits : admitted sink.room text.toUTF8.toList = text.toUTF8.toList
    · simp only [hfits, decide_true, if_true]
      rfl
    · simp only [hfits, decide_false, if_false]
      rfl

theorem taken_renderTo (t : Template F O) (sink : Sink) (values : Lookup F O)
    (resolver : Resolver F O) :
    (t.renderTo Sink.writer sink values resolver).writer.taken =
      sink.taken ++ (t.renderTo Sink.writer sink values resolver).taken := by
  rw [renderTo]
  cases t.render values resolver with
  | error e => exact (List.append_nil _).symm
  | ok text => simp only [Sink.writeAll_eq, Delivery.mapError]

/-- A writer with room for `n` bytes gets nothing of a render that fails, whose error is told, and
else the first `n` bytes of the text; all is well just when the text has no more, and otherwise the
error is that of the writer. A sink is such a writer. -/
theorem renderTo_prefix (t : Template F O) (values : Lookup F O) (resolver : Resolver F O)
    {σ : Type} {w : Writer σ}
    {room : σ → Option Nat} (hw : w.HasRoom room) {s : σ} {n : Nat} (hroom : room s = some n) :
    (∀ e, t.render values resolver = .error e →
      t.renderTo w s values resolver = ⟨s, [], .error e⟩) ∧
    (∀ text, t.render values resolver = .ok text →
      (t.renderTo w s values resolver).taken = text.toUTF8.toList.take n ∧
      ((t.renderTo w s values resolver).result = .ok () ↔ text.utf8ByteSize ≤ n) ∧
      (n < text.utf8ByteSize →
        ∃ cause, (t.renderTo w s values resolver).result = .error (.writeFailed cause))) ∧
    Sink.writer.HasRoom Sink.room ∧ ∀ sink : Sink,
      t.renderInto sink values resolver =
        ((t.renderTo Sink.writer sink values resolver).writer,
          (t.renderTo Sink.writer sink values resolver).result) ∧
      (t.renderInto sink values resolver).1.taken =
        sink.taken ++ (t.renderTo Sink.writer sink values resolver).taken := by
  refine ⟨fun e he => ?_, fun text htext => ?_, Sink.writer_hasRoom, fun sink =>
    ⟨t.renderInto_eq sink values resolver, ?_⟩⟩
  · rw [renderTo, he]
  · obtain ⟨htaken, -, hresult⟩ := hw.writeAll s text.toUTF8.toList
    rw [hroom, admitted] at htaken hresult
    rw [List.take_eq_self_iff, length_toUTF8] at hresult
    rw [renderTo, htext]
    refine ⟨htaken, (Delivery.result_mapError_ok_iff _ _).trans hresult, fun hlong => ?_⟩
    cases hwrite : (w.writeAll s text.toUTF8.toList).result with
    | ok _ => exact absurd (hresult.1 hwrite) (Nat.not_le.2 hlong)
    | error cause => exact ⟨cause, congrArg (Except.mapError RenderError.writeFailed) hwrite⟩
  · rw [renderInto_eq, taken_renderTo]

theorem renderTo_prefix_cut : ∃ t : Template Empty Empty,
    withContexts "ü{{ on }}" [[("on", .bool true)]] = .ok t ∧
      t.render (fun _ => none) .dots = .ok "ütrue" ∧
      (t.renderTo Writer.bytewise 1 (fun _ => none) .dots).taken = [195] ∧
      ∃ cause, (t.renderTo Writer.bytewise 1 (fun _ => none) .dots).result =
        .error (.writeFailed cause) := by
  have htokens : tokenize "ü{{ on }}" = [⟨.text, 0, "ü".toList⟩, ⟨.expression, 2, " on ".toList⟩] :=
    by decide +kernel
  have hbody : Block.ofTokens (tokenize "ü{{ on }}") =
      .ok [.text "ü", .output ⟨"on", "on", [], []⟩] := by
    rw [htokens]
    rfl
  have h : withContexts "ü{{ on }}" [[("on", (.bool true : Value Empty Empty))]] =
      .ok ⟨[("on", .bool true)], Draft.compiled [.text "ü", .output ⟨"on", "on", [], []⟩]⟩ :=
    withContexts_of_ofTokens hbody _
  have hrender : render ⟨[("on", (.bool true : Value Empty Empty))],
      Draft.compiled [.text "ü", .output ⟨"on", "on", [], []⟩]⟩
      (fun _ => none) .dots = .ok "ütrue" := by
    rw [render, Program.render_compiled]
    rfl
  obtain ⟨-, hwritten, -⟩ := renderTo_prefix ⟨[("on", (.bool true : Value Empty Empty))],
    Draft.compiled [.text "ü", .output ⟨"on", "on", [], []⟩]⟩ (fun _ => none) .dots
      Writer.bytewise_hasRoom (s := 1) rfl
  obtain ⟨htaken, -, hcut⟩ := hwritten _ hrender
  refine ⟨_, h, hrender, htaken.trans (by decide +kernel), hcut (by decide +kernel)⟩

end Template

end Stencil
