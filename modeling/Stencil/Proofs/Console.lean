import Stencil.Command.Console
import Stencil.Proofs.Delivery
import Stencil.Proofs.Session

/-! Runs of the command in front of a device. Whatever waits in between, the device takes of what is
written in all as much as it has room for, and a refusal is told at a write or at the flush; so a
run ends as it does on a sink with the same room. -/

namespace Stencil.Command

namespace Console

variable {σ : Type} {w : Writer σ} {room : σ → Option Nat} {r : Option Nat}
  {written more bytes : List UInt8} {console : Console σ}

structure Holds (room : σ → Option Nat) (r : Option Nat) (written : List UInt8)
    (console : Console σ) : Prop where
  order : console.shown ++ console.waiting = written
  fits : admitted r console.shown = console.shown
  left : room console.device = r.map (· - console.shown.length)

def CutOff (r : Option Nat) (written : List UInt8) (console : Console σ) : Prop :=
  ∃ n, r = some n ∧ n < written.length ∧ console.shown = written.take n

theorem holds_on (room : σ → Option Nat) (device : σ) :
    Holds room (room device) [] (.on device) := by
  refine ⟨rfl, ?_, ?_⟩ <;> rw [Console.on] <;> cases room device <;> simp [admitted]

theorem CutOff.later (h : CutOff r written console) (more : List UInt8) :
    CutOff r (written ++ more) console := by
  obtain ⟨n, hroom, hlt, hshown⟩ := h
  refine ⟨n, hroom, ?_, ?_⟩
  · rw [List.length_append]
    omega
  · rw [hshown, List.take_append_of_le_length hlt.le]

/-- A part of a run that prints, from a state on: how it ends when nothing is refused, and how when
something is. -/
def Yields (x : Printing σ Unit) (console : Console σ) (done cut : Console σ → Prop) : Prop :=
  match x.run.run console with
  | (.ok (), console) => done console
  | (.error _, console) => cut console

namespace Yields

variable {x y : Printing σ Unit} {done done' cut cut' : Console σ → Prop}

theorem mono (h : Yields x console done cut) (hdone : ∀ c, done c → done' c)
    (hcut : ∀ c, cut c → cut' c) :
    Yields x console done' cut' := by
  unfold Yields at *
  revert h
  rcases x.run.run console with ⟨cause | _, console⟩
  · exact hcut console
  · exact hdone console

theorem andThen (h : Yields x console done cut) (hnext : ∀ c, done c → Yields y c done' cut) :
    Yields (x >>= fun _ => y) console done' cut := by
  unfold Yields at *
  rw [run_bind]
  revert h
  rcases x.run.run console with ⟨cause | _, console⟩
  · exact id
  · exact hnext console

end Yields

theorem Holds.deliver (h : Holds room r written console) (hw : w.HasRoom room)
    (bytes : List UInt8) :
    ((w.writeAll console.device bytes).result = .ok () ∧
      (w.writeAll console.device bytes).taken = bytes ∧
      Holds room r (console.shown ++ bytes) ⟨(w.writeAll console.device bytes).writer,
        console.shown ++ bytes, []⟩) ∨
    ∃ cause, (w.writeAll console.device bytes).result = .error cause ∧ ∀ waiting,
      CutOff r (console.shown ++ bytes)
      ⟨(w.writeAll console.device bytes).writer,
        console.shown ++ (w.writeAll console.device bytes).taken, waiting⟩ := by
  obtain ⟨htaken, hroom, hresult⟩ := hw.writeAll console.device bytes
  have hwhole : admitted r (console.shown ++ bytes) =
      console.shown ++ admitted (room console.device) bytes := by
    rw [h.left, admitted_append, h.fits]
  by_cases hall : admitted (room console.device) bytes = bytes
  · refine .inl ⟨hresult.2 hall, htaken.trans hall, List.append_nil _, by rw [hwhole, hall], ?_⟩
    rw [hroom, h.left, Option.map_map, List.length_append]
    congr 1
    funext n
    exact Nat.sub_sub ..
  · have hmore : admitted r (console.shown ++ bytes) ≠ console.shown ++ bytes := by
      rwa [hwhole, ne_eq, List.append_right_inj]
    obtain ⟨n, rfl, hlt⟩ := exists_lt_of_admitted_ne hmore
    cases hcause : (w.writeAll console.device bytes).result with
    | ok _ => exact absurd (hresult.1 hcause) hall
    | error cause =>
      exact .inr ⟨cause, rfl, fun waiting => ⟨n, rfl, hlt, (congrArg _ htaken).trans hwhole.symm⟩⟩

theorem run_send (bytes : List UInt8) (console : Console σ) : (send w bytes).run.run console =
    ((w.writeAll console.device bytes).result,
      ⟨(w.writeAll console.device bytes).writer,
        console.shown ++ (w.writeAll console.device bytes).taken, console.waiting⟩) := by
  change (liftM (w.writeAll console.device bytes).result : Printing σ Unit).run.run _ = _
  cases (w.writeAll console.device bytes).result <;> rfl

theorem run_flush (console : Console σ) : (flush w).run.run console =
    ((w.writeAll console.device console.waiting).result,
      ⟨(w.writeAll console.device console.waiting).writer,
        console.shown ++ (w.writeAll console.device console.waiting).taken,
        console.waiting.drop (w.writeAll console.device console.waiting).taken.length⟩) := by
  change (liftM (w.writeAll console.device console.waiting).result : Printing σ Unit).run.run _ = _
  cases (w.writeAll console.device console.waiting).result <;> rfl

section Writes

variable (hw : w.HasRoom room) (h : Holds room r written console)

include hw h

theorem send_yields (hempty : console.waiting = []) (bytes : List UInt8) :
    Yields (send w bytes) console (Holds room r (written ++ bytes))
      (CutOff r (written ++ bytes)) := by
  have hshown : console.shown = written := by rw [← h.order, hempty, List.append_nil]
  rw [Yields, run_send, hempty, ← hshown]
  rcases h.deliver hw bytes with ⟨hok, htaken, hafter⟩ | ⟨cause, hcause, hafter⟩
  · rw [hok, htaken]
    exact hafter
  · rw [hcause]
    exact hafter []

theorem flush_yields :
    Yields (flush w) console (fun c => Holds room r written c ∧ c.waiting = [])
      (CutOff r written) := by
  rw [Yields, run_flush, ← h.order]
  rcases h.deliver hw console.waiting with ⟨hok, htaken, hafter⟩ | ⟨cause, hcause, hafter⟩
  · rw [hok, htaken, List.drop_length]
    exact ⟨hafter, rfl⟩
  · rw [hcause]
    exact hafter _

theorem makeRoom_yields (capacity n : Nat) :
    Yields (makeRoom w capacity n) console (fun c => Holds room r written c ∧
      (capacity ≤ n → c.waiting = []))
      (CutOff r written) := by
  change Yields (if capacity < console.waiting.length + n then flush w else pure ()) console _ _
  split
  next => exact (flush_yields hw h).mono (fun _ hc => ⟨hc.1, fun _ => hc.2⟩) fun _ => id
  next hroom => exact ⟨h, fun hle => List.eq_nil_of_length_eq_zero (by omega)⟩

theorem flushLine_yields :
    Yields (flushLine w) console (Holds room r written) (CutOff r written) := by
  change Yields (if console.waiting.getLast? = some lineBreak then flush w else pure ()) console _ _
  split
  next => exact (flush_yields hw h).mono (fun _ hc => hc.1) fun _ => id
  next => exact h

theorem hold_yields (capacity : Nat) (bytes : List UInt8) :
    Yields (hold w capacity bytes) console (Holds room r (written ++ bytes))
      (CutOff r (written ++ bytes)) := by
  refine ((makeRoom_yields hw h capacity bytes.length).mono (fun _ => id) fun _ hc =>
    hc.later bytes).andThen fun c hc => ?_
  split
  next hlong => exact send_yields hw hc.1 (hc.2 hlong) bytes
  next => exact ⟨by rw [← hc.1.order, List.append_assoc], hc.1.fits, hc.1.left⟩

theorem writeLines_yields (capacity : Nat) (bytes : List UInt8) :
    Yields (writeLines w capacity bytes) console (Holds room r (written ++ bytes))
      (CutOff r (written ++ bytes)) := by
  change Yields (if console.waiting.isEmpty then send w bytes
    else hold w capacity bytes >>= fun _ => flush w) console _ _
  split
  next hempty => exact send_yields hw h (List.isEmpty_iff.1 hempty) bytes
  next =>
    exact (hold_yields hw h capacity bytes).andThen fun c hc =>
      (flush_yields hw hc).mono (fun _ hc => hc.1) fun _ => id

theorem write_yields (capacity : Nat) (bytes : List UInt8) :
    Yields (write w capacity bytes) console (Holds room r (written ++ bytes))
      (CutOff r (written ++ bytes)) := by
  have hlines : completeLines bytes ++ openLine bytes = bytes := by
    rw [completeLines, openLine, ← List.reverse_append, List.takeWhile_append_dropWhile,
      List.reverse_reverse]
  rw [write]
  split
  next =>
    refine ((flushLine_yields hw h).mono (fun _ => id) fun _ hc => hc.later bytes).andThen
      fun c hc => ?_
    exact hold_yields hw hc capacity bytes
  next =>
    have hwritten : written ++ bytes = written ++ completeLines bytes ++ openLine bytes := by
      rw [List.append_assoc, hlines]
    rw [hwritten]
    refine ((writeLines_yields hw h capacity _).mono (fun _ => id) fun _ hc => hc.later _).andThen
      fun c hc => ?_
    exact hold_yields hw hc capacity _

theorem writeTexts_yields (capacity : Nat) (texts : List String) :
    Yields (writeTexts w capacity texts) console
      (Holds room r (written ++ texts.flatMap fun text => text.toUTF8.toList))
      (CutOff r (written ++ texts.flatMap fun text => text.toUTF8.toList)) := by
  induction texts generalizing written console with
  | nil =>
    rw [List.flatMap_nil, List.append_nil]
    exact h
  | cons text rest ih =>
    rw [List.flatMap_cons, ← List.append_assoc]
    refine ((write_yields hw h capacity _).mono (fun _ => id) fun _ hc => hc.later _).andThen
      fun c hc => ?_
    exact ih hc

end Writes

end Console

theorem Printout.print_cases {σ : Type} {w : Writer σ} {room : σ → Option Nat} (hw : w.HasRoom room)
    (p : Printout) (capacity : Nat) (device : σ) :
    (p.print w capacity (.on device)).1.shown = admitted (room device) p.bytes ∧
    (admitted (room device) p.bytes = p.bytes → (p.print w capacity (.on device)).2 = .ok ()) ∧
    (admitted (room device) p.bytes ≠ p.bytes → ∃ cause,
      (p.print w capacity (.on device)).2 = .error (p.refused cause) ∨
      (p.print w capacity (.on device)).2 = .error (.print cause)) := by
  have hcut : ∀ {console : Console σ}, Console.CutOff (room device) p.bytes console →
      console.shown = admitted (room device) p.bytes ∧
      admitted (room device) p.bytes ≠ p.bytes := by
    rintro console ⟨n, hroom, hlt, hshown⟩
    rw [hroom]
    refine ⟨hshown, fun hall => ?_⟩
    exact Nat.not_le.2 hlt (admitted_eq_self_iff.1 hall n rfl)
  have hwrite := Console.writeTexts_yields hw (Console.holds_on room device) capacity p.pieces
  rw [List.nil_append, Console.Yields] at hwrite
  rw [print]
  revert hwrite
  rcases (Console.writeTexts w capacity p.pieces).run.run (.on device) with ⟨cause | _, console⟩
  · intro hwrite
    obtain ⟨hshown, hmore⟩ := hcut hwrite
    exact ⟨hshown, fun hall => absurd hall hmore, fun _ => ⟨cause, .inl rfl⟩⟩
  · intro hwrite
    have hflush := Console.flush_yields hw hwrite
    rw [Console.Yields] at hflush
    dsimp only
    revert hflush
    rcases (Console.flush w).run.run console with ⟨cause | _, console⟩
    · intro hflush
      obtain ⟨hshown, hmore⟩ := hcut hflush
      exact ⟨hshown, fun hall => absurd hall hmore, fun _ => ⟨cause, .inr rfl⟩⟩
    · rintro ⟨hholds, hempty⟩
      have hshown : console.shown = p.bytes := by
        have horder := hholds.order
        rwa [hempty, List.append_nil] at horder
      have hall : admitted (room device) p.bytes = p.bytes := hshown ▸ hholds.fits
      exact ⟨hshown.trans hall.symm, fun _ => rfl, fun hmore => absurd hall hmore⟩

theorem Printout.print_exitNumber {σ : Type} {w : Writer σ} {room : σ → Option Nat}
    (hw : w.HasRoom room) {p : Printout}
    (hrefused : ∀ cause, (p.refused cause).exitNumber = 16) (capacity : Nat) (device : σ) :
    exitNumber (p.print w capacity (.on device)).2 =
      if admitted (room device) p.bytes = p.bytes then 0 else 16 := by
  obtain ⟨-, hdone, hcut⟩ := p.print_cases hw capacity device
  split
  next hall => rw [hdone hall, exitNumber]
  next hmore =>
    obtain ⟨cause, hcause | hcause⟩ := hcut hmore
    · rw [hcause, exitNumber, hrefused]
    · rw [hcause]
      rfl

theorem bytes_join (pieces : List String) :
    (String.join pieces).toUTF8.toList = pieces.flatMap fun piece => piece.toUTF8.toList := by
  induction pieces with
  | nil =>
    rw [String.join_nil, toList_toUTF8]
    rfl
  | cons piece rest ih =>
    rw [String.join_cons, List.flatMap_cons, ← ih, toList_toUTF8, toList_toUTF8, toList_toUTF8,
      String.toList_append, Source.bytes_append]

theorem print_eq (sink : Sink) {text : String} {p : Printout}
    (htext : String.join p.pieces = text) : print sink text =
    ((Sink.writer.writeAll sink p.bytes).writer,
      (Sink.writer.writeAll sink p.bytes).result.mapError .print) := by
  have hbytes : text.toUTF8.toList = p.bytes := by rw [← htext, bytes_join, Printout.bytes]
  simp only [print, Sink.write_eq, hbytes, Sink.writeAll_eq]
  by_cases hfits : admitted sink.room p.bytes = p.bytes
  · simp only [hfits, decide_true, if_true]
    rfl
  · simp only [hfits, decide_false, if_false]
    rfl

theorem join_lines (names : List String) :
    String.join (names.flatMap fun name => [name, "\n"]) = String.join (names.map (· ++ "\n")) := by
  induction names with
  | nil => rfl
  | cons name rest ih =>
    rw [List.flatMap_cons, String.join_append, ih, List.map_cons, String.join_cons,
      String.join_cons, String.join_cons, String.join_nil, String.append_empty]

variable (F O : Type) [Host F O] {a : Arguments} {s : Surroundings}

theorem printout_cases (a : Arguments) (s : Surroundings) :
    (∃ e, printout F O a s = .error e ∧ ∀ sink, run F O a s sink = (sink, .error e)) ∨
    ∃ p, printout F O a s = .ok p ∧ (∀ cause, (p.refused cause).exitNumber = 16) ∧ ∀ sink,
      run F O a s sink =
      ((Sink.writer.writeAll sink p.bytes).writer,
        (Sink.writer.writeAll sink p.bytes).result.mapError p.refused) := by
  unfold printout run
  cases prepare F O a s with
  | error e => exact .inl ⟨e, rfl, fun _ => rfl⟩
  | ok template =>
    simp only [Except.bind]
    split
    next =>
      refine .inr ⟨_, rfl, fun _ => rfl, fun sink => print_eq sink ?_⟩
      rw [String.join_cons, String.join_cons, String.join_nil, String.append_empty]
    next =>
      split
      next => exact .inr ⟨_, rfl, fun _ => rfl, fun sink => print_eq sink (join_lines _)⟩
      next =>
        cases (a.values s : Except SessionError (Context F O)) with
        | error e => exact .inl ⟨e, rfl, fun _ => rfl⟩
        | ok values =>
          simp only [Template.renderInto_eq, Template.renderTo]
          cases template.render (.ofContext values) .dots with
          | error e => exact .inl ⟨_, rfl, fun _ => rfl⟩
          | ok text =>
            refine .inr ⟨_, rfl, fun _ => rfl, fun sink => ?_⟩
            have hbytes : Printout.bytes ⟨[text], fun cause => .render (.writeFailed cause)⟩ =
                text.toUTF8.toList :=
              List.flatMap_singleton ..
            simp only [hbytes, Delivery.mapError]
            cases (Sink.writer.writeAll sink text.toUTF8.toList).result <;> rfl

theorem runOn_eq_run {σ : Type} {w : Writer σ} {room : σ → Option Nat} (hw : w.HasRoom room)
    (a : Arguments) (s : Surroundings) (capacity : Nat) (device : σ) (refusal : String) :
    (runOn F O a s w capacity (.on device)).1.shown =
      (run F O a s ⟨room device, refusal, []⟩).1.taken ∧
      exitNumber (runOn F O a s w capacity (.on device)).2 =
        exitNumber (run F O a s ⟨room device, refusal, []⟩).2 := by
  rw [runOn]
  rcases printout_cases F O a s with ⟨e, hprintout, hrun⟩ | ⟨p, hprintout, hrefused, hrun⟩
  · rw [hprintout, hrun]
    exact ⟨rfl, rfl⟩
  · rw [hprintout, hrun, Sink.writeAll_eq]
    refine ⟨(p.print_cases hw capacity device).1,
      (Printout.print_exitNumber hw hrefused capacity device).trans ?_⟩
    dsimp only
    split
    next => rfl
    next => exact (hrefused refusal).symm

/-- Whatever the arguments and the surroundings: where a run in front of a device that takes
everything succeeds and shows something, it exits with 16 in front of one that refuses everything,
and else with the same number. -/
theorem runOn_refused {σ τ : Type} {w : Writer σ} {w' : Writer τ} {room : σ → Option Nat}
    {room' : τ → Option Nat}
    (hw : w.HasRoom room) (hw' : w'.HasRoom room') {device : σ} {full : τ}
    (hopen : room device = none)
    (hfull : room' full = some 0) (a : Arguments) (s : Surroundings) (capacity : Nat) :
    exitNumber (runOn F O a s w' capacity (.on full)).2 =
      (if exitNumber (runOn F O a s w capacity (.on device)).2 = 0 ∧
        (runOn F O a s w capacity (.on device)).1.shown ≠ []
        then 16 else exitNumber (runOn F O a s w capacity (.on device)).2) ∧
    (runOn F O a s w capacity (.on device)).1.shown = (run F O a s .unbounded).1.taken ∧
    exitNumber (runOn F O a s w capacity (.on device)).2 = exitNumber (run F O a s .unbounded).2 ∧
    ∀ refusal, exitNumber (runOn F O a s w' capacity (.on full)).2 =
      exitNumber (run F O a s (.withRoom 0 refusal)).2 := by
  have hboth := runOn_eq_run F O hw a s capacity device ""
  have hshut := fun refusal => (runOn_eq_run F O hw' a s capacity full refusal).2
  rw [hopen] at hboth
  simp only [hfull] at hshut
  refine ⟨?_, hboth.1, hboth.2, hshut⟩
  rw [runOn, runOn]
  rcases printout_cases F O a s with ⟨e, hprintout, -⟩ | ⟨p, hprintout, hrefused, -⟩
  · rw [hprintout]
    exact (if_neg fun h => h.2 rfl).symm
  · obtain ⟨hshown, -, -⟩ := p.print_cases hw capacity device
    have hnumber := Printout.print_exitNumber hw hrefused capacity device
    have hnumber' := Printout.print_exitNumber hw' hrefused capacity full
    rw [hopen, admitted] at hshown
    rw [hopen, admitted, if_pos rfl] at hnumber
    rw [hfull, admitted_full] at hnumber'
    simp only [hprintout, hshown, hnumber, hnumber']
    by_cases hempty : p.bytes = []
    · rw [hempty, if_pos rfl, if_neg fun h => h.2 rfl]
    · rw [if_neg (Ne.symm hempty), if_pos ⟨trivial, hempty⟩]

theorem runOn_refused_short : ∃ (a : Arguments) (s : Surroundings),
    exitNumber (runOn Empty Empty a s Sink.writer 1024 (.on .unbounded)).2 = 0 ∧
      (runOn Empty Empty a s Sink.writer 1024 (.on .unbounded)).1.shown = [120] ∧
      exitNumber (runOn Empty Empty a s Sink.writer 1024 (.on (.withRoom 0 "full"))).2 = 16 := by
  refine ⟨⟨"-", [], [], false, false, none, .warn, false⟩, ⟨fun _ => none, "x".toUTF8, none⟩, ?_⟩
  have htokens : tokenize "x" = [⟨.text, 0, "x".toList⟩] := by decide +kernel
  have hread : String.fromUTF8? "x".toByteArray = some "x" := dif_pos "x".isValidUTF8
  have hprepare : prepare Empty Empty ⟨"-", [], [], false, false, none, .warn, false⟩
      ⟨fun _ => none, "x".toUTF8, none⟩ =
      .ok ⟨Template.mergeContexts Settings.default.contexts, Draft.compiled [.text "x"]⟩ := by
    have htemplate : Surroundings.readTemplate ⟨fun _ => none, "x".toUTF8, none⟩ "-" = .ok "x" := by
      rw [Surroundings.readTemplate, if_pos rfl, String.toUTF8_eq_toByteArray, hread]
    rw [prepare, htemplate]
    simp only [Surroundings.loadSettings, Except.bind, Template.withContexts, compile_eq, htokens]
    rfl
  have hrun : run Empty Empty ⟨"-", [], [], false, false, none, .warn, false⟩
      ⟨fun _ => none, "x".toUTF8, none⟩
      .unbounded = (⟨none, "", [120]⟩, .ok ()) := by
    rw [run, hprepare]
    simp only [Template.renderInto, Template.render, Program.render_compiled, Sink.write,
      toList_toUTF8]
    rfl
  obtain ⟨hexit, hshown, hnumber, -⟩ :=
    runOn_refused Empty Empty Sink.writer_hasRoom Sink.writer_hasRoom
    (rfl : Sink.unbounded.room = none) (rfl : (Sink.withRoom 0 "full").room = some 0)
    ⟨"-", [], [], false, false, none, .warn, false⟩ ⟨fun _ => none, "x".toUTF8, none⟩ 1024
  rw [hrun] at hshown hnumber
  refine ⟨hnumber, hshown, hexit.trans (if_pos ⟨hnumber, ?_⟩)⟩
  rw [hshown]
  exact List.cons_ne_nil _ _

end Stencil.Command
