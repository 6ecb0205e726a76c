import Stencil.Template

/-! Writers that take what they are offered piece by piece, in pieces of their own choice, and the
delivery of a text to one: what is left is offered again until all is taken or the writer
refuses. -/

namespace Stencil

/-- A writer with states of a type `σ`. Offered bytes, it tells how many of the first of them it
takes, or in words why it refuses. An offer that is interrupted is made again, and only the last one
counts here. -/
structure Writer (σ : Type) where
  offer : σ → List UInt8 → σ × Except String Nat

structure Delivery (σ ε : Type) where
  writer : σ
  taken : List UInt8
  result : Except ε Unit

def Delivery.mapError {σ ε ε' : Type} (f : ε → ε') (d : Delivery σ ε) : Delivery σ ε' :=
  ⟨d.writer, d.taken, d.result.mapError f⟩

def admitted : Option Nat → List UInt8 → List UInt8
  | none, bytes => bytes
  | some n, bytes => bytes.take n

namespace Writer

variable {σ : Type} (w : Writer σ)

/-- A writer that takes nothing of an offer is not asked again. -/
def writeAll (s : σ) : List UInt8 → Delivery σ String
  | [] => ⟨s, [], .ok ()⟩
  | byte :: bytes =>
    match w.offer s (byte :: bytes) with
    | (s, .error cause) => ⟨s, [], .error cause⟩
    | (s, .ok 0) => ⟨s, [], .error "failed to write whole buffer"⟩
    | (s, .ok (n + 1)) =>
      let rest := writeAll s (bytes.drop n)
      { rest with taken := byte :: bytes.take n ++ rest.taken }
termination_by bytes => bytes.length
decreasing_by
  rw [List.length_drop, List.length_cons]
  omega

/-- In each state the writer has room for so many bytes in all, or for any number: as long as there
is room it takes at least one byte of an offer, and then none. -/
structure HasRoom (room : σ → Option Nat) : Prop where
  takes {s : σ} {bytes : List UInt8} (hoffer : bytes ≠ []) (hroom : room s ≠ some 0) :
    ∃ s' n, w.offer s bytes = (s', .ok n) ∧ 0 < n ∧ n ≤ (admitted (room s) bytes).length ∧
      room s' = (room s).map (· - n)
  refuses {s : σ} {bytes : List UInt8} (hoffer : bytes ≠ []) (hroom : room s = some 0) :
    ∃ s' answer, w.offer s bytes = (s', answer) ∧
      (answer = .ok 0 ∨ ∃ cause, answer = .error cause) ∧ room s' = some 0

end Writer

def Writer.bytewise : Writer Nat where
  offer left _ :=
    match left with
    | 0 => (0, .ok 0)
    | left + 1 => (left, .ok 1)

def Sink.writer : Writer Sink where
  offer sink bytes :=
    if sink.room = some 0 then (sink, .error sink.refusal)
    else
      let fitting := admitted sink.room bytes
      ({ sink with room := sink.room.map (· - fitting.length), taken := sink.taken ++ fitting },
        .ok fitting.length)

def Template.renderTo {F O σ : Type} [Host F O] (t : Template F O) (w : Writer σ) (s : σ)
    (values : Lookup F O) (resolver : Resolver F O) : Delivery σ RenderError :=
  match t.render values resolver with
  | .error e => ⟨s, [], .error e⟩
  | .ok text => (w.writeAll s text.toUTF8.toList).mapError .writeFailed

end Stencil
