import Mathlib.Data.List.Chain
import Stencil.Source

/-! Splits of a source into spans. An opener is live when a closer of its kind follows it anywhere;
a split takes every live opener that no earlier token covers, and ends its token at the first
closer. -/

namespace Stencil

structure Span where
  kind : TokenKind
  start : Nat
  stop : Nat
  deriving DecidableEq, Repr

def Token.span (t : Token) : Span := ⟨t.kind, t.start, t.stop⟩

namespace Span

inductive Tiles : Nat → List Span → Nat → Prop
  | nil (n : Nat) : Tiles n [] n
  | cons {s : Span} {rest : List Span} {stop : Nat} (hnonempty : s.start < s.stop)
    (hrest : Tiles s.stop rest stop) :
    Tiles s.start (s :: rest) stop

/-- The span starts with its opener and stops after the first closer that begins behind the
opener. -/
structure Delimited (source : List Char) (s : Span) : Prop where
  opener : Source.Occurs s.kind.opener source s.start
  closer : ∃ close, s.start + 2 ≤ close ∧ s.stop = close + 2 ∧
    Source.Occurs s.kind.closer source close ∧
    ∀ q, s.start + 2 ≤ q → q < close → ¬Source.Occurs s.kind.closer source q

/-- At byte `p` stands an opener of a kind whose closer begins somewhere behind it. -/
def Live (source : List Char) (kind : TokenKind) (p : Nat) : Prop :=
  kind ≠ .text ∧ Source.Occurs kind.opener source p ∧ ∃ q, p + 2 ≤ q ∧
    Source.Occurs kind.closer source q

structure Split (source : List Char) (start : Nat) (spans : List Span) : Prop where
  tiles : Tiles start spans (Token.byteSize source)
  apart : spans.IsChain fun s next => s.kind = .text → next.kind ≠ .text
  delimited : ∀ s ∈ spans, s.kind ≠ .text → Delimited source s
  plain : ∀ s ∈ spans, s.kind = .text → ∀ p, s.start ≤ p → p < s.stop → ∀ kind, ¬Live source kind p

end Span

end Stencil
