/-! Tokens of a template. A delimited token runs from its opener to the first closer after it,
whatever stands between, and an opener that is never closed is text. -/

namespace Stencil

inductive TokenKind where
  | text
  | expression
  | tag
  | comment
  deriving DecidableEq, Repr

/-- The character that follows the brace of the opener and precedes that of the closer. -/
def TokenKind.mark? : TokenKind → Option Char
  | .text => none
  | .expression => some '{'
  | .tag => some '%'
  | .comment => some '#'

def TokenKind.opener (kind : TokenKind) : List Char :=
  match kind.mark? with
  | none => []
  | some mark => ['{', mark]

def TokenKind.closer : TokenKind → List Char
  | .text => []
  | .expression => ['}', '}']
  | .tag => ['%', '}']
  | .comment => ['#', '}']

def TokenKind.ofOpener : Char → Char → Option TokenKind
  | '{', '{' => some .expression
  | '{', '%' => some .tag
  | '{', '#' => some .comment
  | _, _ => none

structure Token where
  kind : TokenKind
  start : Nat
  inner : List Char
  deriving DecidableEq, Repr

namespace Token

def byteSize (cs : List Char) : Nat := cs.foldr (fun c n => c.utf8Size + n) 0

def lexeme (t : Token) : List Char := t.kind.opener ++ t.inner ++ t.kind.closer

def stop (t : Token) : Nat := t.start + byteSize t.lexeme

def cutAt (first second : Char) : List Char → Option (List Char × List Char)
  | a :: b :: rest =>
    if a = first ∧ b = second then some ([], rest)
    else (cutAt first second (b :: rest)).map fun (inner, after) => (a :: inner, after)
  | _ => none

theorem cutAt_eq {first second : Char} {cs inner after : List Char}
    (h : cutAt first second cs = some (inner, after)) : cs = inner ++ first :: second :: after := by
  fun_induction cutAt first second cs generalizing inner after with
  | case1 a b rest hab => simp_all
  | case2 a b rest _ ih =>
    obtain ⟨⟨i, t⟩, hc, he⟩ := Option.map_eq_some_iff.1 h
    simp only [Prod.mk.injEq] at he
    obtain ⟨rfl, rfl⟩ := he
    simp [ih hc]
  | case3 => simp at h

def delimited? : List Char → Option (TokenKind × List Char × List Char)
  | a :: b :: rest =>
    match TokenKind.ofOpener a b with
    | none => none
    | some kind =>
      match kind.closer with
      | [first, second] => (cutAt first second rest).map fun (inner, after) => (kind, inner, after)
      | _ => none
  | _ => none

theorem delimited?_length {cs inner after : List Char} {kind : TokenKind}
    (h : delimited? cs = some (kind, inner, after)) : after.length < cs.length := by
  unfold delimited? at h
  split at h
  · split at h
    · simp at h
    · split at h
      · obtain ⟨⟨i, t⟩, hc, he⟩ := Option.map_eq_some_iff.1 h
        simp only [Prod.mk.injEq] at he
        obtain ⟨-, rfl, rfl⟩ := he
        have := congrArg List.length (cutAt_eq hc)
        simp only [List.length_append, List.length_cons] at this ⊢
        omega
      · simp at h
  · simp at h

def ofPending (start : Nat) (pending : List Char) : List Token :=
  if pending.isEmpty then [] else [⟨.text, start, pending.reverse⟩]

/-- The tokens of a text that follows, from byte `start` on, the plain characters `pending`, latest
first. -/
def scan (start : Nat) (pending : List Char) (cs : List Char) : List Token :=
  match cs with
  | [] => ofPending start pending
  | c :: rest =>
    match h : delimited? (c :: rest) with
    | none => scan start (c :: pending) rest
    | some (kind, inner, after) =>
      have := delimited?_length h
      let token : Token := ⟨kind, start + byteSize pending, inner⟩
      ofPending start pending ++ token :: scan token.stop [] after
termination_by cs.length
decreasing_by
  · exact Nat.lt_succ_self _
  · assumption

end Token

def tokenize (source : String) : List Token := Token.scan 0 [] source.toList

end Stencil
