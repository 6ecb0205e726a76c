import Stencil.Block
import Stencil.Expression.Grammar
import Stencil.Program

/-! The grammar of templates. A derivation is told by its block tree; what is left of a tree when
its texts, outputs and conditions are forgotten is its nesting, and a program has a nesting too.
Tokens may be a template, or closing tags alone may make them one. -/

namespace Stencil

inductive Opens : Token → Opener → Prop
  | branch {t : Token} {condition : List Char} {e : Expression String} (hkind : t.kind = .tag)
    (hwords : Text.words t.inner = ["if".toList, condition]) (he : Expression.Reads condition e) :
    Opens t (.branch e)
  | loop {t : Token} {name items : List Char} {e : Expression String} (hkind : t.kind = .tag)
    (hwords : Text.words t.inner = ["for".toList, name, "in".toList, items])
    (hname : isName name = true)
    (he : Expression.Reads items e) : Opens t (.loop (String.ofList name) e)

inductive Closes : Token → Opener → Prop
  | branch {t : Token} {e : Expression String} (hkind : t.kind = .tag)
    (hwords : Text.words t.inner = ["endif".toList]) : Closes t (.branch e)
  | loop {t : Token} {name : String} {e : Expression String} (hkind : t.kind = .tag)
    (hwords : Text.words t.inner = ["endfor".toList]) : Closes t (.loop name e)

inductive Derives : List Token → List Block → Prop
  | nil : Derives [] []
  | text {t : Token} {rest : List Token} {body : List Block} (hkind : t.kind = .text)
    (hrest : Derives rest body) :
    Derives (t :: rest) (.text (String.ofList t.inner) :: body)
  | comment {t : Token} {rest : List Token} {body : List Block} (hkind : t.kind = .comment)
    (hrest : Derives rest body) : Derives (t :: rest) body
  | output {t : Token} {rest : List Token} {e : Expression String} {body : List Block}
    (hkind : t.kind = .expression)
    (he : Expression.Reads t.inner e) (hrest : Derives rest body) :
    Derives (t :: rest) (.output e :: body)
  | block {t t' : Token} {inside rest : List Token} {opener : Opener} {within body : List Block}
    (hopen : Opens t opener) (hinside : Derives inside within) (hclose : Closes t' opener)
    (hrest : Derives rest body) :
    Derives (t :: (inside ++ t' :: rest)) (opener.close within :: body)

inductive Nesting where
  | branch (inside : List Nesting)
  | loop (name : String) (inside : List Nesting)

namespace Nesting

mutual

def depth : Nesting → Nat
  | .branch inside => depthAll inside + 1
  | .loop _ inside => depthAll inside + 1

def depthAll : List Nesting → Nat
  | [] => 0
  | n :: rest => max (depth n) (depthAll rest)

end

end Nesting

namespace Block

mutual

def nesting : Block → List Nesting
  | .text _ => []
  | .output _ => []
  | .branch _ body => [.branch (nestingAll body)]
  | .loop name _ body => [.loop name (nestingAll body)]

def nestingAll : List Block → List Nesting
  | [] => []
  | b :: rest => nesting b ++ nestingAll rest

end

end Block

namespace Node

mutual

def nesting : Node → List Nesting
  | .bind _ => []
  | .emit _ => []
  | .branch _ body => [.branch (nestingAll body)]
  | .loop v _ body => [.loop v.name (nestingAll body)]

def nestingAll : List Node → List Nesting
  | [] => []
  | node :: rest => nesting node ++ nestingAll rest

end

end Node

def Acceptable (tokens : List Token) : Prop :=
  ∃ body, Derives tokens body ∧ Nesting.depthAll (Block.nestingAll body) ≤ maxDepth

def IsEnd (t : Token) : Prop := ∃ opener, Closes t opener

def Completable (tokens : List Token) : Prop :=
  ∃ ends, (∀ t ∈ ends, IsEnd t) ∧ Acceptable (tokens ++ ends)

def Matched (t : Token) (after : List Token) : Prop :=
  ∃ opener inside within t' rest, Opens t opener ∧ Derives inside within ∧ Closes t' opener ∧
    after = inside ++ t' :: rest

/-- A tag opens a block that stays open, and all blocks opened after it are closed. -/
structure LastOpen (t : Token) (after : List Token) : Prop where
  opens : ∃ opener, Opens t opener
  unmatched : ¬Matched t after
  closed {between rest : List Token} {u : Token} : after = between ++ u :: rest →
    (∃ opener, Opens u opener) →
    Matched u rest

end Stencil
