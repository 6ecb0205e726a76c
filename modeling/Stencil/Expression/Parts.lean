import Stencil.Draft
import Stencil.Expression.Grammar

/-! The parts of an expression: the characters that names and indices are made of, the text of given
parts without any white space, and what becomes of a text at a place of a draft. -/

namespace Stencil

namespace Text

def Letter (c : Char) : Prop := 'A' ≤ c ∧ c ≤ 'Z' ∨ 'a' ≤ c ∧ c ≤ 'z' ∨ c = '_'

def Digit (c : Char) : Prop := '0' ≤ c ∧ c ≤ '9'

end Text

inductive Identifier : List Char → Prop
  | intro {first : Char} {rest : List Char} (hfirst : Text.Letter first)
    (hrest : ∀ c ∈ rest, Text.Letter c ∨ Text.Digit c) : Identifier (first :: rest)

inductive Numeral : List Char → Prop
  | intro {first : Char} {rest : List Char} (hdigits : ∀ c ∈ first :: rest, Text.Digit c) :
    Numeral (first :: rest)

namespace Expression

def named (e : Expression Variable) : Expression String :=
  ⟨e.source, e.head.name, e.path, e.filters.map Variable.name⟩

structure Valid (head : String) (path filters : List String) : Prop where
  head : Identifier head.toList
  path : ∀ segment ∈ path, Identifier segment.toList ∨ Numeral segment.toList
  filters : ∀ name ∈ filters, Identifier name.toList

def spell (head : String) (path filters : List String) : List Char :=
  Text.join '|' (Text.join '.' head.toList (path.map String.toList)) (filters.map String.toList)

end Expression

def Draft.readExpression (scope : Scope) (d : Draft) (cs : List Char) :
    Except SyntaxFault (Expression Variable × Draft) :=
  (Expression.read cs).map (d.expression scope)

end Stencil
