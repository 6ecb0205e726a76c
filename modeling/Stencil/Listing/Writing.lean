import Stencil.Listing

/-! Writings to a listing and to its sections, one after the other. Each is addressed to the section
at the end of a path of handles, and is refused when there is no such section yet. What a section
was asked for is well nested when its steps in and out match each other. -/

namespace Stencil

inductive Request where
  | line (statement : Statement)
  | indent
  | dedent
  | reserve
  deriving DecidableEq, Repr

structure Writing where
  path : List Nat
  request : Request
  deriving DecidableEq, Repr

def received (path : List Nat) (writings : List Writing) : List Request :=
  writings.filterMap fun w => if w.path = path then some w.request else none

/-- The writings to the section at a path and to the sections in it, as that section sees them. -/
def below (path : List Nat) (writings : List Writing) : List Writing :=
  writings.filterMap fun w => (path.isPrefixOf? w.path).map fun rest => ⟨rest, w.request⟩

namespace Listing

def apply (l : Listing) : Request → Listing
  | .line statement => l.line statement
  | .indent => l.indent
  | .dedent => l.dedent
  | .reserve => l.reserve

def write (l : Listing) (w : Writing) : Except ListingError Listing :=
  l.modifyAt w.path fun s => s.apply w.request

def writes (l : Listing) : List Writing → Except ListingError Listing
  | [] => .ok l
  | w :: rest => (l.write w).bind fun l => l.writes rest

def around (l : Listing) :
    List Nat → Except ListingError (List (Nat × Statement) × List (Nat × Statement))
  | [] => .ok ([], [])
  | handle :: path =>
    (l.section? handle).bind fun s =>
      (s.around path).map fun (before, after) =>
        (Chunk.linesAll (l.chunks.take handle) ++ before,
          after ++ Chunk.linesAll (l.chunks.drop (handle + 1)))

end Listing

inductive WellNested : List Request → Prop
  | nil : WellNested []
  | line (statement : Statement) {rest : List Request} (h : WellNested rest) :
    WellNested (.line statement :: rest)
  | reserve {rest : List Request} (h : WellNested rest) : WellNested (.reserve :: rest)
  | pair {inside rest : List Request} (h : WellNested inside) (h' : WellNested rest) :
    WellNested (.indent :: (inside ++ .dedent :: rest))

/-- The requests are well nested once the steps in that lead to the column, and as many steps out at
the end, are counted among them. -/
def Settled (column : Nat) (rs : List Request) : Prop :=
  ∃ k, column = indentStep * k ∧
    WellNested (List.replicate k .indent ++ (rs ++ List.replicate k .dedent))

/-- Some step out takes back no step in, not even one of those that lead to the column. -/
def Overruns (column : Nat) (rs : List Request) : Prop :=
  ∃ k before after, column = indentStep * k ∧ rs = before ++ .dedent :: after ∧
    WellNested (List.replicate k .indent ++ before)

end Stencil
