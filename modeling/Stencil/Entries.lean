/-! Entries: values under text keys, kept in increasing order of the keys' bytes, one value a
key. -/

namespace Stencil

abbrev Entries (α : Type) := List (String × α)

namespace Entries

variable {α : Type}

def insert : Entries α → String → α → Entries α
  | [], key, value => [(key, value)]
  | (k, v) :: rest, key, value =>
    match compare key k with
    | .lt => (key, value) :: (k, v) :: rest
    | .eq => (key, value) :: rest
    | .gt => (k, v) :: insert rest key value

def find? : Entries α → String → Option α
  | [], _ => none
  | (k, v) :: rest, key => if k = key then some v else find? rest key

def merge (earlier later : Entries α) : Entries α :=
  later.foldl (fun entries (key, value) => insert entries key value) earlier

/-- Pairs put in one after the other: of several with one key, the last stays. -/
def ofPairs (pairs : List (String × α)) : Entries α := merge [] pairs

def keys (entries : Entries α) : List String := entries.map Prod.fst

def Sorted (entries : Entries α) : Prop := (keys entries).Pairwise fun a b => compare a b = .lt

end Entries

/-- A set of names, listed in increasing order of their bytes. -/
abbrev Names := List String

def Names.insert : Names → String → Names
  | [], name => [name]
  | n :: rest, name =>
    match compare name n with
    | .lt => name :: n :: rest
    | .eq => n :: rest
    | .gt => n :: Names.insert rest name

def Names.ofList (names : List String) : Names := names.foldl Names.insert []

def Names.Sorted (names : Names) : Prop := names.Pairwise fun a b => compare a b = .lt

end Stencil
