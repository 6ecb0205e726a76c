import Stencil.Json

/-! Tables of a TOML document in the making. Each table remembers how it came about, for that
decides what may still be added: a table is defined by one header at most, and dotted keys extend
only tables that have no header of their own. A table to which a dotted key gave a value gets no
header any more. -/

namespace Stencil.Toml

/-- How a table came about: by its own header, on the way of a longer header, or by dotted keys,
which also claim tables of the second kind. -/
inductive Origin where
  | header
  | implied
  | dotted
  deriving DecidableEq, Repr

inductive Node where
  | value (json : Json)
  | table (origin : Origin) (members : List (String × Node))
  | tables (latest : List (String × Node)) (older : List (List (String × Node)))

abbrev Members := Entries Node

structure Table where
  origin : Origin
  members : Members

namespace Table

def empty : Table := ⟨.header, []⟩

def put (t : Table) (key : String) (node : Node) : Table :=
  { t with members := Entries.insert t.members key node }

/-- Changes the table at the end of a path, of an array of tables always the latest. Tables that are
missing on the way are made. -/
def under (dotted : Bool) (f : Table → Option Table) (t : Table) : List String → Option Table
  | [] => f t
  | key :: path =>
    match Entries.find? t.members key with
    | none =>
      (under dotted f ⟨if dotted then .dotted else .implied, []⟩ path).map fun u =>
        t.put key (.table u.origin u.members)
    | some (.table origin members) =>
      if dotted && origin = .header then none
      else (under dotted f ⟨origin, members⟩ path).map fun u =>
        t.put key (.table u.origin u.members)
    | some (.tables latest older) =>
      (under dotted f ⟨.header, latest⟩ path).map fun u => t.put key (.tables u.members older)
    | some (.value _) => none

def assignHere (t : Table) (key : String) (json : Json) : Option Table :=
  if (Entries.find? t.members key).isSome then none else some (t.put key (.value json))

/-- Puts a value under a dotted key. The table that holds the value counts from then on as made by
dotted keys. -/
def assign (t : Table) (path : List String) (key : String) (json : Json) : Option Table :=
  if path.isEmpty then t.assignHere key json
  else
    let claim (u : Table) : Option Table :=
      if u.origin = .header then none
        else ({ u with origin := .dotted } : Table).assignHere key json
    t.under true claim path

def openTable (t : Table) (path : List String) (key : String) : Option Table :=
  let opened (u : Table) : Option Table :=
    match Entries.find? u.members key with
    | none => some (u.put key (.table .header []))
    | some (.table .implied members) => some (u.put key (.table .header members))
    | _ => none
  t.under false opened path

def openElement (t : Table) (path : List String) (key : String) : Option Table :=
  let opened (u : Table) : Option Table :=
    match Entries.find? u.members key with
    | none => some (u.put key (.tables [] []))
    | some (.tables latest older) => some (u.put key (.tables [] (latest :: older)))
    | _ => none
  t.under false opened path

end Table

mutual

def Node.toJson : Node → Json
  | .value json => json
  | .table _ members => .object (Node.toMembers members)
  | .tables latest older => .array (Node.toObjects [.object (Node.toMembers latest)] older)

def Node.toMembers : List (String × Node) → List (String × Json)
  | [] => []
  | (key, node) :: rest => (key, Node.toJson node) :: Node.toMembers rest

def Node.toObjects (done : List Json) : List (List (String × Node)) → List Json
  | [] => done
  | members :: rest => Node.toObjects (.object (Node.toMembers members) :: done) rest

end

def Table.toEntries (t : Table) : Entries Json := Node.toMembers t.members

end Stencil.Toml
