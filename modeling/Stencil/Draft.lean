import Stencil.Block
import Stencil.Entries
import Stencil.Listing.Assembly

/-! Drafts: listings in the making. A draft writes a block tree line by line and gives each name its
slot, a free name at its first use and each loop at its tag. Output is held back until the next tag,
so that what stands together is emitted at once. -/

namespace Stencil

structure Compiled where
  program : Program
  code : String
  free : Names
  looped : Names
  mentioned : Names

abbrev Scope := List (String × Nat)

structure Draft where
  listing : Listing
  pieces : List Piece
  free : Entries Nat
  slots : Nat
  looped : Names
  mentioned : Names

namespace Draft

/-- The variable that a name means: the innermost loop's, or else the free one. -/
def resolve (scope : Scope) (d : Draft) (name : String) : Variable × Draft :=
  let d := { d with mentioned := d.mentioned.insert name }
  match scope.lookup name with
  | some slot => (⟨name, slot, true⟩, d)
  | none =>
    match Entries.find? d.free name with
    | some slot => (⟨name, slot, false⟩, d)
    | none =>
      (⟨name, d.slots, false⟩,
        { d with free := Entries.insert d.free name d.slots, slots := d.slots + 1 })

def resolveAll (scope : Scope) (d : Draft) : List String → List Variable × Draft
  | [] => ([], d)
  | name :: rest =>
    let (v, d) := d.resolve scope name
    let (vs, d) := d.resolveAll scope rest
    (v :: vs, d)

def expression (scope : Scope) (d : Draft) (e : Expression String) : Expression Variable × Draft :=
  let (head, d) := d.resolve scope e.head
  let (filters, d) := d.resolveAll scope e.filters
  (⟨e.source, head, e.path, filters⟩, d)

def line (d : Draft) (statement : Statement) : Draft :=
  { d with listing := d.listing.line statement }

def indent (d : Draft) : Draft := { d with listing := d.listing.indent }

def dedent (d : Draft) : Draft := { d with listing := d.listing.dedent }

def hold (d : Draft) (piece : Piece) : Draft := { d with pieces := piece :: d.pieces }

def flush (d : Draft) : Draft :=
  if d.pieces.isEmpty then d else { d.line (.emit d.pieces.reverse) with pieces := [] }

def bindLoop (d : Draft) (name : String) : Nat × Draft :=
  (d.slots,
    { d with
      slots := d.slots + 1, looped := d.looped.insert name, mentioned := d.mentioned.insert name })

def openBranch (scope : Scope) (d : Draft) (condition : Expression String) :
    Expression Variable × Draft :=
  let (condition, d) := d.flush.expression scope condition
  (condition, (d.line (.branch condition)).indent)

/-- Starts the body of a loop, and tells its slot and its items. The items are read outside the
loop. -/
def openLoop (scope : Scope) (d : Draft) (name : String) (items : Expression String) :
    Nat × Expression Variable × Draft :=
  let (items, d) := d.flush.expression scope items
  let (slot, d) := d.bindLoop name
  (slot, items, (d.line (.loop ⟨name, slot, true⟩ items)).indent)

def closeBlock (d : Draft) : Draft := d.flush.dedent

mutual

def block (scope : Scope) (d : Draft) : Block → Draft
  | .text s => d.hold (.literal s)
  | .output e =>
    let (e, d) := d.expression scope e
    d.hold (.output e)
  | .branch condition body =>
    let (_, d) := d.openBranch scope condition
    (blocks scope d body).closeBlock
  | .loop name items body =>
    let (slot, _, d) := d.openLoop scope name items
    (blocks ((name, slot) :: scope) d body).closeBlock

def blocks (scope : Scope) (d : Draft) : List Block → Draft
  | [] => d
  | b :: rest => blocks scope (block scope d b) rest

end

def entry : Draft := ⟨((Listing.empty.line .define).indent).reserve, [], [], 0, [], []⟩

def bindSection : Nat := ((Listing.empty.line .define).indent).handle

def bindLines (free : Entries Nat) (l : Listing) : Listing :=
  free.foldl (fun l (name, slot) => l.line (.bind ⟨name, slot, false⟩)) l

def close (d : Draft) : Except ListingError Listing :=
  (d.listing.modifyAt [bindSection] (bindLines d.free)).map fun l => (l.line .finish).dedent

def ofBlocks (body : List Block) : Draft := (entry.blocks [] body).flush

def finishWith (hidden : Char → Bool) (d : Draft) : Except ListingError Compiled :=
  d.close.bind fun l =>
    l.materialize.bind fun program =>
      (l.renderWith hidden).map fun code =>
        ⟨program, code, Entries.keys d.free, d.looped, d.mentioned⟩

def finish (d : Draft) : Except ListingError Compiled := d.finishWith Text.isHidden

end Draft

/-- Compiles a text; the characters of the set `hidden` are escaped in the listing. -/
def compileWith (hidden : Char → Bool) (source : String) : Except CompileError Compiled :=
  match Block.ofTokens (tokenize source) with
  | .error e => .error (.malformed e)
  | .ok body => ((Draft.ofBlocks body).finishWith hidden).mapError .internal

def compile (source : String) : Except CompileError Compiled := compileWith Text.isHidden source

end Stencil
