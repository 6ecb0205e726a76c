import Stencil.Data
import Stencil.Main
import Stencil.Value.Equality
import Stencil.Proofs.Entries
import Stencil.Block.Meaning
import Stencil.Program.Record
import Stencil.Program.Lines
import Stencil.Proofs.Assembly
import Stencil.Proofs.Numbering
import Stencil.Proofs.Lowering
import Stencil.Proofs.Simulation
import Stencil.Proofs.Render
import Stencil.Proofs.FreeNames
import Stencil.Expression.Grammar
import Stencil.Proofs.Expressions
import Stencil.Block.Grammar
import Stencil.Proofs.Grammar
import Stencil.Source
import Stencil.Token.Split
import Stencil.Proofs.Splitting
import Stencil.Guarded
import Stencil.Proofs.Offsets
import Stencil.Proofs.Indices
import Stencil.Proofs.Materialize
import Stencil.Proofs.Faults
import Stencil.Proofs.Recovery
import Stencil.Proofs.Layers
import Stencil.Proofs.Interleaving
import Stencil.Proofs.Session
import Stencil.Expression.Parts
import Stencil.Proofs.Parts
import Stencil.Block.Names
import Stencil.Proofs.Scoping
import Stencil.Listing.Writing
import Stencil.Proofs.Balance
import Stencil.Block.Renaming
import Stencil.Proofs.Hygiene
import Stencil.Proofs.Delivery
import Stencil.Command.Console
import Stencil.Proofs.Console
import Stencil.Program.Endless
import Stencil.Proofs.Endless
import Stencil.Proofs.Restoring
import Stencil.Program.Outline
import Stencil.Proofs.Batching
import Stencil.Program.Rounds
import Stencil.Proofs.Equality
import Stencil.Proofs.Rounds
import Stencil.Proofs.Words
import Stencil.Program.Places
import Stencil.Proofs.Allocation
import Stencil.Proofs.Segments
