import Stencil.Command.Session
import Stencil.Writer

/-! The standard output, which keeps what is written until a line is complete, and a run of the
command that prints to it piece by piece and flushes it at the end. -/

namespace Stencil.Command

/-- The standard output in front of a device: the state of the device, what it took so far, and what
waits to be written there. -/
structure Console (σ : Type) where
  device : σ
  shown : List UInt8
  waiting : List UInt8

def Console.on {σ : Type} (device : σ) : Console σ := ⟨device, [], []⟩

abbrev Printing (σ α : Type) := ExceptT String (StateM (Console σ)) α

namespace Console

def lineBreak : UInt8 := 10

def completeLines (bytes : List UInt8) : List UInt8 :=
  (bytes.reverse.dropWhile (· ≠ lineBreak)).reverse

def openLine (bytes : List UInt8) : List UInt8 := (bytes.reverse.takeWhile (· ≠ lineBreak)).reverse

variable {σ : Type} (w : Writer σ) (capacity : Nat)

def send (bytes : List UInt8) : Printing σ Unit := do
  let console ← get
  let delivery := w.writeAll console.device bytes
  set { console with device := delivery.writer, shown := console.shown ++ delivery.taken }
  delivery.result

def flush : Printing σ Unit := do
  let console ← get
  let delivery := w.writeAll console.device console.waiting
  set (⟨delivery.writer, console.shown ++ delivery.taken,
    console.waiting.drop delivery.taken.length⟩ : Console σ)
  delivery.result

def makeRoom (n : Nat) : Printing σ Unit := do
  if capacity < (← get).waiting.length + n then flush w

/-- Bytes wait behind those that do already, but for as many as the whole buffer has room for, or
more. -/
def hold (bytes : List UInt8) : Printing σ Unit := do
  makeRoom w capacity bytes.length
  if capacity ≤ bytes.length then send w bytes
  else modify fun console => { console with waiting := console.waiting ++ bytes }

def flushLine : Printing σ Unit := do
  if (← get).waiting.getLast? = some lineBreak then flush w

def writeLines (bytes : List UInt8) : Printing σ Unit := do
  if (← get).waiting.isEmpty then send w bytes
  else
    hold w capacity bytes
    flush w

def write (bytes : List UInt8) : Printing σ Unit :=
  if (completeLines bytes).isEmpty then do
    flushLine w
    hold w capacity bytes
  else do
    writeLines w capacity (completeLines bytes)
    hold w capacity (openLine bytes)

def writeTexts : List String → Printing σ Unit
  | [] => pure ()
  | text :: rest => do
    write w capacity text.toUTF8.toList
    writeTexts rest

end Console

structure Printout where
  pieces : List String
  refused : String → SessionError

def Printout.bytes (p : Printout) : List UInt8 := p.pieces.flatMap fun piece => piece.toUTF8.toList

variable (F O : Type) [Host F O]

/-- A text that is rendered is written as one piece, a look into the template line by line. -/
def printout (a : Arguments) (s : Surroundings) : Except SessionError Printout :=
  (prepare F O a s).bind fun template =>
    if a.emitCode then .ok ⟨[template.compiled.code, "\n"], .print⟩
    else if a.listVars then .ok ⟨template.free.flatMap fun name => [name, "\n"], .print⟩
    else
      (a.values s).bind fun values =>
        match template.render (.ofContext values) .dots with
        | .error e => .error (.render e)
        | .ok text => .ok ⟨[text], fun cause => .render (.writeFailed cause)⟩

def Printout.print {σ : Type} (p : Printout) (w : Writer σ) (capacity : Nat) (console : Console σ) :
    Console σ × Except SessionError Unit :=
  match (Console.writeTexts w capacity p.pieces).run.run console with
  | (.error cause, console) => (console, .error (p.refused cause))
  | (.ok (), console) =>
    let (result, console) := (Console.flush w).run.run console
    (console, result.mapError .print)

def runOn {σ : Type} (a : Arguments) (s : Surroundings) (w : Writer σ) (capacity : Nat)
    (console : Console σ) :
    Console σ × Except SessionError Unit :=
  match printout F O a s with
  | .error e => (console, .error e)
  | .ok p => p.print w capacity console

end Stencil.Command
