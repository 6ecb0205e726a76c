import Stencil.Command.Arguments
import Stencil.Command.Settings
import Stencil.Json.Writer
import Stencil.Template

/-! One run of the command: settings, template, compilation, then either a look into the template or
a render with values from contexts and variables. The first stage that fails decides the outcome. -/

namespace Stencil.Command

inductive Place where
  | file (bytes : ByteArray)
  | unreadable

/-- What a run finds around it: files, the standard input, and where the settings of the user would
be. -/
structure Surroundings where
  place? : String → Option Place
  input : ByteArray
  userSettings : Option String

inductive SessionError where
  | readSettings (path : String)
  | parseSettings (path : String)
  | readTemplate (path : String)
  | readInput
  | compile (e : CompileError)
  | readContext (path : String)
  | parseContext (path : String)
  | contextNotObject (path : String) (found : Json)
  | render (e : RenderError)
  | print (cause : String)

namespace SessionError

def message : SessionError → String
  | .readSettings path => "read settings file " ++ path
  | .parseSettings path => "parse settings file " ++ path
  | .readTemplate path => "read template " ++ path
  | .readInput => "read template from stdin"
  | .compile e => e.message
  | .readContext path => "read context " ++ path
  | .parseContext path => "parse context " ++ path
  | .contextNotObject path found =>
    "context " ++ path ++ " must hold a JSON object, found " ++ found.text
  | .render e => e.message
  | .print cause => cause

/-- Exit numbers: a malformed template, a listing that is none, a render that failed, and all
else. -/
def exitNumber : SessionError → Nat
  | .compile (.malformed _) => 65
  | .compile (.internal _) => 70
  | .render (.writeFailed _) => 16
  | .render _ => 1
  | _ => 16

end SessionError

namespace Surroundings

def readText (s : Surroundings) (path : String) : Option String :=
  match s.place? path with
  | some (.file bytes) => String.fromUTF8? bytes
  | _ => none

def readSettings (s : Surroundings) (path : String) : Except SessionError Settings :=
  match s.readText path with
  | none => .error (.readSettings path)
  | some text =>
    match Settings.read text with
    | none => .error (.parseSettings path)
    | some settings => .ok settings

/-- A named file has to be there; the user's own need not. -/
def loadSettings (s : Surroundings) (config : Option String) : Except SessionError Settings :=
  match config, s.userSettings with
  | some path, _ => s.readSettings path
  | none, some path => if (s.place? path).isSome then s.readSettings path else .ok Settings.default
  | none, none => .ok Settings.default

def readTemplate (s : Surroundings) (path : String) : Except SessionError String :=
  if path = "-" then
    match String.fromUTF8? s.input with
    | some text => .ok text
    | none => .error .readInput
  else
    match s.readText path with
    | some text => .ok text
    | none => .error (.readTemplate path)

def loadContext {F O : Type} (s : Surroundings) (path : String) :
    Except SessionError (Context F O) :=
  match s.readText path with
  | none => .error (.readContext path)
  | some text =>
    match Json.read text with
    | none => .error (.parseContext path)
    | some (.object members) => .ok (Entries.ofPairs (Json.toEntries members))
    | some found => .error (.contextNotObject path found)

def loadContexts {F O : Type} (s : Surroundings) (values : Context F O) :
    List String → Except SessionError (Context F O)
  | [] => .ok values
  | path :: rest =>
    match s.loadContext path with
    | .ok context => s.loadContexts (Entries.merge values context) rest
    | .error e => .error e

end Surroundings

namespace Arguments

variable {F O : Type}

def values (a : Arguments) (s : Surroundings) : Except SessionError (Context F O) :=
  (s.loadContexts [] a.contexts).map fun context =>
    Entries.merge context (a.vars.map fun (key, json) => (key, json.toValue))

end Arguments

def print (sink : Sink) (text : String) : Sink × Except SessionError Unit :=
  match sink.write text with
  | (sink, true) => (sink, .ok ())
  | (sink, false) => (sink, .error (.print sink.refusal))

def prepare (F O : Type) (a : Arguments) (s : Surroundings) : Except SessionError (Template F O) :=
  (s.loadSettings a.config).bind fun settings =>
    (s.readTemplate a.template).bind fun text =>
      (Template.withContexts text settings.contexts).mapError .compile

def run (F O : Type) [Host F O] (a : Arguments) (s : Surroundings) (sink : Sink) :
    Sink × Except SessionError Unit :=
  match prepare F O a s with
  | .error e => (sink, .error e)
  | .ok template =>
    if a.emitCode then print sink (template.compiled.code ++ "\n")
    else if a.listVars then print sink (String.join (template.free.map (· ++ "\n")))
    else
      match a.values s with
      | .error e => (sink, .error e)
      | .ok values =>
        let (sink, result) := template.renderInto sink (.ofContext values) .dots
        (sink, result.mapError .render)

def exitNumber : Except SessionError Unit → Nat
  | .ok () => 0
  | .error e => e.exitNumber

end Stencil.Command
