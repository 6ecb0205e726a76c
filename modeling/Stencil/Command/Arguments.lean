import Stencil.Json.Reader

/-! Arguments of the command. Words are taken from left to right; a value is judged only when the
next word that stands on its own, or the end, settles it. What the words leave open the environment
may fill in. -/

namespace Stencil.Command

inductive LogLevel where
  | off
  | error
  | warn
  | info
  | debug
  | trace
  deriving DecidableEq, Repr

namespace LogLevel

def name : LogLevel → String
  | .off => "OFF"
  | .error => "ERROR"
  | .warn => "WARN"
  | .info => "INFO"
  | .debug => "DEBUG"
  | .trace => "TRACE"

def all : List LogLevel := [.off, .error, .warn, .info, .debug, .trace]

def read (s : String) : Option LogLevel :=
  all.find? fun level => level.name.toList = s.toList.map Char.toUpper

end LogLevel

structure Arguments where
  template : String
  contexts : List String
  vars : List (String × Json)
  emitCode : Bool
  listVars : Bool
  config : Option String
  logLevel : LogLevel
  jsonOutput : Bool

inductive UsageError where
  | help
  | version
  | nothingGiven
  | unknownArgument
  | conflict
  | emptyValue
  | tooManyValues
  | badValue
  | missingArgument
  deriving DecidableEq, Repr

def UsageError.exitNumber : UsageError → Nat
  | .help | .version => 0
  | _ => 2

inductive Setting where
  | context
  | var
  | config
  | logLevel
  deriving DecidableEq, Repr

inductive Switch where
  | emitCode
  | listVars
  | jsonOutput
  | help
  | version
  deriving DecidableEq, Repr

def longSettings : List (String × Setting) := [
    ("context", .context), ("var", .var), ("config", .config), ("log-level", .logLevel)]

def longSwitches : List (String × Switch) := [
    ("emit-code", .emitCode), ("list-vars", .listVars), ("json-output", .jsonOutput),
      ("help", .help),
    ("version", .version)]

inductive Pending where
  | nothing
  | awaiting (setting : Setting)
  | value (setting : Setting) (text : String)
  | template (text : String)

/-- Arguments read in part. After a double dash all words are positional. -/
structure Intake where
  template : Option String
  contexts : List String
  vars : List (String × Json)
  emitCode : Bool
  listVars : Bool
  jsonOutput : Bool
  config : Option String
  logLevel : Option LogLevel
  pending : Pending
  positional : Bool
  seenTemplate : Bool

def readVar (text : String) : Option (String × Json) :=
  match text.toList.span (· ≠ '=') with
  | (key, '=' :: value) =>
    let value := String.ofList value
    some (String.ofList key, (Json.read value).getD (.string value))
  | _ => none

namespace Intake

def start : Intake := ⟨none, [], [], false, false, false, none, none, .nothing, false, false⟩

def assign (t : Intake) (setting : Setting) (text : String) : Except UsageError Intake :=
  match setting with
  | .context =>
    if text.isEmpty then .error .emptyValue else .ok { t with contexts := t.contexts ++ [text] }
  | .var =>
    match readVar text with
    | some var => .ok { t with vars := t.vars ++ [var] }
    | none => .error .badValue
  | .config =>
    if t.config.isSome then .error .conflict
    else if text.isEmpty then .error .emptyValue
    else .ok { t with config := some text }
  | .logLevel =>
    if t.logLevel.isSome then .error .conflict
    else
      match LogLevel.read text with
      | some level => .ok { t with logLevel := some level }
      | none => .error .badValue

def settle (t : Intake) : Except UsageError Intake :=
  let settled := { t with pending := .nothing }
  match t.pending with
  | .nothing => .ok t
  | .awaiting _ => .error .emptyValue
  | .value setting text => settled.assign setting text
  | .template text =>
    if text.isEmpty then .error .emptyValue else .ok { settled with template := some text }

def raise (t : Intake) : Switch → Except UsageError Intake
  | .emitCode => if t.emitCode then .error .conflict else .ok { t with emitCode := true }
  | .listVars => if t.listVars then .error .conflict else .ok { t with listVars := true }
  | .jsonOutput => if t.jsonOutput then .error .conflict else .ok { t with jsonOutput := true }
  | .help => .error .help
  | .version => .error .version

def takeSetting (t : Intake) (setting : Setting) (attached : Option String) :
    Except UsageError Intake :=
  t.settle.bind fun t =>
    match attached with
    | some text => t.assign setting text
    | none => .ok { t with pending := .awaiting setting }

def takeLong (t : Intake) (cs : List Char) : Except UsageError Intake :=
  let (name, rest) := cs.span (· ≠ '=')
  let name := String.ofList name
  let attached := match rest with
    | '=' :: value => some (String.ofList value)
    | _ => none
  match longSettings.lookup name, longSwitches.lookup name with
  | some setting, _ => t.takeSetting setting attached
  | none, some switch =>
    if attached.isSome then .error .tooManyValues else t.settle.bind fun t => t.raise switch
  | none, none => .error .unknownArgument

/-- The letters behind one dash. The letter of the only option with a value takes the rest, without
an equals sign. -/
def takeShort (t : Intake) : List Char → Except UsageError Intake
  | [] => .ok t
  | 'v' :: rest =>
    let attached := match rest with
      | [] => none
      | '=' :: value => some (String.ofList value)
      | value => some (String.ofList value)
    t.takeSetting .var attached
  | 'h' :: rest => (t.settle.bind fun t => t.raise .help).bind fun t => t.takeShort rest
  | 'V' :: rest => (t.settle.bind fun t => t.raise .version).bind fun t => t.takeShort rest
  | _ => .error .unknownArgument

def takePositional (t : Intake) (word : String) : Except UsageError Intake :=
  if t.seenTemplate then .error .unknownArgument
  else t.settle.bind fun t => .ok { t with pending := .template word, seenTemplate := true }

def take (t : Intake) (word : String) : Except UsageError Intake :=
  if t.positional then t.takePositional word
  else
    match word.toList with
    | ['-', '-'] => .ok { t with positional := true }
    | '-' :: '-' :: cs => t.takeLong cs
    | '-' :: c :: cs => t.takeShort (c :: cs)
    | _ =>
      match t.pending with
      | .awaiting setting => .ok { t with pending := .value setting word }
      | _ => t.takePositional word

def takeAll (t : Intake) : List String → Except UsageError Intake
  | [] => t.settle
  | word :: rest =>
    match t.take word with
    | .ok t => t.takeAll rest
    | .error e => .error e

def fill (t : Intake) (setting : Setting) (given : Bool) (text : Option String) :
    Except UsageError Intake :=
  match text with
  | some text => if given then .ok t else t.assign setting text
  | none => .ok t

def isBare (t : Intake) : Bool :=
  t.template.isNone && t.contexts.isEmpty && t.vars.isEmpty && !t.emitCode && !t.listVars &&
    !t.jsonOutput
    && t.config.isNone && t.logLevel.isNone

def finish (t : Intake) : Except UsageError Arguments :=
  if t.isBare then .error .nothingGiven
  else if t.emitCode && t.listVars then .error .conflict
  else
    match t.template with
    | none => .error .missingArgument
    | some template =>
      .ok ⟨template, t.contexts, t.vars, t.emitCode, t.listVars, t.config, t.logLevel.getD .warn,
        t.jsonOutput⟩

end Intake

structure Environment where
  config : Option String
  log : Option String

def Arguments.read (words : List String) (env : Environment) : Except UsageError Arguments :=
  (Intake.start.takeAll words).bind fun t =>
    (t.fill .config t.config.isSome env.config).bind fun t =>
      (t.fill .logLevel t.logLevel.isSome env.log).bind Intake.finish

end Stencil.Command
