import Stencil.Command.Session

/-! The outcome of a run, told from what stands at the paths that its arguments name. Each phase is
judged by itself, and the first that fails tells the outcome. -/

namespace Stencil.Command

namespace Settings

inductive Known : String × Json → Prop
  | builtinFilters (b : Bool) : Known ("builtin-filters", .bool b)
  | globals (members : List (String × Json)) : Known ("globals", .object members)

def filtersOn (document : List (String × Json)) : Bool :=
  match document.reverse.lookup "builtin-filters" with
  | some (.bool b) => b
  | _ => true

def globalsIn (document : List (String × Json)) : List (String × Json) :=
  match document.reverse.lookup "globals" with
  | some (.object members) => members
  | _ => []

end Settings

namespace Surroundings

inductive SettingsFile (s : Surroundings) (path : String) :
    Except SessionError (List (String × Json)) → Prop
  | unread (h : s.readText path = none) : SettingsFile s path (.error (.readSettings path))
  | malformed {text : String} (h : s.readText path = some text)
    (hdocument : Toml.read text = none) :
    SettingsFile s path (.error (.parseSettings path))
  | unknown {text : String} {document : List (String × Json)} {member : String × Json}
    (h : s.readText path = some text) (hdocument : Toml.read text = some document)
    (hmember : member ∈ document) (hunknown : ¬Settings.Known member) :
    SettingsFile s path (.error (.parseSettings path))
  | known {text : String} {document : List (String × Json)} (h : s.readText path = some text)
    (hdocument : Toml.read text = some document)
    (hknown : ∀ member ∈ document, Settings.Known member) :
    SettingsFile s path (.ok document)

/-- The settings of a run: a file that is named has to be there, the user's own counts if it is. -/
inductive SettingsGive (s : Surroundings) :
    Option String → Except SessionError (List (String × Json)) → Prop
  | named {path : String} {outcome : Except SessionError (List (String × Json))}
    (h : s.SettingsFile path outcome) : SettingsGive s (some path) outcome
  | user {path : String} {outcome : Except SessionError (List (String × Json))}
    (huser : s.userSettings = some path) (hplace : s.place? path ≠ none)
    (h : s.SettingsFile path outcome) :
    SettingsGive s none outcome
  | absent (h : ∀ path, s.userSettings = some path → s.place? path = none) :
    SettingsGive s none (.ok [])

inductive TemplateGives (s : Surroundings) : String → Except SessionError String → Prop
  | input {text : String} (h : String.fromUTF8? s.input = some text) :
    TemplateGives s "-" (.ok text)
  | inputUnread (h : String.fromUTF8? s.input = none) : TemplateGives s "-" (.error .readInput)
  | file {path text : String} (hpath : path ≠ "-") (h : s.readText path = some text) :
    TemplateGives s path (.ok text)
  | unread {path : String} (hpath : path ≠ "-") (h : s.readText path = none) :
    TemplateGives s path (.error (.readTemplate path))

def members? (s : Surroundings) (path : String) : Option (List (String × Json)) :=
  match (s.readText path).bind Json.read with
  | some (.object members) => some members
  | _ => none

inductive ContextGives (s : Surroundings) (path : String) :
    Except SessionError (List (String × Json)) → Prop
  | unread (h : s.readText path = none) : ContextGives s path (.error (.readContext path))
  | malformed {text : String} (h : s.readText path = some text) (hjson : Json.read text = none) :
    ContextGives s path (.error (.parseContext path))
  | notObject {text : String} {json : Json} (h : s.readText path = some text)
    (hjson : Json.read text = some json) (hobject : ∀ members, json ≠ .object members) :
    ContextGives s path (.error (.contextNotObject path json))
  | object {members : List (String × Json)} (h : s.members? path = some members) :
    ContextGives s path (.ok members)

end Surroundings

inductive Phase where
  | settings
  | template
  | compile
  | context (path : String)
  | render
  deriving DecidableEq, Repr

def Phase.exitNumber : Phase → Nat
  | .settings | .template | .context _ => 16
  | .compile => 65
  | .render => 1

namespace Arguments

def inspects (a : Arguments) : Bool := a.emitCode || a.listVars

def phases (a : Arguments) : List Phase :=
  [.settings, .template, .compile] ++ if a.inspects then []
    else a.contexts.map .context ++ [.render]

/-- What a name is bound to: by the last variable of the name, or else by the last of the context
files that have it, or else by the settings, or else as a stock filter. -/
def bound {F O : Type} (a : Arguments) (s : Surroundings) (document : List (String × Json)) :
    Lookup F O :=
  fun name =>
    let var := a.vars.reverse.lookup name
    let member := a.contexts.reverse.findSome? fun path =>
      (s.members? path).bind fun members => members.reverse.lookup name
    let global := (Settings.globalsIn document).reverse.lookup name
    let stock := (StockFilter.all.find? fun filter => filter.name = name).map fun filter =>
      .filter (.stock filter 0)
    ((var.or (member.or global)).map Json.toValue).or (if Settings.filtersOn document then stock
      else none)

end Arguments

inductive Phase.Fails (F O : Type) [Host F O] (a : Arguments) (s : Surroundings) :
    Phase → SessionError → Prop
  | settings {e : SessionError} (h : s.SettingsGive a.config (.error e)) : Fails F O a s .settings e
  | template {e : SessionError} (h : s.TemplateGives a.template (.error e)) :
    Fails F O a s .template e
  | compile {text : String} {e : CompileError} (htext : s.TemplateGives a.template (.ok text))
    (h : Stencil.compile text = .error e) : Fails F O a s .compile (.compile e)
  | context {path : String} {e : SessionError} (h : s.ContextGives path (.error e)) :
    Fails F O a s (.context path) e
  | render {document : List (String × Json)} {text : String} {t : Template F O} {e : RenderError}
    (hsettings : s.SettingsGive a.config (.ok document))
    (htext : s.TemplateGives a.template (.ok text))
    (htemplate : Template.ofSource text = .ok t)
    (h : t.render (a.bound s document) .dots = .error e) :
    Fails F O a s .render (.render e)

inductive Phase.FirstFails (F O : Type) [Host F O] (a : Arguments) (s : Surroundings) :
    List Phase → Phase → SessionError → Prop
  | here {p : Phase} {rest : List Phase} {e : SessionError} (h : p.Fails F O a s e) :
    FirstFails F O a s (p :: rest) p e
  | later {p q : Phase} {rest : List Phase} {e : SessionError} (hq : ∀ e, ¬q.Fails F O a s e)
    (h : FirstFails F O a s rest p e) : FirstFails F O a s (q :: rest) p e

end Stencil.Command
