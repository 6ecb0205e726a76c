import Stencil.Filter
import Stencil.Toml.Reader

/-! Settings of the command: whether templates have the stock filters, and the values that all of
them can read. -/

namespace Stencil.Command

structure Settings where
  builtinFilters : Bool
  globals : Entries Json

namespace Settings

def default : Settings := ⟨true, []⟩

def isDefault (s : Settings) : Bool := s.builtinFilters && s.globals.isEmpty

def put (s : Settings) (key : String) (json : Json) : Option Settings :=
  match key, json with
  | "builtin-filters", .bool b => some { s with builtinFilters := b }
  | "globals", .object members => some { s with globals := Entries.ofPairs members }
  | _, _ => none

def putAll (s : Settings) : List (String × Json) → Option Settings
  | [] => some s
  | (key, json) :: rest => (s.put key json).bind fun s => s.putAll rest

def read (text : String) : Option Settings := (Toml.read text).bind default.putAll

/-- Base contexts in the order of merging, so that globals hide stock filters. -/
def contexts {F O : Type} (s : Settings) : List (Context F O) :=
  let globals := Json.toEntries s.globals
  if s.builtinFilters then [StockFilter.context 0, globals] else [globals]

/-- Where the settings of the user would be: under the directory for configurations, which counts
only if it is absolute, or else under the home directory. -/
def userPath (configHome home : Option String) : Option String :=
  ((configHome.filter (·.startsWith "/")).or (home.map (· ++ "/.config"))).map
    (· ++ "/weft/config.toml")

end Settings

end Stencil.Command
