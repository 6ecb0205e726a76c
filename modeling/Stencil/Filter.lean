import Stencil.Lookup
import Stencil.Text.Blank
import Stencil.Text.Case
import Stencil.Value.Text

/-! Filters: the stock ones, which answer for every host, and the call of a filter value. -/

namespace Stencil

variable {F O : Type}

namespace StockFilter

def name : StockFilter → String
  | .upper => "upper"
  | .lower => "lower"
  | .capitalize => "capitalize"
  | .title => "title"
  | .trim => "trim"
  | .length => "length"
  | .first => "first"
  | .last => "last"

def all : List StockFilter := [.upper, .lower, .capitalize, .title, .trim, .length, .first, .last]

def context (copy : Nat) : Context F O :=
  Entries.ofPairs (all.map fun filter => (filter.name, .filter (.stock filter copy)))

variable [Host F O]

def onText (f : List Char → List Char) (value : Value F O) : Value F O :=
  .string (String.ofList (f value.text.toList))

def size? : Value F O → Option Nat
  | .string s => some s.length
  | .list items => some items.length
  | .map entries => some entries.length
  | _ => none

def apply (filter : StockFilter) (value : Value F O) : Except FilterFault (Value F O) :=
  match filter with
  | .upper => .ok (onText Text.upper value)
  | .lower => .ok (onText Text.lower value)
  | .capitalize => .ok (onText Text.capitalize value)
  | .title => .ok (onText Text.title value)
  | .trim => .ok (onText Text.trim value)
  | .length =>
    match size? value with
    | some n => .ok (.int n)
    | none => .error (.noLength value.kind)
  | .first =>
    match value.items? with
    | some items => .ok (items.head?.getD .none)
    | none => .error (.noFirst value.kind)
  | .last =>
    match value.items? with
    | some items => .ok (items.getLast?.getD .none)
    | none => .error (.noLast value.kind)

end StockFilter

def Filter.call [Host F O] (filter : Filter F) (value : Value F O) :
    Except FilterFault (Value F O) :=
  match filter with
  | .stock filter _ => filter.apply value
  | .host handle => (Host.call handle value).mapError .reported

end Stencil
