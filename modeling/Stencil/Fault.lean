import Stencil.Text.Quoted

/-! What can go wrong with a template: malformed text, a listing that is no procedure, a run that
cannot go on. -/

namespace Stencil

inductive SyntaxFault where
  | emptyTag
  | emptyExpression
  | badIf
  | badFor
  | badEnd
  | tooManyEnds
  | mismatchedEnd
  | unknownTag
  | unclosed
  | invalidName
  | tooDeep
  deriving DecidableEq, Repr

def SyntaxFault.message : SyntaxFault → String
  | .emptyTag => "empty tag"
  | .emptyExpression => "empty expression"
  | .badIf => "don't understand if"
  | .badFor => "don't understand for"
  | .badEnd => "don't understand end"
  | .tooManyEnds => "too many ends"
  | .mismatchedEnd => "mismatched end tag"
  | .unknownTag => "don't understand tag"
  | .unclosed => "unmatched action tag"
  | .invalidName => "not a valid name"
  | .tooDeep => "blocks nested too deeply"

structure SyntaxError where
  fault : SyntaxFault
  token : String
  start : Nat
  stop : Nat
  deriving DecidableEq, Repr

def SyntaxError.message (e : SyntaxError) : String :=
  e.fault.message ++ ": " ++ Text.quoted e.token

def SyntaxError.code (_ : SyntaxError) : String := "weft::syntax"

/-- Why a listing cannot be assembled. Lines are counted from one. -/
inductive ListingError where
  | unbalancedIndent (expected found : Nat)
  | extraDedent
  | missingSection (index : Nat)
  | missingEntry
  | unexpectedIndent (line : Nat)
  | missingReturn
  | trailingCode (line : Nat)
  deriving DecidableEq, Repr

def ListingError.message : ListingError → String
  | .unbalancedIndent expected found =>
    "unbalanced indentation: expected " ++ toString expected ++ ", found " ++ toString found
  | .extraDedent => "dedent without a matching indent"
  | .missingSection index => "no section reserved at chunk " ++ toString index
  | .missingEntry => "generated code does not start with the render entry point"
  | .unexpectedIndent line => "unexpected indentation on generated line " ++ toString line
  | .missingReturn => "generated code does not end with a return"
  | .trailingCode line => "generated code continues after the return on line " ++ toString line

def ListingError.code : ListingError → String
  | .unbalancedIndent _ _ | .extraDedent | .unexpectedIndent _ => "weft::internal::indent"
  | .missingSection _ => "weft::internal::section"
  | .missingEntry => "weft::internal::entry"
  | .missingReturn => "weft::internal::missing_return"
  | .trailingCode _ => "weft::internal::trailing"

def ListingError.help (_ : ListingError) : String :=
  "this is a bug in weft, please report it with the template"

inductive CompileError where
  | malformed (e : SyntaxError)
  | internal (e : ListingError)
  deriving DecidableEq, Repr

def CompileError.message : CompileError → String
  | .malformed e => e.message
  | .internal e => e.message

inductive FilterFault where
  | noLength (kind : String)
  | noFirst (kind : String)
  | noLast (kind : String)
  | reported (message : String)
  deriving DecidableEq, Repr

def FilterFault.message : FilterFault → String
  | .noLength kind => "cannot take the length of a " ++ kind
  | .noFirst kind => "a " ++ kind ++ " has no first item"
  | .noLast kind => "a " ++ kind ++ " has no last item"
  | .reported message => message

/-- Why a run stopped. `outsideFrame` is a slot number beyond the frame, which no assembled program
has. -/
inductive RenderError where
  | missingVariable (name : String)
  | unresolved (path segment : String)
  | notCallable (name : String)
  | filterFailed (name : String) (cause : FilterFault)
  | notIterable (expression kind : String)
  | writeFailed (cause : String)
  | outsideFrame (slot : Nat)
  deriving DecidableEq, Repr

def RenderError.message : RenderError → String
  | .missingVariable name => "missing variable `" ++ name ++ "`"
  | .unresolved path segment => "cannot resolve `" ++ segment ++ "` in `" ++ path ++ "`"
  | .notCallable name => "`" ++ name ++ "` is not a filter"
  | .filterFailed name _ => "filter `" ++ name ++ "` failed"
  | .notIterable expression kind => "cannot iterate over `" ++ expression ++ "` (" ++ kind ++ ")"
  | .writeFailed cause => cause
  | .outsideFrame slot => "slot " ++ toString slot ++ " lies outside the frame"

def RenderError.code : RenderError → String
  | .missingVariable _ => "weft::render::missing_variable"
  | .unresolved _ _ => "weft::render::unresolved"
  | .notCallable _ => "weft::render::not_callable"
  | .filterFailed _ _ => "weft::render::filter"
  | .notIterable _ _ => "weft::render::not_iterable"
  | .writeFailed _ => "weft::render::io"
  | .outsideFrame _ => "weft::render::frame"

end Stencil
