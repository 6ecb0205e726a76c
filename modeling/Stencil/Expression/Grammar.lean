import Stencil.Expression

/-! The grammar of expressions: white space, a name, segments that follow a dot each, filters that
follow a bar each with white space around the bar, and white space. -/

namespace Stencil

def Text.Blank (cs : List Char) : Prop := ∀ c ∈ cs, Text.isBlank c = true

namespace Expression

inductive Segments : List Char → List String → Prop
  | nil : Segments [] []
  | cons {segment rest : List Char} {segments : List String} (hsegment : isSegment segment = true)
    (hrest : Segments rest segments) :
    Segments ('.' :: (segment ++ rest)) (String.ofList segment :: segments)

inductive Filters : List Char → List String → Prop
  | nil {blank : List Char} (hblank : Text.Blank blank) : Filters blank []
  | cons {before after name rest : List Char} {names : List String} (hbefore : Text.Blank before)
    (hafter : Text.Blank after) (hname : isName name = true) (hrest : Filters rest names) :
    Filters (before ++ '|' :: (after ++ (name ++ rest))) (String.ofList name :: names)

inductive Reads : List Char → Expression String → Prop
  | intro {blank head path filters : List Char} {segments names : List String}
    (hblank : Text.Blank blank)
    (hhead : isName head = true) (hpath : Segments path segments)
    (hfilters : Filters filters names) :
    Reads (blank ++ (head ++ (path ++ filters)))
      ⟨String.ofList (Text.trim (blank ++ (head ++ (path ++ filters)))), String.ofList head,
        segments, names⟩

end Expression

end Stencil
