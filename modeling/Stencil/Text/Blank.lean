/-! Classes of characters as ranges of code points; white space, text without blank ends, and the
words between blanks. -/

namespace Stencil.Text

def inRanges (ranges : List (Nat × Nat)) (c : Char) : Bool :=
  ranges.any fun (first, last) => first ≤ c.toNat && c.toNat ≤ last

def blankRanges : List (Nat × Nat) := [
    (0x9, 0xd), (0x20, 0x20), (0x85, 0x85), (0xa0, 0xa0), (0x1680, 0x1680), (0x2000, 0x200a),
      (0x2028, 0x2029),
    (0x202f, 0x202f), (0x205f, 0x205f), (0x3000, 0x3000)]

def isBlank (c : Char) : Bool := inRanges blankRanges c

def trim (cs : List Char) : List Char :=
  ((cs.dropWhile isBlank).reverse.dropWhile isBlank).reverse

def wordsAfter (word : List Char) : List Char → List (List Char)
  | [] => if word.isEmpty then [] else [word.reverse]
  | c :: cs =>
    if isBlank c then
      if word.isEmpty then wordsAfter [] cs else word.reverse :: wordsAfter [] cs
    else wordsAfter (c :: word) cs

def words (cs : List Char) : List (List Char) := wordsAfter [] cs

def parts (separator : Char) : List Char → List Char × List (List Char)
  | [] => ([], [])
  | c :: cs =>
    let (first, rest) := parts separator cs
    if c = separator then ([], first :: rest) else (c :: first, rest)

def join (separator : Char) (first : List Char) : List (List Char) → List Char
  | [] => first
  | part :: rest => first ++ separator :: join separator part rest

theorem join_parts (separator : Char) (cs : List Char) :
    join separator (parts separator cs).1 (parts separator cs).2 = cs := by
  induction cs with
  | nil => rfl
  | cons c cs ih =>
    by_cases h : c = separator
    · simp [parts, h, join, ih]
    · have hj : ∀ (p : List Char) (ps : List (List Char)), join separator (c :: p) ps =
          c :: join separator p ps := by
        intro p ps
        cases ps <;> simp [join]
      simp [parts, h, hj, ih]

end Stencil.Text
