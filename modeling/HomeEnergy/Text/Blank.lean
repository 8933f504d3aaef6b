/-!
# White space

The characters with the white space property of the character standard, and the trimming of texts
by it. The class of the core library has the six ASCII members only.

## Main results

* `dropBlank_eq_nil_iff` — nothing is left of a text exactly when all of it is blank.
-/

namespace HomeEnergy.Text

/-- White space: tab to carriage return, the space and its wide, narrow and fixed forms, and the
two separators of lines and paragraphs. -/
def isBlank (c : Char) : Bool :=
  let n := c.toNat
  (9 ≤ n && n ≤ 13) || n = 0x20 || n = 0x85 || n = 0xA0 || n = 0x1680 || (0x2000 ≤ n && n ≤ 0x200A)
    || n = 0x2028 || n = 0x2029 || n = 0x202F || n = 0x205F || n = 0x3000

/-- The text from its first character on that is not blank. -/
def dropBlank (s : List Char) : List Char := s.dropWhile isBlank

/-- The text without the blanks at either end. -/
def trim (s : List Char) : List Char := (dropBlank (dropBlank s).reverse).reverse

/-- `trim` on strings. -/
def trimmed (s : String) : String := String.ofList (trim s.toList)

@[simp] theorem dropBlank_nil : dropBlank [] = [] := rfl

theorem dropBlank_eq_nil_iff {s : List Char} : dropBlank s = [] ↔ ∀ c ∈ s, isBlank c := by
  induction s with
  | nil => simp
  | cons c rest ih =>
    by_cases h : isBlank c <;> simp_all [dropBlank]

/-- Drop every leading occurrence of a character. -/
def dropLeading (c : Char) (s : List Char) : List Char := s.dropWhile (· == c)

/-- Drop every occurrence of a character at the end. -/
def dropTrailing (c : Char) (s : List Char) : List Char := (dropLeading c s.reverse).reverse

/-- The rest of a text behind a given start, if it has that start. -/
def after? : List Char → List Char → Option (List Char)
  | [], s => some s
  | _ :: _, [] => none
  | p :: ps, c :: cs => if p = c then after? ps cs else none

theorem after?_append (start rest : List Char) : after? start (start ++ rest) = some rest := by
  induction start with
  | nil => rfl
  | cons c cs ih => simp [after?, ih]

/-- The lower-case form of the 26 ASCII letters; every other character stays. -/
def lowered (s : List Char) : List Char := s.map Char.toLower

end HomeEnergy.Text
