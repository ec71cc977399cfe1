/-!
# White space

The characters with the Unicode property White_Space, and what is defined by them: trimming a text
at either end and cutting it into words. A text whose start was trimmed does not begin with white
space (`head?_trimStart`).
-/

namespace Volley.Text

/-- A character with the property White_Space. The class is wider than ASCII: it has the next-line
control, the no-break space, the line separators and the ideographic space. -/
def isWhite (c : Char) : Bool :=
  let n := c.toNat
  (9 ≤ n && n ≤ 13) || n == 0x20 || n == 0x85 || n == 0xA0 || n == 0x1680 ||
    (0x2000 ≤ n && n ≤ 0x200A) || n == 0x2028 || n == 0x2029 || n == 0x202F || n == 0x205F ||
    n == 0x3000

/-- A text without its leading white space. -/
def trimStart (s : List Char) : List Char :=
  s.dropWhile isWhite

/-- A text without its trailing white space. -/
def trimEnd (s : List Char) : List Char :=
  (s.reverse.dropWhile isWhite).reverse

/-- A text without white space at its ends. -/
def trim (s : List Char) : List Char :=
  trimEnd (trimStart s)

/-- Whether a text is nothing but white space. -/
def isBlank (s : List Char) : Bool :=
  s.all isWhite

/-- A text with white space around it. -/
def Padded (s padded : List Char) : Prop :=
  ∃ before after, isBlank before = true ∧ isBlank after = true ∧ padded = before ++ s ++ after

/-- The word that a text begins with, which is empty when it begins with white space, and the words
after it. -/
def leadingWord : List Char → List Char × List (List Char)
  | [] => ([], [])
  | c :: rest =>
    let (word, later) := leadingWord rest
    if isWhite c then ([], if word.isEmpty then later else word :: later)
    else (c :: word, later)

/-- The maximal runs of characters that are not white space, in order. -/
def words (s : List Char) : List (List Char) :=
  let (word, later) := leadingWord s
  if word.isEmpty then later else word :: later

@[simp] theorem trimStart_nil : trimStart [] = [] := rfl

/-- What is left after trimming the start does not begin with white space. -/
theorem head?_trimStart (s : List Char) (c : Char) (h : (trimStart s).head? = some c) :
    isWhite c = false := by
  induction s with
  | nil => simp at h
  | cons d rest ih =>
    by_cases hd : isWhite d
    · exact ih (by simpa [trimStart, List.dropWhile_cons, hd] using h)
    · have : d = c := by simpa [trimStart, List.dropWhile_cons, hd] using h
      simpa [this] using hd

end Volley.Text
