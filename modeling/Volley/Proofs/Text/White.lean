import Volley.Text.Digit
import Volley.Text.White

/-!
# Texts without white space at their ends

Trimming takes away white space at the ends of a text and nothing else: a text that does not begin
with white space stays as it is at its start (`trimStart_eq_self`), one that does not end in it
stays as it is at its end (`trimEnd_eq_self`), and what is left is a part of the text
(`trimEnd_prefix`). White space around a text is not seen after trimming (`Padded.trim_eq`), and a
text is what is left of it with white space around (`padded_trim`), or before it
(`exists_blank_append_trimStart`). Words with single spaces between them are found again
(`IsSpaced.words_eq`).
-/

namespace Volley.Text

/-- The code points of white space. -/
def whitePoints : List Nat :=
  [9, 10, 11, 12, 13, 0x20, 0x85, 0xA0, 0x1680, 0x2000, 0x2001, 0x2002, 0x2003, 0x2004, 0x2005,
    0x2006, 0x2007, 0x2008, 0x2009, 0x200A, 0x2028, 0x2029, 0x202F, 0x205F, 0x3000]

/-- White space has one of these code points. -/
theorem toNat_mem_whitePoints {c : Char} (h : isWhite c = true) : c.toNat ∈ whitePoints := by
  simp only [isWhite, Bool.or_eq_true, Bool.and_eq_true, decide_eq_true_eq, beq_iff_eq] at h
  simp only [whitePoints, List.mem_cons, List.not_mem_nil, or_false]
  omega

/-- A digit is no white space. -/
theorem isWhite_of_isDigit {c : Char} (h : c.isDigit = true) : isWhite c = false := by
  have hdigit := isDigit_iff_toNat.1 h
  refine Bool.eq_false_iff.2 fun hwhite => ?_
  have hpoint := toNat_mem_whitePoints hwhite
  simp only [whitePoints, List.mem_cons, List.not_mem_nil, or_false] at hpoint
  omega

/-- White space at the start is passed over. -/
theorem trimStart_cons_of_isWhite {c : Char} (h : isWhite c = true) (s : List Char) :
    trimStart (c :: s) = trimStart s :=
  List.dropWhile_cons_of_pos h

/-- A text that does not begin with white space has none to take away there. -/
theorem trimStart_eq_self {s : List Char} (h : ∀ c, s.head? = some c → isWhite c = false) :
    trimStart s = s := by
  cases s with
  | nil => rfl
  | cons c rest => exact List.dropWhile_cons_of_neg (by simp [h c rfl])

/-- A text that does not end in white space has none to take away there. -/
theorem trimEnd_eq_self {s : List Char} (h : ∀ c, s.getLast? = some c → isWhite c = false) :
    trimEnd s = s := by
  have hreverse : trimStart s.reverse = s.reverse :=
    trimStart_eq_self fun c hc => h c (by rwa [List.head?_reverse] at hc)
  rw [trimEnd, ← trimStart, hreverse, List.reverse_reverse]

/-- A text without white space at its ends stays as it is. -/
theorem trim_eq_self {s : List Char} (hfirst : ∀ c, s.head? = some c → isWhite c = false)
    (hlast : ∀ c, s.getLast? = some c → isWhite c = false) : trim s = s := by
  rw [trim, trimStart_eq_self hfirst, trimEnd_eq_self hlast]

/-- What is left after trimming does not end in white space. -/
theorem getLast?_trim (s : List Char) (c : Char) (h : (trim s).getLast? = some c) :
    isWhite c = false := by
  rw [trim, trimEnd, List.getLast?_reverse] at h
  exact head?_trimStart _ c h

/-- What is left when the end was trimmed is the start of the text. -/
theorem trimEnd_prefix (s : List Char) : trimEnd s <+: s := by
  rw [trimEnd, ← List.reverse_suffix, List.reverse_reverse]
  exact List.dropWhile_suffix isWhite

/-- A text that does not begin with white space and is not empty is not blank. -/
theorem isBlank_eq_false {s : List Char} (hne : s ≠ [])
    (h : ∀ c, s.head? = some c → isWhite c = false) : isBlank s = false := by
  obtain ⟨c, rest, rfl⟩ := List.exists_cons_of_ne_nil hne
  rw [isBlank, List.all_cons, h c rfl, Bool.false_and]

/-! ## White space around a text -/

/-- A blank text before another is passed over. -/
theorem trimStart_append {before : List Char} (h : isBlank before = true) (s : List Char) :
    trimStart (before ++ s) = trimStart s :=
  List.dropWhile_append_of_pos (List.all_eq_true.1 h)

/-- Nothing is left of a blank text. -/
theorem trimStart_eq_nil {s : List Char} (h : isBlank s = true) : trimStart s = [] := by
  simpa using trimStart_append h []

/-- A blank text after another is taken away. -/
theorem trimEnd_append {after : List Char} (h : isBlank after = true) (s : List Char) :
    trimEnd (s ++ after) = trimEnd s := by
  have hreverse : isBlank after.reverse = true := by rwa [isBlank, List.all_reverse]
  rw [trimEnd, ← trimStart, List.reverse_append, trimStart_append hreverse, trimStart, ← trimEnd]

/-- White space around a text is not seen after trimming. -/
theorem Padded.trim_eq {s padded : List Char} (h : Padded s padded) : trim padded = trim s := by
  obtain ⟨before, after, hbefore, hafter, rfl⟩ := h
  rw [trim, List.append_assoc, trimStart_append hbefore, trimStart, List.dropWhile_append]
  split
  · -- Nothing but white space is before the white space at the end.
    rename_i hblank
    have hs : trimStart s = [] := List.isEmpty_iff.1 hblank
    rw [← trimStart, trimStart_eq_nil hafter, trim, hs]
  · rw [trimEnd_append hafter, ← trimStart, ← trim]

/-- A text is what is left of it after trimming, with white space around. -/
theorem padded_trim (s : List Char) : Padded (trim s) s := by
  refine ⟨s.takeWhile isWhite, ((trimStart s).reverse.takeWhile isWhite).reverse, ?_, ?_, ?_⟩
  · exact List.all_takeWhile
  · rw [isBlank, List.all_reverse]
    exact List.all_takeWhile
  · have hend : trim s ++ ((trimStart s).reverse.takeWhile isWhite).reverse = trimStart s := by
      rw [trim, trimEnd, ← List.reverse_append, List.takeWhile_append_dropWhile,
        List.reverse_reverse]
    rw [List.append_assoc, hend, trimStart, List.takeWhile_append_dropWhile]

/-- A text is what is left of it after its leading white space. -/
theorem exists_blank_append_trimStart (s : List Char) :
    ∃ before, isBlank before = true ∧ s = before ++ trimStart s :=
  ⟨s.takeWhile isWhite, List.all_takeWhile, List.takeWhile_append_dropWhile.symm⟩

/-- What is left after trimming does not begin with white space. -/
theorem head?_trim (s : List Char) (c : Char) (h : (trim s).head? = some c) :
    isWhite c = false := by
  obtain ⟨rest, hrest⟩ := trimEnd_prefix (trimStart s)
  refine head?_trimStart s c ?_
  rw [← hrest, List.head?_append, ← trim, h]
  rfl

/-- Nothing is left of a text only if it is blank. -/
theorem isBlank_of_trim_eq_nil {s : List Char} (h : trim s = []) : isBlank s = true := by
  obtain ⟨before, after, hbefore, hafter, heq⟩ := padded_trim s
  rw [heq, h, List.append_nil, isBlank, List.all_append, ← isBlank, ← isBlank, hbefore, hafter]
  rfl

/-! ## Words -/

/-- A text of words: it has one at least, with single spaces between them. -/
structure IsSpaced (s : List Char) (parts : List (List Char)) : Prop where
  /-- There is a word. -/
  ne_nil : parts ≠ []
  /-- No word is empty, and none has white space in it. -/
  isWord : ∀ part ∈ parts, part ≠ [] ∧ ∀ c ∈ part, isWhite c = false
  /-- The text is the words with spaces between them. -/
  eq : s = [' '].intercalate parts

/-- A text that begins with white space begins with no word, and has the words after it. -/
theorem leadingWord_white {c : Char} (h : isWhite c = true) (s : List Char) :
    leadingWord (c :: s) = ([], words s) := by
  rw [leadingWord]
  exact if_pos h

/-- Characters that are not white space belong to the word that the text begins with. -/
theorem leadingWord_append {word : List Char} (h : ∀ c ∈ word, isWhite c = false) (s : List Char) :
    leadingWord (word ++ s) = (word ++ (leadingWord s).1, (leadingWord s).2) := by
  induction word with
  | nil => rfl
  | cons c rest ih =>
    obtain ⟨hc, hrest⟩ := List.forall_mem_cons.1 h
    rw [List.cons_append, leadingWord, ih hrest]
    exact if_neg (Bool.eq_false_iff.1 hc)

/-- A word and white space after it are the first word. -/
theorem words_append_white {word : List Char} (hne : word ≠ [])
    (h : ∀ c ∈ word, isWhite c = false) {c : Char} (hc : isWhite c = true) (s : List Char) :
    words (word ++ c :: s) = word :: words s := by
  rw [words, leadingWord_append h, leadingWord_white hc, List.append_nil]
  exact if_neg (by simpa using hne)

/-- A word alone is the only one. -/
theorem words_eq_singleton {word : List Char} (hne : word ≠ [])
    (h : ∀ c ∈ word, isWhite c = false) : words word = [word] := by
  have hword := leadingWord_append h []
  rw [List.append_nil] at hword
  rw [words, hword, leadingWord, List.append_nil]
  exact if_neg (by simpa using hne)

/-- Words with single spaces between them are found again. -/
theorem IsSpaced.words_eq {s : List Char} {parts : List (List Char)} (h : IsSpaced s parts) :
    words s = parts := by
  obtain ⟨hne, hparts, rfl⟩ := h
  induction parts with
  | nil => exact absurd rfl hne
  | cons part parts ih =>
    obtain ⟨⟨hpart, hpartWhite⟩, hrest⟩ := List.forall_mem_cons.1 hparts
    cases parts with
    | nil => rw [List.intercalate_singleton, words_eq_singleton hpart hpartWhite]
    | cons next parts =>
      rw [List.intercalate_cons_cons, List.append_assoc, List.singleton_append,
        words_append_white hpart hpartWhite rfl, ih (List.cons_ne_nil _ _) hrest]

/-- A word can be put in front of others. -/
theorem IsSpaced.cons {s word : List Char} {parts : List (List Char)} (h : IsSpaced s parts)
    (hne : word ≠ []) (hword : ∀ c ∈ word, isWhite c = false) :
    IsSpaced (word ++ ' ' :: s) (word :: parts) where
  ne_nil := List.cons_ne_nil _ _
  isWord := List.forall_mem_cons.2 ⟨⟨hne, hword⟩, h.isWord⟩
  eq := by
    obtain ⟨next, rest, rfl⟩ := List.exists_cons_of_ne_nil h.ne_nil
    rw [List.intercalate_cons_cons, List.append_assoc, List.singleton_append, ← h.eq]

/-- A word can be put behind others. -/
theorem IsSpaced.concat {s word : List Char} {parts : List (List Char)} (h : IsSpaced s parts)
    (hne : word ≠ []) (hword : ∀ c ∈ word, isWhite c = false) :
    IsSpaced (s ++ ' ' :: word) (parts ++ [word]) where
  ne_nil := List.append_ne_nil_of_right_ne_nil _ (List.cons_ne_nil _ _)
  isWord := List.forall_mem_append.2 ⟨h.isWord, List.forall_mem_singleton.2 ⟨hne, hword⟩⟩
  eq := by
    obtain ⟨hne, -, rfl⟩ := h
    induction parts with
    | nil => exact absurd rfl hne
    | cons part parts ih =>
      cases parts with
      | nil => rw [List.singleton_append, List.intercalate_cons_cons]; simp
      | cons next parts =>
        have hrest := ih (List.cons_ne_nil _ _)
        rw [List.intercalate_cons_cons, List.append_assoc, List.append_assoc, hrest]
        rfl

end Volley.Text
