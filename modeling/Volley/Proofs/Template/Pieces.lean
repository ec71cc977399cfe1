import Volley.Proofs.Text.Cut
import Volley.Template

/-!
# The pieces of a text

How `Template.pieces` goes on from the front of a text, one rule for each way in which a text can
begin, and where it finds no placeholder. Two opening braces begin none exactly when the line that
they stand on has no two closing braces more than one character later (`slot?_eq_none_iff`). So a
line with such braces has no placeholder after them either, and whatever is put in the place of the
placeholders below it leaves the line as it is (`firstLine_flatMap_pieces`).
-/

namespace Volley.Template

open Text

/-! ## Lines -/

/-- The characters of a text before its first line feed. -/
def firstLine (s : List Char) : List Char :=
  s.takeWhile (· ≠ '\n')

/-- A line has no line feed in it. -/
theorem notMem_firstLine (s : List Char) : '\n' ∉ firstLine s := by
  intro h
  have hall : (firstLine s).all (· ≠ '\n') = true := List.all_takeWhile
  simpa using List.all_eq_true.1 hall '\n' h

/-- A text begins with its first line. -/
theorem firstLine_append_dropWhile (s : List Char) : firstLine s ++ s.dropWhile (· ≠ '\n') = s :=
  List.takeWhile_append_dropWhile

/-- A character other than a line feed is part of the first line. -/
theorem firstLine_cons {c : Char} (h : c ≠ '\n') (t : List Char) :
    firstLine (c :: t) = c :: firstLine t :=
  List.takeWhile_cons_of_pos (by simpa using h)

/-- A text without a line feed is part of the first line. -/
theorem firstLine_append {s : List Char} (h : '\n' ∉ s) (t : List Char) :
    firstLine (s ++ t) = s ++ firstLine t := by
  induction s with
  | nil => rfl
  | cons c rest ih =>
    rw [List.mem_cons, not_or] at h
    rw [List.cons_append, firstLine_cons (Ne.symm h.1), ih h.2]
    rfl

/-! ## Where a placeholder ends -/

/-- A placeholder begins with the first character of its key, and the first two closing braces after
that one end it, if no line feed comes before them. -/
theorem slot?_cons_eq_some_iff {c : Char} {rest inner after : List Char} :
    slot? (c :: rest) = some (inner, after) ↔
      ∃ before, inner = c :: before ∧ '\n' ∉ inner ∧
        cut? ['\x7d', '\x7d'] rest = some (before, after) := by
  rw [slot?]
  constructor
  · intro h
    split at h
    · rename_i before after' hcut
      split_ifs at h with hline
      obtain ⟨rfl, rfl⟩ : c :: before = inner ∧ after' = after := by simpa using h
      exact ⟨before, rfl, hline, hcut⟩
    · simp at h
  · rintro ⟨before, rfl, hline, hcut⟩
    rw [hcut]
    exact if_neg hline

/-- Where a placeholder ends does not depend on what follows it. -/
theorem slot?_of_slot? {s inner after : List Char} (h : slot? s = some (inner, after))
    (t : List Char) : slot? (inner ++ '\x7d' :: '\x7d' :: t) = some (inner, t) := by
  cases s with
  | nil => simp [slot?] at h
  | cons c rest =>
    obtain ⟨before, rfl, hline, hcut⟩ := slot?_cons_eq_some_iff.1 h
    have hcut' := cut?_of_cut? hcut t
    rw [List.append_assoc] at hcut'
    exact slot?_cons_eq_some_iff.2 ⟨before, rfl, hline, hcut'⟩

/-- Two opening braces begin no placeholder exactly when two closing braces do not stand behind the
first character of the rest of their line. -/
theorem slot?_eq_none_iff (s : List Char) :
    slot? s = none ↔ ¬ ['\x7d', '\x7d'] <:+: (firstLine s).tail := by
  cases s with
  | nil => simp [slot?, firstLine]
  | cons c rest =>
    constructor
    · intro h hmark
      by_cases hc : c = '\n'
      · simp [firstLine, hc] at hmark
      · rw [firstLine_cons hc, List.tail_cons] at hmark
        obtain ⟨before, after, hcut⟩ := exists_cut?_of_infix hmark
        -- The cut of the line is a cut of the text, at the same place.
        have hcut' := cut?_of_cut? hcut (after ++ rest.dropWhile (· ≠ '\n'))
        rw [← List.append_assoc, ← eq_of_cut? hcut, firstLine_append_dropWhile] at hcut'
        have hbefore : '\n' ∉ c :: before := by
          have hfree := notMem_firstLine rest
          rw [eq_of_cut? hcut] at hfree
          simp_all [eq_comm]
        have hslot := slot?_cons_eq_some_iff.2 ⟨before, rfl, hbefore, hcut'⟩
        simp [h] at hslot
    · intro h
      cases hslot : slot? (c :: rest) with
      | none => rfl
      | some parts =>
        obtain ⟨inner, after⟩ := parts
        obtain ⟨before, rfl, hline, hcut⟩ := slot?_cons_eq_some_iff.1 hslot
        refine absurd ?_ h
        have hline' : '\n' ∉ c :: before ++ ['\x7d', '\x7d'] := by
          simpa using hline
        rw [eq_of_cut? hcut, ← List.cons_append, ← List.cons_append, firstLine_append hline']
        exact ⟨before, firstLine after, by simp⟩

/-! ## From the front of a text -/

@[simp] theorem pieces_nil : pieces [] = [] := by rw [pieces]

/-- A text that begins with a placeholder. -/
theorem pieces_slot {s inner after : List Char} (h : slot? s = some (inner, after)) :
    pieces ('\x7b' :: '\x7b' :: s) = .slot inner :: pieces after := by
  rw [pieces]
  split
  · rename_i inner' after' h'
    obtain ⟨rfl, rfl⟩ : inner = inner' ∧ after = after' := by simpa using h.symm.trans h'
    rfl
  · simp_all

/-- A text that begins with two opening braces and no placeholder. -/
theorem pieces_open {s : List Char} (h : slot? s = none) :
    pieces ('\x7b' :: '\x7b' :: s) = .char '\x7b' :: .char '\x7b' :: pieces s := by
  rw [pieces]
  split
  · simp_all
  · rfl

/-- A text that does not begin with two opening braces. -/
theorem pieces_cons {c : Char} {s : List Char} (h : c = '\x7b' → s.head? ≠ some '\x7b') :
    pieces (c :: s) = .char c :: pieces s := by
  rw [pieces]
  rintro rest rfl rfl
  simp at h

/-- A text without opening braces is all characters. -/
theorem pieces_append_of_notMem {s : List Char} (h : '\x7b' ∉ s) (t : List Char) :
    pieces (s ++ t) = s.map .char ++ pieces t := by
  induction s with
  | nil => rfl
  | cons c rest ih =>
    rw [List.mem_cons, not_or] at h
    rw [List.cons_append, pieces_cons fun heq => absurd heq.symm h.1, ih h.2]
    rfl

/-- Where two opening braces begin no placeholder, there is none on the rest of their line, so that
line stays as it is whatever is put in the place of placeholders. -/
theorem firstLine_flatMap_pieces {f : Piece → List Char} (hf : ∀ c, f (.char c) = [c])
    {s : List Char} (h : ¬ ['\x7d', '\x7d'] <:+: (firstLine s).tail) :
    firstLine ((pieces s).flatMap f) = firstLine s := by
  have hbrace : '\x7b' ≠ '\n' := by decide
  fun_induction pieces s with
  | case1 => rfl
  | case2 rest inner after hslot ih =>
    -- The closing braces of a placeholder stand on its line.
    have hrest : ¬ ['\x7d', '\x7d'] <:+: (firstLine rest).tail := by
      intro hmark
      rw [firstLine_cons hbrace, firstLine_cons hbrace] at h
      exact h (hmark.trans ((List.tail_suffix _).trans (List.suffix_cons _ _)).isInfix)
    rw [← slot?_eq_none_iff, hslot] at hrest
    simp at hrest
  | case3 rest hslot ih =>
    have hline := ih ((slot?_eq_none_iff rest).1 hslot)
    rw [List.flatMap_cons, List.flatMap_cons, hf, List.singleton_append, List.singleton_append]
    rw [firstLine_cons hbrace, firstLine_cons hbrace, hline]
    rw [firstLine_cons hbrace, firstLine_cons hbrace]
  | case4 c rest hc ih =>
    rw [List.flatMap_cons, hf, List.singleton_append]
    by_cases hfeed : c = '\n'
    · simp [firstLine, hfeed]
    · rw [firstLine_cons hfeed] at h ⊢
      rw [firstLine_cons hfeed, ih fun hmark => h (hmark.trans (List.tail_suffix _).isInfix)]

end Volley.Template
