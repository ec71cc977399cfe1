import Volley.Text.Lines

/-!
# Lines that are written down

Lines that are written down, each with a line feed after it, are read back as they were
(`linesBy_flatMap`), if none has a line feed in it or ends in a carriage return. A line feed
separates what is before it from what is after it (`linesBy_append_lf`), so a text after another
that is empty or ends in a line feed has its lines after those of the other (`linesBy_append`).

Which lines a text has is also told by what they and their ends put together are (`IsLines`). There
is one way only to read a text so, and this is how it is read (`isLines_iff`).
-/

namespace Volley.Text

section Symbols

variable {α : Type} [DecidableEq α] {lf cr : α}

/-- A text that begins with a line and its end begins with that line. -/
theorem linesBy_append_cons {line : List α} (hlf : lf ∉ line) (hcr : line.getLast? ≠ some cr)
    (rest : List α) : linesBy lf cr (line ++ lf :: rest) = line :: linesBy lf cr rest := by
  induction line with
  | nil => rw [List.nil_append, linesBy, if_pos rfl]
  | cons c line ih =>
    rw [List.mem_cons, not_or] at hlf
    -- A carriage return is part of the line end only where it is the last symbol of the line.
    have hkept : ¬ (c = cr ∧ (line ++ lf :: rest).head? = some lf) := by
      rintro ⟨rfl, hhead⟩
      cases line with
      | nil => simp at hcr
      | cons d line =>
        obtain rfl : d = lf := by simpa using hhead
        simp at hlf
    have hline : line.getLast? ≠ some cr := by
      cases line with
      | nil => simp
      | cons d line => rwa [List.getLast?_cons_cons] at hcr
    rw [List.cons_append, linesBy, if_neg (Ne.symm hlf.1), if_neg hkept, ih hlf.2 hline]

/-- Lines that are written down with their ends are read back. -/
theorem linesBy_flatMap {written : List (List α)} (hlf : ∀ line ∈ written, lf ∉ line)
    (hcr : ∀ line ∈ written, line.getLast? ≠ some cr) :
    linesBy lf cr (written.flatMap (· ++ [lf])) = written := by
  induction written with
  | nil => rfl
  | cons line later ih =>
    rw [List.forall_mem_cons] at hlf hcr
    rw [List.flatMap_cons, List.append_assoc, List.singleton_append,
      linesBy_append_cons hlf.1 hcr.1, ih hlf.2 hcr.2]

/-- A text that has an end of a line has a line. -/
theorem linesBy_append_lf_ne_nil (s rest : List α) : linesBy lf cr (s ++ lf :: rest) ≠ [] := by
  induction s with
  | nil => simp [linesBy]
  | cons c s ih =>
    rw [List.cons_append, linesBy]
    split
    · exact List.cons_ne_nil _ _
    · split
      · exact ih
      · split
        · exact List.cons_ne_nil _ _
        · exact List.cons_ne_nil _ _

/-- The lines before the end of a line and those after it are read apart. -/
theorem linesBy_append_lf (s rest : List α) :
    linesBy lf cr (s ++ lf :: rest) = linesBy lf cr (s ++ [lf]) ++ linesBy lf cr rest := by
  induction s with
  | nil => simp [linesBy]
  | cons c s ih =>
    -- What follows `c` begins in the same way in both texts.
    have hhead : (s ++ lf :: rest).head? = (s ++ [lf]).head? := by cases s <;> rfl
    rw [List.cons_append, List.cons_append, linesBy, linesBy, hhead, ih]
    split
    · rfl
    · split
      · rfl
      · have hne : linesBy lf cr (s ++ [lf]) ≠ [] := linesBy_append_lf_ne_nil s []
        obtain ⟨line, later, heq⟩ := List.exists_cons_of_ne_nil hne
        rw [heq]
        rfl

/-- After a text that is empty or ends in a line feed a new line begins. -/
theorem linesBy_append {s : List α} (hs : s = [] ∨ s.getLast? = some lf) (rest : List α) :
    linesBy lf cr (s ++ rest) = linesBy lf cr s ++ linesBy lf cr rest := by
  obtain rfl | hlast := hs
  · rfl
  · obtain ⟨start, rfl⟩ := List.getLast?_eq_some_iff.1 hlast
    rw [List.append_assoc, List.singleton_append, linesBy_append_lf]

/-- A carriage return right before the end of a line belongs to the end. -/
theorem linesBy_append_cr {line : List α} (hlf : lf ∉ line ++ [cr]) (rest : List α) :
    linesBy lf cr (line ++ [cr] ++ lf :: rest) = line :: linesBy lf cr rest := by
  induction line with
  | nil =>
    have hne : cr ≠ lf := by simpa [eq_comm] using hlf
    simp [linesBy, hne]
  | cons c line ih =>
    rw [List.cons_append, List.mem_cons, not_or] at hlf
    have hkept : ¬ (c = cr ∧ (line ++ [cr] ++ lf :: rest).head? = some lf) := by
      rintro ⟨-, hhead⟩
      obtain ⟨d, later, heq⟩ := List.exists_cons_of_ne_nil (l := line ++ [cr]) (by simp)
      obtain rfl : d = lf := by simpa [heq] using hhead
      exact hlf.2 (heq ▸ List.mem_cons_self)
    rw [List.cons_append, List.cons_append, linesBy, if_neg (Ne.symm hlf.1), if_neg hkept,
      ih hlf.2]

/-- A text without a line feed is a line before its end, but for a carriage return at its own end.
-/
theorem linesBy_line {line : List α} (hlf : lf ∉ line) :
    linesBy lf cr (line ++ [lf]) = [line] ∨
      ∃ start, line = start ++ [cr] ∧ linesBy lf cr (line ++ [lf]) = [start] := by
  by_cases hcr : line.getLast? = some cr
  · obtain ⟨start, rfl⟩ := List.getLast?_eq_some_iff.1 hcr
    exact .inr ⟨start, rfl, linesBy_append_cr hlf []⟩
  · exact .inl (linesBy_append_cons hlf hcr [])

/-- Symbols without an end of a line are a line. -/
theorem linesBy_of_notMem {line : List α} (h : lf ∉ line) (hne : line ≠ []) :
    linesBy lf cr line = [line] := by
  induction line with
  | nil => exact absurd rfl hne
  | cons c line ih =>
    rw [List.mem_cons, not_or] at h
    have hhead : ¬ (c = cr ∧ line.head? = some lf) := by
      rintro ⟨-, hhead⟩
      exact h.2 (List.mem_of_head? hhead)
    rw [linesBy, if_neg (Ne.symm h.1), if_neg hhead]
    cases line with
    | nil => rfl
    | cons d line => rw [ih h.2 (List.cons_ne_nil _ _)]

end Symbols

/-! ## Lines of a text -/

/-- A text put together from lines and their ends. -/
inductive IsLines : List Char → List (List Char) → Prop
  /-- The empty text has no line. -/
  | nil : IsLines [] []
  /-- The last line needs no end. -/
  | last {line : List Char} (hline : '\n' ∉ line) (hne : line ≠ []) : IsLines line [line]
  /-- A line feed ends a line. -/
  | lf {line rest : List Char} {later : List (List Char)} (hline : '\n' ∉ line)
      (hcr : line.getLast? ≠ some '\r') (hrest : IsLines rest later) :
      IsLines (line ++ '\n' :: rest) (line :: later)
  /-- So do a carriage return and a line feed. -/
  | crlf {line rest : List Char} {later : List (List Char)} (hline : '\n' ∉ line)
      (hrest : IsLines rest later) : IsLines (line ++ ['\r'] ++ '\n' :: rest) (line :: later)

/-- A text put together from lines has these lines. -/
theorem IsLines.lines_eq {text : List Char} {found : List (List Char)} (h : IsLines text found) :
    lines text = found := by
  induction h with
  | nil => rfl
  | last hline hne => exact linesBy_of_notMem hline hne
  | lf hline hcr _ ih => exact (linesBy_append_cons hline hcr _).trans (congrArg _ ih)
  | @crlf line rest later hline _ ih =>
    have hend : '\n' ∉ line ++ ['\r'] := by simp [hline]
    exact (linesBy_append_cr hend rest).trans (congrArg _ ih)

/-- Every text is put together from its lines. -/
theorem isLines_lines (text : List Char) : IsLines text (lines text) := by
  induction hlength : text.length using Nat.strongRecOn generalizing text with
  | ind n ih =>
    by_cases hfeed : '\n' ∈ text
    · -- What comes before the first line feed may end in a carriage return, which is then no part
      -- of the line.
      obtain ⟨start, rest, rfl, hstart⟩ := List.eq_append_cons_of_mem hfeed
      have hrest : IsLines rest (lines rest) := by
        refine ih rest.length ?_ rest rfl
        rw [← hlength, List.length_append, List.length_cons]
        omega
      by_cases hcr : start.getLast? = some '\r'
      · obtain ⟨line, rfl⟩ := List.getLast?_eq_some_iff.1 hcr
        have hline : '\n' ∉ line := fun hmem => hstart (List.mem_append_left _ hmem)
        rw [lines, linesBy_append_cr hstart]
        exact .crlf hline hrest
      · rw [lines, linesBy_append_cons hstart hcr]
        exact .lf hstart hcr hrest
    · by_cases hne : text = []
      · exact hne ▸ .nil
      · rw [lines, linesBy_of_notMem hfeed hne]
        exact .last hfeed hne

/-- A text is put together from its lines and from no others. -/
theorem isLines_iff {text : List Char} {found : List (List Char)} :
    IsLines text found ↔ lines text = found :=
  ⟨IsLines.lines_eq, fun h => h ▸ isLines_lines text⟩

end Volley.Text
