/-!
# Lines

A text is a sequence of lines, each ended by a line feed; a carriage return right before that line
feed belongs to the line end. The last line needs no line feed, and a carriage return at the very
end of the text is then part of the line. What the two symbols are does not matter, so the rule is
written for any two.
-/

namespace Volley.Text

/-- The lines of a sequence of symbols, where `lf` ends a line and `cr` right before it belongs to
the line end. -/
def linesBy {α : Type} [DecidableEq α] (lf cr : α) : List α → List (List α)
  | [] => []
  | c :: rest =>
    if c = lf then [] :: linesBy lf cr rest
    else if c = cr ∧ rest.head? = some lf then linesBy lf cr rest
    else
      match linesBy lf cr rest with
      | [] => [[c]]
      | line :: later => (c :: line) :: later

/-- The lines of a text. -/
def lines (s : List Char) : List (List Char) :=
  linesBy '\n' '\r' s

/-- No symbol of a line is the one that ends lines. -/
theorem notMem_linesBy {α : Type} [DecidableEq α] (lf cr : α) (s : List α) :
    ∀ line ∈ linesBy lf cr s, lf ∉ line := by
  induction s with
  | nil => simp [linesBy]
  | cons c rest ih =>
    intro line hline
    unfold linesBy at hline
    split at hline
    · rcases List.mem_cons.1 hline with rfl | h
      · simp
      · exact ih line h
    · rename_i hc
      split at hline
      · exact ih line hline
      · split at hline
        · have : line = [c] := by simpa using hline
          simp only [this, List.mem_singleton]
          exact fun h => hc h.symm
        · rename_i first later heq
          rcases List.mem_cons.1 hline with rfl | h
          · have := ih first (by simp [heq])
            simp only [List.mem_cons, not_or]
            exact ⟨fun h => hc h.symm, this⟩
          · exact ih line (by simp [heq, h])

end Volley.Text
