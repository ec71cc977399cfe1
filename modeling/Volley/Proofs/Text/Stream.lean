import Mathlib.Data.List.TakeWhile
import Volley.Proofs.Text.Cut
import Volley.Proofs.Text.Lines
import Volley.Proofs.Text.Utf8
import Volley.Text.Stream

/-!
# Lines of streams are lines of texts

What is read from a stream as its first line depends on the bytes of the stream and not on its
chunks: it is what stands before the first line feed, with the line feed (`exists_readLine`), or
all there is (`readLine_of_notMem`). Bytes are a text exactly if those before a line feed are one
and those after it are one (`decode?_append_newline`), so lines can be decoded one by one; without
its end, each is a line of the text (`lines_append_newline`).
-/

namespace Volley.Text

/-! ## One line of a stream -/

/-- Nothing is left of a chunk without a line feed where one is looked for. -/
theorem dropWhile_eq_nil {chunk : List UInt8} (h : 10 ∉ chunk) :
    chunk.dropWhile (· != 10) = [] := by
  rw [List.dropWhile_eq_nil_iff]
  intro b hb
  simpa using fun heq : b = 10 => h (heq ▸ hb)

/-- A chunk without a line feed goes to the line as a whole. -/
theorem readLine_cons_of_notMem {chunk : List UInt8} (h : 10 ∉ chunk) (later : List (List UInt8)) :
    readLine (chunk :: later) = (chunk ++ (readLine later).1, (readLine later).2) := by
  rw [readLine, dropWhile_eq_nil h]

/-- A chunk is divided at its first line feed. -/
theorem readLine_cons_append {line : List UInt8} (h : 10 ∉ line) (rest : List UInt8)
    (later : List (List UInt8)) :
    readLine ((line ++ 10 :: rest) :: later) = (line ++ [10], rest :: later) := by
  have hline : ∀ b ∈ line, (b != 10) = true := by
    intro b hb
    simpa using fun heq : b = 10 => h (heq ▸ hb)
  rw [readLine, List.dropWhile_append_of_pos hline, List.takeWhile_append_of_pos hline]
  simp

/-- A stream without a line feed is read to its end. -/
theorem readLine_of_notMem {chunks : List (List UInt8)} (h : 10 ∉ chunks.flatten) :
    readLine chunks = (chunks.flatten, []) := by
  induction chunks with
  | nil => rfl
  | cons chunk later ih =>
    rw [List.flatten_cons, List.mem_append, not_or] at h
    rw [readLine_cons_of_notMem h.1, ih h.2, List.flatten_cons]

/-- A stream is read up to its first line feed, and what is behind it is left. -/
theorem exists_readLine {chunks : List (List UInt8)} {line rest : List UInt8} (hline : 10 ∉ line)
    (h : chunks.flatten = line ++ 10 :: rest) :
    ∃ left, readLine chunks = (line ++ [10], left) ∧ left.flatten = rest := by
  induction chunks generalizing line with
  | nil => simp at h
  | cons chunk later ih =>
    rw [List.flatten_cons] at h
    -- The line ends behind this chunk, or the chunk goes on behind the line.
    have hlonger {tail : List UInt8} (heq : line = chunk ++ tail)
        (htail : later.flatten = tail ++ 10 :: rest) :
        ∃ left, readLine (chunk :: later) = (line ++ [10], left) ∧ left.flatten = rest := by
      rw [heq, List.mem_append, not_or] at hline
      obtain ⟨left, hread, hleft⟩ := ih hline.2 htail
      refine ⟨left, ?_, hleft⟩
      rw [readLine_cons_of_notMem hline.1, hread, heq, List.append_assoc]
    obtain ⟨tail, heq, htail⟩ | ⟨tail, heq, htail⟩ := List.append_eq_append_iff.1 h
    · exact hlonger heq htail
    · cases tail with
      | nil => exact hlonger (by simpa using heq.symm : line = chunk ++ []) htail.symm
      | cons b tail =>
        obtain ⟨rfl, hrest⟩ := List.cons.inj htail
        exact ⟨tail :: later, heq ▸ readLine_cons_append hline tail later, hrest.symm⟩

/-! ## Decoding by lines -/

/-- What is before the first line feed and what is after it are decoded apart. -/
theorem decode?_append_newline {line : List UInt8} (h : 10 ∉ line) (rest : List UInt8) :
    Utf8.decode? (line ++ 10 :: rest) =
      (Utf8.decode? line).bind fun start => (Utf8.decode? rest).map (start ++ '\n' :: ·) := by
  cases hline : Utf8.decode? line with
  | some start =>
    rw [Utf8.decode?_eq_some_iff.1 hline, Utf8.decode?_encode_append,
      Utf8.decode?_cons_of_lt (by decide), Option.map_map]
    rfl
  | none =>
    cases hall : Utf8.decode? (line ++ 10 :: rest) with
    | none => rfl
    | some s =>
      -- The first line feed of such a text would end the same bytes, so these would be a text.
      have hbytes := Utf8.decode?_eq_some_iff.1 hall
      have hnewline : '\n' ∈ s := by
        rw [← Utf8.newline_mem_encode_iff, ← hbytes]
        exact List.mem_append_right _ List.mem_cons_self
      obtain ⟨start, later, rfl, hstart⟩ := List.eq_append_cons_of_mem hnewline
      have hfirst : readLine [line ++ 10 :: rest] =
          (Utf8.encode start ++ [10], [Utf8.encode later]) := by
        rw [hbytes, Utf8.encode_append]
        exact readLine_cons_append (mt Utf8.newline_mem_encode_iff.1 hstart) _ _
      rw [readLine_cons_append h] at hfirst
      have heq : line = Utf8.encode start := List.append_cancel_right (congrArg Prod.fst hfirst)
      rw [Utf8.decode?_eq_some_iff.2 heq] at hline
      nomatch hline

/-! ## Ends of lines -/

/-- A line with a line feed loses the line feed, and a carriage return before it. -/
theorem dropLineEnd_append_newline (line : List Char) :
    dropLineEnd (line ++ ['\n']) = (dropStop? ['\r'] line).getD line := by
  rw [dropLineEnd, dropStop?_append]

/-- A line that ends with the text is kept as it is. -/
theorem dropLineEnd_of_notMem {line : List Char} (h : '\n' ∉ line) : dropLineEnd line = line := by
  rw [dropLineEnd, dropStop?_eq_none fun hlast => h (List.mem_of_getLast? hlast)]

/-- The first line of a text is what stands before its first line feed, without its end. -/
theorem lines_append_newline {line : List Char} (h : '\n' ∉ line) (later : List Char) :
    lines (line ++ '\n' :: later) = dropLineEnd (line ++ ['\n']) :: lines later := by
  rw [dropLineEnd_append_newline, lines, lines]
  by_cases hcr : line.getLast? = some '\r'
  · obtain ⟨start, rfl⟩ := List.getLast?_eq_some_iff.1 hcr
    rw [linesBy_append_cr h, dropStop?_append, Option.getD_some]
  · rw [linesBy_append_cons h hcr, dropStop?_eq_none hcr, Option.getD_none]

end Volley.Text
