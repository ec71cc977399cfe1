import Volley.Proofs.Text.Stream
import Volley.RequestFile.Reader

/-!
# Texts, streams and files

A request file is read from a text, from a stream or from a file on disk, and these agree
(`sources_agree`). A stream is cut into lines before anything is decoded, and its chunks cut it
elsewhere, so what has to be shown is that taking in a stream is taking in the lines of its text
(`feedChunks_eq`). That goes by the bytes that are left of it: a line of the stream is the next line
of the text, and the bytes behind it are the rest of the text.
-/

namespace Volley

open Text.Utf8 (decode? encode)

namespace Draft

/-- A stream at its end changes nothing. -/
theorem feedChunks_of_flatten_eq_nil (d : Draft) {chunks : List (List UInt8)}
    (h : chunks.flatten = []) : d.feedChunks chunks = .ok d := by
  have hread : Text.readLine chunks = ([], []) := by
    rw [Text.readLine_of_notMem (by simp [h]), h]
  rw [feedChunks]
  split
  · rfl
  · rename_i heq
    simp [hread] at heq

/-- A line that is read from a stream is decoded and taken in before the rest of the stream. -/
theorem feedChunks_of_readLine (d : Draft) {chunks left : List (List UInt8)} {line : List UInt8}
    (h : Text.readLine chunks = (line, left)) (hline : line ≠ []) :
    d.feedChunks chunks =
      match decode? line with
      | some text => (d.feed (Text.dropLineEnd text)).feedChunks left
      | none => .error (.stream .notText) := by
  rw [feedChunks]
  split
  · rename_i heq
    rw [h] at heq
    exact absurd (congrArg Prod.fst heq) hline
  · rename_i b rest left' heq
    rw [h] at heq
    obtain ⟨rfl, rfl⟩ := Prod.mk.inj heq
    rfl

/-- The next line of a stream is taken in, and what is behind it is left. -/
theorem exists_feedChunks_of_line (d : Draft) {chunks : List (List UInt8)}
    {line rest : List UInt8} (hline : 10 ∉ line) (h : chunks.flatten = line ++ 10 :: rest) :
    ∃ left, left.flatten = rest ∧ d.feedChunks chunks =
      match decode? line with
      | some start => (d.feed (Text.dropLineEnd (start ++ ['\n']))).feedChunks left
      | none => .error (.stream .notText) := by
  obtain ⟨left, hread, hleft⟩ := Text.exists_readLine hline h
  have hend : decode? (line ++ [10]) = (decode? line).map (· ++ ['\n']) := by
    rw [Text.decode?_append_newline hline, Text.Utf8.decode?_nil]
    cases decode? line <;> rfl
  refine ⟨left, hleft, ?_⟩
  rw [feedChunks_of_readLine d hread (List.append_ne_nil_of_right_ne_nil _ (by decide)), hend]
  cases decode? line <;> rfl

/-- What a stream has without a line feed is its last line, or it is at its end. -/
theorem feedChunks_of_notMem (d : Draft) {chunks : List (List UInt8)} (h : 10 ∉ chunks.flatten) :
    d.feedChunks chunks =
      match decode? chunks.flatten with
      | some text => .ok ((Text.lines text).foldl feed d)
      | none => .error (.stream .notText) := by
  by_cases hnil : chunks.flatten = []
  · rw [feedChunks_of_flatten_eq_nil d hnil, hnil, Text.Utf8.decode?_nil]
    rfl
  · rw [feedChunks_of_readLine d (Text.readLine_of_notMem h) hnil]
    cases hdecode : decode? chunks.flatten with
    | none => rfl
    | some text =>
      have hbytes := Text.Utf8.decode?_eq_some_iff.1 hdecode
      have hline : '\n' ∉ text := by
        rwa [← Text.Utf8.newline_mem_encode_iff, ← hbytes]
      have htext : text ≠ [] := by
        rintro rfl
        exact hnil hbytes
      dsimp only
      rw [Text.lines, Text.linesBy_of_notMem hline htext, Text.dropLineEnd_of_notMem hline]
      exact feedChunks_of_flatten_eq_nil _ rfl

/-- Taking in a stream is taking in the lines of its text. It fails if the bytes are no text. -/
theorem feedChunks_eq (d : Draft) (chunks : List (List UInt8)) :
    d.feedChunks chunks =
      match decode? chunks.flatten with
      | some text => .ok ((Text.lines text).foldl feed d)
      | none => .error (.stream .notText) := by
  generalize hlength : chunks.flatten.length = n
  induction n using Nat.strong_induction_on generalizing d chunks with
  | h n ih =>
    by_cases hmem : 10 ∈ chunks.flatten
    · -- The next line is taken in, and what is behind it is shorter.
      obtain ⟨line, rest, hflatten, hline⟩ := List.eq_append_cons_of_mem hmem
      obtain ⟨left, rfl, hfeed⟩ := exists_feedChunks_of_line d hline hflatten
      have hshorter : left.flatten.length < n := by
        rw [← hlength, hflatten, List.length_append, List.length_cons]
        omega
      rw [hfeed, hflatten, Text.decode?_append_newline hline]
      cases hdecode : decode? line with
      | none => rfl
      | some start =>
        have hstart : '\n' ∉ start := by
          rwa [← Text.Utf8.newline_mem_encode_iff, ← Text.Utf8.decode?_eq_some_iff.1 hdecode]
        rw [Option.bind_some]
        dsimp only
        rw [ih _ hshorter _ left rfl]
        cases decode? left.flatten with
        | none => rfl
        | some later =>
          rw [Option.map_some]
          dsimp only
          rw [Text.lines_append_newline hstart, List.foldl_cons]
    · exact feedChunks_of_notMem d hmem

end Draft

/-- A text, a stream and a file with the same bytes are read as the same request file, however the
stream hands out its bytes. If the bytes are those of no text, neither the stream nor the file is
read at all. -/
theorem RequestFile.sources_agree (chunks : List (List UInt8)) (path : String) :
    (∀ text : String, chunks.flatten = encode text.toList →
      ofChunks chunks = .ok (ofString text) ∧
        ofFile path (.ok chunks.flatten) = .ok (ofString text)) ∧
    ((∀ text : String, chunks.flatten ≠ encode text.toList) →
      ofChunks chunks = .error (.stream .notText) ∧
        ofFile path (.ok chunks.flatten) = .error (.file path .notText)) := by
  rw [ofChunks, ofFile, Draft.feedChunks_eq]
  refine ⟨fun text htext => ?_, fun hnot => ?_⟩
  · rw [Text.Utf8.decode?_eq_some_iff.2 htext]
    refine ⟨rfl, ?_⟩
    dsimp only
    rw [String.ofList_toList]
  · have hdecode : decode? chunks.flatten = none := by
      refine Option.eq_none_iff_forall_ne_some.2 fun s hs => hnot (String.ofList s) ?_
      rw [String.toList_ofList]
      exact Text.Utf8.decode?_eq_some_iff.1 hs
    rw [hdecode]
    exact ⟨rfl, rfl⟩

/-- A variable whose name and whose line end are divided between chunks is read as in one piece,
and a stream that ends within a character is not read. -/
theorem RequestFile.sources_agree_dividedChunks :
    (ofChunks [[64, 0xC3], [0xA9, 61, 49, 13], [10]] = .ok (ofString "@é=1\r\n") ∧
      ofFile "a.http" (.ok [64, 0xC3, 0xA9, 61, 49, 13, 10]) = .ok (ofString "@é=1\r\n")) ∧
    ofChunks [[71, 69, 84, 32], [104, 0xC3]] = .error (.stream .notText) ∧
    ofFile "a.http" (.ok [71, 69, 84, 32, 104, 0xC3]) = .error (.file "a.http" .notText) := by
  have hnone : decode? [71, 69, 84, 32, 104, 0xC3] = none := by decide +kernel
  refine ⟨(sources_agree [[64, 0xC3], [0xA9, 61, 49, 13], [10]] "a.http").1 "@é=1\r\n" ?text,
    (sources_agree [[71, 69, 84, 32], [104, 0xC3]] "a.http").2 fun text htext => ?noText⟩
  case text => decide +kernel
  case noText => nomatch hnone.symm.trans (Text.Utf8.decode?_eq_some_iff.2 htext)

end Volley
