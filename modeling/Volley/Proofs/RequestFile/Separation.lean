import Volley.Proofs.Dictionary
import Volley.Proofs.Text.Lines
import Volley.Proofs.Text.White
import Volley.RequestFile.Reader

/-!
# Separators cut a file into independent parts

A separator ends the case that is being read, in whatever stage it is, and nothing of that case is
left: what is read after it is read as at the start of a file (`foldl_feed_after`), with the
variables and the cases before it kept apart in `Draft.after`. So the file is that of the lines
before the separator followed by that of the lines after it (`ofLines_append_separator`), and there
is one case more than there are separators (`length_cases_ofLines`), since no other line ends one.
-/

namespace Volley

namespace Line

/-- Three number signs with nothing but white space around them. -/
def Separates (s : List Char) : Prop :=
  Text.Padded ['#', '#', '#'] s

/-- A separator is a line of three number signs with nothing but white space around them. -/
theorem isSeparator_iff {s : List Char} : isSeparator s = true ↔ Separates s := by
  rw [isSeparator, beq_iff_eq]
  constructor
  · intro h
    have hpadded := Text.padded_trim s
    rwa [h] at hpadded
  · intro h
    rw [h.trim_eq]
    decide

instance (s : List Char) : Decidable (Separates s) :=
  decidable_of_iff _ isSeparator_iff

/-- A separator is one also without a carriage return at its end. -/
theorem isSeparator_of_append_cr {s : List Char} (h : isSeparator (s ++ ['\r']) = true) :
    isSeparator s = true := by
  have hpadded : Text.Padded s (s ++ ['\r']) := ⟨[], ['\r'], rfl, rfl, rfl⟩
  rwa [isSeparator, hpadded.trim_eq] at h

/-- Nothing else is read as a separator. -/
theorem read_ne_separator {s : List Char} (h : isSeparator s = false) (mayDefine : Bool) :
    read mayDefine s ≠ .separator := by
  rw [read, h, if_neg Bool.false_ne_true]
  grind

end Line

namespace Draft

/-! ## What a separator leaves behind -/

/-- The draft with the variables and the cases of an earlier part put before its own. -/
def after (d : Draft) (bindings : Dictionary String) (finished : List Case) : Draft :=
  { d with bindings := bindings.override d.bindings, finished := finished ++ d.finished }

variable (d : Draft) (bindings : Dictionary String) (finished : List Case)

/-- A case ends as it does without an earlier part. -/
theorem endCase_after : (d.after bindings finished).endCase = d.endCase.after bindings finished := by
  simp [endCase, after, currentCase]

/-- What a line says is taken in as it is without an earlier part. -/
theorem apply_after (line : Line) :
    (d.after bindings finished).apply line = (d.apply line).after bindings finished := by
  cases line with
  | separator => exact endCase_after d bindings finished
  | definition key value =>
    simp only [apply, after, Dictionary.override_insert]
  | request method url => by_cases h : d.hasRequest = true <;> simp [apply, after, h]
  | blank => by_cases h : d.stage = .headers <;> simp [apply, after, h]
  | name | comment | header | other => rfl

/-- A line is taken in as it is without an earlier part. -/
theorem feed_after (line : List Char) :
    (d.after bindings finished).feed line = (d.feed line).after bindings finished := by
  have hstage : (d.after bindings finished).stage = d.stage := rfl
  rw [feed, feed, hstage]
  split
  · split
    · exact endCase_after d bindings finished
    · rfl
  · exact apply_after d bindings finished _

/-- Lines are taken in as they are without an earlier part. -/
theorem foldl_feed_after (lines : List (List Char)) :
    lines.foldl feed (d.after bindings finished) =
      (lines.foldl feed d).after bindings finished := by
  induction lines generalizing d with
  | nil => rfl
  | cons line lines ih => rw [List.foldl_cons, feed_after, ih, List.foldl_cons]

/-- After a case has ended, nothing is left of it but what is complete. -/
theorem endCase_eq_after : d.endCase = after {} d.endCase.bindings d.endCase.finished := by
  simp [endCase, after, Dictionary.override_empty]

/-! ## Separators among the lines -/

/-- A separator ends the case from any stage. -/
theorem feed_of_isSeparator {line : List Char} (h : Line.isSeparator line = true) :
    d.feed line = d.endCase := by
  by_cases hstage : d.stage = .body
  · rw [feed, if_pos hstage, if_pos h]
  · rw [feed, if_neg hstage, Line.read, if_pos h, apply]

/-- Only a separator ends a case. -/
theorem finished_feed {line : List Char} (h : Line.isSeparator line = false) :
    (d.feed line).finished = d.finished := by
  rw [feed]
  split
  · rw [h, if_neg Bool.false_ne_true]
  · have hne := Line.read_ne_separator h (d.stage == .opening)
    generalize Line.read (d.stage == .opening) line = said at hne
    cases said with
    | separator => exact absurd rfl hne
    | request method url => rw [apply]; split <;> rfl
    | blank => rw [apply]; split <;> rfl
    | definition | name | comment | header | other => rfl

/-- As many cases end as there are separators. -/
theorem length_finished_foldl_feed (lines : List (List Char)) :
    (lines.foldl feed d).finished.length = d.finished.length + lines.countP (Line.Separates ·) := by
  induction lines generalizing d with
  | nil => rfl
  | cons line lines ih =>
    rw [List.foldl_cons, ih, List.countP_cons]
    by_cases h : Line.Separates line
    · rw [feed_of_isSeparator d (Line.isSeparator_iff.2 h), endCase, if_pos (decide_eq_true h),
        List.length_append, List.length_singleton]
      omega
    · have hnot : Line.isSeparator line = false :=
        Bool.eq_false_iff.2 fun hseparator => h (Line.isSeparator_iff.1 hseparator)
      rw [finished_feed d hnot, if_neg (by simpa using h), Nat.add_zero]

end Draft

namespace RequestFile

/-- A file with a separator is the file before it and then the one after it. -/
theorem ofLines_append_separator {separator : List Char} (h : Line.isSeparator separator = true)
    (a b : List (List Char)) :
    ofLines (a ++ separator :: b) =
      { bindings := (ofLines a).bindings.override (ofLines b).bindings
        cases := (ofLines a).cases ++ (ofLines b).cases } := by
  have hfold : (a ++ separator :: b).foldl Draft.feed {} =
      (b.foldl Draft.feed {}).after (ofLines a).bindings (ofLines a).cases := by
    rw [List.foldl_append, List.foldl_cons, Draft.feed_of_isSeparator _ h, Draft.endCase_eq_after,
      Draft.foldl_feed_after]
    rfl
  rw [ofLines, hfold, Draft.finish, Draft.endCase_after]
  rfl

/-- There is one case more than there are separators. -/
theorem length_cases_ofLines (lines : List (List Char)) :
    (ofLines lines).cases.length = lines.countP (Line.Separates ·) + 1 := by
  rw [ofLines, Draft.finish, Draft.endCase, List.length_append, Draft.length_finished_foldl_feed,
    List.length_singleton]
  simp

/-- The lines of a text with a separator are those before it, the separator, and those after it. -/
theorem exists_lines_append_separator {a s : String} (b : String)
    (ha : a = "" ∨ a.toList.getLast? = some '\n') (hline : '\n' ∉ s.toList)
    (hs : Line.Separates s.toList) :
    ∃ separator, Line.isSeparator separator = true ∧
      Text.lines (a ++ s ++ "\n" ++ b).toList =
        Text.lines a.toList ++ separator :: Text.lines b.toList := by
  have htext : (a ++ s ++ "\n" ++ b).toList = a.toList ++ (s.toList ++ '\n' :: b.toList) := by
    simp
  have hend : a.toList = [] ∨ a.toList.getLast? = some '\n' := by simpa using ha
  rw [htext]
  simp only [Text.lines]
  rw [Text.linesBy_append hend, Text.linesBy_append_lf]
  -- The white space after the number signs may end in a carriage return.
  obtain heq | ⟨start, hstart, heq⟩ :
      Text.linesBy '\n' '\r' (s.toList ++ ['\n']) = [s.toList] ∨ _ := Text.linesBy_line hline
  · exact ⟨s.toList, Line.isSeparator_iff.2 hs, by rw [heq]; rfl⟩
  · refine ⟨start, Line.isSeparator_of_append_cr ?_, by rw [heq]; rfl⟩
    rw [← hstart]
    exact Line.isSeparator_iff.2 hs

/-- A separator cuts a text into parts that are read independently: after a text that is empty or
ends in a line feed, a separator and a further text add the cases of that text to those before, and
its variables to the variables before, where they count more. A file has one case more than
separators. -/
theorem ofString_append_separator {a s : String} (b : String)
    (ha : a = "" ∨ a.toList.getLast? = some '\n') (hline : '\n' ∉ s.toList)
    (hs : Line.Separates s.toList) :
    ofString (a ++ s ++ "\n" ++ b) =
        { bindings := (ofString a).bindings.override (ofString b).bindings
          cases := (ofString a).cases ++ (ofString b).cases } ∧
      (∀ key, (ofString (a ++ s ++ "\n" ++ b)).bindings.get? key =
        ((ofString b).bindings.get? key).or ((ofString a).bindings.get? key)) ∧
      ∀ text, (ofString text).cases.length =
        (Text.lines text.toList).countP (Line.Separates ·) + 1 := by
  obtain ⟨separator, hseparator, hlines⟩ := exists_lines_append_separator b ha hline hs
  have hfile := ofLines_append_separator hseparator (Text.lines a.toList) (Text.lines b.toList)
  rw [← hlines] at hfile
  refine ⟨hfile, fun key => ?_, fun text => length_cases_ofLines _⟩
  rw [ofString, hfile]
  exact Dictionary.get?_override _ _ key

/-- A text whose last line is one of a body. -/
def openBody : String := "@v = 1\nPOST http://a\nX: 1\n\nbody\n"

/-- A text that defines a variable again. -/
def secondPart : String := "@v = 2\nGET http://b"

/-- Within a body, a separator with white space around it, after which a variable is defined again.
-/
theorem ofString_append_separator_openBody :
    ((openBody = "" ∨ openBody.toList.getLast? = some '\n') ∧ '\n' ∉ " ###\t\r".toList ∧
      Line.Separates " ###\t\r".toList) ∧
    (ofString (openBody ++ " ###\t\r" ++ "\n" ++ secondPart)).cases =
      (ofString openBody).cases ++ (ofString secondPart).cases ∧
    (ofString (openBody ++ " ###\t\r" ++ "\n" ++ secondPart)).bindings.get? "v" = some "2" := by
  have hend : openBody = "" ∨ openBody.toList.getLast? = some '\n' := .inr (by decide)
  have hline : '\n' ∉ " ###\t\r".toList := by decide
  have hseparates : Line.Separates " ###\t\r".toList := by decide
  obtain ⟨hfile, hget, -⟩ := ofString_append_separator secondPart hend hline hseparates
  refine ⟨⟨hend, hline, hseparates⟩, by rw [hfile], ?_⟩
  have hsecond : (ofString secondPart).bindings.get? "v" = some "2" := by decide +kernel
  rw [hget, hsecond, Option.some_or]

end RequestFile

end Volley
