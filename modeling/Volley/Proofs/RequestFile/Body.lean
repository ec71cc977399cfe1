import Mathlib.Data.List.Induction
import Volley.Proofs.RequestFile.Grammar
import Volley.RequestFile.Reader

/-!
# Bodies are data and comments are noise

Where a body begins and how long it lasts depends on the lines before alone: there is a header, a
blank line some time after it, and no separator since (`Line.InBody`). The stage of the draft says
the same (`stage_eq_body_iff`), since it changes with the lines and with nothing else
(`stage_feed`).

Within a body no line means anything, so two documents that differ only in the lines of one body
differ only in the body of one case (`ofLines_body`). Outside of bodies a comment does nothing at
all (`ofLines_comment`). `ofString_edited` says both of documents that have been edited.
-/

namespace Volley

/-- A case with lines for its body. -/
def Case.withBody (c : Case) (lines : List (List Char)) : Case :=
  { c with body := "\n".intercalate (lines.map String.ofList) }

namespace Line

/-- A line that is a header also where variables may be defined. -/
def IsHeader (s : List Char) : Prop :=
  ∃ key value, read true s = .header key value

/-- There is a header in these lines, and no separator after it. -/
def AfterHeader (lines : List (List Char)) : Prop :=
  ∃ before header after, lines = before ++ header :: after ∧ IsHeader header ∧
    ∀ line ∈ after, ¬ Separates line

/-- What follows these lines is in a body: there is a blank line after a header, and no separator
since. -/
def InBody (lines : List (List Char)) : Prop :=
  ∃ start blank body, lines = start ++ blank :: body ∧ AfterHeader start ∧
    Text.isBlank blank = true ∧ ∀ line ∈ body, ¬ Separates line

/-- A body begins after these lines, with the last of them. -/
def BeginBody (lines : List (List Char)) : Prop :=
  InBody lines ∧ ¬ InBody lines.dropLast

/-- A header is no separator. -/
theorem IsHeader.isSeparator_eq_false {s : List Char} (h : IsHeader s) : isSeparator s = false := by
  obtain ⟨key, value, hread⟩ := h
  refine Bool.eq_false_iff.2 fun hseparator => ?_
  rw [read, if_pos hseparator] at hread
  exact absurd hread (by simp)

/-- A blank line is no separator. -/
theorem isSeparator_eq_false_of_isBlank {s : List Char} (h : Text.isBlank s = true) :
    isSeparator s = false := by
  rw [isSeparator, Text.trim, Text.trimStart_eq_nil h]
  decide

/-- A blank line is read as such. -/
theorem read_of_isBlank {s : List Char} (h : Text.isBlank s = true) (mayDefine : Bool) :
    read mayDefine s = .blank := by
  rw [← List.append_nil s, Line.read_append h, read_nil]

/-- Only a blank line is read as such. -/
theorem isBlank_of_read {s : List Char} {mayDefine : Bool} (h : read mayDefine s = .blank) :
    Text.isBlank s = true := by
  unfold read at h
  grind

end Line

/-- How far a case has come after a line. -/
def Stage.next (stage : Stage) (line : List Char) : Stage :=
  if Line.isSeparator line then .opening
  else
    match stage with
    | .opening => match Line.read true line with
      | .header _ _ => .headers
      | _ => .opening
    | .headers => if Text.isBlank line then .body else .headers
    | .body => .body

namespace Stage

open Line

variable {stage : Stage} {line : List Char} {lines : List (List Char)}

/-! ## Where bodies are -/

/-- A separator leads to the next case. -/
theorem next_of_separates (h : Separates line) : stage.next line = .opening :=
  if_pos (isSeparator_iff.2 h)

/-- Nothing but a separator leads out of a body. -/
theorem next_body (h : ¬ Separates line) : Stage.body.next line = .body :=
  if_neg fun hseparator => h (isSeparator_iff.1 hseparator)

/-- Nothing but a separator leads back to the opening of a case. -/
theorem next_ne_opening (hstage : stage ≠ .opening) (h : ¬ Separates line) :
    stage.next line ≠ .opening := by
  rw [Stage.next.eq_def, if_neg fun hseparator => h (isSeparator_iff.1 hseparator)]
  cases stage with
  | opening => exact absurd rfl hstage
  | headers => dsimp only; split <;> exact Stage.noConfusion
  | body => exact Stage.noConfusion

/-- A header leads out of the opening. -/
theorem next_of_isHeader (h : IsHeader line) : stage.next line ≠ .opening := by
  rw [Stage.next.eq_def, h.isSeparator_eq_false, if_neg Bool.false_ne_true]
  obtain ⟨key, value, hread⟩ := h
  cases stage with
  | opening => rw [hread]; exact Stage.noConfusion
  | headers => dsimp only; split <;> exact Stage.noConfusion
  | body => exact Stage.noConfusion

/-- Nothing but a header leads out of the opening. -/
theorem isHeader_of_next (h : Stage.opening.next line ≠ .opening) : IsHeader line := by
  rw [Stage.next.eq_def] at h
  split at h
  · exact absurd rfl h
  · dsimp only at h
    split at h
    · rename_i key value hread
      exact ⟨key, value, hread⟩
    · exact absurd rfl h

/-- After a header, a blank line leads to the body. -/
theorem next_of_isBlank (hstage : stage ≠ .opening) (h : Text.isBlank line = true) :
    stage.next line = .body := by
  rw [Stage.next.eq_def, isSeparator_eq_false_of_isBlank h, if_neg Bool.false_ne_true]
  cases stage with
  | opening => exact absurd rfl hstage
  | headers => exact if_pos h
  | body => rfl

/-- Nothing but a blank line leads to the body. -/
theorem isBlank_of_next (hstage : stage ≠ .body) (h : stage.next line = .body) :
    stage ≠ .opening ∧ Text.isBlank line = true := by
  rw [Stage.next.eq_def] at h
  split at h
  · exact absurd h (by decide)
  · cases stage with
    | opening =>
      dsimp only at h
      split at h <;> exact absurd h (by decide)
    | headers =>
      refine ⟨Stage.noConfusion, ?_⟩
      by_contra hblank
      exact absurd ((if_neg hblank).symm.trans h) (by decide)
    | body => exact absurd rfl hstage

/-- Lines other than separators do not lead back to the opening of a case. -/
theorem foldl_next_ne_opening (hstage : stage ≠ .opening)
    (hlines : ∀ line ∈ lines, ¬ Separates line) : lines.foldl Stage.next stage ≠ .opening := by
  induction lines generalizing stage with
  | nil => exact hstage
  | cons line lines ih =>
    rw [List.forall_mem_cons] at hlines
    exact ih (next_ne_opening hstage hlines.1) hlines.2

/-- Lines other than separators do not lead out of a body. -/
theorem foldl_next_body (hlines : ∀ line ∈ lines, ¬ Separates line) :
    lines.foldl Stage.next .body = .body := by
  induction lines with
  | nil => rfl
  | cons line lines ih =>
    rw [List.forall_mem_cons] at hlines
    rw [List.foldl_cons, next_body hlines.1, ih hlines.2]

/-- The opening of a case is left with a header, until the next separator. -/
theorem foldl_next_ne_opening_iff :
    lines.foldl Stage.next .opening ≠ .opening ↔ AfterHeader lines := by
  constructor
  · intro h
    -- From the end on, since the header is the last line with which an opening was left.
    induction lines using List.reverseRecOn with
    | nil => exact absurd rfl h
    | append_singleton lines line ih =>
      rw [List.foldl_append, List.foldl_cons, List.foldl_nil] at h
      have hline : ¬ Separates line := fun hseparator => h (next_of_separates hseparator)
      by_cases hstage : lines.foldl Stage.next .opening = .opening
      · rw [hstage] at h
        exact ⟨lines, line, [], rfl, isHeader_of_next h, by simp⟩
      · obtain ⟨before, header, after, rfl, hheader, hafter⟩ := ih hstage
        refine ⟨before, header, after ++ [line], by simp, hheader, ?_⟩
        rw [List.forall_mem_append, List.forall_mem_singleton]
        exact ⟨hafter, hline⟩
  · rintro ⟨before, header, after, rfl, hheader, hafter⟩
    rw [List.foldl_append, List.foldl_cons]
    exact foldl_next_ne_opening (next_of_isHeader hheader) hafter

/-- The stage is the body where the lines say so. -/
theorem foldl_next_eq_body_iff : lines.foldl Stage.next .opening = .body ↔ InBody lines := by
  constructor
  · intro h
    -- From the end on: either the body has begun before the last line, or it begins with it.
    induction lines using List.reverseRecOn with
    | nil => exact absurd h (by decide)
    | append_singleton lines line ih =>
      rw [List.foldl_append, List.foldl_cons, List.foldl_nil] at h
      by_cases hstage : lines.foldl Stage.next .opening = .body
      · obtain ⟨start, blank, body, rfl, hstart, hblank, hbody⟩ := ih hstage
        have hline : ¬ Separates line := by
          intro hseparator
          rw [next_of_separates hseparator] at h
          exact absurd h (by decide)
        refine ⟨start, blank, body ++ [line], by simp, hstart, hblank, ?_⟩
        rw [List.forall_mem_append, List.forall_mem_singleton]
        exact ⟨hbody, hline⟩
      · obtain ⟨hopening, hblank⟩ := isBlank_of_next hstage h
        exact ⟨lines, line, [], rfl, foldl_next_ne_opening_iff.1 hopening, hblank, by simp⟩
  · rintro ⟨start, blank, body, rfl, hstart, hblank, hbody⟩
    have hopening := foldl_next_ne_opening_iff.2 hstart
    rw [List.foldl_append, List.foldl_cons, next_of_isBlank hopening hblank, foldl_next_body hbody]

instance (lines : List (List Char)) : Decidable (InBody lines) :=
  decidable_of_iff _ foldl_next_eq_body_iff

instance (lines : List (List Char)) : Decidable (BeginBody lines) :=
  inferInstanceAs (Decidable (InBody lines ∧ ¬ InBody lines.dropLast))

end Stage

namespace Draft

open Line

/-! ## Stages of a draft -/

/-- Of what lines say, separators, headers and blank lines change the stage. -/
theorem stage_apply (d : Draft) (said : Line) :
    (d.apply said).stage =
      match said with
      | .separator => .opening
      | .header _ _ => .headers
      | .blank => if d.stage = .headers then .body else d.stage
      | _ => d.stage := by
  cases said with
  | request => rw [apply]; split <;> rfl
  | blank => rw [apply]; split <;> rfl
  | separator | definition | name | comment | header | other => rfl

/-- The stage changes with the lines and with nothing else. -/
theorem stage_feed (d : Draft) (line : List Char) : (d.feed line).stage = d.stage.next line := by
  rw [Stage.next.eq_def]
  split
  · rename_i hseparator
    rw [feed_of_isSeparator d hseparator, endCase]
  · rename_i hseparator
    have hne := read_ne_separator (by simpa using hseparator)
    cases hstage : d.stage with
    | opening =>
      -- Whatever the line says, only a header changes this stage.
      have hmayDefine : (Stage.opening == .opening) = true := rfl
      have hsaid := hne true
      rw [feed, hstage, if_neg (by decide), stage_apply, hstage, hmayDefine]
      generalize read true line = said at hsaid
      cases said with
      | separator => exact absurd rfl hsaid
      | definition | name | comment | request | header | blank | other => rfl
    | headers =>
      have hmayDefine : (Stage.headers == .opening) = false := rfl
      have hsaid := hne false
      rw [feed, hstage, if_neg (by decide), stage_apply, hstage, hmayDefine]
      by_cases hblank : Text.isBlank line = true
      · rw [read_of_isBlank hblank]
        exact (if_pos hblank).symm
      · have hother : read false line ≠ .blank := fun hread => hblank (isBlank_of_read hread)
        generalize read false line = said at hsaid hother
        cases said with
        | separator => exact absurd rfl hsaid
        | blank => exact absurd rfl hother
        | definition | name | comment | request | header | other => exact (if_neg hblank).symm
    | body => rw [feed, if_pos hstage, if_neg hseparator, hstage]

/-- The stage after lines depends on them alone. -/
theorem stage_foldl_feed (d : Draft) (lines : List (List Char)) :
    (lines.foldl feed d).stage = lines.foldl Stage.next d.stage := by
  induction lines generalizing d with
  | nil => rfl
  | cons line lines ih => rw [List.foldl_cons, List.foldl_cons, ih, stage_feed]

/-- The draft is in a body where the lines say so. -/
theorem stage_eq_body_iff (lines : List (List Char)) :
    (lines.foldl feed {}).stage = .body ↔ InBody lines := by
  rw [stage_foldl_feed]
  exact Stage.foldl_next_eq_body_iff

/-! ## Within a body -/

/-- Lines of a body are kept as they are. -/
theorem foldl_feed_body {d : Draft} {lines : List (List Char)} (hstage : d.stage = .body)
    (hlines : ∀ line ∈ lines, ¬ Separates line) :
    lines.foldl feed d = { d with bodyLines := d.bodyLines ++ lines } := by
  induction lines generalizing d with
  | nil => simp
  | cons line lines ih =>
    rw [List.forall_mem_cons] at hlines
    have hfeed : d.feed line = { d with bodyLines := d.bodyLines ++ [line] } := by
      rw [feed, if_pos hstage, if_neg fun hseparator => hlines.1 (isSeparator_iff.1 hseparator)]
    have hlater := @ih { d with bodyLines := d.bodyLines ++ [line] } hstage hlines.2
    rw [List.foldl_cons, hfeed, hlater, List.append_assoc]
    rfl

/-- Outside of a body a line is none of its lines. -/
theorem bodyLines_feed {d : Draft} (hstage : d.stage ≠ .body) (h : d.bodyLines = [])
    (line : List Char) : (d.feed line).bodyLines = [] := by
  rw [feed, if_neg hstage]
  cases read (d.stage == .opening) line with
  | separator => rfl
  | request method url => rw [apply]; split <;> exact h
  | blank => rw [apply]; split <;> exact h
  | definition | name | comment | header | other => exact h

/-- There are no lines of a body before it begins. -/
theorem bodyLines_eq_nil {lines : List (List Char)} (h : ¬ InBody lines) :
    (lines.foldl feed {}).bodyLines = [] := by
  induction lines using List.reverseRecOn with
  | nil => rfl
  | append_singleton lines line ih =>
    rw [List.foldl_append, List.foldl_cons, List.foldl_nil]
    by_cases hstage : (lines.foldl feed {}).stage = .body
    · -- The body ends with this line, so it is a separator.
      by_cases hline : Separates line
      · rw [feed_of_isSeparator _ (isSeparator_iff.2 hline), endCase]
      · refine absurd ((stage_eq_body_iff _).1 ?_) h
        rw [List.foldl_append, List.foldl_cons, List.foldl_nil, stage_feed, hstage,
          Stage.next_body hline]
    · exact bodyLines_feed hstage (ih fun hbody => hstage ((stage_eq_body_iff lines).2 hbody)) line

/-- There are none where it begins either. -/
theorem bodyLines_of_beginBody {lines : List (List Char)} (h : BeginBody lines) :
    (lines.foldl feed {}).bodyLines = [] := by
  obtain ⟨hbody, hbefore⟩ := h
  cases lines using List.reverseRecOn with
  | nil => rfl
  | append_singleton lines line =>
    rw [List.dropLast_concat] at hbefore
    rw [List.foldl_append, List.foldl_cons, List.foldl_nil]
    exact bodyLines_feed (fun hstage => hbefore ((stage_eq_body_iff lines).1 hstage))
      (bodyLines_eq_nil hbefore) line

/-! ## Outside of bodies -/

/-- Outside of a body a comment does nothing. -/
theorem feed_comment {d : Draft} (hstage : d.stage ≠ .body) {line : List Char}
    (h : BeginsComment line) (hseparator : ¬ Separates line) (hname : ∀ name, ¬ Names name line) :
    d.feed line = d := by
  rw [feed, if_neg hstage, read_of_beginsComment h hseparator hname]
  rfl

end Draft

namespace RequestFile

open Line

/-- A file around a body: what is before the body, the case that it belongs to, and what is after
it do not depend on its lines. -/
theorem ofLines_body {before rest : List (List Char)} (hbefore : BeginBody before)
    (hrest : ∀ line ∈ rest.head?, Separates line) :
    ∃ (bindings : Dictionary String) (earlier : List Case) (c : Case) (later : List Case),
      earlier.length = before.countP (Separates ·) ∧
      ∀ body : List (List Char), (∀ line ∈ body, ¬ Separates line) →
        ofLines (before ++ body ++ rest) =
          { bindings := bindings, cases := earlier ++ c.withBody body :: later } := by
  have hstage := (Draft.stage_eq_body_iff before).2 hbefore.1
  have hempty := Draft.bodyLines_of_beginBody hbefore
  have hlength := Draft.length_finished_foldl_feed {} before
  rw [List.length_nil, Nat.zero_add] at hlength
  have hbody : ∀ body : List (List Char), (∀ line ∈ body, ¬ Separates line) →
      (before ++ body).foldl Draft.feed {} =
        { before.foldl Draft.feed {} with bodyLines := body } := by
    intro body hlines
    rw [List.foldl_append, Draft.foldl_feed_body hstage hlines, hempty, List.nil_append]
  generalize before.foldl Draft.feed {} = d at hlength hbody
  -- The lines of the body are in the draft until the case ends, with the file or with a separator.
  cases rest with
  | nil =>
    refine ⟨d.bindings, d.finished, d.current, [], hlength, fun body hlines => ?_⟩
    rw [List.append_nil, ofLines, hbody body hlines]
    rfl
  | cons separator rest =>
    have hseparator := isSeparator_iff.2 (hrest separator rfl)
    refine ⟨d.bindings.override (ofLines rest).bindings, d.finished, d.current,
      (ofLines rest).cases, hlength, fun body hlines => ?_⟩
    have hcases : (ofLines (before ++ body)).cases = d.finished ++ [d.current.withBody body] := by
      rw [ofLines, hbody body hlines]
      rfl
    have hbindings : (ofLines (before ++ body)).bindings = d.bindings := by
      rw [ofLines, hbody body hlines]
      rfl
    rw [ofLines_append_separator hseparator, hcases, hbindings, List.append_assoc,
      List.singleton_append]

/-- A file does not change with a comment outside of bodies. -/
theorem ofLines_comment {before : List (List Char)} (hbefore : ¬ InBody before)
    {comment : List Char} (h : BeginsComment comment) (hseparator : ¬ Separates comment)
    (hname : ∀ name, ¬ Names name comment) (after : List (List Char)) :
    ofLines (before ++ comment :: after) = ofLines (before ++ after) := by
  have hstage : (before.foldl Draft.feed {}).stage ≠ .body := fun hbody =>
    hbefore ((Draft.stage_eq_body_iff before).1 hbody)
  rw [ofLines, List.foldl_append, List.foldl_cons, Draft.feed_comment hstage h hseparator hname,
    ← List.foldl_append, ← ofLines]

/-- What an edit does to a document, in lines.

If the lines of one body, which end with the document or before a separator, are replaced by others
that are no separators either, the case that had the old lines for its body has the new ones, and
nothing else changes: it is the case after as many others as there are separators before the body.

If a comment is put in somewhere outside of bodies, nothing changes. A comment is any line that
begins as one and is neither a separator nor the name of a case. -/
theorem ofString_edited :
    (∀ (document edited : String) (before old new rest : List (List Char)),
      Text.lines document.toList = before ++ old ++ rest →
      Text.lines edited.toList = before ++ new ++ rest →
      BeginBody before → (∀ line ∈ old ++ new, ¬ Separates line) →
      (∀ line ∈ rest.head?, Separates line) →
        ((ofString document).cases[before.countP (Separates ·)]?).map Case.body =
            some ("\n".intercalate (old.map String.ofList)) ∧
          ofString edited =
            { ofString document with
              cases := (ofString document).cases.modify (before.countP (Separates ·))
                fun c => { c with body := "\n".intercalate (new.map String.ofList) } }) ∧
    ∀ (document edited : String) (before after : List (List Char)) (comment : List Char),
      Text.lines document.toList = before ++ after →
      Text.lines edited.toList = before ++ comment :: after →
      ¬ InBody before → BeginsComment comment → ¬ Separates comment →
      (∀ name, ¬ Names name comment) →
        ofString edited = ofString document := by
  constructor
  · intro document edited before old new rest hdocument hedited hbefore hlines hrest
    rw [List.forall_mem_append] at hlines
    obtain ⟨bindings, earlier, c, later, hlength, hbody⟩ := ofLines_body hbefore hrest
    have hold := hbody old hlines.1
    have hnew := hbody new hlines.2
    rw [ofString, ofString, hdocument, hedited, hold, hnew, ← hlength]
    have hmodify : (earlier ++ c.withBody old :: later).modify earlier.length
        (fun c => { c with body := "\n".intercalate (new.map String.ofList) }) =
          earlier ++ c.withBody new :: later :=
      List.modifyTailIdx_add (i := 0) ..
    constructor
    · rw [List.getElem?_append_right (Nat.le_refl _), Nat.sub_self]
      rfl
    · rw [hmodify]
  · intro document edited before after comment hdocument hedited hbefore h hseparator hname
    rw [ofString, ofString, hdocument, hedited]
    exact ofLines_comment hbefore h hseparator hname after

/-- The lines of a case up to its body. -/
def beforeBody : String := "POST http://a\nX: 1\n \n"

/-- The lines of the next case, and the separator before it. -/
def afterBody : String := "###\nGET http://b\n"

/-- Lines that would have a meaning outside of a body. -/
def lookalikes : String := "@v = 1\n# @name = c\nGET http://c\nY: 2\n// d\n\n"

/-- Lines with a meaning have none in a body, and two slashes before an address begin a comment
between cases. -/
theorem ofString_edited_lookalikes :
    (BeginBody (Text.lines beforeBody.toList) ∧
        ¬ InBody (Text.lines (beforeBody ++ "###\n").toList)) ∧
      (ofString (beforeBody ++ lookalikes ++ afterBody)).cases.map Case.body =
        ["@v = 1\n# @name = c\nGET http://c\nY: 2\n// d\n", ""] ∧
      (ofString (beforeBody ++ lookalikes ++ afterBody)).bindings =
        (ofString (beforeBody ++ "old\n" ++ afterBody)).bindings ∧
      ofString (beforeBody ++ "###\n" ++ "//GET http://b\n") =
        ofString (beforeBody ++ "###\n") := by
  have hbefore : BeginBody (Text.lines beforeBody.toList) := by decide +kernel
  have houtside : ¬ InBody (Text.lines (beforeBody ++ "###\n").toList) := by decide +kernel
  obtain ⟨-, hbody⟩ := ofString_edited.1 (beforeBody ++ "old\n" ++ afterBody)
    (beforeBody ++ lookalikes ++ afterBody) (Text.lines beforeBody.toList) ["old".toList]
    (Text.lines lookalikes.toList) (Text.lines afterBody.toList) (by decide +kernel)
    (by decide +kernel) hbefore (by decide +kernel) (by decide +kernel)
  have hcomment := ofString_edited.2 (beforeBody ++ "###\n")
    (beforeBody ++ "###\n" ++ "//GET http://b\n") (Text.lines (beforeBody ++ "###\n").toList) []
    "//GET http://b".toList (by decide +kernel) (by decide +kernel) houtside (by decide +kernel)
    (by decide +kernel) (name?_eq_none_iff.1 (by decide +kernel))
  refine ⟨⟨hbefore, houtside⟩, ?_, ?_, hcomment⟩
  · rw [hbody]
    decide +kernel
  · rw [hbody]

end RequestFile

end Volley
