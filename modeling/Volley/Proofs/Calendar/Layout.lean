import Mathlib.Data.List.Chain
import Volley.Calendar.Layout

/-!
# Layouts are written piece by piece

A layout is cut into maximal runs of token letters and single other characters, and there is only one
such cut (`IsCut.eq`). The two steps that make a pattern of a layout do not get in each other's way:
doubled percent signs are no part of a run (`layoutPieces_doublePercents`), and a directive is read as
its field whatever follows it (`renders_directive`). So the pattern of a layout is read back piece by
piece (`renders_pieces`), a token as its field and everything else as itself. No pattern is malformed,
and nothing is taken for a directive that is not a token of the layout.
-/

namespace Volley.Calendar

/-! ## Reading a pattern -/

/-- The pattern is read as this text, in as many steps as it has characters or more. -/
def Renders (z : Zone) (t : Instant) (pattern text : List Char) : Prop :=
  ∀ fuel, pattern.length ≤ fuel → renderPattern z t fuel pattern = some text

section Pattern
variable {z : Zone} {t : Instant} {rest text : List Char}

/-- Nothing is left to read at the end. -/
theorem renders_nil : Renders z t [] [] := by
  intro fuel _
  cases fuel <;> rfl

/-- Two percent signs are read as one. -/
theorem renders_percent (h : Renders z t rest text) :
    Renders z t ('%' :: '%' :: rest) ('%' :: text) := by
  intro fuel hfuel
  obtain ⟨fuel, rfl⟩ := Nat.exists_eq_add_of_lt (Nat.lt_of_lt_of_le (Nat.succ_pos _) hfuel)
  simp only [List.length_cons] at hfuel
  rw [Nat.zero_add, renderPattern, h fuel (by omega), Option.map_some]

/-- Any other character is read as itself. -/
theorem renders_char {c : Char} (hc : c ≠ '%') (h : Renders z t rest text) :
    Renders z t (c :: rest) (c :: text) := by
  intro fuel hfuel
  obtain ⟨fuel, rfl⟩ := Nat.exists_eq_add_of_lt (Nat.lt_of_lt_of_le (Nat.succ_pos _) hfuel)
  simp only [List.length_cons] at hfuel
  rw [Nat.zero_add, renderPattern, h fuel (by omega), Option.map_some]
  all_goals simp_all

/-- No directive begins another one, so a directive is read as its field whatever follows it. -/
theorem ofDirective?_append (field : Field) (rest : List Char) :
    Field.ofDirective? (field.directive ++ rest) = some field := by
  cases field <;> rfl

/-- No directive begins with a percent sign, which would be the second one of two. -/
theorem directive_append_ne (field : Field) (rest s : List Char) :
    field.directive ++ rest ≠ '%' :: s := by
  cases field <;> simp [Field.directive]

/-- A directive is read as the text of its field. -/
theorem renders_directive (field : Field) (h : Renders z t rest text) :
    Renders z t ('%' :: (field.directive ++ rest)) (field.text z t ++ text) := by
  intro fuel hfuel
  obtain ⟨fuel, rfl⟩ := Nat.exists_eq_add_of_lt (Nat.lt_of_lt_of_le (Nat.succ_pos _) hfuel)
  simp only [List.length_cons, List.length_append] at hfuel
  rw [Nat.zero_add, renderPattern, ofDirective?_append]
  · have hlater := h fuel (by omega)
    simp [hlater]
  · exact directive_append_ne field rest

/-- A text without percent signs is read as itself. -/
theorem renders_append {s : List Char} (hs : '%' ∉ s) (h : Renders z t rest text) :
    Renders z t (s ++ rest) (s ++ text) := by
  induction s with
  | nil => exact h
  | cons c s ih =>
    obtain ⟨hc, hs⟩ := List.ne_and_not_mem_of_not_mem_cons hs
    exact renders_char hc.symm (ih hs)

end Pattern

/-! ## The cut of a layout -/

namespace LayoutPiece

/-- The part of a layout that is a piece. -/
def source : LayoutPiece → List Char
  | .run letters => letters
  | .char c => [c]

/-- A run has one token letter at least, and nothing else. Any other character is no token letter. -/
def IsProper : LayoutPiece → Prop
  | .run letters => letters ≠ [] ∧ ∀ c ∈ letters, isTokenLetter c = true
  | .char c => isTokenLetter c = false

/-- Whether a piece is a run. -/
def isRun : LayoutPiece → Bool
  | .run _ => true
  | .char _ => false

/-- How a piece is written: a token as its field, and anything else as it is. -/
def text (z : Zone) (t : Instant) : LayoutPiece → List Char
  | .run letters =>
    match token? letters with
    | some field => field.text z t
    | none => letters
  | .char c => [c]

end LayoutPiece

/-- The pieces are the layout, cut into maximal runs of token letters and single other characters. -/
structure IsCut (layout : List Char) (pieces : List LayoutPiece) : Prop where
  /-- Put together the pieces are the layout. -/
  join : pieces.flatMap LayoutPiece.source = layout
  /-- Each piece is a run of token letters, or a single other character. -/
  proper : ∀ p ∈ pieces, p.IsProper
  /-- Runs are maximal: no run follows another one. -/
  maximal : pieces.IsChain fun p q => ¬ (p.isRun = true ∧ q.isRun = true)

section Cut
variable {layout letters : List Char} {p : LayoutPiece} {pieces : List LayoutPiece} {c : Char}

/-- Pieces without the first one are a cut of what is left. -/
theorem IsCut.tail (h : IsCut layout (p :: pieces)) :
    IsCut (pieces.flatMap LayoutPiece.source) pieces where
  join := rfl
  proper q hq := h.proper q (List.mem_cons_of_mem _ hq)
  maximal := h.maximal.tail

/-- What follows a run does not begin with a run. -/
theorem IsCut.isRun_of_run (h : IsCut layout (.run letters :: pieces)) :
    ∀ q ∈ pieces.head?, q.isRun = false := by
  intro q hq
  have hapart := h.maximal.rel_head? hq
  exact Bool.eq_false_iff.2 fun hrun => hapart ⟨rfl, hrun⟩

/-- A piece can be put in front of others, but no run in front of a run. -/
theorem IsCut.cons (h : IsCut layout pieces) (hproper : p.IsProper)
    (hapart : p.isRun = true → ∀ q ∈ pieces.head?, q.isRun = false) :
    IsCut (p.source ++ layout) (p :: pieces) where
  join := by rw [List.flatMap_cons, h.join]
  proper := List.forall_mem_cons.2 ⟨hproper, h.proper⟩
  maximal := by
    refine List.isChain_cons.2 ⟨fun q hq hruns => ?_, h.maximal⟩
    have hnone := hapart hruns.1 q hq
    exact Bool.false_ne_true (hnone.symm.trans hruns.2)

/-- Token letters in front of pieces that do not begin with a run are a run of their own. -/
theorem layoutPieces_letters_append {letters rest : List Char} (hne : letters ≠ [])
    (hletters : ∀ c ∈ letters, isTokenLetter c = true)
    (hrest : ∀ p ∈ (layoutPieces rest).head?, p.isRun = false) :
    layoutPieces (letters ++ rest) = .run letters :: layoutPieces rest := by
  induction letters with
  | nil => exact absurd rfl hne
  | cons c letters ih =>
    have hc := hletters c List.mem_cons_self
    rw [List.cons_append, layoutPieces, if_pos hc]
    -- The last letter meets what follows the run, and any letter before it the run itself.
    cases letters with
    | nil =>
      rw [List.nil_append]
      cases hpieces : layoutPieces rest with
      | nil => rfl
      | cons p pieces =>
        rw [hpieces] at hrest
        have hp : p.isRun = false := hrest p rfl
        cases p with
        | run letters => cases hp
        | char c' => rfl
    | cons c' letters =>
      have hrun := ih (List.cons_ne_nil _ _) fun c hc => hletters c (List.mem_cons_of_mem _ hc)
      rw [hrun]
      rfl

/-- There is one cut only. -/
theorem IsCut.eq (h : IsCut layout pieces) : pieces = layoutPieces layout := by
  rw [← h.join]
  induction pieces generalizing layout with
  | nil => rfl
  | cons p pieces ih =>
    have htail := ih h.tail
    have hproper := h.proper p List.mem_cons_self
    rw [List.flatMap_cons]
    cases p with
    | char c =>
      have hc : ¬isTokenLetter c = true := Bool.eq_false_iff.1 hproper
      rw [LayoutPiece.source, List.singleton_append, layoutPieces, if_neg hc, ← htail]
    | run letters =>
      obtain ⟨hne, hletters⟩ := hproper
      have hapart := h.isRun_of_run
      rw [htail] at hapart
      rw [LayoutPiece.source, layoutPieces_letters_append hne hletters hapart, ← htail]

/-- A token letter in front of a layout belongs to the first run, or is a run. -/
theorem IsCut.consLetter (h : IsCut layout pieces) (hc : isTokenLetter c = true) :
    IsCut (c :: layout) (LayoutPiece.consLetter c pieces) := by
  have hletter : LayoutPiece.IsProper (.run [c]) :=
    ⟨List.cons_ne_nil _ _, List.forall_mem_singleton.2 hc⟩
  cases pieces with
  | nil => exact h.cons hletter fun _ _ hq => absurd hq (Option.not_mem_none _)
  | cons p pieces =>
    cases p with
    | char c' =>
      refine h.cons hletter fun _ q hq => ?_
      obtain rfl := Option.some_inj.1 hq
      rfl
    | run letters =>
      obtain ⟨-, hletters⟩ := h.proper _ List.mem_cons_self
      have hlonger : LayoutPiece.IsProper (.run (c :: letters)) :=
        ⟨List.cons_ne_nil _ _, List.forall_mem_cons.2 ⟨hc, hletters⟩⟩
      rw [← h.join]
      exact h.tail.cons hlonger fun _ => h.isRun_of_run

/-- The pieces of a layout are its cut. -/
theorem isCut_layoutPieces (layout : List Char) : IsCut layout (layoutPieces layout) := by
  induction layout with
  | nil => exact ⟨rfl, fun _ hp => absurd hp List.not_mem_nil, .nil⟩
  | cons c rest ih =>
    unfold layoutPieces
    split
    next hc => exact ih.consLetter hc
    next hc =>
      have hother : LayoutPiece.IsProper (.char c) := Bool.eq_false_iff.2 hc
      exact ih.cons hother fun hrun => absurd hrun Bool.false_ne_true

end Cut

/-! ## The pattern of a layout -/

/-- A piece with its percent sign doubled. -/
def LayoutPiece.doubled : LayoutPiece → List LayoutPiece
  | .run letters => [.run letters]
  | .char c => if c = '%' then [.char '%', .char '%'] else [.char c]

/-- A token letter comes to stand in front of the same run as before. -/
theorem consLetter_flatMap_doubled (c : Char) (pieces : List LayoutPiece) :
    LayoutPiece.consLetter c (pieces.flatMap LayoutPiece.doubled) =
      (LayoutPiece.consLetter c pieces).flatMap LayoutPiece.doubled := by
  cases pieces with
  | nil => rfl
  | cons p pieces =>
    cases p with
    | run letters => rfl
    | char c' =>
      rw [List.flatMap_cons, LayoutPiece.doubled]
      split
      next hc =>
        obtain rfl := hc
        rfl
      next hc => simp [LayoutPiece.consLetter, LayoutPiece.doubled, hc]

/-- Doubled percent signs leave the runs as they are. -/
theorem layoutPieces_doublePercents (layout : List Char) :
    layoutPieces (doublePercents layout) = (layoutPieces layout).flatMap LayoutPiece.doubled := by
  induction layout with
  | nil => rfl
  | cons c rest ih =>
    have hcons : doublePercents (c :: rest) =
        (if c = '%' then ['%', '%'] else [c]) ++ doublePercents rest := rfl
    have hpercent : isTokenLetter '%' = false := by decide
    rw [hcons]
    by_cases hc : isTokenLetter c = true
    · have hne : c ≠ '%' := by
        rintro rfl
        exact Bool.false_ne_true (hpercent.symm.trans hc)
      rw [if_neg hne, List.singleton_append, layoutPieces, layoutPieces, if_pos hc, if_pos hc, ih]
      exact consLetter_flatMap_doubled c _
    · rw [layoutPieces, if_neg hc, List.flatMap_cons, LayoutPiece.doubled, ← ih]
      split
      next hsign => simp [layoutPieces, hpercent]
      next hsign => simp [layoutPieces, hc]

/-- The pieces of a layout, put together as a pattern, are read back one by one. -/
theorem renders_pieces {z : Zone} {t : Instant} {pieces : List LayoutPiece}
    (h : ∀ letters, .run letters ∈ pieces → '%' ∉ letters) :
    Renders z t ((pieces.flatMap LayoutPiece.doubled).flatMap LayoutPiece.pattern)
      (pieces.flatMap (LayoutPiece.text z t)) := by
  induction pieces with
  | nil => exact renders_nil
  | cons p pieces ih =>
    have hrest := ih fun letters hmem => h letters (List.mem_cons_of_mem _ hmem)
    rw [List.flatMap_cons, List.flatMap_append, List.flatMap_cons]
    cases p with
    | char c =>
      by_cases hc : c = '%'
      · obtain rfl := hc
        exact renders_percent hrest
      · have hsame : LayoutPiece.doubled (.char c) = [.char c] := if_neg hc
        rw [hsame]
        exact renders_char hc hrest
    | run letters =>
      have hsign := h letters List.mem_cons_self
      rw [LayoutPiece.doubled, List.flatMap_singleton, LayoutPiece.pattern, LayoutPiece.text]
      cases token? letters with
      | some field => exact renders_directive field hrest
      | none => exact renders_append hsign hrest

/-! ## Layouts -/

/-- The layouts that have names. -/
def namedLayouts : List String :=
  ["rfc3339", "rfc1123", "iso8601"]

/-- A layout without a name is written by its pattern. -/
theorem formatTime_eq (z : Zone) (t : Instant) {layout : String} (h : layout ∉ namedLayouts) :
    formatTime z t layout =
      String.ofList ((pattern? z t (layoutPattern layout.toList)).getD []) := by
  simp only [namedLayouts, List.mem_cons, List.not_mem_nil, or_false, not_or] at h
  obtain ⟨h3339, h1123, h8601⟩ := h
  unfold formatTime
  split
  case h_1 => exact absurd rfl h3339
  case h_2 => exact absurd rfl h1123
  case h_3 => exact absurd rfl h8601
  case h_4 => rfl

/-- How an instant is written by a layout without a name. -/
structure IsWritten (z : Zone) (t : Instant) (layout : String) (pieces : List LayoutPiece) :
    Prop where
  /-- The pieces are a cut of the layout. -/
  cut : IsCut layout.toList pieces
  /-- There is no other one. -/
  unique : ∀ pieces', IsCut layout.toList pieces' → pieces' = pieces
  /-- The pattern of the layout is well formed, and gives the text of every piece in turn. -/
  pattern : pattern? z t (layoutPattern layout.toList) =
    some (pieces.flatMap (LayoutPiece.text z t))
  /-- This is how the instant is written. -/
  text : formatTime z t layout = String.ofList (pieces.flatMap (LayoutPiece.text z t))

/-- The pattern of a layout gives the text of every piece in turn. -/
theorem pattern?_layoutPattern (z : Zone) (t : Instant) (layout : List Char) :
    pattern? z t (layoutPattern layout) =
      some ((layoutPieces layout).flatMap (LayoutPiece.text z t)) := by
  have hsign : ∀ letters, .run letters ∈ layoutPieces layout → '%' ∉ letters := by
    intro letters hmem hpercent
    have hletter := ((isCut_layoutPieces layout).proper _ hmem).2 '%' hpercent
    exact absurd hletter (by decide)
  unfold layoutPattern
  rw [layoutPieces_doublePercents]
  exact renders_pieces hsign _ (Nat.le_refl _)

/-- A layout without a name is written piece by piece. -/
theorem isWritten_layoutPieces (z : Zone) (t : Instant) {layout : String}
    (h : layout ∉ namedLayouts) : IsWritten z t layout (layoutPieces layout.toList) := by
  have hpattern := pattern?_layoutPattern z t layout.toList
  refine ⟨isCut_layoutPieces layout.toList, fun _ hother => hother.eq, hpattern, ?_⟩
  rw [formatTime_eq z t h, hpattern, Option.getD_some]

/-- A percent sign in front of a token stands for itself, and so does one in front of what would be a
directive. -/
theorem isWritten_layoutPieces_percents :
    "%YYYY %-d%j%" ∉ namedLayouts ∧
      IsWritten 0 ⟨0, 0⟩ "%YYYY %-d%j%" (layoutPieces "%YYYY %-d%j%".toList) ∧
      formatTime 0 ⟨0, 0⟩ "%YYYY %-d%j%" = "%1970 %-d%j%" := by
  have hname : "%YYYY %-d%j%" ∉ namedLayouts := by decide
  have hwritten := isWritten_layoutPieces 0 ⟨0, 0⟩ hname
  exact ⟨hname, hwritten, by decide⟩

end Volley.Calendar
