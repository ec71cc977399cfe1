import Volley.JsonPath.Written
import Volley.Proofs.Text.Cut
import Volley.Proofs.Text.Integer
import Volley.Proofs.Text.White

/-!
# Paths are read back

A path that was written down is parsed to its steps, in whatever way each of them was spelled
(`parse_of_written`). Segments have no separators, so every lemma about a reader of a segment speaks
of a text that goes on after the spelling. What goes on is another segment or nothing
(`Spelled.endsSegment`), which is where a name after a dot ends; a bracket ends at its own closing
one, whatever follows. One segment is read back by `segment_append`, and all of them in turn by
`segments_of_spelled`.

White space and braces are taken off first, and take nothing of the path with them: it begins with a
dollar sign and does not end in white space (`Written.exists_unwrap_eq`).
-/

namespace Volley.JsonPath

open Text

/-! ## Segments -/

/-- What can come after a segment: nothing, or the start of another one. -/
def EndsSegment (t : List Char) : Prop :=
  ∀ c, t.head? = some c → endsName c = true

/-- A name is split off where a segment can end. -/
theorem splitName_append {name t : List Char} (hname : ∀ c ∈ name, endsName c = false)
    (ht : EndsSegment t) : splitName (name ++ t) = (name, t) := by
  have hall : ∀ c ∈ name, (!endsName c) = true := fun c hc => by simp [hname c hc]
  have htake : t.takeWhile (!endsName ·) = [] := by
    cases t with
    | nil => rfl
    | cons c t => exact List.takeWhile_cons_of_neg (by simp [ht c rfl])
  have hdrop : t.dropWhile (!endsName ·) = t := by
    cases t with
    | nil => rfl
    | cons c t => exact List.dropWhile_cons_of_neg (by simp [ht c rfl])
  rw [splitName, List.takeWhile_append_of_pos hall, List.dropWhile_append_of_pos hall, htake, hdrop,
    List.append_nil]

/-- A text that goes on begins as it did. -/
theorem append_ne_cons {s : List Char} {c : Char} (hs : s ≠ []) (h : s.head? ≠ some c)
    (t rest : List Char) : s ++ t ≠ c :: rest := by
  obtain ⟨d, later, rfl⟩ := List.exists_cons_of_ne_nil hs
  intro heq
  exact h (congrArg some (List.cons.inj heq).1)

/-- What stands after a dot does not begin as a segment does. -/
theorem Selector.AfterDot.append_ne_cons {selector : Selector} {s : List Char}
    (h : selector.AfterDot s) {c : Char} (hc : endsName c = true) (t rest : List Char) :
    s ++ t ≠ c :: rest := by
  cases h with
  | name hname =>
    refine JsonPath.append_ne_cons hname.ne_nil (fun hhead => ?_) t rest
    exact absurd hc (by simp [hname.endsName c (List.mem_of_mem_head? hhead)])
  | wildcard =>
    refine JsonPath.append_ne_cons (List.cons_ne_nil _ _) (fun hhead => ?_) t rest
    obtain rfl : '*' = c := Option.some.inj hhead
    exact absurd hc (by decide)

/-- What stands after a dot is read back. -/
theorem dotted_append {selector : Selector} {s t : List Char} (h : selector.AfterDot s)
    (ht : EndsSegment t) : dotted (s ++ t) = .ok (selector, t) := by
  cases h with
  | wildcard => rfl
  | @name name hname =>
    -- A name with a star in front would be read as the star alone.
    have hstar (rest : List Char) : name.toList ++ t ≠ '*' :: rest :=
      append_ne_cons hname.ne_nil hname.star t rest
    rw [dotted, splitName_append hname.endsName ht]
    · cases hs : name.toList with
      | nil => exact absurd hs hname.ne_nil
      | cons c rest => simp [← hs]
    · exact hstar

/-- A name in quotes is read back. -/
theorem quotedName_append {quote : Char} {name : List Char} (h : quote ∉ name) (t : List Char) :
    quotedName quote (name ++ quote :: ']' :: t) = .ok (.name (String.ofList name), t) := by
  simp only [quotedName, cut?_append_cons h]

/-- What stands between brackets without quotes is read as a whole. -/
theorem bracket_append_of_unquoted {content : List Char} {selector : Selector}
    (hcontent : ∀ c ∈ content, c ∉ quotes ∧ c ≠ ']' ∧ isWhite c = false)
    (hselector : unquotedSelector content = .ok selector) (t : List Char) :
    bracket (content ++ ']' :: t) = .ok (selector, t) := by
  have htrim : trim content = content :=
    trim_eq_self (fun c hc => (hcontent c (List.mem_of_mem_head? hc)).2.2)
      fun c hc => (hcontent c (List.mem_of_getLast? hc)).2.2
  -- Without content, the first character is the closing bracket.
  have hquote {quote : Char} (hmem : quote ∈ quotes) (rest : List Char) :
      content ++ ']' :: t ≠ quote :: rest := by
    rw [← List.singleton_append, ← List.append_assoc]
    refine append_ne_cons (by simp) (fun hhead => ?_) t rest
    rcases List.mem_append.1 (List.mem_of_mem_head? hhead) with hin | hin
    · exact (hcontent quote hin).1 hmem
    · exact absurd (List.mem_singleton.1 hin ▸ hmem) (by decide)
  rw [bracket, cut?_append_cons fun hmem => (hcontent _ hmem).2.1 rfl]
  · simp only [htrim, hselector]
    rfl
  · exact hquote (by decide)
  · exact hquote (by decide)

/-- Neither a quote nor a bracket nor white space stands in the text of an integer. -/
theorem isUnquoted_of_mem_toString {n : Int} {c : Char} (h : c ∈ (toString n).toList) :
    c ∉ quotes ∧ c ≠ ']' ∧ isWhite c = false := by
  obtain rfl | hdigit := eq_or_isDigit_of_mem_toString h
  · decide
  · have hother {d : Char} (hd : d.isDigit = false) : c ≠ d := by
      rintro rfl
      simp [hd] at hdigit
    refine ⟨?_, hother rfl, isWhite_of_isDigit hdigit⟩
    simp [quotes, hother]

/-- What stands between brackets is read back. -/
theorem bracket_append {selector : Selector} {s : List Char} (h : selector.InBrackets s)
    (t : List Char) : bracket (s ++ ']' :: t) = .ok (selector, t) := by
  cases h with
  | @name name quote hquote hname =>
    have hread : quotedName quote (name.toList ++ quote :: ']' :: t) = .ok (.name name, t) := by
      rw [quotedName_append hname, String.ofList_toList]
    rw [List.cons_append, List.append_assoc, List.singleton_append, ← hread]
    obtain rfl | rfl : quote = '\'' ∨ quote = '\"' := by simpa [quotes] using hquote
    · rfl
    · rfl
  | @index position hrange =>
    have hstar : (toString position).toList ≠ ['*'] := by
      intro heq
      have hmem : '*' ∈ (toString position).toList := heq ▸ List.mem_cons_self
      exact absurd (eq_or_isDigit_of_mem_toString hmem) (by decide)
    refine bracket_append_of_unquoted (fun c => isUnquoted_of_mem_toString) ?_ t
    rw [unquotedSelector, if_neg hstar, int64?_toString hrange]
  | wildcard =>
    exact bracket_append_of_unquoted (List.forall_mem_singleton.2 (by decide)) rfl t

/-- The spelling of a step is read back. -/
theorem segment_append {step : Step} {s t : List Char} (h : step.Spelled s) (ht : EndsSegment t) :
    segment (s ++ t) = .ok (step, t) := by
  cases h with
  | childDot hs =>
    -- One dot is told from two, and two from two with a bracket, by what stands after them.
    rw [List.cons_append, segment, dotted_append hs ht]
    · rfl
    · exact fun rest => hs.append_ne_cons rfl _ _
    · exact fun rest => hs.append_ne_cons rfl _ _
  | childBrackets hs =>
    rw [List.cons_append, List.append_assoc, List.singleton_append, segment, bracket_append hs]
    rfl
  | descendantDots hs =>
    rw [List.cons_append, List.cons_append, segment, dotted_append hs ht]
    · rfl
    · exact fun rest => hs.append_ne_cons rfl _ _
  | descendantBrackets hs =>
    rw [List.cons_append, List.cons_append, List.cons_append, List.append_assoc,
      List.singleton_append, segment, bracket_append hs]
    rfl

/-- The spelling of a step begins as a segment does. -/
theorem Step.Spelled.exists_cons {step : Step} {s : List Char} (h : step.Spelled s) :
    ∃ c rest, s = c :: rest ∧ endsName c = true := by
  cases h with
  | childDot | childBrackets | descendantDots | descendantBrackets => exact ⟨_, _, rfl, rfl⟩

/-- The spelling of steps can follow a segment. -/
theorem Spelled.endsSegment {steps : List Step} {text : List Char} (h : Spelled steps text) :
    EndsSegment text := by
  cases h with
  | nil => exact fun c hc => absurd hc (by simp)
  | cons hs ht =>
    obtain ⟨c, rest, rfl, hc⟩ := hs.exists_cons
    rintro d hd
    obtain rfl : c = d := Option.some.inj hd
    exact hc

/-- A computation that only goes on with its result. -/
theorem bind_ok_eq_map {α β : Type} (x : Except PathError α) (f : α → β) :
    (x.bind fun a => .ok (f a)) = x.map f := by
  cases x <;> rfl

/-- The first segment is read, and then the rest. -/
theorem segments_cons (fuel : Nat) (c : Char) (rest : List Char) :
    segments (fuel + 1) (c :: rest) =
      (segment (c :: rest)).bind fun read => (segments fuel read.2).map (read.1 :: ·) := by
  rw [segments]
  · cases segment (c :: rest) with
    | error e => rfl
    | ok read => exact bind_ok_eq_map _ _
  · exact List.cons_ne_nil c rest

/-- The spelling of steps is read back. -/
theorem segments_of_spelled {steps : List Step} {text : List Char} (h : Spelled steps text)
    {fuel : Nat} (hfuel : text.length ≤ fuel) : segments fuel text = .ok steps := by
  induction h generalizing fuel with
  | nil => rw [segments]
  | @cons step steps s t hs ht ih =>
    -- Every segment takes a character from the text and one unit of fuel.
    obtain ⟨c, rest, rfl, -⟩ := hs.exists_cons
    rw [List.length_append, List.length_cons] at hfuel
    obtain ⟨fuel, rfl⟩ : ∃ n, fuel = n + 1 := ⟨fuel - 1, by omega⟩
    have hlater : segments fuel t = .ok steps := ih (by omega)
    rw [List.cons_append, segments_cons, ← List.cons_append, segment_append hs ht.endsSegment]
    simp only [Except.bind, hlater]
    rfl

/-! ## What is around a path -/

/-- A text that does not end in white space. -/
def IsTrimmedEnd (s : List Char) : Prop :=
  ∀ c, s.getLast? = some c → isWhite c = false

/-- A text ends as its last part does. -/
theorem IsTrimmedEnd.append {s t : List Char} (hs : IsTrimmedEnd s) (ht : IsTrimmedEnd t) :
    IsTrimmedEnd (s ++ t) := by
  intro c hc
  rw [List.getLast?_append, Option.or_eq_some_iff] at hc
  exact hc.elim (ht c) fun h => hs c h.2

/-- A text ends in its last character. -/
theorem isTrimmedEnd_concat {c : Char} (h : isWhite c = false) (s : List Char) :
    IsTrimmedEnd (s ++ [c]) := by
  intro d hd
  rw [List.getLast?_concat] at hd
  exact Option.some.inj hd ▸ h

/-- The spelling of a step does not end in white space. -/
theorem Step.Spelled.isTrimmedEnd {step : Step} {s : List Char} (h : step.Spelled s) :
    IsTrimmedEnd s := by
  have hdot {selector : Selector} {s : List Char} (hs : selector.AfterDot s) : IsTrimmedEnd s := by
    cases hs with
    | name hname => exact hname.last
    | wildcard => exact isTrimmedEnd_concat rfl []
  cases h with
  | childDot hs => exact (isTrimmedEnd_concat rfl []).append (hdot hs)
  | descendantDots hs => exact (isTrimmedEnd_concat rfl ['.']).append (hdot hs)
  | @childBrackets _ s => exact isTrimmedEnd_concat rfl ('[' :: s)
  | @descendantBrackets _ s => exact isTrimmedEnd_concat rfl ('.' :: '.' :: '[' :: s)

/-- The spelling of steps does not end in white space. -/
theorem Spelled.isTrimmedEnd {steps : List Step} {text : List Char} (h : Spelled steps text) :
    IsTrimmedEnd text := by
  induction h with
  | nil => exact fun c hc => absurd hc (by simp)
  | cons hs _ ih => exact hs.isTrimmedEnd.append ih

/-- White space around a text that has none at its ends is trimmed. -/
theorem trim_eq_of_padded {c : Char} {s text : List Char} (h : Padded (c :: s) text)
    (hc : isWhite c = false) (hs : IsTrimmedEnd (c :: s)) : trim text = c :: s := by
  rw [h.trim_eq]
  exact trim_eq_self (fun d hd => Option.some.inj hd ▸ hc) hs

/-- What is around the spelling of steps is taken off. -/
theorem Written.exists_unwrap_eq {steps : List Step} {text : List Char} (h : Written steps text) :
    ∃ s, Spelled steps s ∧ unwrap text = '$' :: s := by
  have hdollar {s : List Char} (hs : Spelled steps s) : IsTrimmedEnd ('$' :: s) :=
    (isTrimmedEnd_concat rfl []).append hs.isTrimmedEnd
  cases h with
  | @bare s _ hs htext =>
    have htrim := trim_eq_of_padded htext rfl (hdollar hs)
    exact ⟨s, hs, by simp [unwrap, htrim, dropStart?]⟩
  | @wrapped s inner _ hs hinner htext =>
    have hinner := trim_eq_of_padded hinner rfl (hdollar hs)
    have htrim := trim_eq_of_padded htext rfl (isTrimmedEnd_concat rfl ('\x7b' :: inner))
    exact ⟨s, hs, by simp [unwrap, htrim, hinner, dropStart?, dropStop?]⟩

/-- Steps that can be spelled have a spelling. -/
theorem exists_spelled {steps : List Step} (h : ∀ step ∈ steps, step.IsWritable) :
    ∃ text, Spelled steps text := by
  have hselector {selector : Selector} (h : selector.IsWritable) : ∃ s, selector.InBrackets s := by
    cases selector with
    | name name =>
      obtain ⟨quote, hquote, hname⟩ := h
      exact ⟨_, .name hquote hname⟩
    | index position => exact ⟨_, .index h⟩
    | wildcard => exact ⟨_, .wildcard⟩
  -- Between brackets every selector has a spelling.
  induction steps with
  | nil => exact ⟨[], .nil⟩
  | cons step steps ih =>
    obtain ⟨hstep, hsteps⟩ := List.forall_mem_cons.1 h
    obtain ⟨t, ht⟩ := ih hsteps
    cases step with
    | child selector =>
      obtain ⟨s, hs⟩ := hselector hstep
      exact ⟨_, .cons (.childBrackets hs) ht⟩
    | descendant selector =>
      obtain ⟨s, hs⟩ := hselector hstep
      exact ⟨_, .cons (.descendantBrackets hs) ht⟩

/-- Steps whose names do not contain both quotes can be written as a path, and however they are
written, with white space and braces around them or without, they are read back. -/
theorem parse_of_written (steps : List Step) :
    ((∀ step ∈ steps, step.IsWritable) → ∃ text : String, Written steps text.toList) ∧
      ∀ text : String, Written steps text.toList → parse text = .ok steps := by
  refine ⟨fun h => ?_, fun text htext => ?_⟩
  · obtain ⟨s, hs⟩ := exists_spelled h
    refine ⟨String.ofList ('$' :: s), .bare hs ⟨[], [], rfl, rfl, ?_⟩⟩
    rw [String.toList_ofList, List.nil_append, List.append_nil]
  · obtain ⟨s, hs, hunwrap⟩ := htext.exists_unwrap_eq
    rw [parse, hunwrap]
    exact segments_of_spelled hs (Nat.le_refl _)

/-- Steps of every kind. -/
def mixedSteps : List Step :=
  [.child (.name "a]b"), .child (.name "$x y"), .child (.index (-2)), .child .wildcard,
    .descendant .wildcard, .descendant (.name "it's"), .descendant (.name "z")]

/-- They are read back from a text that spells them in every way, in braces and white space. -/
theorem parse_of_written_mixedSteps :
    (∃ text : String, Written mixedSteps text.toList) ∧
      parse "\t\x7b $['a]b'].$x y[-2].*..[*]..[\"it's\"]..z\x7d" = .ok mixedSteps := by
  have hsingle : Selector.InBrackets (.name "a]b") "'a]b'".toList :=
    .name (by decide : '\'' ∈ quotes) (by decide)
  have hdouble : Selector.InBrackets (.name "it's") "\"it's\"".toList :=
    .name (by decide : '\"' ∈ quotes) (by decide)
  have hplain : IsPlainName "$x y".toList ∧ IsPlainName "z".toList := by decide
  have hspelled : Spelled mixedSteps _ :=
    .cons (.childBrackets hsingle) <| .cons (.childDot (.name hplain.1)) <|
      .cons (.childBrackets (.index rfl)) <| .cons (.childDot .wildcard) <|
      .cons (.descendantBrackets .wildcard) <| .cons (.descendantBrackets hdouble) <|
      .cons (.descendantDots (.name hplain.2)) .nil
  refine ⟨(parse_of_written mixedSteps).1 (by decide), (parse_of_written mixedSteps).2 _ ?_⟩
  exact .wrapped hspelled ⟨[' '], [], rfl, rfl, rfl⟩ ⟨['\t'], [], by decide, rfl, rfl⟩

end Volley.JsonPath
