import Volley.JsonPath.Select
import Volley.Proofs.JsonPath.RoundTrip

/-!
# Paths without a dollar sign

A path needs no dollar sign. One that begins as a segment does goes on as if a dollar sign stood
before it, and one that begins with a name as if a dollar sign and a dot did (`parse_bare`). The
first name of such a path is read by the rule for names alone, not by the one for what follows a
dot, and the two differ on a star: a bare path that begins with a star begins with a name.

The bound on the number of segments is no part of what is read (`segments_eq_of_le`), since every
reader of a segment leaves a shorter text.
-/

namespace Volley.JsonPath

open Text

/-! ## What is left after a segment -/

/-- What comes after a cut is shorter than the text, if the mark is not empty. -/
theorem length_lt_of_cut? {x : Char} {s before after : List Char}
    (h : cut? [x] s = some (before, after)) : after.length < s.length := by
  rw [eq_of_cut? h, List.length_append, List.length_append, List.length_singleton]
  omega

/-- A computation that goes on has not failed so far. -/
theorem exists_of_bind_eq_ok {α β : Type} {x : Except PathError α} {f : α → Except PathError β}
    {b : β} (h : x.bind f = .ok b) : ∃ a, x = .ok a ∧ f a = .ok b := by
  cases x with
  | error e => nomatch h
  | ok a => exact ⟨a, rfl, h⟩

/-- A computation whose result is changed has not failed. -/
theorem exists_of_map_eq_ok {α β : Type} {x : Except PathError α} {f : α → β} {b : β}
    (h : x.map f = .ok b) : ∃ a, x = .ok a ∧ f a = b := by
  cases x with
  | error e => nomatch h
  | ok a => exact ⟨a, rfl, Except.ok.inj h⟩

/-- What follows a dot takes at least one character. -/
theorem length_lt_of_dotted {s rest : List Char} {selector : Selector}
    (h : dotted s = .ok (selector, rest)) : rest.length < s.length := by
  unfold dotted at h
  split at h
  · obtain ⟨-, rfl⟩ := Prod.mk.inj (Except.ok.inj h)
    exact Nat.lt_succ_self _
  · split at h
    · nomatch h
    · rename_i name later hne hsplit
      obtain ⟨-, rfl⟩ := Prod.mk.inj (Except.ok.inj h)
      obtain ⟨hname, hlater⟩ := Prod.mk.inj hsplit
      rw [← List.takeWhile_append_dropWhile (p := (!endsName ·)) (l := s), List.length_append,
        hname, hlater]
      exact Nat.lt_add_of_pos_left (List.length_pos_iff.2 fun hnil => hne (by rw [hnil]))

/-- A selector in brackets takes at least one character. -/
theorem length_lt_of_bracket {s rest : List Char} {selector : Selector}
    (h : bracket s = .ok (selector, rest)) : rest.length < s.length := by
  have hquoted {quote : Char} {s : List Char} (h : quotedName quote s = .ok (selector, rest)) :
      rest.length < s.length := by
    unfold quotedName at h
    split at h
    · nomatch h
    · rename_i name later hcut
      obtain ⟨-, rfl⟩ := Prod.mk.inj (Except.ok.inj h)
      exact Nat.lt_trans (Nat.lt_succ_self _) (length_lt_of_cut? hcut)
    · nomatch h
  unfold bracket at h
  split at h
  · exact Nat.lt_succ_of_lt (hquoted h)
  · exact Nat.lt_succ_of_lt (hquoted h)
  · split at h
    · nomatch h
    · rename_i content later hcut
      obtain ⟨selector', -, hpair⟩ := exists_of_bind_eq_ok h
      obtain ⟨-, rfl⟩ := Prod.mk.inj (Except.ok.inj hpair)
      exact length_lt_of_cut? hcut

/-- A segment takes at least one character. -/
theorem length_lt_of_segment {s rest : List Char} {step : Step}
    (h : segment s = .ok (step, rest)) : rest.length < s.length := by
  unfold segment at h
  split at h
  case h_5 => nomatch h
  case h_6 => nomatch h
  all_goals
    obtain ⟨⟨selector, later⟩, hread, hpair⟩ := exists_of_bind_eq_ok h
    obtain ⟨-, rfl⟩ := Prod.mk.inj (Except.ok.inj hpair)
    simp only [List.length_cons]
  case h_1 => have hlt := length_lt_of_bracket hread; omega
  case h_2 => have hlt := length_lt_of_dotted hread; omega
  case h_3 => have hlt := length_lt_of_dotted hread; omega
  case h_4 => have hlt := length_lt_of_bracket hread; omega

/-- How many segments are allowed does not matter, if there are as many as the text has characters.
-/
theorem segments_eq_of_le {fuel fuel' : Nat} {s : List Char} (h : s.length ≤ fuel)
    (h' : s.length ≤ fuel') : segments fuel s = segments fuel' s := by
  induction fuel generalizing fuel' s with
  | zero =>
    obtain rfl : s = [] := List.eq_nil_of_length_eq_zero (Nat.le_zero.1 h)
    rw [segments, segments]
  | succ fuel ih =>
    cases s with
    | nil => rw [segments, segments]
    | cons c rest =>
      obtain ⟨fuel', rfl⟩ : ∃ n, fuel' = n + 1 := Nat.exists_eq_add_one_of_ne_zero (by
        rintro rfl
        exact Nat.not_succ_le_zero _ h')
      rw [segments_cons, segments_cons]
      cases hsegment : segment (c :: rest) with
      | error e => rfl
      | ok read =>
        have hlt : read.2.length < (c :: rest).length := length_lt_of_segment hsegment
        have hsame : segments fuel read.2 = segments fuel' read.2 := ih (by omega) (by omega)
        simp only [Except.bind, hsame]

/-! ## What is around a path -/

/-- A text that begins with a dollar sign and does not end in white space has nothing around it. -/
theorem unwrap_dollar {s : List Char} (h : IsTrimmedEnd s) : unwrap ('$' :: s) = '$' :: s := by
  have htrim : trim ('$' :: s) = '$' :: s :=
    trim_eq_self (fun c hc => Option.some.inj hc ▸ rfl) ((isTrimmedEnd_concat rfl []).append h)
  simp [unwrap, htrim, dropStart?]

/-- A text without white space and braces around it has nothing around it. -/
theorem unwrap_eq_self {s : List Char} (htrim : trim s = s)
    (hbraces : ∀ inner, s ≠ '\x7b' :: (inner ++ ['\x7d'])) : unwrap s = s := by
  have hnone : (dropStart? ['\x7b'] s).bind (dropStop? ['\x7d']) = none := by
    refine Option.eq_none_iff_forall_ne_some.2 fun inner hinner => hbraces inner ?_
    obtain ⟨rest, hrest, hinner⟩ := Option.bind_eq_some_iff.1 hinner
    rw [eq_append_of_dropStart? hrest, eq_append_of_dropStop? hinner]
    rfl
  rw [unwrap, htrim, hnone]

/-! ## The first segment -/

/-- A path that is empty or begins as a segment does is read as its segments. -/
theorem unwrapped_of_endsSegment {s : List Char} (h : EndsSegment s) :
    unwrapped s = segments s.length s := by
  cases s with
  | nil => rfl
  | cons c rest =>
    have hc := h c rfl
    rw [unwrapped, if_pos hc]
    · rfl
    · rintro rfl
      exact absurd hc (by decide)

/-- A path that begins with a name is read as a step to it and then as its segments. -/
theorem unwrapped_cons {c : Char} (hdollar : c ≠ '$') (hends : endsName c = false)
    (rest : List Char) :
    unwrapped (c :: rest) =
      (segments (splitName (c :: rest)).2.length (splitName (c :: rest)).2).map
        (.child (.name (String.ofList (splitName (c :: rest)).1)) :: ·) := by
  rw [unwrapped, if_neg (by simp [hends])]
  · exact bind_ok_eq_map _ _
  · exact hdollar

/-- A dot and what follows it are the first segment, unless another dot follows. -/
theorem segment_dot {c : Char} (hc : c ≠ '.') (rest : List Char) :
    segment ('.' :: c :: rest) =
      (dotted (c :: rest)).map fun read => (.child read.1, read.2) := by
  rw [segment]
  · exact bind_ok_eq_map _ _
  · exact fun _ h => hc (List.cons.inj h).1
  · exact fun _ h => hc (List.cons.inj h).1

/-- What follows a dot is a name, unless it begins with a star. -/
theorem dotted_cons {c : Char} (hstar : c ≠ '*') (hends : endsName c = false) (rest : List Char) :
    dotted (c :: rest) =
      .ok (.name (String.ofList (splitName (c :: rest)).1), (splitName (c :: rest)).2) := by
  have hname : (splitName (c :: rest)).1 ≠ [] := by
    rw [splitName, List.takeWhile_cons_of_pos (by simp [hends])]
    exact List.cons_ne_nil _ _
  rw [dotted]
  · split
    · rename_i hnil
      exact absurd (congrArg Prod.fst hnil) hname
    · rename_i heq
      rw [heq]
  · exact fun _ h => hstar (List.cons.inj h).1

/-- A path that begins with a name other than a star is read as what follows a dot. -/
theorem segments_dot_eq_unwrapped {c : Char} (hdollar : c ≠ '$') (hstar : c ≠ '*')
    (hends : endsName c = false) (rest : List Char) :
    segments (rest.length + 2) ('.' :: c :: rest) = unwrapped (c :: rest) := by
  have hdot : c ≠ '.' := by
    rintro rfl
    exact absurd hends (by decide)
  have hdotted := dotted_cons hstar hends rest
  have hlt := length_lt_of_dotted hdotted
  rw [List.length_cons] at hlt
  -- Both read the same name, and differ only in the fuel for what comes after it.
  have hlater : segments (rest.length + 1) (splitName (c :: rest)).2 =
      segments (splitName (c :: rest)).2.length (splitName (c :: rest)).2 :=
    segments_eq_of_le (by omega) (Nat.le_refl _)
  rw [unwrapped_cons hdollar hends, segments_cons, segment_dot hdot, hdotted, ← hlater]
  rfl

/-- What follows a dot and begins with a star is a star. -/
theorem segments_dot_star (rest : List Char) :
    segments (rest.length + 2) ('.' :: '*' :: rest) =
      (segments (rest.length + 1) rest).map (.child .wildcard :: ·) := by
  rw [segments_cons, segment_dot (by decide)]
  rfl

/-- A path with a dollar sign is read as the segments behind it. -/
theorem parse_dollar {text : String} {s : List Char} (htext : text.toList = '$' :: s)
    (hs : IsTrimmedEnd s) : parse text = segments s.length s := by
  rw [parse, htext, unwrap_dollar hs]
  rfl

/-- A path needs no dollar sign: one that is empty or begins with a dot or a bracket is read as if a
dollar sign stood before it, and one that begins with a name as if a dollar sign and a dot did.
Behind those a star stands for all children, though, while a path that begins with a star begins
with a name, so such a path is never read as the same steps. -/
theorem parse_bare (path : String) (htrim : trim path.toList = path.toList)
    (hbraces : ∀ inner, path.toList ≠ '\x7b' :: (inner ++ ['\x7d']))
    (hdollar : path.toList.head? ≠ some '$') :
    ((path = "" ∨ path.toList.head? = some '.' ∨ path.toList.head? = some '[') →
      parse path = parse ("$" ++ path) ∧ ∀ doc, evaluate doc path = evaluate doc ("$" ++ path)) ∧
    (∀ c, path.toList.head? = some c → c ≠ '.' → c ≠ '[' → c ≠ '*' →
      parse path = parse ("$." ++ path) ∧ ∀ doc, evaluate doc path = evaluate doc ("$." ++ path)) ∧
    (path.toList.head? = some '*' →
      ∀ steps, parse path = .ok steps → parse ("$." ++ path) ≠ .ok steps) := by
  have hend : IsTrimmedEnd path.toList := fun c hc => by
    rw [← htrim] at hc
    exact getLast?_trim _ c hc
  have hbare : parse path = unwrapped path.toList := by
    rw [parse, unwrap_eq_self htrim hbraces]
  have hdot : parse ("$." ++ path) = segments (path.toList.length + 1) ('.' :: path.toList) :=
    parse_dollar (by simp) ((isTrimmedEnd_concat rfl []).append hend)
  have hevaluate {other : String} (h : parse path = parse other) :
      parse path = parse other ∧ ∀ doc, evaluate doc path = evaluate doc other :=
    ⟨h, fun doc => by rw [evaluate, h, evaluate]⟩
  refine ⟨fun hsegment => hevaluate ?segment, fun c hc hnot hnot' hstar => hevaluate ?name,
    fun hstar steps hsteps => ?star⟩
  case segment =>
    have hends : EndsSegment path.toList := by
      intro c hc
      rcases hsegment with rfl | hfirst | hfirst
      · simp at hc
      · obtain rfl : '.' = c := Option.some.inj (hfirst.symm.trans hc)
        rfl
      · obtain rfl : '[' = c := Option.some.inj (hfirst.symm.trans hc)
        rfl
    rw [hbare, unwrapped_of_endsSegment hends]
    exact (parse_dollar (by simp) hend).symm
  case name =>
    obtain ⟨rest, hpath⟩ : ∃ rest, path.toList = c :: rest := List.head?_eq_some_iff.1 hc
    have hends : endsName c = false := by simp [endsName, hnot, hnot']
    rw [hbare, hdot, hpath]
    exact (segments_dot_eq_unwrapped (fun h => hdollar (h ▸ hc)) hstar hends rest).symm
  case star =>
    obtain ⟨rest, hpath⟩ : ∃ rest, path.toList = '*' :: rest := List.head?_eq_some_iff.1 hstar
    rw [hbare, hpath, unwrapped_cons (by decide) rfl] at hsteps
    rw [hdot, hpath, List.length_cons, segments_dot_star]
    intro hdotted
    obtain ⟨later, -, hname⟩ := exists_of_map_eq_ok hsteps
    obtain ⟨later', -, hwildcard⟩ := exists_of_map_eq_ok hdotted
    have hselector := hname.trans hwildcard.symm
    simp at hselector

/-- A path of names is read in the same way behind a dollar sign and a dot. -/
theorem parse_bare_names :
    trim "data.id".toList = "data.id".toList ∧
    (∀ inner, "data.id".toList ≠ '\x7b' :: (inner ++ ['\x7d'])) ∧
    "data.id".toList.head? = some 'd' ∧ parse "data.id" = parse "$.data.id" ∧
    ∀ doc, evaluate doc "data.id" = evaluate doc "$.data.id" := by
  have htrim : trim "data.id".toList = "data.id".toList := by decide +kernel
  have hbraces : ∀ inner, "data.id".toList ≠ '\x7b' :: (inner ++ ['\x7d']) := by
    intro inner heq
    exact absurd (List.cons.inj heq).1 (by decide)
  exact ⟨htrim, hbraces, rfl, (parse_bare "data.id" htrim hbraces (by decide)).2.1 'd' rfl
    (by decide) (by decide) (by decide)⟩

/-- Not every path without a dollar sign is read as if it had one: a star alone is a name. -/
theorem not_forall_parse_bare :
    ¬ ∀ path : String, trim path.toList = path.toList →
      (∀ inner, path.toList ≠ '\x7b' :: (inner ++ ['\x7d'])) → path.toList.head? ≠ some '$' →
      parse path =
        parse (if path = "" ∨ path.toList.head? = some '.' ∨ path.toList.head? = some '[' then
          "$" ++ path else "$." ++ path) := by
  intro h
  have hstar := congrArg Except.toOption
    (h "*" (by decide +kernel) (fun inner => by simp) (by decide))
  revert hstar
  decide +kernel

end Volley.JsonPath
