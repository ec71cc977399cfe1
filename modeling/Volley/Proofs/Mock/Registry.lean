import Volley.Mock.Registry
import Volley.Proofs.Calendar.Zone
import Volley.Proofs.Mock.Outline

/-!
# Replaced dates and times keep their shape

What replaces a value is settled by the name of the variable first, and then by the first pattern
that recognises the value. No text has two of the builtin shapes, so their order does not matter,
and a random time in place of a date or time is of the same shape and of no other one
(`value_of_covers`). A date with a year of four digits is the local date of that time
(`beginsWithDate_text`), which is within thirty days of the present (`isNear_randomTime`). On the
calendar this may be thirty-one days, when clocks have been put forward or back meanwhile.

Patterns that are added later count only where no earlier one recognises the value
(`value_foldl_addPattern`).
-/

namespace Volley.Mock

open Calendar (Date Field Format Instant Zone nanosPerSecond yearText padded)
open Text (natural? numberAt? numberAt?_of_append)

/-! ## Random times -/

/-- The part of the second of a moved instant is less than two seconds, as in a leap second. -/
theorem nanos_addMillis_lt (t : Instant) (millis : Int) :
    (t.addMillis millis).nanos < 2 * nanosPerSecond := by
  unfold Instant.addMillis Instant.normalize nanosPerSecond
  dsimp only
  split_ifs <;> dsimp only <;> omega

/-- A number of milliseconds is whole seconds and a rest of the same sign. -/
theorem tmod_bounds (millis : Int) :
    millis.tdiv 1000 * 1000 + millis.tmod 1000 = millis ∧ -1000 < millis.tmod 1000 ∧
      millis.tmod 1000 < 1000 ∧ (0 ≤ millis → 0 ≤ millis.tmod 1000) ∧
      (millis ≤ 0 → millis.tmod 1000 ≤ 0) := by
  refine ⟨Int.tdiv_mul_add_tmod .., Int.lt_tmod_of_pos _ (by decide),
    Int.tmod_lt_of_pos _ (by decide), Int.tmod_nonneg _, fun h => ?_⟩
  have hopposite : 0 ≤ (-millis).tmod 1000 := Int.tmod_nonneg _ (by omega)
  rw [Int.neg_tmod] at hopposite
  omega

/-- The nanoseconds of thirty days. -/
def thirtyDays : Nat := 30 * 86400 * nanosPerSecond

/-- A time that is moved by thirty days at most is at most thirty days away, to the second and to
the nanosecond. -/
theorem addMillis_near {t : Instant} (h : t.nanos < 2 * nanosPerSecond) {millis : Int}
    (hmillis : millis.natAbs ≤ timeWindow) :
    ((t.addMillis millis).seconds - t.seconds).natAbs ≤ 30 * 86400 ∧
      ((t.addMillis millis).totalNanos - t.totalNanos).natAbs ≤ thirtyDays := by
  obtain ⟨hsum, hlow, hhigh, hnonneg, hnonpos⟩ := tmod_bounds millis
  unfold thirtyDays timeWindow at *
  unfold Instant.totalNanos Instant.addMillis Instant.normalize nanosPerSecond at *
  generalize millis.tdiv 1000 = whole at *
  generalize millis.tmod 1000 = part at *
  dsimp only
  -- A leap second is left by a second less than the way is long, which only brings the time nearer.
  constructor
  · split_ifs <;> dsimp only <;> omega
  · split_ifs <;> dsimp only <;> omega

/-- The days from the present local date to the one of a time. -/
def daysAway (w : World) (t : Instant) : Nat :=
  ((t.localDate w.zone).dayNumber - (w.now.localDate w.zone).dayNumber).natAbs

/-- A time is at most thirty days of twenty-four hours away from the present. -/
structure IsNear (w : World) (t : Instant) : Prop where
  /-- So it is to the nanosecond. -/
  nanos : (t.totalNanos - w.now.totalNanos).natAbs ≤ thirtyDays
  /-- So are the local dates, if clocks are as far from universal time as they are at present. -/
  days : t.zoneIn w.zone = w.now.zoneIn w.zone → daysAway w t ≤ 30
  /-- Clocks that are put forward or back by no more than a day add a day at most. -/
  moreDays : (t.zoneIn w.zone - w.now.zoneIn w.zone).natAbs ≤ 86400 → daysAway w t ≤ 31

/-- A random time is near the present. -/
theorem isNear_randomTime {w : World} (h : w.now.nanos < 2 * nanosPerSecond) :
    IsNear w (randomTime w) := by
  have hmillis : (((w.chance 0 % (2 * timeWindow) : Nat) : Int) - (timeWindow : Int)).natAbs ≤
      timeWindow := by
    have hlt : w.chance 0 % (2 * timeWindow) < 2 * timeWindow := Nat.mod_lt _ (by decide)
    omega
  obtain ⟨hseconds, hnanos⟩ := addMillis_near h hmillis
  rw [← randomTime] at hseconds hnanos
  have hdays (t : Instant) :
      (t.localDate w.zone).dayNumber = (t.seconds + t.zoneIn w.zone) / 86400 :=
    Calendar.dayNumber_ofDayNumber _
  refine ⟨hnanos, fun hzone => ?_, fun hzone => ?_⟩
  · unfold daysAway
    rw [hdays, hdays, hzone]
    omega
  · unfold daysAway
    rw [hdays, hdays]
    generalize (randomTime w).zoneIn w.zone = z at *
    generalize w.now.zoneIn w.zone = z' at *
    omega

/-- New York in the evening of 20 February 2024, with a draw of a minute less than thirty days. -/
def lateFebruary : World :=
  ⟨⟨1708489800, 0⟩, Calendar.newYork, fun _ => 5183940000, fun _ => none⟩

/-- Thirty days and less are thirty-one dates where clocks have been put forward meanwhile. -/
example : lateFebruary.now.localDate lateFebruary.zone = ⟨2024, 2, 20⟩ ∧
    (randomTime lateFebruary).localDate lateFebruary.zone = ⟨2024, 3, 22⟩ ∧
    daysAway lateFebruary (randomTime lateFebruary) = 31 := by decide

/-- The local year of a random time is written in four digits. -/
def HasShortYear (w : World) : Prop :=
  0 ≤ ((randomTime w).localDate w.zone).year ∧ ((randomTime w).localDate w.zone).year ≤ 9999

/-- A text begins with a date in numbers, four digits for the year and two for month and day, and
something between them. -/
structure BeginsWithDate (s : List Char) (d : Date) : Prop where
  /-- The year comes first. -/
  year : (numberAt? s 0 4).map Int.ofNat = some d.year
  /-- The month follows. -/
  month : numberAt? s 5 2 = some d.month
  /-- The day comes last. -/
  day : numberAt? s 8 2 = some d.day

/-- A time that is written with its date in front begins with that date. -/
theorem beginsWithDate_text {z : Zone} {t : Instant}
    (hyear : 0 ≤ (t.date z).year ∧ (t.date z).year ≤ 9999) (mark : Char) (rest : Format) :
    BeginsWithDate (Format.text z t (dateFormat mark .year ++ rest)) (t.date z) := by
  have hmonth := Calendar.month_le z t
  have hday := Calendar.day_le z t
  have htext : Format.text z t (dateFormat mark .year ++ rest) =
      yearText (t.date z).year ++ [mark] ++ padded 2 (t.date z).month ++ [mark] ++
        padded 2 (t.date z).day ++ Format.text z t rest := by
    simp only [Format.text, dateFormat, List.flatMap_append, List.flatMap_cons, List.flatMap_nil,
      List.append_assoc, List.append_nil, Field.text]
  obtain ⟨hlow, hhigh⟩ := hyear
  rw [htext, yearText, if_pos ⟨hlow, hhigh⟩]
  generalize t.date z = d at *
  have hyearLength : (padded 4 d.year.toNat).length = 4 :=
    Calendar.length_padded (by decide) (by omega)
  have hmonthLength : (padded 2 d.month).length = 2 :=
    Calendar.length_padded (by decide) (by omega)
  have hdayLength : (padded 2 d.day).length = 2 := Calendar.length_padded (by decide) (by omega)
  -- Year, month and day follow one another, with a mark between them.
  have hdayPrefix := List.prefix_append (padded 4 d.year.toNat ++ [mark] ++ padded 2 d.month ++
    [mark] ++ padded 2 d.day) (Format.text z t rest)
  have hmonthPrefix := ((List.prefix_append _ _).trans (List.prefix_append _ _)).trans hdayPrefix
  have hyearPrefix : [] ++ padded 4 d.year.toNat <+: _ :=
    ((List.prefix_append _ _).trans (List.prefix_append _ _)).trans hmonthPrefix
  constructor
  case year =>
    rw [numberAt?_of_append hyearPrefix List.length_nil hyearLength, Calendar.natural?_padded,
      Option.map_some]
    exact congrArg some (Int.toNat_of_nonneg hlow)
  case month =>
    have hplace : (padded 4 d.year.toNat ++ [mark]).length = 5 := by
      rw [List.length_append, hyearLength, List.length_singleton]
    rw [numberAt?_of_append hmonthPrefix hplace hmonthLength, Calendar.natural?_padded]
  case day =>
    have hplace : (padded 4 d.year.toNat ++ [mark] ++ padded 2 d.month ++ [mark]).length = 8 := by
      simp only [List.length_append, hyearLength, hmonthLength, List.length_singleton]
    rw [numberAt?_of_append hdayPrefix hplace hdayLength, Calendar.natural?_padded]

/-! ## Names -/

/-- The names of variables that are never replaced. -/
def keptNames : List String :=
  ["host", "port", "server"]

/-- The names of variables that ask for personal data. -/
def semanticNames : List String :=
  ["idcard", "email", "name", "mobile"]

/-- A variable is never replaced if its name is one of three in any case. -/
theorem isKept_iff (name : String) : isKept name = true ↔ lower name ∈ keptNames := by
  simp [isKept, keptNames, or_assoc]

/-- A name asks for nothing if it is none of four in any case. -/
theorem semantic?_eq_none {name : String} (h : lower name ∉ semanticNames) :
    semantic? name = none := by
  simp only [semanticNames, List.mem_cons, List.not_mem_nil, or_false, not_or] at h
  obtain ⟨hcard, hmail, hname, hmobile⟩ := h
  unfold semantic?
  split
  case h_1 heq => exact absurd heq hcard
  case h_2 heq => exact absurd heq hmail
  case h_3 heq => exact absurd heq hname
  case h_4 heq => exact absurd heq hmobile
  case h_5 => rfl

namespace Registry

variable (r : Registry) (w : World) {name given : String}

/-- Variables of three names keep their values. -/
theorem value_of_kept (h : lower name ∈ keptNames) : r.value w name given = given := by
  rw [value, if_pos ((isKept_iff name).2 h)]

/-- For any other name that does not ask for personal data, the patterns settle the value. -/
theorem value_eq_shaped (h : lower name ∉ keptNames) (h' : lower name ∉ semanticNames) :
    r.value w name given = r.shaped w given := by
  rw [value, if_neg fun hkept => h ((isKept_iff name).1 hkept), semantic?_eq_none h']
  cases r.mocker? <;> rfl

/-- A value that no pattern recognises stays. -/
theorem shaped_eq_self (h : ∀ p ∈ r.patterns, p.recognizes given = false) :
    r.shaped w given = given := by
  have hnone : r.patterns.find? (fun p => p.recognizes given) = none :=
    List.find?_eq_none.2 fun p hp => Bool.eq_false_iff.1 (h p hp)
  rw [shaped, hnone]

/-- Patterns that are added are tried after the others. -/
theorem foldl_addPattern (more : List Pattern) :
    more.foldl addPattern r = { r with patterns := r.patterns ++ more } := by
  induction more generalizing r with
  | nil => rw [List.foldl_nil, List.append_nil]
  | cons p more ih =>
    rw [List.foldl_cons, ih, addPattern]
    dsimp only
    rw [List.append_assoc, List.singleton_append]

/-- Patterns that are added do not count where an earlier one recognises the value. -/
theorem value_foldl_addPattern (more : List Pattern)
    (h : ∃ p ∈ r.patterns, p.recognizes given = true) :
    (more.foldl addPattern r).value w name given = r.value w name given := by
  have hfound : (r.patterns ++ more).find? (fun p => p.recognizes given) =
      r.patterns.find? fun p => p.recognizes given := by
    rw [List.find?_append]
    exact Option.or_of_isSome (List.find?_isSome.2 h)
  have hshaped : (more.foldl addPattern r).shaped w given = r.shaped w given := by
    rw [foldl_addPattern, shaped, shaped, hfound]
  rw [value, value, hshaped, foldl_addPattern]
  rfl

/-- No two of the builtin patterns recognise the same value. -/
theorem eq_of_recognizes {p q : Pattern} (hp : p ∈ builtinPatterns) (hq : q ∈ builtinPatterns)
    (h : p.recognizes given = true) (h' : q.recognizes given = true) : p = q := by
  obtain ⟨shape, hshape, rfl⟩ := List.mem_map.1 hp
  obtain ⟨shape', hshape', rfl⟩ := List.mem_map.1 hq
  rw [eq_of_covers hshape hshape' h h']

/-- The pattern that is found is one of those that were tried, and recognises the value. -/
theorem of_find? {patterns : List Pattern} {p : Pattern}
    (h : patterns.find? (fun p => p.recognizes given) = some p) :
    p ∈ patterns ∧ p.recognizes given = true := by
  have hrecognizes := List.find?_some h
  exact ⟨List.mem_of_find?_eq_some h, hrecognizes⟩

/-- A pattern is found if one of them recognises the value. -/
theorem exists_find? {patterns : List Pattern} {p : Pattern} (hp : p ∈ patterns)
    (h : p.recognizes given = true) :
    ∃ q, patterns.find? (fun p => p.recognizes given) = some q :=
  Option.isSome_iff_exists.1 (List.find?_isSome.2 ⟨p, hp, h⟩)

/-- The order of the builtin patterns does not matter. -/
theorem find?_of_perm {patterns : List Pattern} (h : patterns.Perm builtinPatterns) :
    patterns.find? (fun p => p.recognizes given) =
      builtinPatterns.find? fun p => p.recognizes given := by
  cases hfound : builtinPatterns.find? fun p => p.recognizes given with
  | none =>
    rw [List.find?_eq_none] at hfound ⊢
    exact fun p hp => hfound p (h.mem_iff.1 hp)
  | some q =>
    obtain ⟨hq, hrecognizes⟩ := of_find? hfound
    obtain ⟨p, hp⟩ := exists_find? (h.mem_iff.2 hq) hrecognizes
    obtain ⟨hmem, hrecognizes'⟩ := of_find? hp
    rw [hp, eq_of_recognizes (h.mem_iff.1 hmem) hq hrecognizes' hrecognizes]

/-- Nor does it matter to the value of a variable. -/
theorem value_of_perm {patterns more : List Pattern} (h : patterns.Perm builtinPatterns)
    (hr : r.patterns = builtinPatterns ++ more) :
    value { r with patterns := patterns ++ more } w name given = r.value w name given := by
  have hshaped : shaped { r with patterns := patterns ++ more } w given = r.shaped w given := by
    rw [shaped, shaped, hr, List.find?_append, List.find?_append, find?_of_perm h]
  rw [value, value, hshaped]
  rfl

/-- A value of a builtin shape is replaced by a random time in the format of that shape. -/
theorem value_of_covers (hr : builtinPatterns <+: r.patterns) (hkept : lower name ∉ keptNames)
    (hsemantic : lower name ∉ semanticNames) {shape : Shape × Format}
    (hshape : shape ∈ builtinShapes) (h : shape.1.covers given.toList = true) :
    r.value w name given = timeText shape.2 w := by
  obtain ⟨more, hmore⟩ := hr
  have hmem : shape.1.pattern (timeText shape.2) ∈ builtinPatterns := List.mem_map_of_mem hshape
  obtain ⟨p, hp⟩ := exists_find? hmem h
  obtain ⟨hp', hrecognizes⟩ := of_find? hp
  obtain rfl := eq_of_recognizes hp' hmem hrecognizes h
  rw [value_eq_shaped r w hkept hsemantic, shaped, ← hmore, List.find?_append, hp, Option.some_or]
  rfl

end Registry

/-! ## Shapes are kept -/

/-- What replaces a value of a builtin shape. -/
structure KeepsShape (r : Registry) (w : World) (name given : String) (shape : Shape × Format) :
    Prop where
  /-- The new value is of the same shape. -/
  same : shape.1.covers (r.value w name given).toList = true
  /-- It is of no other one. -/
  only : ∀ other ∈ builtinShapes, other.1.covers (r.value w name given).toList = true →
    other = shape
  /-- What replaces the new value in turn is of that shape as well. -/
  again : ∀ w' name', HasShortYear w' → lower name' ∉ keptNames → lower name' ∉ semanticNames →
    shape.1.covers (r.value w' name' (r.value w name given)).toList = true
  /-- A date with a year of four digits is the local date of the random time. -/
  date : .digits 4 ∈ shape.1 →
    BeginsWithDate (r.value w name given).toList ((randomTime w).localDate w.zone)
  /-- That time is at most thirty days away. -/
  near : w.now.nanos < 2 * nanosPerSecond → IsNear w (randomTime w)

/-- What replacing values says of their shapes, with the patterns of a registry. -/
structure KeepsShapes (r : Registry) : Prop where
  /-- No text has two of the builtin shapes. -/
  unique : ∀ s, ∀ p ∈ builtinShapes, ∀ q ∈ builtinShapes, p.1.covers s = true →
    q.1.covers s = true → p = q
  /-- So their order does not matter. -/
  order : ∀ patterns more, patterns.Perm builtinPatterns → r.patterns = builtinPatterns ++ more →
    ∀ w name given,
      Registry.value { r with patterns := patterns ++ more } w name given = r.value w name given
  /-- Where the builtin shapes are tried first, a value of one of them keeps it. -/
  shape : builtinPatterns <+: r.patterns → ∀ w name given, HasShortYear w →
    lower name ∉ keptNames → lower name ∉ semanticNames →
    ∀ shape ∈ builtinShapes, shape.1.covers given.toList = true → KeepsShape r w name given shape
  /-- Variables of three names keep their values. -/
  kept : ∀ w name given, lower name ∈ keptNames → r.value w name given = given
  /-- So do those whose values no pattern recognises, if their names ask for nothing. -/
  unknown : ∀ w name given, lower name ∉ semanticNames →
    (∀ p ∈ r.patterns, p.recognizes given = false) → r.value w name given = given
  /-- Patterns that are added count only for values that no earlier one recognises. -/
  added : ∀ (more : List Pattern) w name given,
    (more.foldl Registry.addPattern r).value w name given ≠ r.value w name given →
    ∀ p ∈ r.patterns, p.recognizes given = false

/-- A builtin shape with a year of four digits has its date in front. -/
theorem exists_dateFormat {shape : Shape × Format} (hshape : shape ∈ builtinShapes)
    (h : .digits 4 ∈ shape.1) : ∃ mark rest, shape.2 = dateFormat mark .year ++ rest := by
  simp only [builtinShapes, List.mem_cons, List.not_mem_nil, or_false] at hshape
  rcases hshape with rfl | rfl | rfl | rfl | rfl | rfl
  · exact ⟨'-', [], rfl⟩
  · exact ⟨'/', [], rfl⟩
  · exact absurd h (by decide)
  · exact absurd h (by decide)
  · exact ⟨'-', _, rfl⟩
  · exact ⟨'-', _, rfl⟩

end Volley.Mock
