import Mathlib.Data.List.DropRight
import Volley.Json.Spelled

/-!
# JSON text is read

Every text of the grammar is read as the tree that it spells (`read?_of_isText`). A value is read up
to its end, so every lemma about a reader speaks of a text that goes on after the spelling. What
goes on behind a value is a blank, a comma, a closing bracket or nothing (`EndsValue`). Numbers need
this, since nothing but the next character says where they end; all other values end by themselves.

Arrays and objects are lists of items between brackets, and what is said of them holds for every
reader of items that passes over blanks and reads nothing at a closing bracket (`itemsUpTo_listed`,
`bracketed_listed`). Values nest, and the induction of `readsSpelled_value` is on the bound for how
deep: what stands between brackets is shorter than the text with them.
-/

namespace Volley.Json

/-! ## Blanks -/

/-- Blanks are skipped. -/
theorem skipBlanks_append {u : List Char} (hu : IsBlanks u) (t : List Char) :
    skipBlanks (u ++ t) = skipBlanks t :=
  List.dropWhile_append_of_pos hu

/-- Nothing is skipped before a character that is no blank. -/
theorem skipBlanks_cons {c : Char} (hc : isBlank c = false) (t : List Char) :
    skipBlanks (c :: t) = c :: t :=
  List.dropWhile_cons_of_neg (by simp [hc])

/-- Blanks are skipped once. -/
theorem skipBlanks_skipBlanks (s : List Char) : skipBlanks (skipBlanks s) = skipBlanks s :=
  List.dropWhile_idempotent _ _

/-- What can come after a value: nothing, a blank, a comma or a closing bracket. -/
def EndsValue (t : List Char) : Prop :=
  ∀ c ∈ t.head?, isBlank c = true ∨ c = ',' ∨ c = ']' ∨ c = '\x7d'

/-- Blanks can come before what can come after a value. -/
theorem EndsValue.append {u t : List Char} (hu : IsBlanks u) (ht : EndsValue t) :
    EndsValue (u ++ t) := by
  cases u with
  | nil => exact ht
  | cons c u =>
    intro d hd
    obtain rfl : c = d := by simpa using hd
    exact .inl (hu c List.mem_cons_self)

/-! ## Numbers -/

/-- What can come after digits: nothing, or another character. -/
def EndsDigits (t : List Char) : Prop :=
  ∀ c ∈ t.head?, Text.asciiDigit? c = none

/-- What comes after a value is no part of a number. -/
theorem EndsValue.head {t : List Char} (ht : EndsValue t) {c : Char} (hc : t.head? = some c) :
    Text.asciiDigit? c = none ∧ c ≠ '.' ∧ c ∉ exponentMarks := by
  have hcases : c = ' ' ∨ c = '\t' ∨ c = '\n' ∨ c = '\r' ∨ c = ',' ∨ c = ']' ∨ c = '\x7d' := by
    simpa [isBlank, or_assoc] using ht c hc
  rcases hcases with rfl | rfl | rfl | rfl | rfl | rfl | rfl <;> decide

/-- Digits are read up to the character after them. -/
theorem digits_append {ds : List Nat} {s t : List Char} (h : DigitsSpelled ds s)
    (ht : EndsDigits t) : digits (s ++ t) = (ds, t) := by
  have hend : digits t = ([], t) := by
    cases t with
    | nil => rfl
    | cons c t => rw [digits, ht c rfl]
  induction h with
  | one hc => rw [List.singleton_append, digits, hc, hend]
  | more hc _ ih => rw [List.cons_append, digits, hc, ih]

theorem someDigits_append {ds : List Nat} {s t : List Char} (h : DigitsSpelled ds s)
    (ht : EndsDigits t) : someDigits (s ++ t) = some (ds, t) := by
  rw [someDigits, digits_append h ht]
  cases h <;> rfl

/-- The digits before the point are read. -/
theorem wholePart_append {ds : List Nat} {s t : List Char} (h : DigitsSpelled ds s)
    (hzero : ds.head? = some 0 → ds = [0]) (ht : EndsDigits t) :
    wholePart (s ++ t) = some (ds, t) := by
  rw [wholePart, someDigits_append h ht]
  cases ds with
  | nil => rfl
  | cons d later =>
    cases d with
    | zero =>
      rw [hzero rfl]
      rfl
    | succ d => rfl

/-- A fraction is read, and passed over where there is none. -/
theorem fractionPart_append {fraction : Option (List Nat)} {s t : List Char}
    (h : FractionSpelled fraction s) (ht : EndsDigits t) (hpoint : t.head? ≠ some '.') :
    fractionPart (s ++ t) = some (fraction, t) := by
  cases h with
  | absent =>
    rw [List.nil_append, fractionPart]
    rintro rest rfl
    exact hpoint rfl
  | present hds => rw [List.cons_append, fractionPart, someDigits_append hds ht, Option.map_some]

/-- Digits begin with a digit. -/
theorem DigitsSpelled.exists_cons {ds : List Nat} {s : List Char} (h : DigitsSpelled ds s) :
    ∃ c rest, s = c :: rest ∧ Text.asciiDigit? c ≠ none := by
  cases h with
  | one hc => exact ⟨_, _, rfl, by simp [hc]⟩
  | more hc _ => exact ⟨_, _, rfl, by simp [hc]⟩

/-- An exponent is read, and passed over where there is none. -/
theorem exponentPart_append {exponent : Option (Bool × List Nat)} {s t : List Char}
    (h : ExponentSpelled exponent s) (ht : EndsValue t) :
    exponentPart (s ++ t) = some (exponent, t) := by
  have hdigits : EndsDigits t := fun c hc => (ht.head hc).1
  rw [exponentPart.eq_def]
  cases h with
  | absent =>
    cases t with
    | nil => rfl
    | cons c t =>
      have hmark : ¬ (c = 'e' ∨ c = 'E') := by simpa [exponentMarks] using (ht.head rfl).2.2
      dsimp only [List.nil_append]
      rw [if_neg hmark]
  | unsigned hmark hds =>
    rw [exponentMarks, List.mem_cons, List.mem_singleton] at hmark
    obtain ⟨c, rest, rfl, hc⟩ := hds.exists_cons
    dsimp only [List.cons_append]
    rw [if_pos hmark]
    split
    · rename_i heq
      exact absurd rfl ((List.cons.inj heq).1 ▸ hc)
    · rename_i heq
      exact absurd rfl ((List.cons.inj heq).1 ▸ hc)
    · rw [← List.cons_append, someDigits_append hds hdigits, Option.map_some]
  | plus hmark hds =>
    rw [exponentMarks, List.mem_cons, List.mem_singleton] at hmark
    dsimp only [List.cons_append]
    rw [if_pos hmark]
    show (someDigits (_ ++ t)).map _ = _
    rw [someDigits_append hds hdigits, Option.map_some]
  | minus hmark hds =>
    rw [exponentMarks, List.mem_cons, List.mem_singleton] at hmark
    dsimp only [List.cons_append]
    rw [if_pos hmark]
    show (someDigits (_ ++ t)).map _ = _
    rw [someDigits_append hds hdigits, Option.map_some]

/-- What can come after digits can begin with an exponent. -/
theorem ExponentSpelled.endsDigits {exponent : Option (Bool × List Nat)} {s t : List Char}
    (h : ExponentSpelled exponent s) (ht : EndsValue t) :
    EndsDigits (s ++ t) ∧ (s ++ t).head? ≠ some '.' := by
  have hmark {mark : Char} (hmem : mark ∈ exponentMarks) :
      Text.asciiDigit? mark = none ∧ mark ≠ '.' := by
    rw [exponentMarks, List.mem_cons, List.mem_singleton] at hmem
    rcases hmem with rfl | rfl <;> decide
  cases h with
  | absent => exact ⟨fun c hc => (ht.head hc).1, fun hpoint => (ht.head hpoint).2.1 rfl⟩
  | unsigned hmem | plus hmem | minus hmem =>
    refine ⟨fun c hc => ?_, fun hpoint => (hmark hmem).2 (Option.some.inj hpoint)⟩
    obtain rfl := Option.some.inj hc
    exact (hmark hmem).1

/-- What can come after digits can begin with a fraction. -/
theorem FractionSpelled.endsDigits {fraction : Option (List Nat)} {s t : List Char}
    (h : FractionSpelled fraction s) (ht : EndsDigits t) : EndsDigits (s ++ t) := by
  cases h with
  | absent => exact ht
  | present =>
    intro c hc
    obtain rfl := Option.some.inj hc
    decide

/-- A number without its sign is read up to the end of the value. -/
theorem unsignedNumeral_append {n : Numeral} {s t : List Char} (h : n.UnsignedSpelled s)
    (ht : EndsValue t) : unsignedNumeral n.negative (s ++ t) = some (n, t) := by
  cases h with
  | mk hwhole hzero hfraction hexponent =>
    obtain ⟨hend, hpoint⟩ := hexponent.endsDigits ht
    rw [unsignedNumeral, List.append_assoc, List.append_assoc,
      wholePart_append hwhole hzero (hfraction.endsDigits hend)]
    simp only [Option.bind_eq_bind, Option.bind_some, fractionPart_append hfraction hend hpoint,
      exponentPart_append hexponent ht]
    rfl

/-- A number is read up to the end of the value. -/
theorem numeral_append {n : Numeral} {s t : List Char} (h : n.Spelled s) (ht : EndsValue t) :
    numeral (s ++ t) = some (n, t) := by
  cases h with
  | unsigned hsign hn =>
    have hread := unsignedNumeral_append hn ht
    rw [hsign] at hread
    rw [numeral, hread]
    -- A number without a sign begins with a digit.
    cases hn with
    | mk hwhole =>
      obtain ⟨c, rest, rfl, hc⟩ := hwhole.exists_cons
      rintro later heq
      obtain rfl : c = '-' := (List.cons.inj heq).1
      exact hc rfl
  | minus hsign hn =>
    have hread := unsignedNumeral_append hn ht
    rw [hsign] at hread
    rw [List.cons_append, numeral, hread]

/-! ## Strings -/

/-- A unit of a string is read. -/
theorem stringBody_unit {unit : StringUnit} {s : List Char} (h : unit.Spelled s) (t : List Char) :
    stringBody (s ++ t) = (stringBody t).map fun parts => (unit :: parts.1, parts.2) := by
  cases h with
  | @plain c hcontrol hquote hescape =>
    rw [List.singleton_append, stringBody]
    · have hplain : ¬ (c.toNat < 0x20 ∨ c = '\\') := not_or_intro (by omega) hescape
      rw [if_neg hplain]
      cases stringBody t <;> rfl
    · exact fun heq => hquote heq
    · exact fun _ _ _ _ _ heq => absurd heq hescape
    · exact fun _ _ heq => absurd heq hescape
  | @short e c hshort =>
    show stringBody ('\\' :: e :: t) = _
    rw [stringBody, hshort]
    · cases stringBody t <;> rfl
    · rintro _ _ _ _ _ rfl
      simp [shortEscape?] at hshort
  | @code a b c d i j k l ha hb hc hd =>
    show stringBody ('\\' :: 'u' :: a :: b :: c :: d :: t) = _
    rw [stringBody, ha, hb, hc, hd]
    cases stringBody t <;> rfl

/-- A string is read up to its closing quote. -/
theorem stringBody_append {units : List StringUnit} {s : List Char} (h : UnitsSpelled units s)
    (t : List Char) : stringBody (s ++ '\"' :: t) = some (units, t) := by
  induction h with
  | nil => rw [List.nil_append, stringBody]
  | cons hunit _ ih => rw [List.append_assoc, stringBody_unit hunit, ih, Option.map_some]

/-! ## Items -/

section

variable {α : Type} {Spells : α → List Char → Prop} {item : Reader α}

/-- What a reader does that is to read items up to a closing bracket: it passes over blanks, and
reads nothing at the bracket or at the end. -/
structure IsItemReader (close : Char) (item : Reader α) : Prop where
  /-- Blanks make no difference. -/
  skips : ∀ s, item (skipBlanks s) = item s
  /-- Nothing is read at the bracket. -/
  stops : ∀ t, item (close :: t) = none
  /-- Nothing is read at the end. -/
  ends : item [] = none

/-- A reader reads the spellings of items that are not longer than `bound`, whatever comes after. -/
def ReadsSpelled (Spells : α → List Char → Prop) (bound : Nat) (item : Reader α) : Prop :=
  ∀ x s, Spells x s → s.length ≤ bound → ∀ t, EndsValue t → item (s ++ t) = some (x, t)

/-- An item with blanks before it is read. -/
theorem IsItemReader.read {close : Char} (h : IsItemReader close item) {u s t : List Char} {x : α}
    (hu : IsBlanks u) (hread : item (s ++ t) = some (x, t)) :
    item (u ++ (s ++ t)) = some (x, t) := by
  rw [← h.skips, skipBlanks_append hu, h.skips, hread]

/-- Blanks before the first item make no difference. -/
theorem itemsUpTo_skipBlanks {close : Char} (h : IsItemReader close item) (fuel : Nat)
    (s : List Char) : itemsUpTo close item fuel (skipBlanks s) = itemsUpTo close item fuel s := by
  cases fuel with
  | zero => rfl
  | succ fuel => rw [itemsUpTo, itemsUpTo, h.skips]

/-- Items are not more than the characters of their text and one. -/
theorem Listed.length_le {xs : List α} {s : List Char} (h : Listed Spells xs s) :
    xs.length ≤ s.length + 1 := by
  induction h with
  | one => simp
  | more _ _ _ _ ih => simp; omega

variable {close : Char} (hclose : close = ']' ∨ close = '\x7d') (hitem : IsItemReader close item)
include hclose hitem

/-- Items are read up to the closing bracket. -/
theorem itemsUpTo_listed {xs : List α} {s : List Char} (h : Listed Spells xs s)
    (hread : ReadsSpelled Spells s.length item) {fuel : Nat} (hfuel : xs.length ≤ fuel)
    (t : List Char) : itemsUpTo close item fuel (s ++ close :: t) = some (xs, t) := by
  have hblank : isBlank close = false := by rcases hclose with rfl | rfl <;> rfl
  have hcomma : close ≠ ',' := by rcases hclose with rfl | rfl <;> decide
  induction h generalizing fuel with
  | @one x u s v hu hx hv =>
    obtain ⟨fuel, rfl⟩ : ∃ n, fuel = n + 1 := ⟨fuel - 1, by simp at hfuel; omega⟩
    have hends : EndsValue (v ++ close :: t) := by
      refine EndsValue.append hv fun c hc => ?_
      obtain rfl : close = c := by simpa using hc
      exact .inr (.inr hclose)
    have hfirst := hitem.read hu (hread x s hx (by simp; omega) _ hends)
    rw [itemsUpTo, List.append_assoc, List.append_assoc, hfirst, Option.bind_eq_bind,
      Option.bind_some]
    dsimp only
    rw [skipBlanks_append hv, skipBlanks_cons hblank]
    dsimp only
    rw [if_neg hcomma, if_pos rfl]
    rfl
  | @more x xs u s v later hu hx hv _ ih =>
    obtain ⟨fuel, rfl⟩ : ∃ n, fuel = n + 1 := ⟨fuel - 1, by simp at hfuel; omega⟩
    have hends : EndsValue (v ++ ',' :: (later ++ close :: t)) := by
      refine EndsValue.append hv fun c hc => ?_
      obtain rfl : ',' = c := by simpa using hc
      exact .inr (.inl rfl)
    have hfirst := hitem.read hu (hread x s hx (by simp; omega) _ hends)
    have hlater := ih (fun y r hy hle => hread y r hy (by simp; omega))
      (Nat.le_of_succ_le_succ hfuel)
    rw [itemsUpTo, List.append_assoc, List.append_assoc, List.append_assoc, List.cons_append,
      hfirst, Option.bind_eq_bind, Option.bind_some]
    dsimp only
    rw [skipBlanks_append hv, skipBlanks_cons (by decide)]
    dsimp only
    rw [if_pos rfl, hlater]
    rfl

/-- Items between brackets are read. -/
theorem bracketed_listed {xs : List α} {s : List Char} (h : Listed Spells xs s)
    (hread : ReadsSpelled Spells s.length item) (t : List Char) :
    bracketed close item (s ++ close :: t) = some (xs, t) := by
  have hlength := h.length_le
  have hitems := itemsUpTo_listed hclose hitem h hread
    (show xs.length ≤ (s ++ close :: t).length by simp; omega) t
  -- Without a first item there would be none.
  obtain ⟨n, hn⟩ : ∃ n, (s ++ close :: t).length = n + 1 := ⟨s.length + t.length, by simp; omega⟩
  have hfirst : item (s ++ close :: t) ≠ none := by
    intro hnone
    rw [hn, itemsUpTo, hnone] at hitems
    simp at hitems
  rw [bracketed]
  cases hskip : skipBlanks (s ++ close :: t) with
  | nil => exact absurd hitem.ends (by rwa [← hskip, hitem.skips])
  | cons c rest =>
    have hc : c ≠ close := by
      rintro rfl
      exact absurd (hitem.stops rest) (by rwa [← hskip, hitem.skips])
    dsimp only
    rw [if_neg hc, ← hskip, itemsUpTo_skipBlanks hitem, hitems]

/-- Brackets with nothing between them are read. -/
theorem bracketed_blanks {u : List Char} (hu : IsBlanks u) (t : List Char) :
    bracketed close item (u ++ close :: t) = some ([], t) := by
  have hblank : isBlank close = false := by rcases hclose with rfl | rfl <;> rfl
  rw [bracketed, skipBlanks_append hu, skipBlanks_cons hblank]
  exact if_pos rfl

end

/-! ## Members -/

/-- Members are read as items of an object. -/
theorem isItemReader_member {α : Type} (item : Reader α) : IsItemReader '\x7d' (member item) where
  skips s := by rw [member, skipBlanks_skipBlanks, member]
  stops t := by
    rw [member, skipBlanks_cons (by decide)]
    rfl
  ends := rfl

/-- A member is read if values are. -/
theorem readsSpelled_member {α : Type} {Spells : α → List Char → Prop} {item : Reader α}
    {close : Char} (hitem : IsItemReader close item) {bound : Nat}
    (hread : ReadsSpelled Spells bound item) :
    ReadsSpelled (MemberSpelled Spells) bound (member item) := by
  intro x s hx hlength t ht
  cases hx with
  | @mk units x name u v s hname hu hv hx =>
    have hvalue := hitem.read hv (hread x s hx (by simp at hlength; omega) t ht)
    have hstring := stringBody_append hname (u ++ ':' :: (v ++ (s ++ t)))
    simp only [List.cons_append, List.append_assoc]
    rw [member, skipBlanks_cons (by decide)]
    show ((stringBody _).bind _ : Option _) = _
    rw [hstring, Option.bind_some]
    dsimp only
    rw [skipBlanks_append hu, skipBlanks_cons (by decide)]
    show ((item _).bind _ : Option _) = _
    rw [hvalue]
    rfl

/-! ## Values -/

/-- Values are read as items of an array. -/
theorem isItemReader_value (n : Nat) : IsItemReader ']' (value n) where
  skips s := by
    cases n with
    | zero => rw [value, skipBlanks_skipBlanks, value]
    | succ n => rw [value, skipBlanks_skipBlanks, value]
  stops t := by cases n <;> rfl
  ends := by cases n <;> rfl

/-- What is read as a value that holds no other begins with no blank and no opening bracket. -/
theorem value_eq_scalar {s : List Char} {c : Char} {rest : List Char} (hs : s = c :: rest)
    (hblank : isBlank c = false) (harray : c ≠ '[') (hobject : c ≠ '\x7b') (n : Nat) :
    value n s = scalar s := by
  subst hs
  cases n with
  | zero => rw [value, skipBlanks_cons hblank]
  | succ n =>
    rw [value, skipBlanks_cons hblank]
    split
    · rename_i heq
      exact absurd (List.cons.inj heq).1 harray
    · rename_i heq
      exact absurd (List.cons.inj heq).1 hobject
    · rfl

/-- A number begins with a minus or a digit. -/
theorem Numeral.Spelled.exists_cons {n : Numeral} {s : List Char} (h : n.Spelled s) :
    ∃ c rest, s = c :: rest ∧ (c = '-' ∨ Text.asciiDigit? c ≠ none) := by
  cases h with
  | unsigned _ hn =>
    cases hn with
    | mk hwhole =>
      obtain ⟨c, rest, rfl, hc⟩ := hwhole.exists_cons
      exact ⟨c, _, rfl, .inr hc⟩
  | minus => exact ⟨'-', _, rfl, .inl rfl⟩

/-- A number is read as a value. -/
theorem value_numeral {n : Numeral} {s t : List Char} (h : n.Spelled s) (ht : EndsValue t)
    (depth : Nat) : value depth (s ++ t) = some (.numeral n, t) := by
  obtain ⟨c, rest, rfl, hc⟩ := h.exists_cons
  have hne {d : Char} (hd : d ≠ '-' ∧ Text.asciiDigit? d = none) : c ≠ d := by
    rintro rfl
    exact hc.elim hd.1 fun hdigit => hdigit hd.2
  have hblank : isBlank c = false := by
    refine Bool.eq_false_iff.2 fun hblank => ?_
    have hcases : c = ' ' ∨ c = '\t' ∨ c = '\n' ∨ c = '\r' := by
      simpa [isBlank, or_assoc] using hblank
    rcases hcases with rfl | rfl | rfl | rfl <;> exact absurd hc (by decide)
  rw [value_eq_scalar List.cons_append hblank (hne (by decide)) (hne (by decide)), scalar,
    numeral_append h ht, Option.map_some]
  -- The three words and strings begin with other characters.
  all_goals
    rintro later heq
    exact hne (by decide) (List.cons.inj heq).1

/-- Items between brackets are read as an array. -/
theorem value_array {n : Nat} {items : List Written} {s t : List Char}
    (h : bracketed ']' (value n) (s ++ ']' :: t) = some (items, t)) :
    value (n + 1) ('[' :: (s ++ [']']) ++ t) = some (.array items, t) := by
  rw [List.cons_append, List.append_assoc, List.singleton_append, value,
    skipBlanks_cons (by decide)]
  show (bracketed _ _ _).map _ = _
  rw [h, Option.map_some]

/-- Members between braces are read as an object. -/
theorem value_object {n : Nat} {members : List (List StringUnit × Written)} {s t : List Char}
    (h : bracketed '\x7d' (member (value n)) (s ++ '\x7d' :: t) = some (members, t)) :
    value (n + 1) ('\x7b' :: (s ++ ['\x7d']) ++ t) = some (.object members, t) := by
  rw [List.cons_append, List.append_assoc, List.singleton_append, value,
    skipBlanks_cons (by decide)]
  show (bracketed _ _ _).map _ = _
  rw [h, Option.map_some]

/-- Values that nest no deeper than their texts are long are read up to their ends. -/
theorem readsSpelled_value (n : Nat) : ReadsSpelled Written.Spelled n (value n) := by
  induction n using Nat.strongRecOn with
  | ind n ih =>
    intro w s hw hlength t ht
    -- What stands between brackets is shorter, so it is read one level down.
    have hdown {u : List Char} {c d : Char} (hu : (c :: (u ++ [d])).length ≤ n) :
        ∃ m, n = m + 1 ∧ ReadsSpelled Written.Spelled u.length (value m) := by
      obtain ⟨m, rfl⟩ : ∃ m, n = m + 1 := ⟨n - 1, by simp at hu; omega⟩
      exact ⟨m, rfl, fun x s hx hs => ih m (Nat.lt_succ_self m) x s hx (by simp at hu; omega)⟩
    cases hw with
    | nullWord => exact value_eq_scalar rfl (by decide) (by decide) (by decide) _
    | trueWord => exact value_eq_scalar rfl (by decide) (by decide) (by decide) _
    | falseWord => exact value_eq_scalar rfl (by decide) (by decide) (by decide) _
    | numeral hm => exact value_numeral hm ht n
    | @string units s hunits =>
      rw [List.cons_append, value_eq_scalar rfl (by decide) (by decide) (by decide), scalar,
        List.append_assoc, List.singleton_append, stringBody_append hunits, Option.map_some]
    | @emptyArray u hu =>
      obtain ⟨m, rfl, -⟩ := hdown hlength
      exact value_array (bracketed_blanks (.inl rfl) (isItemReader_value m) hu t)
    | @array items s hitems =>
      obtain ⟨m, rfl, hitem⟩ := hdown hlength
      exact value_array (bracketed_listed (.inl rfl) (isItemReader_value m) hitems hitem t)
    | @emptyObject u hu =>
      obtain ⟨m, rfl, -⟩ := hdown hlength
      exact value_object (bracketed_blanks (.inr rfl) (isItemReader_member (value m)) hu t)
    | @object members s hmembers =>
      obtain ⟨m, rfl, hitem⟩ := hdown hlength
      have hmember := readsSpelled_member (isItemReader_value m) hitem
      exact value_object
        (bracketed_listed (.inr rfl) (isItemReader_member (value m)) hmembers hmember t)

/-- A JSON text is read as the tree that it spells. -/
theorem read?_of_isText {w : Written} {s : List Char} (h : w.IsText s) :
    Written.read? s = some w := by
  cases h with
  | @mk u s v hu hw hv =>
    have hend : EndsValue v := fun c hc => .inl (hv c (List.mem_of_mem_head? hc))
    have hskip : skipBlanks v = [] := List.dropWhile_eq_nil_iff.2 hv
    have hitem := isItemReader_value (u ++ (s ++ v)).length
    have hread := hitem.read hu
      (readsSpelled_value _ w s hw (by simp; omega) v hend)
    rw [Written.read?, hread, Option.bind_eq_bind, Option.bind_some]
    dsimp only
    rw [hskip]
    rfl

end Volley.Json
