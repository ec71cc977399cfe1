import Volley.Proofs.Template.Pieces

/-!
# The grammar of placeholders

Filling in a text is defined by the pieces that the text is cut into, and the scanner that cuts it
is in a hurry: where two opening braces begin no placeholder it passes over both of them, and it
looks at the line feeds of the first key only that it finds. `Rewrites` says the same without a
scanner. It goes through the text from left to right: where a placeholder begins, the placeholder
with the shortest key is replaced or kept, and the text goes on after it; anywhere else one
character is copied. `substitute_rewrites` shows that this is what `substitute` computes.

A placeholder that a text begins with is the one that `slot?` finds (`begins_iff`). Passing over the
second of two opening braces loses nothing, since a line on which two opening braces begin no
placeholder has none later on either (`slot?_eq_none_of_cons`).
-/

namespace Volley.Template

open Text

/-! ## Where a placeholder begins -/

/-- A text begins with a placeholder: two opening braces, a key, and two closing braces. -/
structure Begins (s key after : List Char) : Prop where
  /-- The text consists of the placeholder and what comes after it. -/
  eq : s = '\x7b' :: '\x7b' :: (key ++ '\x7d' :: '\x7d' :: after)
  /-- The key has at least one character. -/
  ne_nil : key ≠ []
  /-- The key is on one line. -/
  line : '\n' ∉ key
  /-- No other such key is shorter. -/
  shortest : ∀ other rest : List Char,
    s = '\x7b' :: '\x7b' :: (other ++ '\x7d' :: '\x7d' :: rest) → other ≠ [] → '\n' ∉ other →
      key.length ≤ other.length

/-- A text begins with at most one placeholder. -/
theorem Begins.unique {s key after other rest : List Char} (h : Begins s key after)
    (h' : Begins s other rest) : other = key ∧ rest = after := by
  have hlength : other.length = key.length :=
    Nat.le_antisymm (h'.shortest key after h.eq h.ne_nil h.line)
      (h.shortest other rest h'.eq h'.ne_nil h'.line)
  have htext : other ++ '\x7d' :: '\x7d' :: rest = key ++ '\x7d' :: '\x7d' :: after := by
    have := h'.eq.symm.trans h.eq
    simpa using this
  obtain ⟨hkey, hafter⟩ := List.append_inj htext hlength
  exact ⟨hkey, by simpa using hafter⟩

/-- The placeholder that a text begins with is the one that is found behind its opening braces. -/
theorem begins_iff {s key after : List Char} :
    Begins s key after ↔ ∃ t, s = '\x7b' :: '\x7b' :: t ∧ slot? t = some (key, after) := by
  constructor
  · intro h
    refine ⟨_, h.eq, ?_⟩
    obtain ⟨c, before, rfl⟩ := List.exists_cons_of_ne_nil h.ne_nil
    rw [List.cons_append, slot?_cons_eq_some_iff]
    refine ⟨before, rfl, h.line, ?_⟩
    have hmark : ['\x7d', '\x7d'] <:+: before ++ '\x7d' :: '\x7d' :: after :=
      ⟨before, after, by simp⟩
    obtain ⟨b, a, hcut⟩ := exists_cut?_of_infix hmark
    -- The first closing braces are not after those of the key, and a shorter key has no line feed.
    have hle : b.length ≤ before.length := length_le_of_cut? hcut (v := after) (by simp)
    have htext : b ++ '\x7d' :: '\x7d' :: a = before ++ '\x7d' :: '\x7d' :: after := by
      have := eq_of_cut? hcut
      simpa using this.symm
    have hprefix : b <+: before :=
      List.prefix_of_prefix_length_le ⟨_, htext⟩ (List.prefix_append _ _) hle
    have hline : '\n' ∉ c :: b := fun hmem =>
      h.line ((List.cons_prefix_cons.2 ⟨rfl, hprefix⟩).subset hmem)
    have heq := h.eq
    rw [List.cons_append, ← htext] at heq
    have hge := h.shortest (c :: b) a heq (List.cons_ne_nil c b) hline
    rw [List.length_cons, List.length_cons] at hge
    obtain ⟨rfl, hafter⟩ := List.append_inj htext (by omega)
    obtain rfl : a = after := by simpa using hafter
    exact hcut
  · rintro ⟨t, rfl, hslot⟩
    cases t with
    | nil => simp [slot?] at hslot
    | cons c rest =>
      obtain ⟨before, rfl, hline, hcut⟩ := slot?_cons_eq_some_iff.1 hslot
      refine ⟨?eq, List.cons_ne_nil c before, hline, ?shortest⟩
      case eq => rw [eq_of_slot? hslot]
      case shortest =>
        intro other rest' heq hne _
        obtain ⟨d, before', rfl⟩ := List.exists_cons_of_ne_nil hne
        have hrest : rest = before' ++ ['\x7d', '\x7d'] ++ rest' := by
          simpa using (List.cons.inj (List.cons.inj (List.cons.inj heq).2).2).2
        exact Nat.succ_le_succ (length_le_of_cut? hcut hrest)

/-- A line without a placeholder behind one of its characters has none later on either. -/
theorem slot?_eq_none_of_cons {c : Char} (hc : c ≠ '\n') {s : List Char}
    (h : slot? (c :: s) = none) : slot? s = none := by
  rw [slot?_eq_none_iff, firstLine_cons hc, List.tail_cons] at h
  rw [slot?_eq_none_iff]
  exact fun hmark => h (hmark.trans (List.tail_suffix _).isInfix)

/-- A text begins with no placeholder if its first character is not the first of two opening
braces. -/
theorem not_begins_cons {c : Char} {rest : List Char}
    (h : ∀ t, c = '\x7b' → rest = '\x7b' :: t → slot? t = none) (key after : List Char) :
    ¬ Begins (c :: rest) key after := by
  intro hbegins
  obtain ⟨t, heq, hslot⟩ := begins_iff.1 hbegins
  obtain ⟨rfl, rfl⟩ : c = '\x7b' ∧ rest = '\x7b' :: t := by simpa using heq
  simp [h t rfl rfl] at hslot

/-! ## Rewriting from left to right -/

/-- `Rewrites resolver s keys result`: going through `s` from left to right with a resolver meets
placeholders with these keys and gives this result. -/
inductive Rewrites (resolver : Resolver) : List Char → List String → List Char → Prop
  /-- The end of the text. -/
  | stop : Rewrites resolver [] [] []
  /-- A placeholder whose key is known is replaced by the value, which is not looked into. -/
  | known {s key after result : List Char} {keys : List String} {value : String} :
    Begins s key after → resolver (Piece.key key) = some value →
      Rewrites resolver after keys result →
      Rewrites resolver s (Piece.key key :: keys) (value.toList ++ result)
  /-- A placeholder whose key is not known is kept as it was written. -/
  | unknown {s key after result : List Char} {keys : List String} :
    Begins s key after → resolver (Piece.key key) = none → Rewrites resolver after keys result →
      Rewrites resolver s (Piece.key key :: keys)
        ('\x7b' :: '\x7b' :: (key ++ '\x7d' :: '\x7d' :: result))
  /-- Any other character is copied. -/
  | copy {c : Char} {rest result : List Char} {keys : List String} :
    (∀ key after, ¬ Begins (c :: rest) key after) → Rewrites resolver rest keys result →
      Rewrites resolver (c :: rest) keys (c :: result)

namespace Rewrites

variable {resolver : Resolver}

/-- A text that begins with a placeholder is rewritten by what the placeholder becomes. -/
theorem of_begins {s key after result : List Char} {keys : List String} (h : Begins s key after)
    (hafter : Rewrites resolver after keys result) :
    Rewrites resolver s (Piece.key key :: keys) ((Piece.slot key).fill resolver ++ result) := by
  rw [Piece.fill]
  cases hkey : resolver (Piece.key key) with
  | some value => exact known h hkey hafter
  | none =>
    have hkept := unknown h hkey hafter
    simpa [Piece.raw] using hkept

/-- A text that begins with a placeholder is rewritten in no other way. -/
theorem exists_of_begins {s key after result : List Char} {keys : List String}
    (h : Rewrites resolver s keys result) (hbegins : Begins s key after) :
    ∃ keys' result', Rewrites resolver after keys' result' ∧ keys = Piece.key key :: keys' ∧
      result = (Piece.slot key).fill resolver ++ result' := by
  cases h with
  | stop => exact absurd hbegins.eq (by simp)
  | known hbegins' hvalue hafter =>
    obtain ⟨rfl, rfl⟩ := hbegins.unique hbegins'
    refine ⟨_, _, hafter, rfl, ?_⟩
    simp [Piece.fill, hvalue]
  | unknown hbegins' hnone hafter =>
    obtain ⟨rfl, rfl⟩ := hbegins.unique hbegins'
    refine ⟨_, _, hafter, rfl, ?_⟩
    simp [Piece.fill, Piece.raw, hnone]
  | copy hother => exact absurd hbegins (hother key after)

/-- Rewriting a text meets the same keys and gives the same result every time. -/
theorem unique {s result : List Char} {keys : List String} (h : Rewrites resolver s keys result)
    {result' : List Char} {keys' : List String} (h' : Rewrites resolver s keys' result') :
    keys' = keys ∧ result' = result := by
  induction h generalizing keys' result' with
  | stop =>
    cases h' with
    | stop => exact ⟨rfl, rfl⟩
    | known hbegins => exact absurd hbegins.eq (by simp)
    | unknown hbegins => exact absurd hbegins.eq (by simp)
  | known hbegins hvalue _ ih =>
    obtain ⟨keys'', result'', hafter, rfl, rfl⟩ := h'.exists_of_begins hbegins
    obtain ⟨rfl, rfl⟩ := ih hafter
    simp [Piece.fill, hvalue]
  | unknown hbegins hnone _ ih =>
    obtain ⟨keys'', result'', hafter, rfl, rfl⟩ := h'.exists_of_begins hbegins
    obtain ⟨rfl, rfl⟩ := ih hafter
    simp [Piece.fill, Piece.raw, hnone]
  | copy hother _ ih =>
    cases h' with
    | known hbegins => exact absurd hbegins (hother _ _)
    | unknown hbegins => exact absurd hbegins (hother _ _)
    | copy _ hrest =>
      obtain ⟨rfl, rfl⟩ := ih hrest
      exact ⟨rfl, rfl⟩

/-- A text none of whose keys is known is not changed. -/
theorem eq_self {s result : List Char} {keys : List String} (h : Rewrites resolver s keys result)
    (hkeys : ∀ key ∈ keys, resolver key = none) : result = s := by
  induction h with
  | stop => rfl
  | known _ hvalue => simp [hkeys _ List.mem_cons_self] at hvalue
  | unknown hbegins _ _ ih =>
    rw [ih fun key hkey => hkeys key (List.mem_cons_of_mem _ hkey), hbegins.eq]
  | copy _ _ ih => rw [ih hkeys]

end Rewrites

/-- The pieces of a text, filled in, are what the text is rewritten to. -/
theorem rewrites_flatMap_pieces (resolver : Resolver) (s : List Char) :
    ∃ keys, Rewrites resolver s keys ((pieces s).flatMap (Piece.fill resolver)) := by
  fun_induction pieces s with
  | case1 => exact ⟨[], .stop⟩
  | case2 rest inner after hslot ih =>
    obtain ⟨keys, hafter⟩ := ih
    exact ⟨_, hafter.of_begins (begins_iff.2 ⟨rest, rfl, hslot⟩)⟩
  | case3 rest hslot ih =>
    -- Neither of the two opening braces begins a placeholder.
    obtain ⟨keys, hrest⟩ := ih
    refine ⟨keys, .copy (not_begins_cons ?first) (.copy (not_begins_cons ?second) hrest)⟩
    case first =>
      rintro t - heq
      obtain rfl : rest = t := by simpa using heq
      exact hslot
    case second =>
      rintro t - rfl
      exact slot?_eq_none_of_cons (by decide) hslot
  | case4 c rest hc ih =>
    obtain ⟨keys, hrest⟩ := ih
    refine ⟨keys, .copy (not_begins_cons ?_) hrest⟩
    rintro t rfl rfl
    exact absurd rfl (hc t rfl)

end Volley.Template

namespace Volley

/-- Filling in a text is rewriting it from left to right, which has no other result. A text none of
whose keys is known comes back unchanged. -/
theorem substitute_rewrites (resolver : Resolver) (s : String) :
    ∃ keys, Template.Rewrites resolver s.toList keys (substitute resolver s).toList ∧
      (∀ keys' result, Template.Rewrites resolver s.toList keys' result →
        keys' = keys ∧ result = (substitute resolver s).toList) ∧
      ((∀ key ∈ keys, resolver key = none) → substitute resolver s = s) := by
  obtain ⟨keys, h⟩ := Template.rewrites_flatMap_pieces resolver s.toList
  have hresult : (substitute resolver s).toList =
      (Template.pieces s.toList).flatMap (Piece.fill resolver) := String.toList_ofList
  rw [← hresult] at h
  refine ⟨keys, h, fun keys' result h' => h.unique h', fun hkeys => ?_⟩
  exact String.toList_inj.1 (h.eq_self hkeys)

end Volley
