import Mathlib.Tactic.SplitIfs
import Volley.Text.Cut

/-!
# Where a mark is found

`Text.cut?` cuts at the first place of a mark. It fails exactly when the mark stands nowhere in the
text (`cut?_eq_none_iff`), and no other place of the mark is before the one that it finds
(`length_le_of_cut?`). What it finds depends on nothing that comes after the mark, so a text that
goes on in another way there is cut at the same place (`cut?_of_cut?`). A character at which the
mark does not begin is passed over (`cut?_cons`), and so is a text without the first character of
the mark (`cut?_append_of_notMem`). A character is found at its first place, which is the only one
before which it does not stand (`notMem_of_cut?`, `cut?_append_cons`), and last at its last place,
which is the only one after which it does not stand (`eq_of_cutLast?`, `cutLast?_append_cons`).

`Text.split` takes one character at a time from the front: one at which the text breaks begins a new
part, and any other belongs to the first part (`split_cons_of_break`, `split_cons_of_not_break`).
-/

namespace Volley.Text

/-- A text has no cut exactly when the mark does not stand in it. -/
theorem cut?_eq_none_iff (mark s : List Char) : cut? mark s = none ↔ ¬ mark <:+: s := by
  induction s with
  | nil =>
    rw [cut?, List.infix_nil]
    split_ifs with h
    · simp [List.isEmpty_iff.1 h]
    · simpa using h
  | cons c rest ih =>
    rw [cut?, List.infix_cons_iff, ← List.isPrefixOf_iff_prefix]
    by_cases h : mark.isPrefixOf (c :: rest) = true
    · simp [h]
    · simp [h, ih]

/-- A text in which the mark stands has a cut. -/
theorem exists_cut?_of_infix {mark s : List Char} (h : mark <:+: s) :
    ∃ before after, cut? mark s = some (before, after) := by
  cases hcut : cut? mark s with
  | none => exact absurd h ((cut?_eq_none_iff mark s).1 hcut)
  | some parts => exact ⟨parts.1, parts.2, rfl⟩

/-- A character at which the mark does not begin is passed over. -/
theorem cut?_cons {mark rest : List Char} {c : Char} (h : ¬ mark <+: c :: rest) :
    cut? mark (c :: rest) = (cut? mark rest).map fun parts => (c :: parts.1, parts.2) := by
  rw [← List.isPrefixOf_iff_prefix] at h
  rw [cut?, if_neg h]

/-- A text that begins with the mark is cut there. -/
theorem cut?_mark_append (mark t : List Char) : cut? mark (mark ++ t) = some ([], t) := by
  cases hs : mark ++ t with
  | nil =>
    obtain ⟨rfl, rfl⟩ := List.append_eq_nil_iff.1 hs
    rfl
  | cons c rest =>
    have hp : mark.isPrefixOf (c :: rest) = true := by
      rw [← hs]
      exact List.isPrefixOf_iff_prefix.2 (List.prefix_append mark t)
    rw [cut?, if_pos hp, ← hs, List.drop_left]

/-- Where a text is cut does not depend on what follows the mark. -/
theorem cut?_of_cut? {mark s before after : List Char} (h : cut? mark s = some (before, after))
    (t : List Char) : cut? mark (before ++ mark ++ t) = some (before, t) := by
  induction s generalizing before with
  | nil =>
    rw [cut?] at h
    split_ifs at h
    obtain ⟨rfl, rfl⟩ : before = [] ∧ after = [] := by simpa [eq_comm] using h
    exact cut?_mark_append mark t
  | cons c rest ih =>
    rw [cut?] at h
    split_ifs at h with hp
    · obtain ⟨rfl, -⟩ : before = [] ∧ _ := by simpa [eq_comm] using h
      exact cut?_mark_append mark t
    · obtain ⟨⟨b, a⟩, hcut, heq⟩ := Option.map_eq_some_iff.1 h
      obtain ⟨rfl, rfl⟩ : c :: b = before ∧ a = after := by simpa using heq
      -- A mark that began at `c` would end before the one that was found does.
      have hp' : ¬ mark <+: c :: (b ++ mark ++ t) := by
        rw [List.isPrefixOf_iff_prefix] at hp
        intro hpre
        have hshort : mark <+: c :: b ++ mark :=
          List.prefix_of_prefix_length_le hpre (by simp) (by simp; omega)
        apply hp
        rw [eq_of_cut? hcut]
        exact hshort.trans (by simp)
      rw [List.cons_append, List.cons_append, cut?_cons hp', ih hcut, Option.map_some]

/-- A text is cut at the first place of the mark. -/
theorem length_le_of_cut? {mark s before after : List Char} (h : cut? mark s = some (before, after))
    {u v : List Char} (hs : s = u ++ mark ++ v) : before.length ≤ u.length := by
  induction s generalizing before u with
  | nil =>
    rw [cut?] at h
    split_ifs at h
    obtain ⟨rfl, -⟩ : before = [] ∧ after = [] := by simpa [eq_comm] using h
    exact Nat.zero_le _
  | cons c rest ih =>
    rw [cut?] at h
    split_ifs at h with hp
    · obtain ⟨rfl, -⟩ : before = [] ∧ _ := by simpa [eq_comm] using h
      exact Nat.zero_le _
    · obtain ⟨⟨b, a⟩, hcut, heq⟩ := Option.map_eq_some_iff.1 h
      obtain ⟨rfl, rfl⟩ : c :: b = before ∧ a = after := by simpa using heq
      cases u with
      | nil =>
        rw [List.isPrefixOf_iff_prefix, hs] at hp
        exact absurd (List.prefix_append mark v) hp
      | cons d u =>
        have hrest : rest = u ++ mark ++ v := by
          simpa using (List.cons.inj hs).2
        exact Nat.succ_le_succ (ih hcut hrest)

/-- A text without the character with which the mark begins is passed over. -/
theorem cut?_append_of_notMem {x : Char} {s : List Char} (h : x ∉ s) (mark t : List Char) :
    cut? (x :: mark) (s ++ t) =
      (cut? (x :: mark) t).map fun parts => (s ++ parts.1, parts.2) := by
  induction s with
  | nil => simp
  | cons c rest ih =>
    rw [List.mem_cons, not_or] at h
    have hp : ¬ x :: mark <+: c :: (rest ++ t) := by
      rw [List.cons_prefix_cons]
      exact fun hp => h.1 hp.1
    rw [List.cons_append, cut?_cons hp, ih h.2, Option.map_map]
    rfl

/-- A text is cut at a character that does not stand before it. -/
theorem cut?_append_cons {x : Char} {s : List Char} (h : x ∉ s) (t : List Char) :
    cut? [x] (s ++ x :: t) = some (s, t) := by
  have hmark : cut? [x] (x :: t) = some ([], t) := cut?_mark_append [x] t
  rw [cut?_append_of_notMem h, hmark, Option.map_some, List.append_nil]

/-- What stands before the first place of a character and what stands after it are determined. -/
theorem append_cons_inj {x : Char} {s t u v : List Char} (hs : x ∉ s) (ht : x ∉ t)
    (h : s ++ x :: u = t ++ x :: v) : s = t ∧ u = v := by
  have hcut := cut?_append_cons hs u
  rw [h, cut?_append_cons ht v] at hcut
  simpa [eq_comm] using hcut

/-- A mark that is a word between two of the same character passes over another word there. -/
theorem cut?_append_cons_of_ne {x : Char} {word part : List Char} (hword : x ∉ word)
    (hpart : x ∉ part) (hne : part ≠ word) (t : List Char) :
    cut? (x :: (word ++ [x])) (x :: (part ++ x :: t)) =
      (cut? (x :: (word ++ [x])) (x :: t)).map fun parts => (x :: (part ++ parts.1), parts.2) := by
  have hp : ¬ x :: (word ++ [x]) <+: x :: (part ++ x :: t) := by
    rw [List.cons_prefix_cons, not_and]
    rintro - ⟨tail, htail⟩
    rw [List.append_assoc, List.singleton_append] at htail
    exact hne (append_cons_inj hpart hword htail.symm).1
  rw [cut?_cons hp, cut?_append_of_notMem hpart, Option.map_map]
  rfl

/-- A single character does not stand before the first place where it stands. -/
theorem notMem_of_cut? {x : Char} {s before after : List Char}
    (h : cut? [x] s = some (before, after)) : x ∉ before := by
  induction s generalizing before with
  | nil => simp [cut?] at h
  | cons c rest ih =>
    rw [cut?] at h
    split_ifs at h with hp
    · obtain ⟨rfl, -⟩ : before = [] ∧ _ := by simpa [eq_comm] using h
      exact List.not_mem_nil
    · obtain ⟨⟨b, a⟩, hcut, heq⟩ := Option.map_eq_some_iff.1 h
      obtain ⟨rfl, rfl⟩ : c :: b = before ∧ a = after := by simpa using heq
      rw [List.mem_cons, not_or]
      refine ⟨?_, ih hcut⟩
      simpa using hp

/-- What is left after a start stands behind it. -/
theorem eq_append_of_dropStart? {start s rest : List Char} (h : dropStart? start s = some rest) :
    s = start ++ rest := by
  unfold dropStart? at h
  split_ifs at h with hstart
  obtain ⟨later, rfl⟩ := List.isPrefixOf_iff_prefix.1 hstart
  simpa using h

/-- What is left before an end stands in front of it. -/
theorem eq_append_of_dropStop? {stop s rest : List Char} (h : dropStop? stop s = some rest) :
    s = rest ++ stop := by
  obtain ⟨reversed, hdrop, rfl⟩ := Option.map_eq_some_iff.1 h
  rw [← List.reverse_reverse s, eq_append_of_dropStart? hdrop]
  simp

/-- An end is taken away. -/
theorem dropStop?_append (stop s : List Char) : dropStop? stop (s ++ stop) = some s := by
  simp [dropStop?, dropStart?]

/-- A text that does not end in a character has none to take away. -/
theorem dropStop?_eq_none {x : Char} {s : List Char} (h : s.getLast? ≠ some x) :
    dropStop? [x] s = none := by
  refine Option.eq_none_iff_forall_ne_some.2 fun rest hrest => h ?_
  rw [eq_append_of_dropStop? hrest, List.getLast?_concat]

/-- A last cut leaves the text before a character and the text after it, and the character stands no
more in that one. -/
theorem eq_of_cutLast? {x : Char} {s before after : List Char}
    (h : cutLast? x s = some (before, after)) : s = before ++ x :: after ∧ x ∉ after := by
  obtain ⟨⟨a, b⟩, hcut, heq⟩ := Option.map_eq_some_iff.1 h
  obtain ⟨rfl, rfl⟩ : b.reverse = before ∧ a.reverse = after := by simpa using heq
  refine ⟨?_, mt List.mem_reverse.1 (notMem_of_cut? hcut)⟩
  rw [← List.reverse_reverse s, eq_of_cut? hcut]
  simp

/-- If a character stands in a text twice, a last cut leaves one before it. -/
theorem mem_of_cutLast? {x : Char} {s before after : List Char}
    (h : cutLast? x s = some (before, after)) (hcount : 2 ≤ s.count x) : x ∈ before := by
  obtain ⟨hs, hafter⟩ := eq_of_cutLast? h
  rw [hs, List.count_append, List.count_cons_self, List.count_eq_zero_of_not_mem hafter] at hcount
  exact List.count_pos_iff.1 (by omega)

/-- A text is cut at a character that stands no more after it. -/
theorem cutLast?_append_cons {x : Char} {t : List Char} (h : x ∉ t) (s : List Char) :
    cutLast? x (s ++ x :: t) = some (s, t) := by
  have hreverse : (s ++ x :: t).reverse = t.reverse ++ x :: s.reverse := by simp
  rw [cutLast?, hreverse, cut?_append_cons (mt List.mem_reverse.1 h)]
  simp

/-- Before a character at which a text breaks there is an empty part. -/
theorem split_cons_of_break {isBreak : Char → Bool} {c : Char} (hc : isBreak c = true)
    (s : List Char) : split isBreak (c :: s) = [] :: split isBreak s := by
  rw [split, List.foldr_cons, if_pos hc]
  rfl

/-- A character at which a text does not break belongs to the first part. -/
theorem split_cons_of_not_break {isBreak : Char → Bool} {c : Char} (hc : isBreak c = false)
    {s part : List Char} {rest : List (List Char)} (hs : split isBreak s = part :: rest) :
    split isBreak (c :: s) = (c :: part) :: rest := by
  rw [split] at hs
  rw [split, List.foldr_cons, hs, if_neg (by simp [hc])]

/-- A text has a part. -/
theorem split_ne_nil (isBreak : Char → Bool) (s : List Char) : split isBreak s ≠ [] := by
  induction s with
  | nil => exact List.cons_ne_nil _ _
  | cons c rest ih =>
    cases hc : isBreak c with
    | true =>
      rw [split_cons_of_break hc]
      exact List.cons_ne_nil _ _
    | false =>
      obtain ⟨part, later, hsplit⟩ := List.exists_cons_of_ne_nil ih
      rw [split_cons_of_not_break hc hsplit]
      exact List.cons_ne_nil _ _

/-- The parts together are the text without the characters at which it breaks. -/
theorem flatten_split (isBreak : Char → Bool) (s : List Char) :
    (split isBreak s).flatten = s.filter (!isBreak ·) := by
  induction s with
  | nil => rfl
  | cons c rest ih =>
    cases hc : isBreak c with
    | true =>
      rw [split_cons_of_break hc, List.flatten_cons, ih, List.filter_cons_of_neg (by simp [hc])]
      rfl
    | false =>
      obtain ⟨part, later, hsplit⟩ := List.exists_cons_of_ne_nil (split_ne_nil isBreak rest)
      rw [split_cons_of_not_break hc hsplit, List.filter_cons_of_pos (by simp [hc]), ← ih, hsplit]
      rfl

end Volley.Text
