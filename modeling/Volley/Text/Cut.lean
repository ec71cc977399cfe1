/-!
# Cutting a text at a mark

The text before and after the first place where a mark stands, and the same for the last place of a
single character; and the parts of a text between all the characters of a kind. `eq_of_cut?` says
that the two parts with the mark between them are the text.
-/

namespace Volley.Text

/-- The text before the first occurrence of `mark` and the text after it. -/
def cut? (mark : List Char) : List Char → Option (List Char × List Char)
  | [] => if mark.isEmpty then some ([], []) else none
  | c :: rest =>
    if mark.isPrefixOf (c :: rest) then some ([], (c :: rest).drop mark.length)
    else (cut? mark rest).map fun (before, after) => (c :: before, after)

/-- The text before the last occurrence of the character `x` and the text after it. -/
def cutLast? (x : Char) (s : List Char) : Option (List Char × List Char) :=
  (cut? [x] s.reverse).map fun (after, before) => (before.reverse, after.reverse)

/-- The text after `start`, if the text begins with it. -/
def dropStart? (start s : List Char) : Option (List Char) :=
  if start.isPrefixOf s then some (s.drop start.length) else none

/-- The text before `stop`, if the text ends with it. -/
def dropStop? (stop s : List Char) : Option (List Char) :=
  (dropStart? stop.reverse s.reverse).map List.reverse

/-- The parts of a text between the characters at which it breaks. There is one part more than there
are such characters. -/
def split (isBreak : Char → Bool) (s : List Char) : List (List Char) :=
  s.foldr (fun c parts =>
    if isBreak c then [] :: parts
    else match parts with
      | [] => [[c]]
      | part :: rest => (c :: part) :: rest) [[]]

/-- The parts that a cut returns, with the mark between them, are the text that was cut. -/
theorem eq_of_cut? {mark s before after : List Char} (h : cut? mark s = some (before, after)) :
    s = before ++ mark ++ after := by
  induction s generalizing before with
  | nil =>
    unfold cut? at h
    split at h
    · rename_i hm
      simp_all
    · simp at h
  | cons c rest ih =>
    unfold cut? at h
    split at h
    · rename_i hp
      obtain ⟨tail, ht⟩ := List.isPrefixOf_iff_prefix.1 hp
      have hb : before = [] ∧ after = (c :: rest).drop mark.length := by simpa [eq_comm] using h
      rw [hb.1, hb.2, ← ht]
      simp
    · obtain ⟨⟨b, a⟩, hcut, heq⟩ := Option.map_eq_some_iff.1 h
      simp only [Prod.mk.injEq] at heq
      obtain ⟨rfl, rfl⟩ := heq
      simpa using ih hcut

end Volley.Text
