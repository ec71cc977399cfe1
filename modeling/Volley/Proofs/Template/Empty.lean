import Volley.Proofs.Template.Fusion

/-!
# Empty placeholders

A key has at least one character, so two opening braces with two closing ones right behind them are
no placeholder by themselves. But the closing braces are then taken for the beginning of a key, and
where two more closing braces follow on the line, everything up to these is one placeholder. A
placeholder that stands in between is part of that key and is not filled in.

So an empty placeholder is plain text exactly where no closing braces follow on its line
(`slot?_closing_eq_none_iff`), which is where no placeholder follows there. `slot?_closing` says
what the key is elsewhere. What comes after the line, or after the braces that end the key, is
filled in as ever.
-/

namespace Volley

namespace Template

open Text

/-- Opening and closing braces with nothing between them. -/
def emptySlot : String := "\x7b\x7b\x7d\x7d"

/-- Closing braces on the first line of a text are the first ones in the text or come after them. -/
theorem exists_cut?_of_firstLine {t : List Char} (h : ['\x7d', '\x7d'] <:+: firstLine t) :
    ∃ before after, cut? ['\x7d', '\x7d'] t = some (before, after) ∧ '\n' ∉ before := by
  have hline : ¬ slot? (' ' :: t) = none := by
    rw [slot?_eq_none_iff, firstLine_cons (by decide), List.tail_cons]
    exact not_not_intro h
  obtain ⟨parts, hslot⟩ := Option.ne_none_iff_exists'.1 hline
  obtain ⟨before, hinner, hfree, hcut⟩ := slot?_cons_eq_some_iff.1 hslot
  rw [hinner, List.mem_cons, not_or] at hfree
  exact ⟨before, parts.2, hcut, hfree.2⟩

section

variable {t : List Char} (ht : t.head? ≠ some '\x7d')
include ht

/-- No two closing braces begin at a closing brace that another character follows. -/
theorem not_prefix_closing : ¬ ['\x7d', '\x7d'] <+: '\x7d' :: t := by
  rw [List.cons_prefix_cons, not_and]
  rintro - ⟨rest, rfl⟩
  exact ht rfl

/-- The closing braces of an empty placeholder begin a key that ends at the next closing braces. -/
theorem slot?_closing {before after : List Char}
    (hcut : cut? ['\x7d', '\x7d'] t = some (before, after)) (hline : '\n' ∉ before) :
    slot? ('\x7d' :: '\x7d' :: t) = some ('\x7d' :: '\x7d' :: before, after) := by
  refine slot?_cons_eq_some_iff.2 ⟨'\x7d' :: before, rfl, ?_, ?_⟩
  · simpa using hline
  · rw [cut?_cons (not_prefix_closing ht), hcut, Option.map_some]

/-- An empty placeholder begins none exactly if no closing braces follow on its line. -/
theorem slot?_closing_eq_none_iff :
    slot? ('\x7d' :: '\x7d' :: t) = none ↔ ¬ ['\x7d', '\x7d'] <:+: firstLine t := by
  have hfirst : (firstLine t).head? ≠ some '\x7d' := by
    intro hhead
    cases t with
    | nil => simp [firstLine] at hhead
    | cons c rest =>
      by_cases hc : c = '\n'
      · simp [firstLine, hc] at hhead
      · rw [firstLine_cons hc] at hhead
        exact ht hhead
  rw [slot?_eq_none_iff, firstLine_cons (by decide), firstLine_cons (by decide), List.tail_cons,
    List.infix_cons_iff, or_iff_right (not_prefix_closing hfirst)]

/-- Where no closing braces follow on its line, an empty placeholder is four characters. -/
theorem pieces_emptySlot (hline : ¬ ['\x7d', '\x7d'] <:+: firstLine t) :
    pieces (emptySlot.toList ++ t) = emptySlot.toList.map .char ++ pieces t := by
  have hslot := (slot?_closing_eq_none_iff ht).2 hline
  have hclosing := pieces_append_of_notMem (s := ['\x7d', '\x7d']) (by decide) t
  show pieces ('\x7b' :: '\x7b' :: '\x7d' :: '\x7d' :: t) = _
  rw [pieces_open hslot]
  show _ :: _ :: pieces (['\x7d', '\x7d'] ++ t) = _
  rw [hclosing]
  rfl

/-- Where closing braces follow on its line, an empty placeholder and the text up to these are one
placeholder. -/
theorem pieces_emptySlot_of_cut? {before after : List Char}
    (hcut : cut? ['\x7d', '\x7d'] t = some (before, after)) (hline : '\n' ∉ before) :
    pieces (emptySlot.toList ++ t) = .slot ('\x7d' :: '\x7d' :: before) :: pieces after :=
  pieces_slot (slot?_closing ht hcut hline)

end

end Template

open Template

/-- An empty placeholder is plain text for every resolver exactly if no closing braces follow on its
line. Otherwise it ends at these braces, so that what stands before them is only looked at as part
of its key. -/
theorem substitute_emptySlot (t : String) (ht : t.toList.head? ≠ some '\x7d') :
    ((∀ resolver, substitute resolver (emptySlot ++ t) = emptySlot ++ substitute resolver t) ↔
      ¬ ['\x7d', '\x7d'] <:+: firstLine t.toList) ∧
    ∀ before after, Text.cut? ['\x7d', '\x7d'] t.toList = some (before, after) → '\n' ∉ before →
      ∀ resolver, substitute resolver (emptySlot ++ t) =
        String.ofList ((Piece.slot ('\x7d' :: '\x7d' :: before)).fill resolver) ++
          substitute resolver (String.ofList after) := by
  have hkey (before after : List Char)
      (hcut : Text.cut? ['\x7d', '\x7d'] t.toList = some (before, after)) (hline : '\n' ∉ before)
      (resolver : Resolver) : substitute resolver (emptySlot ++ t) =
        String.ofList ((Piece.slot ('\x7d' :: '\x7d' :: before)).fill resolver) ++
          substitute resolver (String.ofList after) := by
    rw [substitute, String.toList_append, pieces_emptySlot_of_cut? ht hcut hline, List.flatMap_cons,
      String.ofList_append, substitute, String.toList_ofList]
  refine ⟨⟨fun hplain hmark => ?plain, fun hline resolver => ?free⟩, hkey⟩
  case plain =>
    -- A resolver that knows the key puts something else in the place of the braces.
    obtain ⟨before, after, hcut, hline⟩ := exists_cut?_of_firstLine hmark
    have hfilled := (hkey before after hcut hline fun _ => some "x").symm.trans (hplain _)
    have hhead := congrArg (fun text => text.toList.head?) hfilled
    simp [Piece.fill, emptySlot] at hhead
  case free =>
    rw [substitute, String.toList_append, pieces_emptySlot ht hline, List.flatMap_append,
      String.ofList_append, substitute]
    rfl

/-- A placeholder on the next line is filled in behind an empty one, and one on the same line is
not: it is part of a key. -/
theorem substitute_emptySlot_twoLines :
    " \x7b\x7ba\x7d\x7d\n\x7b\x7ba\x7d\x7d".toList.head? ≠ some '\x7d' ∧
    (¬ ∀ resolver, substitute resolver (emptySlot ++ " \x7b\x7ba\x7d\x7d\n\x7b\x7ba\x7d\x7d") =
      emptySlot ++ substitute resolver " \x7b\x7ba\x7d\x7d\n\x7b\x7ba\x7d\x7d") ∧
    ∀ resolver, substitute resolver (emptySlot ++ " \x7b\x7ba\x7d\x7d\n\x7b\x7ba\x7d\x7d") =
      String.ofList ((Piece.slot "\x7d\x7d \x7b\x7ba".toList).fill resolver) ++
        substitute resolver (String.ofList "\n\x7b\x7ba\x7d\x7d".toList) := by
  have ht : " \x7b\x7ba\x7d\x7d\n\x7b\x7ba\x7d\x7d".toList.head? ≠ some '\x7d' := by decide
  have hmark : ['\x7d', '\x7d'] <:+:
      firstLine " \x7b\x7ba\x7d\x7d\n\x7b\x7ba\x7d\x7d".toList := by decide +kernel
  have hcut : Text.cut? ['\x7d', '\x7d'] " \x7b\x7ba\x7d\x7d\n\x7b\x7ba\x7d\x7d".toList =
      some (" \x7b\x7ba".toList, "\n\x7b\x7ba\x7d\x7d".toList) := by decide +kernel
  exact ⟨ht, fun h => (substitute_emptySlot _ ht).1.1 h hmark,
    (substitute_emptySlot _ ht).2 _ _ hcut (by decide)⟩

/-- An empty placeholder is not always plain text: a known placeholder behind it is not filled
in. -/
theorem not_forall_emptySlot :
    ¬ ∀ (t : String) (resolver : Resolver), t.toList.head? ≠ some '\x7d' →
      substitute resolver (emptySlot ++ t) = emptySlot ++ substitute resolver t := by
  intro h
  obtain ⟨known, hknown⟩ : ∃ known : Resolver,
      known = fun key => if key = "a" then some "1" else none := ⟨_, rfl⟩
  have hfilled : substitute known "\x7b\x7ba\x7d\x7d" = "1" := by
    have hpieces : pieces "\x7b\x7ba\x7d\x7d".toList = [.slot ['a']] := by
      rw [← pieces_nil]
      exact pieces_slot (by decide +kernel)
    have hkey : Piece.key ['a'] = "a" := by decide +kernel
    rw [substitute, hpieces, List.flatMap_singleton, Piece.fill, hkey, hknown]
    rfl
  have hkept : substitute known (emptySlot ++ "\x7b\x7ba\x7d\x7d") =
      emptySlot ++ "\x7b\x7ba\x7d\x7d" := by
    have hpieces : pieces (emptySlot ++ "\x7b\x7ba\x7d\x7d").toList =
        [.slot "\x7d\x7d\x7b\x7ba".toList] := by
      rw [← pieces_nil]
      exact pieces_slot (by decide +kernel)
    have hkey : known (Piece.key "\x7d\x7d\x7b\x7ba".toList) = none := by
      rw [hknown]
      exact if_neg (by decide +kernel)
    rw [substitute, hpieces, List.flatMap_singleton, Piece.fill, hkey]
    rfl
  have hplain := h "\x7b\x7ba\x7d\x7d" known (by decide)
  rw [hkept, hfilled] at hplain
  exact absurd hplain (by decide)

end Volley
