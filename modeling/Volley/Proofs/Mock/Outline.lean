import Mathlib.Data.List.Nodup
import Volley.Mock.Shape
import Volley.Proofs.Calendar.Field

/-!
# Shapes are known by their outlines

The outline of a text has a gap for every digit and all other characters as they are. A shape of
digits and marks has an outline too, and it covers just the texts with the same one
(`covers_iff_outline`). So two shapes with different outlines have no text in common. The builtin
shapes have six different outlines (`eq_of_covers`).

A format has an outline where its fields always have the same number of digits and its marks are no
digits, and every time that is written in the format has that outline (`outline_text`). With the
builtin shapes, it is the outline of the shape.
-/

namespace Volley.Mock

open Calendar (Field FormatPiece Format Zone Instant)

/-- The outline of a text: a gap for every digit, and any other character. -/
def outline (s : List Char) : List (Option Char) :=
  s.map fun c => if Text.isDigit c then none else some c

/-- Outlines of texts that are put together are put together. -/
theorem outline_append (s s' : List Char) : outline (s ++ s') = outline s ++ outline s' :=
  List.map_append

/-- Digits have nothing but gaps. -/
theorem outline_of_isDigit {s : List Char} (h : ∀ c ∈ s, Text.isDigit c = true) :
    outline s = List.replicate s.length none :=
  List.map_eq_replicate_iff.2 fun c hc => if_pos (h c hc)

/-! ## Shapes -/

/-- The outline of a piece of digits or of a mark that is none. Other pieces have none. -/
def ShapePiece.outline? : ShapePiece → Option (List (Option Char))
  | .digits count => some (List.replicate count none)
  | .mark c => if Text.isDigit c then none else some [some c]
  | .someDigits | .literal _ => none

/-- The outline of a shape, if all its pieces have one. -/
def Shape.outline? : Shape → Option (List (Option Char))
  | [] => some []
  | piece :: rest => do
    let first ← piece.outline?
    let later ← outline? rest
    return first ++ later

/-- The outlines of the pieces of a shape that has one. -/
theorem exists_of_outline?_cons {piece : ShapePiece} {rest : Shape} {gaps : List (Option Char)}
    (h : Shape.outline? (piece :: rest) = some gaps) :
    ∃ first later, piece.outline? = some first ∧ Shape.outline? rest = some later ∧
      gaps = first ++ later := by
  obtain ⟨first, hfirst, h⟩ := Option.bind_eq_some_iff.1 h
  obtain ⟨later, hlater, h⟩ := Option.bind_eq_some_iff.1 h
  exact ⟨first, later, hfirst, hlater, (Option.some_inj.1 h).symm⟩

/-- A piece is stripped from a text if it is a part of that outline. -/
theorem strip?_eq_some_iff {piece : ShapePiece} {gaps : List (Option Char)}
    (h : piece.outline? = some gaps) {s after : List Char} :
    piece.strip? s = some after ↔ ∃ before, s = before ++ after ∧ outline before = gaps := by
  cases piece with
  | digits count =>
    obtain rfl := Option.some_inj.1 h
    rw [ShapePiece.strip?]
    constructor
    · intro hstrip
      split at hstrip
      next hdigits =>
        obtain rfl := Option.some_inj.1 hstrip
        refine ⟨s.take count, (List.take_append_drop ..).symm, ?_⟩
        rw [outline_of_isDigit (List.all_eq_true.1 hdigits.2), hdigits.1]
      next => cases hstrip
    · rintro ⟨before, rfl, hbefore⟩
      obtain ⟨hlength, hgaps⟩ := List.eq_replicate_iff.1 hbefore
      rw [outline, List.length_map] at hlength
      have hdigits : ∀ c ∈ before, Text.isDigit c = true := by
        intro c hc
        have hgap := hgaps _ (List.mem_map_of_mem hc)
        by_contra hdigit
        rw [if_neg hdigit] at hgap
        cases hgap
      rw [List.take_left' hlength, List.drop_left' hlength,
        if_pos ⟨hlength, List.all_eq_true.2 hdigits⟩]
  | mark m =>
    rw [ShapePiece.outline?] at h
    split at h
    next => cases h
    next hm =>
      obtain rfl := Option.some_inj.1 h
      have hmark : outline [m] = [some m] := by rw [outline, List.map_singleton, if_neg hm]
      constructor
      · intro hstrip
        cases s with
        | nil => cases hstrip
        | cons c rest =>
          rw [ShapePiece.strip?] at hstrip
          split at hstrip
          next hc =>
            obtain rfl := Option.some_inj.1 hstrip
            exact ⟨[m], hc ▸ rfl, hmark⟩
          next => cases hstrip
      · rintro ⟨before, rfl, hbefore⟩
        obtain ⟨c, rfl, hc⟩ := List.map_eq_singleton_iff.1 hbefore
        split at hc
        next => cases hc
        next =>
          obtain rfl := Option.some_inj.1 hc
          exact if_pos rfl
  | someDigits => cases h
  | literal t => cases h

/-- A shape with an outline covers just the texts that have the same one. -/
theorem covers_iff_outline {shape : Shape} {gaps : List (Option Char)}
    (h : shape.outline? = some gaps) (s : List Char) :
    shape.covers s = true ↔ outline s = gaps := by
  induction shape generalizing gaps s with
  | nil =>
    obtain rfl := Option.some_inj.1 h
    rw [Shape.covers, List.isEmpty_iff, outline, List.map_eq_nil_iff]
  | cons piece rest ih =>
    obtain ⟨first, later, hfirst, hlater, rfl⟩ := exists_of_outline?_cons h
    have hstrip (after : List Char) : piece.strip? s = some after ↔
        ∃ before, s = before ++ after ∧ outline before = first := strip?_eq_some_iff hfirst
    rw [Shape.covers]
    constructor
    · intro hcovers
      split at hcovers
      next after hafter =>
        obtain ⟨before, rfl, hbefore⟩ := (hstrip after).1 hafter
        rw [outline_append, hbefore, (ih hlater after).1 hcovers]
      next => cases hcovers
    · intro hgaps
      -- The text is cut where the outline of the first piece ends.
      obtain ⟨before, after, rfl, hbefore, hafter⟩ := List.map_eq_append_iff.1 hgaps
      rw [(hstrip after).2 ⟨before, rfl, hbefore⟩]
      exact (ih hlater after).2 hafter

/-- Every builtin shape has an outline, and no other one has the same. -/
theorem outlines_builtinShapes :
    (∀ shape ∈ builtinShapes, (Shape.outline? shape.1).isSome = true) ∧
      (builtinShapes.map fun shape => Shape.outline? shape.1).Nodup := by
  decide

/-- No text is covered by two builtin shapes. -/
theorem eq_of_covers {p q : Shape × Format} (hp : p ∈ builtinShapes) (hq : q ∈ builtinShapes)
    {s : List Char} (h : p.1.covers s = true) (h' : q.1.covers s = true) : p = q := by
  obtain ⟨houtlines, hnodup⟩ := outlines_builtinShapes
  obtain ⟨gaps, hgaps⟩ := Option.isSome_iff_exists.1 (houtlines p hp)
  obtain ⟨gaps', hgaps'⟩ := Option.isSome_iff_exists.1 (houtlines q hq)
  refine List.inj_on_of_nodup_map hnodup hp hq ?_
  rw [hgaps, hgaps', ← (covers_iff_outline hgaps s).1 h, (covers_iff_outline hgaps' s).1 h']

/-! ## Formats -/

/-- The outline of a field that always has the same number of digits, or of a mark that is none. -/
def pieceOutline? : FormatPiece → Option (List (Option Char))
  | .field f => f.width?.map (List.replicate · none)
  | .char c => if Text.isDigit c then none else some [some c]

/-- The outline of a format, if all its pieces have one. -/
def formatOutline? : Format → Option (List (Option Char))
  | [] => some []
  | piece :: rest => do
    let first ← pieceOutline? piece
    let later ← formatOutline? rest
    return first ++ later

/-- A time is written with the outline of the format, if its year has four digits. -/
theorem outline_text {z : Zone} {t : Instant}
    (hyear : 0 ≤ (t.date z).year ∧ (t.date z).year ≤ 9999)
    (hnanos : t.nanos < 2 * Calendar.nanosPerSecond) {format : Format} {gaps : List (Option Char)}
    (h : formatOutline? format = some gaps) : outline (Format.text z t format) = gaps := by
  induction format generalizing gaps with
  | nil => exact Option.some_inj.1 h
  | cons piece rest ih =>
    obtain ⟨first, hfirst, h⟩ := Option.bind_eq_some_iff.1 h
    obtain ⟨later, hlater, h⟩ := Option.bind_eq_some_iff.1 h
    obtain rfl := Option.some_inj.1 h
    rw [Format.text, List.flatMap_cons, outline_append]
    refine congrArg₂ _ ?_ (ih hlater)
    cases piece with
    | field f =>
      obtain ⟨width, hwidth, rfl⟩ := Option.map_eq_some_iff.1 hfirst
      obtain ⟨hpos, n, hn, htext⟩ := Field.exists_padded hwidth hyear hnanos
      show outline (f.text z t) = _
      rw [htext, outline_of_isDigit fun c hc =>
        Text.isDigit_of_isDigit (Calendar.isDigit_of_mem_padded hc), Calendar.length_padded hpos hn]
    | char c =>
      rw [pieceOutline?] at hfirst
      split at hfirst
      next => cases hfirst
      next hc =>
        obtain rfl := Option.some_inj.1 hfirst
        show outline [c] = [some c]
        rw [outline, List.map_singleton, if_neg hc]

/-- The format of a builtin shape has the same outline as the shape. -/
theorem formatOutline?_eq {shape : Shape × Format} (h : shape ∈ builtinShapes) :
    formatOutline? shape.2 = Shape.outline? shape.1 := by
  have hall : ∀ shape ∈ builtinShapes, formatOutline? shape.2 = Shape.outline? shape.1 := by decide
  exact hall shape h

/-- A time that is written in the format of a builtin shape is covered by the shape. -/
theorem covers_text {shape : Shape × Format} (h : shape ∈ builtinShapes) {z : Zone} {t : Instant}
    (hyear : 0 ≤ (t.date z).year ∧ (t.date z).year ≤ 9999)
    (hnanos : t.nanos < 2 * Calendar.nanosPerSecond) :
    shape.1.covers (Format.text z t shape.2) = true := by
  obtain ⟨gaps, hgaps⟩ := Option.isSome_iff_exists.1 (outlines_builtinShapes.1 shape h)
  exact (covers_iff_outline hgaps _).2 (outline_text hyear hnanos ((formatOutline?_eq h).trans hgaps))

end Volley.Mock
