import Volley.Proofs.Template.Pieces

/-!
# Two passes are one

A text may be filled in more than once: what the first resolver does not know is left as it was
written, for a later one. If no value of the first resolver has an opening brace in it, the second
pass meets exactly the placeholders that the first one left. `pieces_flatMap_fill` says so of the
pieces, and `substitute_substitute` of the texts: two passes give what one pass gives with the chain
of the two resolvers.

The cases of `pieces_flatMap_fill` are the ways in which a text can begin. A placeholder that was
left ends where it ended, whatever follows it now. Two opening braces that began no placeholder
begin none now, because the first pass has not touched their line. Any other character is not
followed by an opening brace that it was not followed by before, because a placeholder never stands
right after a single opening brace.
-/

namespace Volley

namespace Piece

/-- The pieces that a pass leaves of a piece: the characters of its value, or the piece itself. -/
def settle (resolver : Resolver) : Piece → List Piece
  | .char c => [.char c]
  | .slot inner =>
    match resolver (key inner) with
    | some value => value.toList.map .char
    | none => [.slot inner]

/-- A piece that is filled in by two resolvers in turn is filled in by their chain. -/
theorem flatMap_fill_settle (first second : Resolver) (piece : Piece) :
    (piece.settle first).flatMap (fill second) = piece.fill (Resolver.chain [first, second]) := by
  cases piece with
  | char c => rfl
  | slot inner =>
    rw [settle, fill, Resolver.chain]
    cases hfirst : first (key inner) with
    | some value => simp [hfirst, fill, List.flatMap_map]
    | none =>
      cases hsecond : second (key inner) with
      | some value => simp [hfirst, hsecond, fill]
      | none => simp [hfirst, hsecond, fill]

end Piece

namespace Template

/-- A text whose first character is no opening brace still begins with that character after a
pass. -/
theorem head?_flatMap_fill_ne {s : List Char} (h : s.head? ≠ some '\x7b') (resolver : Resolver) :
    ((pieces s).flatMap (Piece.fill resolver)).head? ≠ some '\x7b' := by
  cases s with
  | nil => simp
  | cons c rest =>
    have hc : c ≠ '\x7b' := by simpa using h
    rw [pieces_cons fun heq => absurd heq hc]
    simpa [Piece.fill] using hc

/-- After a pass with values that have no opening brace in them, a text has the pieces that the pass
has left. -/
theorem pieces_flatMap_fill {resolver : Resolver}
    (h : ∀ key value, resolver key = some value → '\x7b' ∉ value.toList) (s : List Char) :
    pieces ((pieces s).flatMap (Piece.fill resolver)) =
      (pieces s).flatMap (Piece.settle resolver) := by
  fun_induction pieces s with
  | case1 => simp
  | case2 rest inner after hslot ih =>
    -- A placeholder: its value has no braces to begin another one, and without a value it stays.
    rw [List.flatMap_cons, List.flatMap_cons, Piece.fill, Piece.settle]
    cases hkey : resolver (Piece.key inner) with
    | some value => rw [pieces_append_of_notMem (h _ _ hkey), ih]
    | none =>
      have hslot' := slot?_of_slot? hslot ((pieces after).flatMap (Piece.fill resolver))
      simp only [Piece.raw, List.cons_append, List.append_assoc, List.nil_append]
      rw [pieces_slot hslot', ih]
  | case3 rest hslot ih =>
    -- Two opening braces without a placeholder: what follows on their line is as it was.
    have hslot' : slot? ((pieces rest).flatMap (Piece.fill resolver)) = none := by
      rw [slot?_eq_none_iff] at hslot ⊢
      rwa [firstLine_flatMap_pieces (fun c => rfl) hslot]
    simp only [List.flatMap_cons, Piece.fill, Piece.settle, List.cons_append, List.nil_append]
    rw [pieces_open hslot', ih]
  | case4 c rest hc ih =>
    -- Any other character: an opening brace gets no second one behind it.
    have hnext : c = '\x7b' →
        ((pieces rest).flatMap (Piece.fill resolver)).head? ≠ some '\x7b' := by
      rintro rfl
      apply head?_flatMap_fill_ne
      cases rest with
      | nil => simp
      | cons d rest =>
        intro hd
        exact hc rest rfl (by simpa using hd)
    simp only [List.flatMap_cons, Piece.fill, Piece.settle, List.cons_append, List.nil_append]
    rw [pieces_cons hnext, ih]

/-- Two passes over a text are one with the chain of both resolvers, piece by piece. -/
theorem flatMap_fill_flatMap_fill {first : Resolver}
    (h : ∀ key value, first key = some value → '\x7b' ∉ value.toList) (second : Resolver)
    (s : List Char) :
    (pieces ((pieces s).flatMap (Piece.fill first))).flatMap (Piece.fill second) =
      (pieces s).flatMap (Piece.fill (Resolver.chain [first, second])) := by
  rw [pieces_flatMap_fill h, List.flatMap_assoc]
  congr 1
  funext piece
  exact Piece.flatMap_fill_settle first second piece

end Template

/-- A resolver that is asked before one that knows as much does not matter. -/
theorem Resolver.chain_eq_of_le {first second : Resolver}
    (h : ∀ key value, first key = some value → second key = some value) :
    Resolver.chain [first, second] = second := by
  funext key
  rw [Resolver.chain]
  cases hfirst : first key with
  | some value => simp [hfirst, h key value hfirst]
  | none =>
    cases hsecond : second key with
    | some value => simp [hfirst, hsecond]
    | none => simp [hfirst, hsecond]

/-- The characters of a text after a pass. -/
theorem toList_substitute (resolver : Resolver) (s : String) :
    (substitute resolver s).toList = (Template.pieces s.toList).flatMap (Piece.fill resolver) :=
  String.toList_ofList

/-- A pass makes no difference to a later one whose resolver knows as much. -/
theorem substitute_absorb {first second : Resolver}
    (h : ∀ key value, first key = some value → '\x7b' ∉ value.toList)
    (hle : ∀ key value, first key = some value → second key = some value) (s : String) :
    substitute second (substitute first s) = substitute second s := by
  rw [substitute, toList_substitute, Template.flatMap_fill_flatMap_fill h,
    Resolver.chain_eq_of_le hle, substitute]

/-- If no value of the first resolver has an opening brace in it, a pass with a second resolver
gives what one pass with both in turn gives, and a pass with the first one again changes nothing. -/
theorem substitute_substitute (first second : Resolver)
    (h : ∀ key value, first key = some value → '\x7b' ∉ value.toList) (s : String) :
    substitute second (substitute first s) = substitute (Resolver.chain [first, second]) s ∧
      substitute first (substitute first s) = substitute first s := by
  constructor
  · rw [substitute, toList_substitute, Template.flatMap_fill_flatMap_fill h, substitute]
  · exact substitute_absorb h (fun _ _ hvalue => hvalue) s

/-- A value of closing braces, between braces that are no placeholder's, in a text that a later
resolver finishes. -/
theorem substitute_substitute_closingBraces :
    let first : Resolver := fun key => if key = "a" then some "\x7d\x7d\n" else none
    let second : Resolver := fun key => if key = "\x7bb" then some "\x7b\x7ba\x7d\x7d" else none
    let s := "\x7b\x7b\n\x7b\x7ba\x7d\x7d\x7d\x7b\x7b\x7bb\x7d\x7d\x7b\x7b\x7d\x7d\x7b\x7bc"
    (∀ key value, first key = some value → '\x7b' ∉ value.toList) ∧
      substitute second (substitute first s) = substitute (Resolver.chain [first, second]) s ∧
        substitute first (substitute first s) = substitute first s := by
  intro first second s
  have h : ∀ key value, first key = some value → '\x7b' ∉ value.toList := by
    intro key value hvalue
    obtain ⟨-, rfl⟩ : key = "a" ∧ "\x7d\x7d\n" = value := by simpa [first] using hvalue
    decide
  exact ⟨h, substitute_substitute first second h s⟩

end Volley
