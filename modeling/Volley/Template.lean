import Volley.Text.Cut
import Volley.Text.White

/-!
# Templates

A template is text with placeholders: a key between two opening and two closing braces, on one line.
`Template.pieces` cuts a text into its pieces, and `Piece.fill` puts the values of a resolver in the
place of the keys that it knows; what it does not know stays as it was written, so that another
resolver can be tried later. Values are never looked into for further placeholders.

Where a placeholder ends does not depend on the resolver. That is why the pieces are a type.
-/

namespace Volley

/-- Knows the values of some keys. -/
abbrev Resolver : Type := String → Option String

/-- The resolver that asks each of a list in turn, until one knows the key. -/
def Resolver.chain (resolvers : List Resolver) : Resolver := fun key =>
  resolvers.findSome? fun resolver => resolver key

/-- A piece of a template. -/
inductive Piece where
  /-- A character that stands for itself. -/
  | char (c : Char)
  /-- A placeholder: what stands between the braces. -/
  | slot (inner : List Char)
  deriving DecidableEq, Repr

namespace Piece

/-- A piece as it was written. -/
def raw : Piece → List Char
  | .char c => [c]
  | .slot inner => '\x7b' :: '\x7b' :: inner ++ ['\x7d', '\x7d']

/-- The key of a placeholder: what stands between the braces, without white space around it. -/
def key (inner : List Char) : String :=
  String.ofList (Text.trim inner)

/-- A piece with its value put in, if it is a placeholder whose key the resolver knows. -/
def fill (resolver : Resolver) : Piece → List Char
  | .char c => [c]
  | .slot inner =>
    match resolver (key inner) with
    | some value => value.toList
    | none => (Piece.slot inner).raw

end Piece

namespace Template

/-- After two opening braces: the key up to the next two closing ones, and the rest after those. The
key has at least one character, so a closing brace right after the opening ones belongs to it, and
it has no line feed. -/
def slot? : List Char → Option (List Char × List Char)
  | [] => none
  | c :: rest =>
    match Text.cut? ['\x7d', '\x7d'] rest with
    | some (before, after) => if '\n' ∈ c :: before then none else some (c :: before, after)
    | none => none

/-- A placeholder's text consists of its key, the closing braces and the rest. -/
theorem eq_of_slot? {s inner after : List Char} (h : slot? s = some (inner, after)) :
    s = inner ++ '\x7d' :: '\x7d' :: after := by
  cases s with
  | nil => simp [slot?] at h
  | cons c rest =>
    unfold slot? at h
    dsimp only at h
    split at h
    · rename_i before after' hcut
      split at h
      · simp at h
      · simp only [Option.some.injEq, Prod.mk.injEq] at h
        obtain ⟨rfl, rfl⟩ := h
        simpa using Text.eq_of_cut? hcut
    · simp at h

theorem length_slot?_lt {s inner after : List Char} (h : slot? s = some (inner, after)) :
    after.length < s.length := by
  rw [eq_of_slot? h]
  simp
  omega

/-- The pieces of a text. Two opening braces that begin no placeholder stand for themselves, both of
them. -/
def pieces : List Char → List Piece
  | [] => []
  | '\x7b' :: '\x7b' :: rest =>
    match _h : slot? rest with
    | some (inner, after) => .slot inner :: pieces after
    | none => .char '\x7b' :: .char '\x7b' :: pieces rest
  | c :: rest => .char c :: pieces rest
termination_by s => s.length
decreasing_by
  · have := length_slot?_lt _h
    simp only [List.length_cons]
    omega
  · simp only [List.length_cons]
    omega
  · simp only [List.length_cons]
    omega

/-- Nothing is lost by cutting a text into pieces. -/
theorem raw_pieces (s : List Char) : (pieces s).flatMap Piece.raw = s := by
  fun_induction pieces s with
  | case1 => rfl
  | case2 rest inner after h ih => simp [Piece.raw, ih, eq_of_slot? h]
  | case3 rest h ih => simp [Piece.raw, ih]
  | case4 c rest h ih => simp [Piece.raw, ih]

end Template

/-- A text with the values that a resolver knows put in the place of their placeholders. -/
def substitute (resolver : Resolver) (s : String) : String :=
  String.ofList ((Template.pieces s.toList).flatMap (Piece.fill resolver))

/-- `substitute` with a resolver of its own for every placeholder, by the place of the placeholder
among the pieces. Values that change from one use to the next are put in this way. -/
def substituteAt (resolverAt : Nat → Resolver) (s : String) : String :=
  String.ofList <| (Template.pieces s.toList).zipIdx.flatMap fun (piece, place) =>
    piece.fill (resolverAt place)

/-- With one resolver for all places the two substitutions agree. -/
theorem substituteAt_const (resolver : Resolver) (s : String) :
    substituteAt (fun _ => resolver) s = substitute resolver s := by
  unfold substituteAt substitute
  congr 1
  rw [← List.flatMap_map (f := Prod.fst) (g := Piece.fill resolver), List.zipIdx_map_fst]

/-- A resolver that knows nothing leaves every text as it is. -/
theorem substitute_none (s : String) : substitute (fun _ => none) s = s := by
  have : Piece.fill (fun _ => none) = Piece.raw := by
    funext piece
    cases piece <;> rfl
  simp [substitute, this, Template.raw_pieces]

end Volley
