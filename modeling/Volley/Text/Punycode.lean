import Volley.Text.Cut

/-!
# Punycode

A text written with the characters of ASCII alone. Its own ASCII characters come first, with a
hyphen after them if there are any. Then follow the others in the order of their code points, each
as the distance from the one before it: going from one place in the text to the next counts one, and
so does going from the last place back to the first with the next code point. A distance is a number
of variable length whose digits weigh the more the further they stand, and after each distance the
weights are adapted to what the next one may be.

`decodeNumber?` leaves less text than it was given, which is why decoding ends.
-/

namespace Volley.Text.Punycode

/-- The digits, by value. -/
def digits : List Char :=
  "abcdefghijklmnopqrstuvwxyz0123456789".toList

/-- The first digit value of a place that does not end a number. -/
def threshold (place bias : Nat) : Nat :=
  min 26 (max 1 (place - bias))

/-- A threshold is positive and at most 26. -/
theorem threshold_bounds (place bias : Nat) :
    1 ≤ threshold place bias ∧ threshold place bias ≤ 26 := by
  unfold threshold
  omega

/-- The bias that a scaled distance asks for: the larger, the more places it would take. -/
def settle (distance places : Nat) : Nat :=
  if 455 < distance then settle (distance / 35) (places + 36)
  else places + 36 * distance / (distance + 38)
termination_by distance
decreasing_by exact Nat.div_lt_self (by omega) (by omega)

/-- The bias for the next distance, after `distance` was the one of the character that makes the
text `length` long. The first distance is damped, since it is much longer than the others. -/
def adapt (distance length : Nat) (isFirst : Bool) : Nat :=
  let scaled := if isFirst then distance / 700 else distance / 2
  settle (scaled + scaled / length) 0

/-! ## Writing -/

/-- The digits of a number from a place on. -/
def encodeNumber (bias place n : Nat) : List Char :=
  let t := threshold place bias
  if n < t then [digits.getD n 'a']
  else
    digits.getD (t + (n - t) % (36 - t)) 'a' ::
      encodeNumber bias (place + 36) ((n - t) / (36 - t))
termination_by n
decreasing_by
  have ht := threshold_bounds place bias
  calc (n - threshold place bias) / (36 - threshold place bias)
      ≤ n - threshold place bias := Nat.div_le_self _ _
    _ < n := by omega

/-- What a writer of distances has to remember. -/
structure Pen where
  /-- The digits written so far. -/
  written : List Char := []
  /-- The distance gone since the last character. -/
  distance : Nat := 0
  /-- The bias of the next distance. -/
  bias : Nat := 72
  /-- How long the text is so far. -/
  length : Nat

/-- Goes over one character of the text while the characters with code point `point` are placed;
`basics` is the number of the characters that were there from the start. -/
def Pen.pass (basics point : Nat) (pen : Pen) (c : Char) : Pen :=
  if c.toNat < point then { pen with distance := pen.distance + 1 }
  else if c.toNat = point then
    { written := pen.written ++ encodeNumber pen.bias 36 pen.distance
      distance := 0
      bias := adapt pen.distance (pen.length + 1) (pen.length == basics)
      length := pen.length + 1 }
  else pen

/-- Places the characters with each of the code points in turn, where `next` is the first code point
that was not looked at. -/
def place (s : List Char) (basics : Nat) : List Nat → Nat → Pen → Pen
  | [], _, pen => pen
  | point :: rest, next, pen =>
    let pen := { pen with distance := pen.distance + (point - next) * (pen.length + 1) }
    let pen := s.foldl (Pen.pass basics point) pen
    place s basics rest (point + 1) { pen with distance := pen.distance + 1 }

/-- A text in Punycode. -/
def encode (s : List Char) : List Char :=
  let basics := s.filter (·.toNat < 0x80)
  let others := (s.filter (0x80 ≤ ·.toNat)).map Char.toNat
  let points := (others.mergeSort fun a b => a ≤ b).eraseDups
  let pen := place s basics.length points 0x80 { length := basics.length }
  basics ++ (if basics.isEmpty then [] else ['-']) ++ pen.written

/-! ## Reading -/

/-- The number that begins a text, times `weight` and added to `sum`, and the text after it. -/
def decodeNumber? (bias : Nat) : (place weight sum : Nat) → List Char → Option (Nat × List Char)
  | _, _, _, [] => none
  | place, weight, sum, c :: rest =>
    match digits.idxOf? c with
    | none => none
    | some digit =>
      let t := threshold place bias
      let sum := sum + digit * weight
      if digit < t then some (sum, rest)
      else decodeNumber? bias (place + 36) (weight * (36 - t)) sum rest

/-- A number takes some text. -/
theorem length_of_decodeNumber? {bias : Nat} {s : List Char} {r : Nat × List Char} :
    ∀ {place weight sum : Nat}, decodeNumber? bias place weight sum s = some r →
      r.2.length < s.length := by
  induction s with
  | nil => intro _ _ _ h; simp [decodeNumber?] at h
  | cons c rest ih =>
    intro place weight sum h
    rw [decodeNumber?] at h
    split at h
    · simp at h
    · dsimp only at h
      split at h
      · rw [← Option.some.inj h]
        exact Nat.lt_succ_self _
      · exact Nat.lt_succ_of_lt (ih h)

/-- Places one character for each of the distances that a text holds. The code point and the place
in the text `done` that were reached are `point` and `index`. -/
def unplace (bias point index : Nat) (done s : List Char) : Option (List Char) :=
  match s with
  | [] => some done
  | c :: rest =>
    match h : decodeNumber? bias 36 1 index (c :: rest) with
    | none => none
    | some (reached, after) =>
      let length := done.length + 1
      let point := point + reached / length
      let spot := reached % length
      if point.isValidChar then
        unplace (adapt (reached - index) length (index == 0)) point (spot + 1)
          (done.insertIdx spot (Char.ofNat point)) after
      else none
termination_by s.length
decreasing_by exact length_of_decodeNumber? h

/-- The text that is written in Punycode. -/
def decode? (s : List Char) : Option (List Char) :=
  match cutLast? '-' s with
  | none => unplace 72 0x80 0 [] s
  | some ([], _) => none
  | some (basics, distances) =>
    if basics.all (·.toNat < 0x80) then unplace 72 0x80 0 basics distances else none

end Volley.Text.Punycode
