/-!
# UTF-8

Bytes are read one character at a time. Where no character can be read, the longest run of bytes
that could have begun one is taken as a unit: `decode?` refuses such bytes, `decodeLossy` puts the
replacement character in their place. `encode` writes the bytes of a text.
-/

namespace Volley.Text.Utf8

/-- What a first byte announces: how many more bytes follow, the bounds of the next one, and the
bits that it contributes. The bounds exclude overlong forms, surrogates and values above 10FFFF. -/
def lead? (b : UInt8) : Option (Nat × UInt8 × UInt8 × Nat) :=
  if b < 0x80 then some (0, 0x80, 0xBF, b.toNat)
  else if b < 0xC2 then none
  else if b < 0xE0 then some (1, 0x80, 0xBF, b.toNat - 0xC0)
  else if b = 0xE0 then some (2, 0xA0, 0xBF, 0)
  else if b = 0xED then some (2, 0x80, 0x9F, 0xD)
  else if b < 0xF0 then some (2, 0x80, 0xBF, b.toNat - 0xE0)
  else if b = 0xF0 then some (3, 0x90, 0xBF, 0)
  else if b < 0xF4 then some (3, 0x80, 0xBF, b.toNat - 0xF0)
  else if b = 0xF4 then some (3, 0x80, 0x8F, 4)
  else none

/-- Reads `owed` continuation bytes, the first between `low` and `high`, onto the bits `bits`: the
code point if all are there, and the bytes that were not consumed. -/
def tails : Nat → UInt8 → UInt8 → Nat → List UInt8 → Option Nat × List UInt8
  | 0, _, _, bits, rest => (some bits, rest)
  | _ + 1, _, _, _, [] => (none, [])
  | owed + 1, low, high, bits, b :: rest =>
    if low ≤ b ∧ b ≤ high then tails owed 0x80 0xBF (bits * 64 + b.toNat % 64) rest
    else (none, b :: rest)

theorem length_tails_le (owed : Nat) (low high : UInt8) (bits : Nat) (rest : List UInt8) :
    (tails owed low high bits rest).2.length ≤ rest.length := by
  induction rest generalizing owed low high bits with
  | nil => cases owed <;> simp [tails]
  | cons b rest ih =>
    cases owed with
    | zero => simp [tails]
    | succ owed =>
      unfold tails
      split
      · exact Nat.le_succ_of_le (ih ..)
      · simp

/-- The units of a byte sequence: a character, or nothing for bytes that form none. -/
def units : List UInt8 → List (Option Char)
  | [] => []
  | b :: rest =>
    match lead? b with
    | none => none :: units rest
    | some (owed, low, high, bits) =>
      ((tails owed low high bits rest).1.map Char.ofNat) :: units (tails owed low high bits rest).2
termination_by bytes => bytes.length
decreasing_by
  · simp
  · exact Nat.lt_succ_of_le (length_tails_le ..)

/-- The characters of a byte sequence, if it is valid throughout. -/
def decode? (bytes : List UInt8) : Option (List Char) :=
  (units bytes).mapM id

/-- The characters of a byte sequence, with the replacement character for what is not valid. -/
def decodeLossy (bytes : List UInt8) : List Char :=
  (units bytes).map fun unit => unit.getD '\uFFFD'

/-- The bytes of a text. -/
def encode (s : List Char) : List UInt8 :=
  s.flatMap String.utf8EncodeChar

/-- Where every unit is a character, decoding with replacement changes nothing. -/
theorem decodeLossy_of_decode? {bytes : List UInt8} {s : List Char} (h : decode? bytes = some s) :
    decodeLossy bytes = s := by
  unfold decode? at h
  unfold decodeLossy
  generalize units bytes = us at h
  induction us generalizing s with
  | nil => simpa [eq_comm] using h
  | cons u us ih =>
    cases u with
    | none => simp [List.mapM_cons] at h
    | some c =>
      simp only [List.mapM_cons, id_eq, Option.bind_eq_bind, Option.bind_some,
        Option.bind_eq_some_iff, Option.pure_def, Option.some.injEq] at h
      obtain ⟨rest, hrest, rfl⟩ := h
      simp [ih hrest]

end Volley.Text.Utf8
