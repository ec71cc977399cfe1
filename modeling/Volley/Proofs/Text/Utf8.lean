import Mathlib.Tactic.SplitIfs
import Volley.Text.Utf8

/-!
# Encoding and decoding

Bytes are decoded to a text exactly when they are the bytes of the text (`decode?_eq_some_iff`), so
the bytes that `decode?` refuses are those of no text. Both halves are about one character. Its
bytes are read as it, whatever comes after them (`units_encodeChar_append`), and bytes that are
read as a character are its own (`append_eq_of_tails`): the bounds of the second byte are just
those that leave one way to write each character. What a first byte announces and which bytes may
come second are put in numbers for that (`lead?_eq`, `second_iff`).

A line feed is the byte of no other character (`newline_mem_encode_iff`), which is why a text can
be cut into lines before it is decoded.
-/

namespace Volley.Text.Utf8

/-! ## One character -/

/-- The least byte that may come second. -/
def secondLow (b : UInt8) : UInt8 :=
  if b = 0xE0 then 0xA0 else if b = 0xF0 then 0x90 else 0x80

/-- The greatest byte that may come second. -/
def secondHigh (b : UInt8) : UInt8 :=
  if b = 0xED then 0x9F else if b = 0xF4 then 0x8F else 0xBF

/-- What a first byte announces, by its value. -/
theorem lead?_eq (b : UInt8) : lead? b =
    if b.toNat < 0x80 then some (0, secondLow b, secondHigh b, b.toNat)
    else if b.toNat < 0xC2 then none
    else if b.toNat < 0xE0 then some (1, secondLow b, secondHigh b, b.toNat - 0xC0)
    else if b.toNat < 0xF0 then some (2, secondLow b, secondHigh b, b.toNat - 0xE0)
    else if b.toNat < 0xF5 then some (3, secondLow b, secondHigh b, b.toNat - 0xF0)
    else none := by
  -- There are only so many bytes.
  obtain ⟨n, hn, rfl⟩ : ∃ n, n < 256 ∧ UInt8.ofNat n = b :=
    ⟨b.toNat, b.toNat_lt, UInt8.ofNat_toNat⟩
  revert n
  decide +kernel

/-- Which bytes may come second. -/
theorem second_iff (b t : UInt8) : (secondLow b ≤ t ∧ t ≤ secondHigh b) ↔
    0x80 ≤ t.toNat ∧ t.toNat ≤ 0xBF ∧ (b.toNat = 0xE0 → 0xA0 ≤ t.toNat) ∧
      (b.toNat = 0xED → t.toNat ≤ 0x9F) ∧ (b.toNat = 0xF0 → 0x90 ≤ t.toNat) ∧
      (b.toNat = 0xF4 → t.toNat ≤ 0x8F) := by
  simp only [secondLow, secondHigh, UInt8.le_iff_toNat_le, ← UInt8.toNat_inj,
    UInt8.toNat_ofNat, Nat.reducePow, Nat.reduceMod]
  split_ifs <;> simp only [UInt8.toNat_ofNat, Nat.reducePow, Nat.reduceMod] <;> omega

/-- Bytes that continue a character are read one after the other. -/
theorem tails_succ_eq_some {owed : Nat} {low high : UInt8} {bits n : Nat} {rest left : List UInt8} :
    tails (owed + 1) low high bits rest = (some n, left) ↔
      ∃ t later, rest = t :: later ∧ (low ≤ t ∧ t ≤ high) ∧
        tails owed 0x80 0xBF (bits * 64 + t.toNat % 64) later = (some n, left) := by
  cases rest with
  | nil => simp [tails]
  | cons t later =>
    rw [tails]
    split_ifs with h
    · refine ⟨fun htails => ⟨t, later, rfl, h, htails⟩, ?_⟩
      rintro ⟨_, _, heq, -, htails⟩
      obtain ⟨rfl, rfl⟩ := List.cons.inj heq
      exact htails
    · refine ⟨fun htails => by simp at htails, ?_⟩
      rintro ⟨_, _, heq, hbounds, -⟩
      obtain ⟨rfl, rfl⟩ := List.cons.inj heq
      exact absurd hbounds h

theorem tails_zero_eq_some {low high : UInt8} {bits n : Nat} {rest left : List UInt8} :
    tails 0 low high bits rest = (some n, left) ↔ n = bits ∧ left = rest := by
  simp [tails, eq_comm]

theorem continues_iff (t : UInt8) : (0x80 ≤ t ∧ t ≤ 0xBF) ↔ 0x80 ≤ t.toNat ∧ t.toNat ≤ 0xBF := by
  simp [UInt8.le_iff_toNat_le]

/-- A byte is the one with its value. -/
theorem ofNat_eq {n : Nat} {b : UInt8} (h : n = b.toNat) : UInt8.ofNat n = b := by
  rw [h, UInt8.ofNat_toNat]

/-- The character with a value has that value. -/
theorem val_ofNat {n : Nat} (h : n.isValidChar) : (Char.ofNat n).val.toNat = n := by
  rw [Char.ofNat, dif_pos h]
  rfl

/-- Bytes that are read as a character are its bytes. -/
theorem append_eq_of_tails {b : UInt8} {rest left : List UInt8} {owed : Nat} {low high : UInt8}
    {bits n : Nat} (hlead : lead? b = some (owed, low, high, bits))
    (htails : tails owed low high bits rest = (some n, left)) :
    String.utf8EncodeChar (Char.ofNat n) ++ left = b :: rest := by
  rw [lead?_eq] at hlead
  split_ifs at hlead with h1 h2 h3 h4 h5
  -- The bounds of the second byte exclude overlong forms, surrogates and values that are too great.
  all_goals
    simp only [Option.some.injEq, Prod.mk.injEq] at hlead
    obtain ⟨rfl, rfl, rfl, rfl⟩ := hlead
    simp only [tails_succ_eq_some, tails_zero_eq_some, second_iff, continues_iff] at htails
  · obtain ⟨hn, rfl⟩ := htails
    rw [String.utf8EncodeChar, val_ofNat (by omega), if_pos (by omega), ofNat_eq hn]
    rfl
  · obtain ⟨t, _, rfl, ht, hn, rfl⟩ := htails
    rw [String.utf8EncodeChar, val_ofNat (by omega), if_neg (by omega), if_pos (by omega),
      ofNat_eq (b := b) (by omega), ofNat_eq (b := t) (by omega)]
    rfl
  · obtain ⟨t, _, rfl, ht, u, _, rfl, hu, hn, rfl⟩ := htails
    rw [String.utf8EncodeChar, val_ofNat (by omega), if_neg (by omega), if_neg (by omega),
      if_pos (by omega), ofNat_eq (b := b) (by omega), ofNat_eq (b := t) (by omega),
      ofNat_eq (b := u) (by omega)]
    rfl
  · obtain ⟨t, _, rfl, ht, u, _, rfl, hu, v, _, rfl, hv, hn, rfl⟩ := htails
    rw [String.utf8EncodeChar, val_ofNat (by omega), if_neg (by omega), if_neg (by omega),
      if_neg (by omega), ofNat_eq (b := b) (by omega), ofNat_eq (b := t) (by omega),
      ofNat_eq (b := u) (by omega), ofNat_eq (b := v) (by omega)]
    rfl

/-- The first byte and those after it are read as a character. -/
theorem units_cons_of_tails {b : UInt8} {rest left : List UInt8} {owed : Nat} {low high : UInt8}
    {bits n : Nat} (hlead : lead? b = some (owed, low, high, bits))
    (htails : tails owed low high bits rest = (some n, left)) :
    units (b :: rest) = some (Char.ofNat n) :: units left := by
  rw [units, hlead]
  simp only [htails, Option.map_some]

/-- The bytes of a character are read as it, whatever comes after them. -/
theorem units_encodeChar_append (c : Char) (rest : List UInt8) :
    units (String.utf8EncodeChar c ++ rest) = some c :: units rest := by
  have hvalid : c.toNat < 0xD800 ∨ 0xDFFF < c.toNat ∧ c.toNat < 0x110000 := c.valid
  have hbyte {n : Nat} (h : n < 256) : ∃ b : UInt8, UInt8.ofNat n = b ∧ b.toNat = n :=
    ⟨_, rfl, UInt8.toNat_ofNat_of_lt' h⟩
  rw [← Char.ofNat_toNat c]
  generalize c.toNat = n at hvalid ⊢
  rw [String.utf8EncodeChar, val_ofNat hvalid]
  split_ifs with h1 h2 h3
  · obtain ⟨b, rfl, hb⟩ := hbyte (n := n) (by omega)
    have hlead := lead?_eq (UInt8.ofNat n)
    rw [if_pos (by omega)] at hlead
    exact units_cons_of_tails hlead (tails_zero_eq_some.2 ⟨by omega, rfl⟩)
  · obtain ⟨b, hbn, hb⟩ := hbyte (n := n / 64 % 32 + 192) (by omega)
    obtain ⟨t, htn, ht⟩ := hbyte (n := n % 64 + 128) (by omega)
    have hlead := lead?_eq b
    rw [if_neg (by omega), if_neg (by omega), if_pos (by omega)] at hlead
    rw [hbn, htn]
    refine units_cons_of_tails hlead (tails_succ_eq_some.2 ⟨t, rest, rfl, ?_, ?_⟩)
    · exact (second_iff b t).2 (by omega)
    · exact tails_zero_eq_some.2 ⟨by omega, rfl⟩
  · obtain ⟨b, hbn, hb⟩ := hbyte (n := n / 4096 % 16 + 224) (by omega)
    obtain ⟨t, htn, ht⟩ := hbyte (n := n / 64 % 64 + 128) (by omega)
    obtain ⟨u, hun, hu⟩ := hbyte (n := n % 64 + 128) (by omega)
    have hlead := lead?_eq b
    rw [if_neg (by omega), if_neg (by omega), if_neg (by omega), if_pos (by omega)] at hlead
    rw [hbn, htn, hun]
    refine units_cons_of_tails hlead
      (tails_succ_eq_some.2 ⟨t, u :: rest, rfl, ?_, tails_succ_eq_some.2 ⟨u, rest, rfl, ?_, ?_⟩⟩)
    · exact (second_iff b t).2 (by omega)
    · exact (continues_iff u).2 (by omega)
    · exact tails_zero_eq_some.2 ⟨by omega, rfl⟩
  · obtain ⟨b, hbn, hb⟩ := hbyte (n := n / 262144 % 8 + 240) (by omega)
    obtain ⟨t, htn, ht⟩ := hbyte (n := n / 4096 % 64 + 128) (by omega)
    obtain ⟨u, hun, hu⟩ := hbyte (n := n / 64 % 64 + 128) (by omega)
    obtain ⟨v, hvn, hv⟩ := hbyte (n := n % 64 + 128) (by omega)
    have hlead := lead?_eq b
    rw [if_neg (by omega), if_neg (by omega), if_neg (by omega), if_neg (by omega),
      if_pos (by omega)] at hlead
    rw [hbn, htn, hun, hvn]
    refine units_cons_of_tails hlead (tails_succ_eq_some.2 ⟨t, u :: v :: rest, rfl, ?_,
      tails_succ_eq_some.2 ⟨u, v :: rest, rfl, ?_, tails_succ_eq_some.2 ⟨v, rest, rfl, ?_, ?_⟩⟩⟩)
    · exact (second_iff b t).2 (by omega)
    · exact (continues_iff u).2 (by omega)
    · exact (continues_iff v).2 (by omega)
    · exact tails_zero_eq_some.2 ⟨by omega, rfl⟩

/-! ## Texts -/

@[simp] theorem encode_nil : encode [] = [] := rfl

@[simp] theorem encode_cons (c : Char) (s : List Char) :
    encode (c :: s) = String.utf8EncodeChar c ++ encode s := rfl

/-- The bytes of two texts, one after the other. -/
theorem encode_append (s t : List Char) : encode (s ++ t) = encode s ++ encode t :=
  List.flatMap_append

/-- A character is decoded apart from what comes after it. -/
theorem decode?_encodeChar_append (c : Char) (rest : List UInt8) :
    decode? (String.utf8EncodeChar c ++ rest) = (decode? rest).map (c :: ·) := by
  rw [decode?, units_encodeChar_append, List.mapM_cons, decode?]
  cases List.mapM id (units rest) <;> rfl

/-- A text is decoded apart from what comes after it. -/
theorem decode?_encode_append (s : List Char) (rest : List UInt8) :
    decode? (encode s ++ rest) = (decode? rest).map (s ++ ·) := by
  induction s with
  | nil => simp
  | cons c s ih =>
    rw [encode_cons, List.append_assoc, decode?_encodeChar_append, ih, Option.map_map]
    rfl

/-- Nothing is decoded to nothing. -/
theorem decode?_nil : decode? [] = some [] := by
  rw [decode?, units]
  rfl

/-- Bytes that are decoded are those of the text. -/
theorem encode_of_decode? {bytes : List UInt8} {s : List Char} (h : decode? bytes = some s) :
    encode s = bytes := by
  unfold decode? at h
  fun_induction units bytes generalizing s with
  | case1 =>
    obtain rfl : s = [] := by simpa [eq_comm] using h
    rfl
  | case2 b rest hlead ih => simp at h
  | case3 b rest owed low high bits hlead ih =>
    cases htails : tails owed low high bits rest with
    | mk n? left =>
      cases n? with
      | none => simp [htails] at h
      | some n =>
        rw [htails] at ih h
        simp only [List.mapM_cons, Option.map_some, id_eq, Option.bind_eq_bind, Option.bind_some,
          Option.bind_eq_some_iff, Option.pure_def, Option.some.injEq] at h
        obtain ⟨later, hlater, rfl⟩ := h
        rw [encode_cons, ih hlater]
        exact append_eq_of_tails hlead htails

/-- Bytes are decoded to a text exactly if they are the bytes of the text. -/
theorem decode?_eq_some_iff {bytes : List UInt8} {s : List Char} :
    decode? bytes = some s ↔ bytes = encode s := by
  refine ⟨fun h => (encode_of_decode? h).symm, ?_⟩
  rintro rfl
  simpa [decode?_nil] using decode?_encode_append s []

/-- A byte below 80 is a character by itself. -/
theorem decode?_cons_of_lt {b : UInt8} (h : b < 0x80) (rest : List UInt8) :
    decode? (b :: rest) = (decode? rest).map (Char.ofNat b.toNat :: ·) := by
  have hlead : lead? b = some (0, 0x80, 0xBF, b.toNat) := by
    rw [lead?, if_pos h]
  rw [← append_eq_of_tails hlead (tails_zero_eq_some.2 ⟨rfl, rfl⟩), decode?_encodeChar_append]

/-- A text has as many bytes as are in its encoding. -/
theorem length_encode (s : String) : (encode s.toList).length = s.utf8ByteSize := by
  have hbytes : s.toByteArray = (encode s.toList).toByteArray := by
    conv => lhs; rw [← String.ofList_toList (s := s), String.toByteArray_ofList]
    rfl
  rw [← String.size_toByteArray, hbytes, List.size_toByteArray]

/-- A byte below 80 among the bytes of a character is the character. -/
theorem toNat_eq_of_mem_encodeChar {b : UInt8} {c : Char} (h : b ∈ String.utf8EncodeChar c)
    (hb : b.toNat < 0x80) : c.toNat = b.toNat := by
  have hbyte {n : Nat} (h : b = UInt8.ofNat n) : b.toNat = n % 256 := by
    rw [h, UInt8.toNat_ofNat']
  have hval : c.val.toNat = c.toNat := rfl
  rw [String.utf8EncodeChar, hval] at h
  split_ifs at h
  all_goals simp only [List.mem_cons, List.not_mem_nil, or_false] at h
  · have hb := hbyte h
    omega
  · rcases h with h | h <;> have hb := hbyte h <;> omega
  · rcases h with h | h | h <;> have hb := hbyte h <;> omega
  · rcases h with h | h | h | h <;> have hb := hbyte h <;> omega

/-- The byte of a line feed stands for nothing but a line feed. -/
theorem newline_mem_encode_iff {s : List Char} : 10 ∈ encode s ↔ '\n' ∈ s := by
  rw [encode, List.mem_flatMap]
  refine ⟨?_, fun h => ⟨'\n', h, List.mem_singleton_self _⟩⟩
  rintro ⟨c, hc, hbyte⟩
  have hnewline : c = '\n' := Char.toNat_inj.1 (toNat_eq_of_mem_encodeChar hbyte (by decide))
  exact hnewline ▸ hc

end Volley.Text.Utf8
