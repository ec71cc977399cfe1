import Mathlib.Tactic.SplitIfs
import Volley.Message
import Volley.Proofs.Text.Utf8

/-!
# Bodies as documents

A body holds a document if its bytes are the UTF-8 of a JSON text. `bodyDocument?` turns bodies of
nothing but white space away beforehand; `bodyDocument?_eq` says that this changes nothing, because
such a body is no JSON text. The form feed, which is white space to the one and not to the other, is
no beginning of a value either.
-/

namespace Volley

namespace Json

/-- There is no value in a text of nothing but blanks and form feeds. -/
theorem read?_eq_none {s : List Char} (h : ∀ c ∈ s, isBlank c = true ∨ c = '\x0c') :
    Written.read? s = none := by
  have hvalue : value s.length s = none := by
    -- A form feed is no blank, so it is the first character that the reader sees, if there is one.
    have hskip : skipBlanks s = [] ∨ ∃ rest, skipBlanks s = '\x0c' :: rest := by
      cases hs : skipBlanks s with
      | nil => exact .inl rfl
      | cons c rest =>
        have hmem : c ∈ s := (List.dropWhile_sublist isBlank).subset
          (by rw [← skipBlanks, hs]; exact List.mem_cons_self)
        have hc : isBlank c = false := by
          have hhead := List.head?_dropWhile_not isBlank s
          rw [← skipBlanks, hs] at hhead
          simpa using hhead
        obtain hb | rfl := h c hmem
        · simp [hc] at hb
        · exact .inr ⟨rest, rfl⟩
    cases s.length <;> obtain hs | ⟨rest, hs⟩ := hskip <;> rw [value, hs] <;> rfl
  rw [Written.read?, hvalue]
  rfl

end Json

/-- A body of nothing but white space is valid, and a text of blanks and form feeds. -/
theorem exists_decode?_of_isBlankBody {body : List UInt8} (h : isBlankBody body = true) :
    ∃ s, Text.Utf8.decode? body = some s ∧ ∀ c ∈ s, Json.isBlank c = true ∨ c = '\x0c' := by
  induction body with
  | nil =>
    refine ⟨[], ?_, by simp⟩
    rw [Text.Utf8.decode?, Text.Utf8.units.eq_def]
    rfl
  | cons b rest ih =>
    rw [isBlankBody, List.all_cons, Bool.and_eq_true] at h
    obtain ⟨hb, hrest⟩ := h
    obtain ⟨s, hs, hblank⟩ := ih hrest
    have hcases : b = 9 ∨ b = 10 ∨ b = 12 ∨ b = 13 ∨ b = 32 := by simpa [or_assoc] using hb
    have hlt : b < 0x80 := by obtain rfl | rfl | rfl | rfl | rfl := hcases <;> decide
    refine ⟨Char.ofNat b.toNat :: s, ?_, ?_⟩
    · rw [Text.Utf8.decode?_cons_of_lt hlt, hs, Option.map_some]
    · rw [List.forall_mem_cons]
      refine ⟨?_, hblank⟩
      obtain rfl | rfl | rfl | rfl | rfl := hcases <;> decide

/-- The document of a body is the value of its bytes as a JSON text. -/
theorem bodyDocument?_eq (body : List UInt8) :
    bodyDocument? body = (Text.Utf8.decode? body).bind Json.parse? := by
  rw [bodyDocument?]
  split_ifs with hblank
  · obtain ⟨s, hs, hc⟩ := exists_decode?_of_isBlankBody hblank
    rw [hs, Option.bind_some, Json.parse?, Json.read?_eq_none hc, Option.bind_none]
  · rfl

end Volley
