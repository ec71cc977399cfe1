import Volley.Proofs.RequestFile.Grammar
import Volley.RequestFile.Reader

/-!
# What a file has is said by its lines

Whatever is in a file after reading it, bodies aside, one of its lines says. This is an invariant of
the draft (`Draft.SaidBy`): taking in what a line says keeps it (`Draft.SaidBy.apply`), and so do a
line and a run of lines (`Draft.SaidBy.feed`, `Draft.SaidBy.foldl_feed`). With the grammar of lines
it tells what values can be (`values_ofString`): each is the value of a value part. A value part
that is only white space has a value too, its last character, so values need not be free of white
space (`exists_value_not_isValue`).
-/

namespace Volley

/-- What is in a file while it is read, bodies aside, is said by lines with a property. -/
structure Draft.SaidBy (P : Line → Prop) (d : Draft) : Prop where
  /-- Variables have the values of their definitions. -/
  bindings : ∀ key value, d.bindings.get? key = some value → P (.definition key value)
  /-- What the complete cases have is said. -/
  finished : ∀ c ∈ d.finished, c.SaidBy P
  /-- What the case that has not ended has is said. -/
  current : d.current.SaidBy P

/-- A case does not get its body from what lines say. -/
theorem Case.SaidBy.body {P : Line → Prop} {c : Case} (h : c.SaidBy P) (body : String) :
    Case.SaidBy P { c with body := body } :=
  ⟨h.name, h.request, h.headers⟩

/-- A case that has nothing needs no line. -/
theorem Case.saidBy_default (P : Line → Prop) : Case.SaidBy P {} where
  name := by simp
  request := .inl ⟨rfl, rfl⟩
  headers := by simp

namespace Draft.SaidBy

variable {P : Line → Prop} {d : Draft}

/-- A draft without anything needs no line. -/
theorem empty (P : Line → Prop) : Draft.SaidBy P {} where
  bindings key value h := by simp [Dictionary.empty, Dictionary.get?, Entries.find?] at h
  finished := by simp
  current := Case.saidBy_default P

/-- The end of a case changes nothing about what is said. -/
theorem endCase (h : d.SaidBy P) : d.endCase.SaidBy P where
  bindings := h.bindings
  finished c hc := by
    rcases List.mem_append.1 hc with hfinished | hlast
    · exact h.finished c hfinished
    · obtain rfl := List.mem_singleton.1 hlast
      exact h.current.body _
  current := Case.saidBy_default P

/-- What is taken in from a line is said by it. -/
theorem apply (h : d.SaidBy P) {line : Line} (hline : P line) : (d.apply line).SaidBy P := by
  cases line with
  | separator => exact h.endCase
  | definition key value =>
    refine ⟨fun other found hfound => ?_, h.finished, h.current⟩
    rw [Draft.apply, Dictionary.get?_insert] at hfound
    split at hfound
    · rename_i heq
      obtain rfl := Option.some.inj hfound
      rwa [heq]
    · exact h.bindings other found hfound
  | name name =>
    refine ⟨h.bindings, h.finished, ?_, h.current.request, h.current.headers⟩
    rintro _ ⟨⟩
    exact hline
  | comment => exact h
  | request method url =>
    rw [Draft.apply]
    split
    · exact h
    · exact ⟨h.bindings, h.finished, h.current.name, .inr hline, h.current.headers⟩
  | header key value =>
    refine ⟨h.bindings, h.finished, h.current.name, h.current.request, fun header hheader => ?_⟩
    rcases List.mem_append.1 hheader with hearlier | hlast
    · exact h.current.headers header hearlier
    · obtain rfl := List.mem_singleton.1 hlast
      exact hline
  | blank =>
    rw [Draft.apply]
    split
    · exact ⟨h.bindings, h.finished, h.current⟩
    · exact h
  | other => exact h

/-- A line adds only what it says. -/
theorem feed (h : d.SaidBy P) {line : List Char}
    (hline : ∀ mayDefine, P (Line.read mayDefine line)) : (d.feed line).SaidBy P := by
  rw [Draft.feed]
  split
  · split
    · exact h.endCase
    · exact ⟨h.bindings, h.finished, h.current⟩
  · exact h.apply (hline _)

/-- Lines add only what they say. -/
theorem foldl_feed (h : d.SaidBy P) {lines : List (List Char)}
    (hlines : ∀ line ∈ lines, ∀ mayDefine, P (Line.read mayDefine line)) :
    (lines.foldl Draft.feed d).SaidBy P := by
  induction lines generalizing d with
  | nil => exact h
  | cons line lines ih =>
    rw [List.forall_mem_cons] at hlines
    exact ih (h.feed hlines.1) hlines.2

end Draft.SaidBy

namespace RequestFile

/-- What a file has is said by its lines, as the grammar has it. -/
theorem saidBy_ofString (text : String) :
    Draft.SaidBy (fun line => ∃ s ∈ Text.lines text.toList, Line.Spelled line s)
      ((Text.lines text.toList).foldl Draft.feed {}).endCase := by
  refine ((Draft.SaidBy.empty _).foldl_feed fun s hs mayDefine => ?_).endCase
  have hline : '\n' ∉ s := Text.notMem_linesBy '\n' '\r' _ s hs
  exact ⟨s, hs, Line.spelled_read hline mayDefine⟩

/-- Every variable has the value of a value part, every header too, and so has every address of a
case that has a request line. Conversely, a line with a value part defines its variable, makes its
request or is its header with the value of the value part and with no other. An empty value part has
no value, so the line says nothing; every other has one, also if it is only white space. -/
theorem values_ofString (text : String) :
    (∀ key value, (ofString text).bindings.get? key = some value →
      ∃ s ∈ Text.lines text.toList, Line.Spelled (.definition key value) s) ∧
    (∀ c ∈ (ofString text).cases,
      c.SaidBy fun line => ∃ s ∈ Text.lines text.toList, Line.Spelled line s) ∧
    (∀ s ∈ Text.lines text.toList, ∀ part,
      (∀ key, Line.HasPart s (.definition key) part → '=' ∉ key.toList →
        ∀ value, Line.read true s = .definition key value ↔ Line.IsValueOf value part) ∧
      (∀ method, Line.HasPart s (.request method) part →
        ∀ mayDefine url, Line.read mayDefine s = .request method url ↔ Line.IsValueOf url part) ∧
      (∀ name, Line.HasPart s (.header name) part → Line.IsHeaderName name →
        (∀ method rest, ¬ Line.HasPart s (.request method) rest) → ∀ mayDefine value,
          Line.read mayDefine s = .header name value ↔ Line.IsValueOf value part)) ∧
    ∀ part, '\n' ∉ part → ((∃ value, Line.IsValueOf value part) ↔ part ≠ []) := by
  have hsaid := saidBy_ofString text
  refine ⟨hsaid.bindings, hsaid.finished, fun s hs part => ?_, fun part => Line.exists_isValueOf⟩
  have hline : '\n' ∉ s := Text.notMem_linesBy '\n' '\r' _ s hs
  refine ⟨fun key h hmark => ?_, fun method h => ?_, fun name h hname hrequest => ?_⟩
  · exact h.read_definition_iff hline hmark
  · exact h.read_request_iff hline
  · exact h.read_header_iff hline hname hrequest

/-- A text whose value parts are all white space. -/
def blankValues : String := "@v= \nGET \t \nX:\u3000\n"

/-- White space alone defines a variable, makes a request and is a header. -/
theorem exists_value_not_isValue :
    (ofString blankValues).bindings.get? "v" = some " " ∧
    (ofString blankValues).cases.map (fun c => (c.method, c.url, c.headers)) =
      [("GET", " ", [("X", "\u3000")])] ∧
    ¬ Line.IsValue " " ∧ ¬ Line.IsValue "\u3000" := by
  decide +kernel

end RequestFile

end Volley
