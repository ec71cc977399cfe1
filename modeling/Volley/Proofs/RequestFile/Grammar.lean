import Volley.Proofs.RequestFile.Line
import Volley.Proofs.RequestFile.Separation
import Volley.Proofs.Text.Cut
import Volley.RequestFile.Grammar

/-!
# Lines say what they look like

Whatever a line is read as, it looks like that (`spelled_read`): each reader that finds something
in a line has found it between white space and marks, as the grammar of lines has it. For what has
a value the converse is said too. A line with a value part is read with the value of that part and
with no other (`HasPart.read_definition_iff` and its siblings), and there is one unless the value
part is empty (`exists_isValueOf`).
-/

namespace Volley.Line

open Text

variable {s : List Char}

/-! ## Values -/

/-- What is read from a value part is its value. -/
theorem isValueOf_of_value? {part value : List Char} (hline : '\n' ∉ part)
    (h : value? part = some value) : IsValueOf (String.ofList value) part := by
  rw [value?] at h
  split at h
  · rename_i hblank
    obtain ⟨c, hlast, rfl⟩ := Option.map_eq_some_iff.1 h
    exact .inr ⟨hblank, c, hlast, rfl⟩
  · rename_i hblank
    obtain rfl : trim part = value := Option.some.inj h
    refine .inl ⟨⟨?_, ?_, ?_, ?_⟩, by rw [String.toList_ofList]; exact padded_trim part⟩
    · intro hempty
      exact hblank (isBlank_of_trim_eq_nil (by simpa using hempty))
    · intro hmem
      obtain ⟨before, after, -, -, heq⟩ := padded_trim part
      rw [String.toList_ofList] at hmem
      rw [heq] at hline
      exact hline (List.mem_append_left _ (List.mem_append_right _ hmem))
    · intro c hc
      exact head?_trim part c (by simpa using hc)
    · intro c hc
      exact getLast?_trim part c (by simpa using hc)

/-- The value of a value part is read from it. -/
theorem IsValueOf.value?_eq {part : List Char} {value : String} (h : IsValueOf value part) :
    value? part = some value.toList := by
  rw [value?]
  obtain ⟨hvalue, hpadded⟩ | ⟨hblank, c, hlast, rfl⟩ := h
  · have hnot : isBlank part = false := by
      obtain ⟨before, after, -, -, rfl⟩ := hpadded
      simp only [isBlank, List.all_append, Bool.and_eq_false_iff]
      exact .inl (.inr (isBlank_eq_false hvalue.toList_ne_nil hvalue.first))
    rw [hnot, hpadded.trim_eq, trim_eq_self hvalue.first hvalue.last, if_neg Bool.false_ne_true]
  · rw [if_pos hblank, hlast, Option.map_some, String.toList_singleton]

/-- The reader of values finds the value of a value part and no other. -/
theorem value?_eq_some_iff {part : List Char} (hline : '\n' ∉ part) {value : String} :
    value? part = some value.toList ↔ IsValueOf value part := by
  refine ⟨fun h => ?_, IsValueOf.value?_eq⟩
  have hvalue := isValueOf_of_value? hline h
  rwa [String.ofList_toList] at hvalue

/-- A value part has a value unless it is empty. -/
theorem exists_isValueOf {part : List Char} (hline : '\n' ∉ part) :
    (∃ value, IsValueOf value part) ↔ part ≠ [] := by
  constructor
  · rintro ⟨value, h⟩ rfl
    exact absurd h.value?_eq (by simp [value?, isBlank])
  · intro h
    obtain ⟨found, hfound⟩ : ∃ found, value? part = some found := by
      rw [value?]
      split
      · exact ⟨[part.getLast h], by rw [List.getLast?_eq_some_getLast h, Option.map_some]⟩
      · exact ⟨trim part, rfl⟩
    exact ⟨String.ofList found, isValueOf_of_value? hline hfound⟩

/-- Visible characters make a key. -/
theorem isVisible_ofList {key : List Char} (h : key ≠ [] ∧ ∀ c ∈ key, isGraph c = true) :
    IsVisible (String.ofList key) :=
  ⟨by simpa using h.1, by simpa using h.2⟩

/-- A value part is on one line. -/
theorem HasPart.notMem {form : String → Line} {part : List Char} (h : HasPart s form part)
    (hline : '\n' ∉ s) : '\n' ∉ part := by
  cases h <;> exact fun hmem => hline (by simp [hmem])

/-! ## What the readers find -/

/-- The definition of a variable has its value in its value part. -/
theorem spelled_of_definition? (hline : '\n' ∉ s) {key value : List Char}
    (h : definition? s = some (key, value)) :
    Spelled (.definition (String.ofList key) (String.ofList value)) s := by
  obtain ⟨before, hbefore, heq⟩ := exists_blank_append_trimStart s
  rw [definition?] at h
  split at h
  · rename_i rest htrim
    obtain ⟨hkey, space, part, hspace, rfl, hvalue⟩ := exists_of_keyValue? h
    rw [htrim] at heq
    subst heq
    have hhas : HasPart _ _ part := .definition hbefore (isVisible_ofList hkey) hspace
    rw [String.toList_ofList] at hhas
    exact .definition hhas (isValueOf_of_value? (hhas.notMem hline) hvalue)
  · exact absurd h (by simp)

/-- A header has its value in its value part. -/
theorem spelled_of_header? (hline : '\n' ∉ s) {key value : List Char}
    (h : header? s = some (key, value)) :
    Spelled (.header (String.ofList key) (String.ofList value)) s := by
  obtain ⟨before, hbefore, heq⟩ := exists_blank_append_trimStart s
  obtain ⟨hkey, space, part, hspace, htrim, hvalue⟩ := exists_of_keyValue? h
  rw [htrim] at heq
  subst heq
  have hhas : HasPart _ _ part := .header hbefore (isVisible_ofList hkey) hspace
  rw [String.toList_ofList] at hhas
  exact .header hhas (isValueOf_of_value? (hhas.notMem hline) hvalue)

/-- What is found after a method is an address in the value part. -/
theorem spelled_of_address? (hline : '\n' ∉ s) {before rest url : List Char} {method : String}
    (hbefore : isBlank before = true) (hmethod : method = "GET" ∨ method = "POST")
    (heq : s = before ++ (method.toList ++ rest)) (h : address? rest = some url) :
    Spelled (.request method (String.ofList url)) s := by
  cases rest with
  | nil => exact absurd h (by simp [address?])
  | cons c part =>
    obtain ⟨hc, hvalue⟩ := Option.ite_none_right_eq_some.1 h
    subst heq
    have hhas : HasPart _ _ part := .request hbefore hmethod hc
    exact .request hhas (isValueOf_of_value? (hhas.notMem hline) hvalue)

/-- A request line has its address in its value part. -/
theorem spelled_of_request? (hline : '\n' ∉ s) {method url : List Char}
    (h : request? s = some (method, url)) :
    Spelled (.request (String.ofList method) (String.ofList url)) s := by
  obtain ⟨before, hbefore, heq⟩ := exists_blank_append_trimStart s
  rw [request?] at h
  split at h
  · rename_i rest htrim
    obtain ⟨found, haddress, hpair⟩ := Option.map_eq_some_iff.1 h
    obtain ⟨rfl, rfl⟩ := Prod.mk.inj hpair
    rw [htrim] at heq
    exact spelled_of_address? hline hbefore (.inl rfl) heq haddress
  · rename_i rest htrim
    obtain ⟨found, haddress, hpair⟩ := Option.map_eq_some_iff.1 h
    obtain ⟨rfl, rfl⟩ := Prod.mk.inj hpair
    rw [htrim] at heq
    exact spelled_of_address? hline hbefore (.inr rfl) heq haddress
  · exact absurd h (by simp)

/-- A line that names a case has the name behind its marks. -/
theorem names_of_name? {word : List Char} (h : name? s = some word) :
    Names (String.ofList word) s := by
  obtain ⟨before, after, hbefore, hafter, heq⟩ := padded_trim s
  rw [name?] at h
  split at h
  · rename_i rest hsign
    obtain ⟨afterSign, hafterSign, hrest⟩ := exists_blank_append_trimStart rest
    split at h
    · exact absurd h (by simp)
    · rename_i tail hdrop
      obtain ⟨afterWord, hafterWord, htail⟩ := exists_blank_append_trimStart tail
      split at h
      · rename_i last hmark
        obtain ⟨afterMark, hafterMark, hlast⟩ := exists_blank_append_trimStart last
        obtain ⟨hword, hvalue⟩ := Option.ite_none_right_eq_some.1 h
        obtain rfl := Option.some.inj hvalue
        rw [Bool.and_eq_true, Bool.not_eq_true', List.isEmpty_eq_false_iff, List.all_eq_true]
          at hword
        have hname : IsName (String.ofList (trimStart last)) :=
          ⟨by simpa using hword.1, by simpa using hword.2⟩
        have hline : s = before ++ '#' :: (afterSign ++ ("@name".toList ++
            (afterWord ++ '=' :: (afterMark ++ trimStart last ++ after)))) := by
          have hafterSecond : '=' :: last = '=' :: (afterMark ++ trimStart last) :=
            congrArg ('=' :: ·) hlast
          rw [hsign, hrest, eq_append_of_dropStart? hdrop, htail, hmark, hafterSecond] at heq
          simpa using heq
        have hnames := Names.intro hname hbefore hafterSign hafterWord hafterMark hafter
        rwa [String.toList_ofList (l := trimStart last), ← hline] at hnames
      · exact absurd h (by simp)
  · exact absurd h (by simp)

/-- The reader of names finds all of them. -/
theorem names_iff {name : String} : Names name s ↔ name? s = some name.toList := by
  refine ⟨Names.name?_eq, fun h => ?_⟩
  have hnames := names_of_name? h
  rwa [String.ofList_toList] at hnames

/-- The reader of names finds none where there is none. -/
theorem name?_eq_none_iff : name? s = none ↔ ∀ name, ¬ Names name s := by
  rw [Option.eq_none_iff_forall_ne_some]
  constructor
  · intro h name hnames
    exact h _ (names_iff.1 hnames)
  · intro h word hword
    exact h _ (names_of_name? hword)

instance (name : String) (s : List Char) : Decidable (Names name s) :=
  decidable_of_iff' _ names_iff

/-- Without white space in front, a comment begins with a number sign or with two slashes. -/
theorem beginsComment_iff :
    BeginsComment s ↔ ∃ rest, trimStart s = '#' :: rest ∨ trimStart s = '/' :: '/' :: rest := by
  constructor
  · intro h
    cases h with
    | sharp hbefore =>
      exact ⟨_, .inl (by rw [trimStart_append hbefore, trimStart_cons (by decide)])⟩
    | slashes hbefore =>
      exact ⟨_, .inr (by rw [trimStart_append hbefore, trimStart_cons (by decide)])⟩
  · obtain ⟨before, hbefore, heq⟩ := exists_blank_append_trimStart s
    rintro ⟨rest, hsharp | hslashes⟩
    · rw [heq, hsharp]
      exact .sharp hbefore
    · rw [heq, hslashes]
      exact .slashes hbefore

/-- The reader of comments finds those that begin as one. -/
theorem isComment_iff : isComment s = true ↔ BeginsComment s := by
  rw [beginsComment_iff, isComment]
  constructor
  · intro h
    split at h
    · rename_i rest htrim
      exact ⟨rest, .inl htrim⟩
    · rename_i rest htrim
      exact ⟨rest, .inr htrim⟩
    · exact absurd h Bool.false_ne_true
  · rintro ⟨rest, hsharp | hslashes⟩
    · rw [hsharp]
      rfl
    · rw [hslashes]
      rfl

instance (s : List Char) : Decidable (BeginsComment s) :=
  decidable_of_iff _ isComment_iff

/-- A comment does not define a variable. -/
theorem BeginsComment.definition?_eq_none (h : BeginsComment s) : definition? s = none := by
  unfold definition?
  obtain ⟨rest, hsharp | hslashes⟩ := beginsComment_iff.1 h
  · rw [hsharp]
    rfl
  · rw [hslashes]
    rfl

/-- A line looks like what it is read as. -/
theorem spelled_read (hline : '\n' ∉ s) (mayDefine : Bool) : Spelled (read mayDefine s) s := by
  rw [read]
  split
  · rename_i hseparator
    exact .separator (isSeparator_iff.1 hseparator)
  · split
    · rename_i hdefinition
      exact spelled_of_definition? hline (by grind)
    · split
      · rename_i hname
        exact .name (names_of_name? hname)
      · split
        · rename_i hcomment
          exact .comment (isComment_iff.1 hcomment)
        · split
          · rename_i hrequest
            exact spelled_of_request? hline hrequest
          · split
            · rename_i hheader
              exact spelled_of_header? hline hheader
            · split
              · rename_i hblank
                exact .blank hblank
              · exact .other s

/-- A line that begins as a comment is one, unless it is a separator or names a case. -/
theorem read_of_beginsComment (h : BeginsComment s) (hseparator : ¬ Separates s)
    (hname : ∀ name, ¬ Names name s) (mayDefine : Bool) : read mayDefine s = .comment := by
  have hnot : isSeparator s = false :=
    Bool.eq_false_iff.2 fun hs => hseparator (isSeparator_iff.1 hs)
  rw [read_eq_read_false h.definition?_eq_none, read, hnot, name?_eq_none_iff.2 hname,
    isComment_iff.2 h]
  rfl

/-! ## What lines with a value part say -/

section HasPart

variable {part : List Char}

/-- The definition of a variable is read with the value of its value part, if no equals sign is in
the key. -/
theorem HasPart.read_definition_iff {key : String} (h : HasPart s (.definition key) part)
    (hline : '\n' ∉ s) (hmark : '=' ∉ key.toList) (value : String) :
    read true s = .definition key value ↔ IsValueOf value part := by
  have hpart := h.notMem hline
  -- Forms of lines are told apart by what they say of some value, such as the empty one.
  generalize hform : Line.definition key = form at h
  have hform := congrFun hform ""
  cases h with
  | definition hbefore hkey hspace =>
    obtain ⟨rfl, -⟩ := Line.definition.inj hform
    rw [Line.read_definition_iff hbefore ⟨hkey.1, hkey.2, hmark⟩ hspace, value?_eq_some_iff hpart]
  | request => exact absurd hform (by simp)
  | header => exact absurd hform (by simp)

/-- A request line is read with the value of its value part. -/
theorem HasPart.read_request_iff {method : String} (h : HasPart s (.request method) part)
    (hline : '\n' ∉ s) (mayDefine : Bool) (url : String) :
    read mayDefine s = .request method url ↔ IsValueOf url part := by
  have hpart := h.notMem hline
  generalize hform : Line.request method = form at h
  have hform := congrFun hform ""
  cases h with
  | request hbefore hmethod hc =>
    obtain ⟨rfl, -⟩ := Line.request.inj hform
    rw [Line.read_request_iff hbefore hmethod hc, value?_eq_some_iff hpart]
  | definition => exact absurd hform (by simp)
  | header => exact absurd hform (by simp)

/-- A header is read with the value of its value part, if its name is that of a header and the line
does not look like a request line. -/
theorem HasPart.read_header_iff {name : String} (h : HasPart s (.header name) part)
    (hline : '\n' ∉ s) (hname : IsHeaderName name)
    (hrequest : ∀ method rest, ¬ HasPart s (.request method) rest) (mayDefine : Bool)
    (value : String) :
    read mayDefine s = .header name value ↔ IsValueOf value part := by
  have hnone : request? s = none := by
    cases hfound : request? s with
    | none => rfl
    | some found =>
      cases spelled_of_request? hline hfound with
      | request hhas => exact absurd hhas (hrequest _ _)
  have hpart := h.notMem hline
  generalize hform : Line.header name = form at h
  have hform := congrFun hform ""
  cases h with
  | header hbefore hkey hspace =>
    obtain ⟨rfl, -⟩ := Line.header.inj hform
    rw [request?_append hbefore] at hnone
    rw [Line.read_header_iff hbefore hname hspace hnone, value?_eq_some_iff hpart]
  | definition => exact absurd hform (by simp)
  | request => exact absurd hform (by simp)

end HasPart

end Volley.Line
