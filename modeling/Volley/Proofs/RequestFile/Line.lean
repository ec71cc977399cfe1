import Volley.Proofs.Text.White
import Volley.RequestFile.Grammar

/-!
# Reading single lines

What a line says is tried in a fixed order, so a line that looks like one thing must not be taken
for another one that is tried before. Which things a line can say at all is seen from its first
character: only a line that begins with a number sign can be a separator or a name, and only one
that begins with an at sign can define a variable. So a line with a value part says what it looks
like if, and only if, there is a value in that part (`read_definition_iff`, `read_request_iff`,
`read_header_iff`), and a line with a name behind its marks names a case (`read_of_names`).

Lines that are written are read back: `read_definitionLine`, `read_nameLine`, `read_requestLine` and
`read_headerLine`. A header whose name begins like a method is no request line, because no white
space follows before the colon (`request?_eq_none`).
-/

namespace Volley

open Text

/-- No white space is in the table of word characters. -/
theorem Text.any_wordRanges_eq_false : ∀ n ∈ whitePoints,
    (wordRanges.any fun range => decide (range.1 ≤ n) && decide (n ≤ range.2)) = false := by
  decide +kernel

/-- No character of a word is white space. -/
theorem Text.isWhite_eq_false_of_isWord {c : Char} (h : isWord c = true) : isWhite c = false := by
  cases hwhite : isWhite c with
  | false => rfl
  | true =>
    rw [isWord, inRanges, any_wordRanges_eq_false _ (toNat_mem_whitePoints hwhite)] at h
    exact absurd h Bool.false_ne_true

/-- A text is made of some characters if they are its characters. -/
theorem Text.ofList_eq_iff {s : List Char} {text : String} :
    String.ofList s = text ↔ s = text.toList := by
  rw [← String.toList_inj, String.toList_ofList]

namespace Line

/-- No visible character is white space. -/
theorem isWhite_eq_false_of_isGraph {c : Char} (h : isGraph c = true) : isWhite c = false := by
  simp only [isGraph, Bool.and_eq_true, decide_eq_true_eq] at h
  cases hwhite : isWhite c with
  | false => rfl
  | true =>
    have hpoint := toNat_mem_whitePoints hwhite
    simp only [whitePoints, List.mem_cons, List.not_mem_nil, or_false] at hpoint
    omega

/-! ## Values -/

variable {value : String}

theorem IsValue.toList_ne_nil (h : IsValue value) : value.toList ≠ [] := by
  simpa using h.ne_empty

/-- A value alone is read as it is. -/
theorem IsValue.value?_eq (h : IsValue value) : value? value.toList = some value.toList := by
  rw [value?, isBlank_eq_false h.toList_ne_nil h.first, trim_eq_self h.first h.last]
  simp

/-- A value after a space is read as it is. -/
theorem IsValue.value?_space (h : IsValue value) :
    value? (' ' :: value.toList) = some value.toList := by
  have hblank : isBlank (' ' :: value.toList) = false := by
    rw [isBlank, List.all_cons, ← isBlank, isBlank_eq_false h.toList_ne_nil h.first, Bool.and_false]
  have htrim : trim (' ' :: value.toList) = value.toList := by
    rw [trim, trimStart_cons_of_isWhite (by decide), ← trim, trim_eq_self h.first h.last]
  rw [value?, hblank, htrim]
  simp

/-- What follows a mark is read for a value, and white space before the mark is passed over. -/
theorem valueAfter?_append {mark : Char} (hmark : isWhite mark = false) {space : List Char}
    (hspace : isBlank space = true) (part : List Char) :
    valueAfter? mark (space ++ mark :: part) = value? part := by
  have hstart : trimStart (mark :: part) = mark :: part := trimStart_eq_self (by simpa using hmark)
  rw [valueAfter?, trimStart_append hspace, hstart]
  exact if_pos rfl

/-! ## Keys -/

/-- No value follows before a visible character other than the mark. -/
theorem valueAfter?_eq_none {mark c : Char} (hc : isWhite c = false) (hne : c ≠ mark)
    (rest : List Char) : valueAfter? mark (c :: rest) = none := by
  rw [valueAfter?, trimStart_eq_self (by simpa using hc)]
  exact if_neg hne

/-- A key is read up to the mark behind it. -/
theorem keyValue?_append {mark : Char} {key rest value : List Char} (hne : key ≠ [])
    (hgraph : ∀ c ∈ key, isGraph c = true) (hmark : mark ∉ key)
    (hvalue : valueAfter? mark rest = some value) :
    keyValue? mark (key ++ rest) = some (key, value) := by
  induction key with
  | nil => exact absurd rfl hne
  | cons c key ih =>
    rw [List.forall_mem_cons] at hgraph
    rw [List.mem_cons, not_or] at hmark
    rw [List.cons_append, keyValue?, if_pos hgraph.1]
    cases key with
    | nil => rw [List.nil_append, hvalue]
    | cons d key =>
      have hd := isWhite_eq_false_of_isGraph (hgraph.2 d List.mem_cons_self)
      have hdmark : d ≠ mark := fun heq => hmark.2 (heq ▸ List.mem_cons_self)
      have hlater := ih (List.cons_ne_nil d key) hgraph.2 hmark.2
      rw [List.cons_append] at hlater ⊢
      rw [valueAfter?_eq_none hd hdmark, hlater]
      rfl

/-- The value after a mark is read from what follows the mark. -/
theorem exists_of_valueAfter? {mark : Char} {s value : List Char}
    (h : valueAfter? mark s = some value) :
    ∃ space part, isBlank space = true ∧ s = space ++ mark :: part ∧ value? part = some value := by
  obtain ⟨space, hspace, heq⟩ := exists_blank_append_trimStart s
  rw [valueAfter?] at h
  split at h
  · exact absurd h (by simp)
  · rename_i c part htrim
    obtain ⟨rfl, hvalue⟩ := Option.ite_none_right_eq_some.1 h
    exact ⟨space, part, hspace, by rwa [← htrim], hvalue⟩

/-- A key is visible characters, and a mark and a value follow. -/
theorem exists_of_keyValue? {mark : Char} {s key value : List Char}
    (h : keyValue? mark s = some (key, value)) :
    (key ≠ [] ∧ ∀ c ∈ key, isGraph c = true) ∧ ∃ space part, isBlank space = true ∧
      s = key ++ (space ++ mark :: part) ∧ value? part = some value := by
  induction s generalizing key with
  | nil => exact absurd h (by simp [keyValue?])
  | cons c rest ih =>
    rw [keyValue?] at h
    obtain ⟨hgraph, h⟩ := Option.ite_none_right_eq_some.1 h
    split at h
    · rename_i found hafter
      obtain ⟨rfl, rfl⟩ := Prod.mk.inj (Option.some.inj h)
      obtain ⟨space, part, hspace, rfl, hvalue⟩ := exists_of_valueAfter? hafter
      exact ⟨⟨List.cons_ne_nil _ _, List.forall_mem_singleton.2 hgraph⟩, space, part, hspace, rfl,
        hvalue⟩
    · obtain ⟨⟨later, found⟩, hlater, heq⟩ := Option.map_eq_some_iff.1 h
      obtain ⟨rfl, rfl⟩ := Prod.mk.inj heq
      obtain ⟨⟨-, hkey⟩, space, part, hspace, hrest, hvalue⟩ := ih hlater
      exact ⟨⟨List.cons_ne_nil _ _, List.forall_mem_cons.2 ⟨hgraph, hkey⟩⟩, space, part, hspace,
        congrArg (c :: ·) hrest, hvalue⟩

/-- What is found after a key and its mark is the value of what follows the mark. -/
theorem keyValue?_eq_some_iff {mark : Char} (hwhite : isWhite mark = false)
    {key space part value : List Char} (hne : key ≠ []) (hgraph : ∀ c ∈ key, isGraph c = true)
    (hmark : mark ∉ key) (hspace : isBlank space = true) :
    keyValue? mark (key ++ (space ++ mark :: part)) = some (key, value) ↔
      value? part = some value := by
  constructor
  · intro h
    obtain ⟨-, found, rest, hfound, heq, hvalue⟩ := exists_of_keyValue? h
    have hstart : trimStart (space ++ mark :: part) = trimStart (found ++ mark :: rest) :=
      congrArg trimStart (List.append_cancel_left heq)
    have hfirst : ∀ tail, trimStart (mark :: tail) = mark :: tail := fun tail =>
      trimStart_eq_self (by simpa using hwhite)
    rw [trimStart_append hspace, trimStart_append hfound, hfirst, hfirst] at hstart
    rwa [(List.cons.inj hstart).2]
  · intro h
    refine keyValue?_append hne hgraph hmark ?_
    rw [valueAfter?_append hwhite hspace, h]

/-- A key begins with a visible character. -/
theorem IsKey.exists_cons {mark : Char} {key : String} (h : IsKey mark key) :
    ∃ c rest, key.toList = c :: rest ∧ isWhite c = false := by
  obtain ⟨c, rest, heq⟩ := List.exists_cons_of_ne_nil (l := key.toList) (by simpa using h.ne_empty)
  refine ⟨c, rest, heq, isWhite_eq_false_of_isGraph (h.graph c ?_)⟩
  rw [heq]
  exact List.mem_cons_self

/-! ## What the first character tells -/

section First

variable {c : Char} {rest : List Char}

theorem trimStart_cons (hc : isWhite c = false) : trimStart (c :: rest) = c :: rest :=
  trimStart_eq_self (by simpa using hc)

/-- What is left of a line begins as the line does. -/
theorem eq_of_trim_eq_cons (hc : isWhite c = false) {d : Char} {left : List Char}
    (h : trim (c :: rest) = d :: left) : d = c := by
  have hprefix := trimEnd_prefix (c :: rest)
  rw [trim, trimStart_cons hc] at h
  rw [h, List.cons_prefix_cons] at hprefix
  exact hprefix.1

/-- A separator begins with a number sign. -/
theorem isSeparator_eq_false (hc : isWhite c = false) (hsharp : c ≠ '#') :
    isSeparator (c :: rest) = false := by
  rw [isSeparator, beq_eq_false_iff_ne]
  exact fun h => hsharp (eq_of_trim_eq_cons hc h).symm

/-- The definition of a variable begins with an at sign. -/
theorem definition?_eq_none (hc : isWhite c = false) (hat : c ≠ '@') :
    definition? (c :: rest) = none := by
  rw [definition?, trimStart_cons hc]
  split
  · rename_i heq
    exact absurd (List.cons.inj heq).1 hat
  · rfl

/-- A name begins with a number sign. -/
theorem name?_eq_none (hc : isWhite c = false) (hsharp : c ≠ '#') : name? (c :: rest) = none := by
  rw [name?]
  split
  · rename_i heq
    exact absurd (eq_of_trim_eq_cons hc heq).symm hsharp
  · rfl

/-- A comment begins with a number sign or two slashes. -/
theorem isComment_eq_false (hc : isWhite c = false) (hsharp : c ≠ '#')
    (hslashes : ¬ ['/', '/'] <+: c :: rest) : isComment (c :: rest) = false := by
  rw [isComment, trimStart_cons hc]
  split
  · rename_i heq
    exact absurd (List.cons.inj heq).1 hsharp
  · rename_i tail heq
    refine absurd ⟨tail, ?_⟩ hslashes
    rw [heq]
    rfl
  · rfl

end First

/-- A method is followed by white space. A line whose first colon comes after visible characters
alone has none there. -/
theorem exists_cons_of_append_eq {key rest tail : List Char} (start : List Char)
    (hgraph : ∀ c ∈ key, isGraph c = true) (hcolon : ':' ∉ start)
    (heq : key ++ ':' :: tail = start ++ rest) :
    ∃ c rest', rest = c :: rest' ∧ isWhite c = false := by
  rcases List.append_eq_append_iff.1 heq with ⟨more, rfl, htail⟩ | ⟨more, rfl, rfl⟩
  · -- The part before the rest ends at the colon at the latest.
    cases more with
    | nil => exact ⟨':', tail, by simpa using htail.symm, by decide⟩
    | cons c more =>
      obtain ⟨rfl, -⟩ := List.cons.inj htail
      simp at hcolon
  · cases more with
    | nil => exact ⟨':', tail, rfl, by decide⟩
    | cons c more =>
      have hc : isGraph c = true := hgraph c (by simp)
      exact ⟨c, more ++ ':' :: tail, rfl, isWhite_eq_false_of_isGraph hc⟩

/-- No address follows a visible character. -/
theorem address?_eq_none {c : Char} (hc : isWhite c = false) (rest : List Char) :
    address? (c :: rest) = none := by
  rw [address?, hc]
  simp

/-- A line with a key and a colon is no request line. -/
theorem request?_eq_none {key tail : List Char} (hgraph : ∀ c ∈ key, isGraph c = true)
    (hstart : trimStart (key ++ ':' :: tail) = key ++ ':' :: tail) :
    request? (key ++ ':' :: tail) = none := by
  rw [request?, hstart]
  split
  · rename_i rest heq
    obtain ⟨c, rest, rfl, hc⟩ :=
      exists_cons_of_append_eq ['G', 'E', 'T'] hgraph (by decide) heq
    rw [address?_eq_none hc, Option.map_none]
  · rename_i rest heq
    obtain ⟨c, rest, rfl, hc⟩ :=
      exists_cons_of_append_eq ['P', 'O', 'S', 'T'] hgraph (by decide) heq
    rw [address?_eq_none hc, Option.map_none]
  · rfl

/-! ## Whole lines -/

/-- White space before a request line does not matter. -/
theorem request?_append {before : List Char} (h : isBlank before = true) (s : List Char) :
    request? (before ++ s) = request? s := by
  unfold request?
  rw [trimStart_append h]

/-- White space before a line does not matter. -/
theorem read_append {before : List Char} (h : isBlank before = true) (mayDefine : Bool)
    (s : List Char) : read mayDefine (before ++ s) = read mayDefine s := by
  have htrim : trim (before ++ s) = trim s := by rw [trim, trimStart_append h, ← trim]
  have hblank : isBlank (before ++ s) = isBlank s := by
    rw [isBlank, List.all_append, ← isBlank, h, Bool.true_and, ← isBlank]
  have hseparator : isSeparator (before ++ s) = isSeparator s := by
    rw [isSeparator, htrim, ← isSeparator]
  have hdefinition : definition? (before ++ s) = definition? s := by
    unfold definition?
    rw [trimStart_append h]
  have hname : name? (before ++ s) = name? s := by
    unfold name?
    rw [htrim]
  have hcomment : isComment (before ++ s) = isComment s := by
    unfold isComment
    rw [trimStart_append h]
  have hheader : header? (before ++ s) = header? s := by
    rw [header?, trimStart_append h, ← header?]
  rw [read, hseparator, hdefinition, hname, hcomment, request?_append h, hheader,
    hblank, ← read]

/-- A line that does not define a variable says the same wherever it stands. -/
theorem read_eq_read_false {s : List Char} (h : definition? s = none) (mayDefine : Bool) :
    read mayDefine s = read false s := by
  cases mayDefine with
  | false => rfl
  | true => rw [read, read, if_pos rfl, if_neg Bool.false_ne_true, h]

/-- A line that begins with an at sign, a key and an equals sign defines a variable if a value
follows. -/
theorem read_definition_iff {before space part : List Char} {key value : String}
    (hbefore : isBlank before = true) (hkey : IsKey '=' key) (hspace : isBlank space = true) :
    read true (before ++ '@' :: (key.toList ++ (space ++ '=' :: part))) = .definition key value ↔
      value? part = some value.toList := by
  have hdefinition : definition? ('@' :: (key.toList ++ (space ++ '=' :: part))) =
      keyValue? '=' (key.toList ++ (space ++ '=' :: part)) := by
    unfold definition?
    rw [trimStart_cons (by decide)]
    rfl
  have hvalue : keyValue? '=' (key.toList ++ (space ++ '=' :: part)) =
      some (key.toList, value.toList) ↔ _ :=
    keyValue?_eq_some_iff (by decide) (by simpa using hkey.ne_empty) hkey.graph hkey.mark hspace
  rw [read_append hbefore, ← hvalue, ← hdefinition, read,
    isSeparator_eq_false (by decide) (by decide), if_pos rfl]
  cases definition? ('@' :: (key.toList ++ (space ++ '=' :: part))) with
  | some found => simp [ofList_eq_iff, Prod.ext_iff]
  | none => grind

/-- A line that is written to define a variable does so. -/
theorem read_definitionLine {key value : String} (hkey : IsKey '=' key) (hvalue : IsValue value) :
    read true (Block.definitionLine (key, value)).toList = .definition key value := by
  have hline : (Block.definitionLine (key, value)).toList =
      [] ++ '@' :: (key.toList ++ ([' '] ++ '=' :: ' ' :: value.toList)) := by
    simp [Block.definitionLine]
  rw [hline, read_definition_iff rfl hkey (by decide), hvalue.value?_space]

/-- A name is found behind its marks. -/
theorem Names.name?_eq {name : String} {s : List Char} (h : Names name s) :
    name? s = some name.toList := by
  obtain ⟨hname, hbefore, hafterSign, hafterWord, hafterMark, hafter⟩ := h
  rename_i before afterSign afterWord afterMark after
  have hnonempty : name.toList ≠ [] := by simpa using hname.ne_empty
  have hwhite : ∀ c ∈ name.toList, isWhite c = false := fun c hc =>
    isWhite_eq_false_of_isWord (hname.word c hc)
  generalize hmark : afterWord ++ '=' :: (afterMark ++ name.toList) = marked
  have htrim : trim (before ++ '#' :: (afterSign ++ ("@name".toList ++
      (afterWord ++ '=' :: (afterMark ++ name.toList ++ after))))) =
        '#' :: (afterSign ++ ("@name".toList ++ marked)) := by
    have hpadded : Padded ('#' :: (afterSign ++ ("@name".toList ++ marked))) (before ++
        '#' :: (afterSign ++ ("@name".toList ++
          (afterWord ++ '=' :: (afterMark ++ name.toList ++ after))))) :=
      ⟨before, after, hbefore, hafter, by simp [← hmark]⟩
    rw [hpadded.trim_eq]
    refine trim_eq_self ?_ fun c hc => hwhite c ?_
    · rintro c ⟨⟩
      decide
    · have hlast : '#' :: (afterSign ++ ("@name".toList ++ marked)) =
          ('#' :: (afterSign ++ "@name".toList) ++ afterWord ++ '=' :: afterMark) ++
            name.toList := by simp [← hmark]
      rw [hlast, List.getLast?_append, List.getLast?_eq_some_getLast hnonempty, Option.some_or]
        at hc
      exact Option.some.inj hc ▸ List.getLast_mem hnonempty
  have hdrop : dropStart? "@name".toList (trimStart (afterSign ++ ("@name".toList ++ marked))) =
      some marked := by
    have hstart : trimStart ("@name".toList ++ marked) = "@name".toList ++ marked :=
      trimStart_cons (by decide)
    rw [trimStart_append hafterSign, hstart, dropStart?, if_pos (by simp), List.drop_left]
  have hequals : trimStart marked = '=' :: (afterMark ++ name.toList) := by
    rw [← hmark, trimStart_append hafterWord, trimStart_cons (by decide)]
  have hvalue : trimStart (afterMark ++ name.toList) = name.toList := by
    rw [trimStart_append hafterMark]
    exact trimStart_eq_self fun c hc => hwhite c (List.mem_of_head? hc)
  rw [name?, htrim]
  simp only [hdrop, hequals, hvalue]
  rw [if_pos]
  simpa [hnonempty] using hname.word

/-- A line with a name behind its marks names a case. -/
theorem read_of_names {name : String} {s : List Char} (h : Names name s) (mayDefine : Bool) :
    read mayDefine s = .name name := by
  have hname := h.name?_eq
  have hseparator : isSeparator s = false := by
    refine Bool.eq_false_iff.2 fun hseparator => ?_
    have hnone : name? s = none := by
      unfold name?
      rw [eq_of_beq hseparator]
      rfl
    rw [hnone] at hname
    exact absurd hname (by simp)
  have hdefinition : definition? s = none := by
    cases h with
    | intro _ hbefore =>
      unfold definition?
      rw [trimStart_append hbefore, trimStart_cons (by decide)]
      rfl
  rw [read_eq_read_false hdefinition, read, hseparator, hname]
  simp

/-- A line that is written to name a case does so. -/
theorem read_nameLine {name : String} (h : IsName name) (mayDefine : Bool) :
    read mayDefine (Block.nameLine name).toList = .name name := by
  have hline : (Block.nameLine name).toList = [] ++ '#' :: ([' '] ++ ("@name".toList ++
      ([' '] ++ '=' :: ([' '] ++ name.toList ++ [])))) := by
    simp [Block.nameLine]
  rw [hline]
  exact read_of_names (.intro h rfl (by decide) (by decide) (by decide) rfl) mayDefine

/-- A line that begins with a method and white space makes a request if an address follows. -/
theorem read_request_iff {before part : List Char} {c : Char} {method url : String}
    (hbefore : isBlank before = true) (hmethod : method = "GET" ∨ method = "POST")
    (hc : isWhite c = true) (mayDefine : Bool) :
    read mayDefine (before ++ (method.toList ++ c :: part)) = .request method url ↔
      value? part = some url.toList := by
  have hrequest : request? (method.toList ++ c :: part) =
      (value? part).map fun found => (method.toList, found) := by
    have haddress : address? (c :: part) = value? part := if_pos hc
    unfold request?
    obtain rfl | rfl := hmethod
    · rw [← haddress]
      rfl
    · rw [← haddress]
      rfl
  obtain ⟨d, rest, hline, hd, hfirst⟩ : ∃ d rest, method.toList ++ c :: part = d :: rest ∧
      isWhite d = false ∧ d ≠ '#' ∧ d ≠ '/' ∧ d ≠ '@' := by
    obtain rfl | rfl := hmethod
    · exact ⟨'G', 'E' :: 'T' :: c :: part, rfl, by decide⟩
    · exact ⟨'P', 'O' :: 'S' :: 'T' :: c :: part, rfl, by decide⟩
  obtain ⟨hsharp, hslash, hat⟩ := hfirst
  have hcomment : isComment (d :: rest) = false :=
    isComment_eq_false hd hsharp fun hslashes => hslash (List.cons_prefix_cons.1 hslashes).1.symm
  rw [read_append hbefore, hline, read_eq_read_false (definition?_eq_none hd hat), read,
    isSeparator_eq_false hd hsharp, name?_eq_none hd hsharp, hcomment, ← hline, hrequest]
  cases value? part with
  | some found => simp [ofList_eq_iff]
  | none => grind

/-- A line that is written to make a request does so. -/
theorem read_requestLine {method url : String} (hmethod : method = "GET" ∨ method = "POST")
    (hurl : IsValue url) (mayDefine : Bool) :
    read mayDefine (Block.requestLine method url).toList = .request method url := by
  have hline : (Block.requestLine method url).toList =
      [] ++ (method.toList ++ ' ' :: url.toList) := by
    simp [Block.requestLine]
  rw [hline, read_request_iff rfl hmethod (by decide), hurl.value?_eq]

/-- A line that begins with a name and a colon is a header if a value follows, unless it makes a
request. -/
theorem read_header_iff {before space part : List Char} {name value : String}
    (hbefore : isBlank before = true) (hname : IsHeaderName name) (hspace : isBlank space = true)
    (hrequest : request? (name.toList ++ (space ++ ':' :: part)) = none) (mayDefine : Bool) :
    read mayDefine (before ++ (name.toList ++ (space ++ ':' :: part))) = .header name value ↔
      value? part = some value.toList := by
  obtain ⟨c, rest, heq, hc⟩ := hname.exists_cons
  have hline : name.toList ++ (space ++ ':' :: part) = c :: (rest ++ (space ++ ':' :: part)) := by
    rw [heq, List.cons_append]
  have hsharp : c ≠ '#' := fun h => hname.noSharp (by simp [heq, h])
  have hat : c ≠ '@' := fun h => hname.noAt (by simp [heq, h])
  have hslashes : ¬ ['/', '/'] <+: c :: (rest ++ (space ++ ':' :: part)) := by
    -- What is behind the name does not begin with a slash.
    have hnot := hname.noSlashes
    rw [heq] at hnot
    cases rest with
    | nil =>
      cases space with
      | nil => simp
      | cons d space =>
        have hd : d ≠ '/' := by
          rintro rfl
          simp [isBlank] at hspace
          exact absurd hspace.1 (by decide)
        simp [hd.symm]
    | cons d rest => simpa [List.cons_prefix_cons] using hnot
  have hheader : header? (name.toList ++ (space ++ ':' :: part)) =
      keyValue? ':' (name.toList ++ (space ++ ':' :: part)) := by
    rw [header?, hline, trimStart_cons hc]
  have hvalue : keyValue? ':' (name.toList ++ (space ++ ':' :: part)) =
      some (name.toList, value.toList) ↔ _ :=
    keyValue?_eq_some_iff (by decide) (by simpa using hname.ne_empty) hname.graph hname.mark hspace
  rw [← hline] at hslashes
  rw [read_append hbefore, ← hvalue, ← hheader, hline,
    read_eq_read_false (definition?_eq_none hc hat), read, isSeparator_eq_false hc hsharp,
    name?_eq_none hc hsharp, isComment_eq_false hc hsharp (hline ▸ hslashes), ← hline, hrequest]
  cases header? (name.toList ++ (space ++ ':' :: part)) with
  | some found => simp [ofList_eq_iff, Prod.ext_iff]
  | none => grind

/-- A line that is written as a header is one. -/
theorem read_headerLine {name value : String} (hname : IsHeaderName name) (hvalue : IsValue value)
    (mayDefine : Bool) :
    read mayDefine (Block.headerLine (name, value)).toList = .header name value := by
  have hline : (Block.headerLine (name, value)).toList =
      [] ++ (name.toList ++ ([] ++ ':' :: ' ' :: value.toList)) := by
    simp [Block.headerLine]
  have hstart : trimStart (name.toList ++ ':' :: ' ' :: value.toList) =
      name.toList ++ ':' :: ' ' :: value.toList := by
    obtain ⟨c, rest, heq, hc⟩ := hname.exists_cons
    rw [heq, List.cons_append, trimStart_cons hc]
  -- The name may begin as a method does, but the colon comes before any white space.
  have hrequest := request?_eq_none hname.graph hstart
  rw [hline, read_header_iff rfl hname rfl hrequest, hvalue.value?_space]

/-- An empty line is blank. -/
theorem read_nil (mayDefine : Bool) : read mayDefine [] = .blank := by
  cases mayDefine <;> decide

end Line

end Volley
