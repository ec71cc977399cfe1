import Volley.Proofs.Message.Document
import Volley.Proofs.Text.Cut
import Volley.RequestFile.Lookup
import Volley.Text.Word

/-!
# References to bodies

A reference to a body names a case, a side and a path, with dots between them. The name and the side
have no dot in them, so the first mark of a body in such a key is the one before the path, and the
reference leads to the recorded document (`lookup_bodyKey`). The path is any text, though, and the
mark of a header is looked for before that of a body: a key whose path has one is a reference to a
header of a case with a dotted name, and such cases do not come out of a file.
-/

namespace Volley

/-- A character that is in no word is not in a text of word characters. -/
theorem Text.notMem_of_isWord {x : Char} (hx : isWord x = false) {s : List Char}
    (h : ∀ c ∈ s, isWord c = true) : x ∉ s := by
  intro hmem
  rw [h x hmem] at hx
  exact Bool.noConfusion hx

/-- The bytes of the body on a side of an exchange. -/
def Exchange.bodyOf (e : Exchange) : RequestFile.Side → List UInt8
  | .request => Text.Utf8.encode e.request.body.toList
  | .response => e.response.body

/-- The headers on a side of an exchange. -/
def Exchange.headersOf (e : Exchange) : RequestFile.Side → List Header
  | .request => e.request.headers
  | .response => e.response.headers

namespace RequestFile

/-- The name of a side in a reference. -/
def Side.name : Side → String
  | .request => "request"
  | .response => "response"

/-- The key of a part of a body. -/
def bodyKey (name : String) (side : Side) (path : String) : String :=
  name ++ "." ++ side.name ++ ".body." ++ path

/-- A side is found by its name. -/
theorem Side.ofName?_name (side : Side) : Side.ofName? side.name.toList = some side := by
  cases side <;> rfl

/-- A side is found by nothing but its name. -/
theorem Side.eq_name_of_ofName? {name : List Char} {side : Side}
    (h : Side.ofName? name = some side) : name = side.name.toList := by
  unfold Side.ofName? at h
  split_ifs at h with hrequest hresponse
  · obtain rfl : Side.request = side := Option.some.inj h
    exact hrequest
  · obtain rfl : Side.response = side := Option.some.inj h
    exact hresponse

/-- The name of a side is a single word. -/
theorem Side.notMem_name (side : Side) : '.' ∉ side.name.toList := by
  cases side <;> decide

/-- The characters of a key, with the path at the end. -/
theorem toList_bodyKey (name : String) (side : Side) (path : String) :
    (bodyKey name side path).toList =
      name.toList ++ '.' :: (side.name.toList ++ '.' :: ("body".toList ++ '.' :: path.toList)) := by
  simp [bodyKey]

/-- What a text leads to is what the first case with a name holds; the text is the name and a side.
-/
theorem exchange?_eq_some_iff {file : RequestFile} {owner : List Char} {e : Exchange}
    {side : Side} : file.exchange? owner = some (e, side) ↔
      ∃ name c, owner = name.toList ++ '.' :: side.name.toList ∧ file.findCase? name = some c ∧
        c.exchange = some e := by
  constructor
  · intro h
    unfold exchange? at h
    simp only [Option.bind_eq_bind, Option.bind_eq_some_iff, Option.pure_def,
      Option.some.injEq, Prod.mk.injEq] at h
    obtain ⟨parts, hcut, c, hcase, e', hexchange, side', hside, rfl, rfl⟩ := h
    refine ⟨String.ofList parts.1, c, ?_, hcase, hexchange⟩
    rw [String.toList_ofList, ← Side.eq_name_of_ofName? hside]
    exact (Text.eq_of_cutLast? hcut).1
  · rintro ⟨name, c, rfl, hcase, hexchange⟩
    rw [exchange?, Text.cutLast?_append_cons side.notMem_name]
    simp only [Option.bind_eq_bind, Option.bind_some, String.ofList_toList, hcase, hexchange,
      Side.ofName?_name, Option.pure_def]

/-- The name of a case and a side lead to what the first case with the name holds. -/
theorem exchange?_append_cons {file : RequestFile} {name : String} {c : Case} {e : Exchange}
    (hcase : file.findCase? name = some c) (hexchange : c.exchange = some e) (side : Side) :
    file.exchange? (name.toList ++ '.' :: side.name.toList) = some (e, side) :=
  exchange?_eq_some_iff.2 ⟨name, c, rfl, hcase, hexchange⟩

/-- A part of a body that a case and a side lead to is what the path selects in the document. -/
theorem bodyPart?_of_exchange? {file : RequestFile} {owner path : List Char} {e : Exchange}
    {side : Side} (h : file.exchange? owner = some (e, side)) :
    file.bodyPart? owner path =
      some (match (Text.Utf8.decode? (e.bodyOf side)).bind Json.parse? with
        | some doc => JsonPath.evaluate doc (String.ofList path)
        | none => "") := by
  rw [bodyPart?, h, ← bodyDocument?_eq]
  cases side with
  | request =>
    simp only [Option.bind_eq_bind, Option.bind_some, Exchange.bodyOf, Exchange.requestDocument?]
    cases bodyDocument? (Text.Utf8.encode e.request.body.toList) <;> rfl
  | response =>
    simp only [Option.bind_eq_bind, Option.bind_some, Exchange.bodyOf, Exchange.responseDocument?]
    cases bodyDocument? e.response.body <;> rfl

/-- The first mark of a header in the key of a body is the one in its path, if there is any. The
path counts from the dot before it. -/
theorem cut?_header_bodyKey {name : String} (hname : '.' ∉ name.toList) (side : Side)
    (path : String) :
    Text.cut? ".header.".toList (bodyKey name side path).toList =
      (Text.cut? ".header.".toList ('.' :: path.toList)).map fun parts =>
        (name.toList ++ '.' :: (side.name.toList ++ '.' :: ("body".toList ++ parts.1)),
          parts.2) := by
  have hmark : ".header.".toList = '.' :: ("header".toList ++ ['.']) := rfl
  have hside : side.name.toList ≠ "header".toList := by cases side <;> decide
  have hbody : "body".toList ≠ "header".toList := by decide
  -- The name of the case, the side and the word `body` are passed over in turn.
  rw [toList_bodyKey, hmark, Text.cut?_append_of_notMem hname]
  rw [Text.cut?_append_cons_of_ne (by decide) side.notMem_name hside]
  rw [Text.cut?_append_cons_of_ne (by decide) (by decide) hbody]
  rw [Option.map_map, Option.map_map]
  rfl

/-- The first mark of a body in the key of a body is the one before its path. -/
theorem cut?_body_bodyKey {name : String} (hname : '.' ∉ name.toList) (side : Side)
    (path : String) :
    Text.cut? ".body.".toList (bodyKey name side path).toList =
      some (name.toList ++ '.' :: side.name.toList, path.toList) := by
  have hmark : ".body.".toList = '.' :: ("body".toList ++ ['.']) := rfl
  have hside : side.name.toList ≠ "body".toList := by cases side <;> decide
  have hpath : '.' :: ("body".toList ++ '.' :: path.toList) =
      '.' :: ("body".toList ++ ['.']) ++ path.toList := by simp
  rw [toList_bodyKey, hmark, Text.cut?_append_of_notMem hname]
  rw [Text.cut?_append_cons_of_ne (by decide) side.notMem_name hside]
  rw [hpath, Text.cut?_mark_append]
  simp

/-- A key that begins with a word and a dot is a reference, if it is no variable. -/
theorem lookup_eq_reference? (builtins : Resolver) {file : RequestFile} {key name : String}
    {rest : List Char} (hname : ∀ x ∈ name.toList, Text.isWord x = true)
    (hkey : key.toList = name.toList ++ '.' :: rest) (hbinding : file.bindings.get? key = none) :
    file.lookup builtins key = file.reference? key.toList := by
  have hdollar : '$' ∉ name.toList := Text.notMem_of_isWord (by decide +kernel) hname
  have hhead : key.toList.head? ≠ some '$' := by
    rw [hkey]
    cases hchars : name.toList with
    | nil => simp
    | cons x rest =>
      rw [hchars, List.mem_cons, not_or] at hdollar
      simpa using Ne.symm hdollar.1
  rw [lookup, hbinding]
  exact if_neg hhead

/-- A text with two dots before the side leads to no case, if no name has a dot in it. -/
theorem exchange?_eq_none {file : RequestFile}
    (hnames : ∀ c ∈ file.cases, ∀ name, c.name = some name → '.' ∉ name.toList)
    {owner : List Char} (hdots : 2 ≤ owner.count '.') : file.exchange? owner = none := by
  rw [exchange?]
  cases hcut : Text.cutLast? '.' owner with
  | none => rfl
  | some parts =>
    obtain ⟨name, side⟩ := parts
    -- Only one of the dots is taken away with the side.
    have hname : '.' ∈ name := Text.mem_of_cutLast? hcut hdots
    have hcase : file.findCase? (String.ofList name) = none := by
      rw [findCase?, List.find?_eq_none]
      intro c hc hfound
      have hdot := hnames c hc (String.ofList name) (by simpa using hfound)
      rw [String.toList_ofList] at hdot
      exact hdot hname
    simp [hcase]

/-- The key of a body of an executed case gives what its path selects in the recorded document, and
nothing if the body is no document, for every path in which no mark of a header stands. If one does,
the key is that of a header, and such a key is unknown unless a case has a name with a dot in it. -/
theorem lookup_bodyKey (builtins : Resolver) (file : RequestFile) (name : String) (side : Side)
    (path : String) (c : Case) (e : Exchange) (hname : ∀ x ∈ name.toList, Text.isWord x = true)
    (hcase : file.findCase? name = some c) (hexchange : c.exchange = some e)
    (hbinding : file.bindings.get? (bodyKey name side path) = none) :
    (¬ ".header.".toList <:+: '.' :: path.toList →
      file.lookup builtins (bodyKey name side path) =
        some (match (Text.Utf8.decode? (e.bodyOf side)).bind Json.parse? with
          | some doc => JsonPath.evaluate doc path
          | none => "")) ∧
    (".header.".toList <:+: '.' :: path.toList →
      (∀ d ∈ file.cases, ∀ other, d.name = some other → '.' ∉ other.toList) →
      file.lookup builtins (bodyKey name side path) = none) := by
  have hdot : '.' ∉ name.toList := Text.notMem_of_isWord (by decide +kernel) hname
  rw [lookup_eq_reference? builtins hname (toList_bodyKey name side path) hbinding, reference?,
    cut?_header_bodyKey hdot]
  constructor
  · intro hmark
    rw [(Text.cut?_eq_none_iff _ _).2 hmark, Option.map_none]
    simp only [cut?_body_bodyKey hdot]
    rw [bodyPart?_of_exchange? (exchange?_append_cons hcase hexchange side), String.ofList_toList]
  · intro hmark hnames
    obtain ⟨before, header, hcut⟩ := Text.exists_cut?_of_infix hmark
    rw [hcut, Option.map_some]
    simp only [header?]
    -- The dots before the side and before the word `body` both stand before the mark.
    rw [exchange?_eq_none hnames]
    · rfl
    · simp only [List.count_append, List.count_cons_self]
      omega

/-- A case that was sent without a document and received one with a member called `header`. -/
def headerCase : Case where
  name := some "a"
  method := "GET"
  url := "http://h/"
  exchange := some {
    request := ⟨"GET", "http://h/", [], "no document"⟩
    response := ⟨200, [], Text.Utf8.encode "\x7b\"header\":\x7b\"x\":\"v\"\x7d\x7d".toList, 0, 37⟩ }

/-- The file of `headerCase` alone. -/
def headerFile : RequestFile where
  bindings := .empty
  cases := [headerCase]

/-- The case of `headerFile` has a word for a name. -/
theorem isWord_headerCase : ∀ x ∈ "a".toList, Text.isWord x = true :=
  List.forall_mem_singleton.2 (by decide +kernel)

/-- The member is found, but not what is in it. -/
theorem lookup_bodyKey_headerFile :
    headerFile.lookup (fun _ => none) (bodyKey "a" .response "$.header") =
      some "\x7b\"x\":\"v\"\x7d" ∧
    headerFile.lookup (fun _ => none) (bodyKey "a" .request "$.header") = some "" ∧
    headerFile.lookup (fun _ => none) (bodyKey "a" .response "$.header.x") = none := by
  have hnames : ∀ d ∈ headerFile.cases, ∀ other, d.name = some other → '.' ∉ other.toList := by
    simp [headerFile, headerCase]
  have hlookup (side : Side) (path : String) :=
    lookup_bodyKey (fun _ => none) headerFile "a" side path headerCase _ isWord_headerCase rfl rfl
      rfl
  refine ⟨((hlookup _ _).1 ?_).trans ?_, ((hlookup _ _).1 ?_).trans ?_, (hlookup _ _).2 ?_ hnames⟩
  all_goals decide +kernel

/-- Not every path leads to the recorded document: one through a member called `header` does not. -/
theorem not_forall_lookup_bodyKey :
    ¬ ∀ (builtins : Resolver) (file : RequestFile) (name : String) (side : Side) (path : String)
      (c : Case) (e : Exchange), (∀ x ∈ name.toList, Text.isWord x = true) →
      file.findCase? name = some c → c.exchange = some e →
      file.bindings.get? (bodyKey name side path) = none →
      file.lookup builtins (bodyKey name side path) =
        some (match (Text.Utf8.decode? (e.bodyOf side)).bind Json.parse? with
          | some doc => JsonPath.evaluate doc path
          | none => "") := by
  intro h
  have hlookup := h (fun _ => none) headerFile "a" .response "$.header.x" headerCase _
    isWord_headerCase rfl rfl rfl
  revert hlookup
  decide +kernel

end RequestFile

end Volley
