import Volley.Proofs.RequestFile.Recorded
import Volley.Proofs.RequestFile.Reference

/-!
# What a file knows of its later cases

A reference shows what a case holds, and the case is the first one with the name that the key has in
it (`referent?`). So a file whose cases hold nothing from a place on knows what the cases before the
place tell (`lookup_before`): a later case that has the name hides nothing and shows nothing. A key
that names no earlier case is not known at all, unless it is a variable or a built-in function
(`lookup_eq_none`).
-/

namespace Volley.RequestFile

/-- The part of a key that leads to an exchange: what stands before the mark of a header, or else of
a body. -/
def owner? (key : List Char) : Option (List Char) :=
  match Text.cut? ".header.".toList key with
  | some (owner, _) => some owner
  | none => (Text.cut? ".body.".toList key).map Prod.fst

/-- The name of the case that a key refers to: what stands before the last dot of that part. -/
def referent? (key : String) : Option String :=
  (owner? key.toList).bind fun owner =>
    (Text.cutLast? '.' owner).map fun parts => String.ofList parts.1

/-- That part of a key ends at a dot. -/
theorem exists_eq_append_of_owner? {key owner : List Char} (h : owner? key = some owner) :
    ∃ rest, key = owner ++ '.' :: rest := by
  unfold owner? at h
  split at h
  · rename_i owner' header hcut
    obtain rfl : owner' = owner := Option.some.inj h
    refine ⟨"header.".toList ++ header, ?_⟩
    rw [Text.eq_of_cut? hcut, List.append_assoc]
    rfl
  · obtain ⟨parts, hcut, rfl⟩ := Option.map_eq_some_iff.1 h
    refine ⟨"body.".toList ++ parts.2, ?_⟩
    rw [Text.eq_of_cut? hcut, List.append_assoc]
    rfl

/-- No case before a place has the name that a key refers to. -/
def PointsAhead (file : RequestFile) (place : Nat) (key : String) : Prop :=
  ∀ name, referent? key = some name → some name ∉ (file.cases.take place).map Case.name

/-- The file with the cases before a place. -/
def before (file : RequestFile) (place : Nat) : RequestFile :=
  { file with cases := file.cases.take place }

/-- Which cases a key can refer to depends on the templates alone. -/
theorem PointsAhead.of_release_eq {a b : RequestFile} {place : Nat} {key : String}
    (h : a.PointsAhead place key) (hrelease : a.release = b.release) : b.PointsAhead place key := by
  have hnames (file : RequestFile) :
      file.release.cases.map Case.name = file.cases.map Case.name := by
    rw [release_cases, List.map_map]
    rfl
  intro name hname
  rw [List.map_take, ← hnames b, ← hrelease, hnames a, ← List.map_take]
  exact h name hname

/-- The first case with a name stands before a place, or it is the first one from there on. -/
theorem findCase?_eq_or (file : RequestFile) (place : Nat) (name : String) :
    file.findCase? name = ((file.before place).findCase? name).or
      ((file.cases.drop place).find? fun c => c.name == some name) := by
  have hcases := List.take_append_drop place file.cases
  rw [findCase?, ← hcases, List.find?_append, hcases]
  rfl

/-- A reference to a case that holds something leads to one before the place. -/
theorem exchange?_before {file : RequestFile} {place : Nat} (h : file.HoldsNothingFrom place) :
    (file.before place).exchange? = file.exchange? := by
  funext owner
  unfold exchange?
  cases Text.cutLast? '.' owner with
  | none => rfl
  | some parts =>
    simp only [Option.bind_eq_bind, Option.bind_some]
    rw [findCase?_eq_or file place]
    cases (file.before place).findCase? (String.ofList parts.1) with
    | some c => rfl
    | none =>
      rw [Option.none_or]
      cases hlater :
        (file.cases.drop place).find? fun c => c.name == some (String.ofList parts.1) with
      | none => rfl
      | some c => simp [h c (List.mem_of_find?_eq_some hlater)]

/-- A file that holds nothing from a place on knows what the cases before the place tell. -/
theorem lookup_before {file : RequestFile} {place : Nat} (h : file.HoldsNothingFrom place)
    (builtins : Resolver) : (file.before place).lookup builtins = file.lookup builtins := by
  have hbindings : (file.before place).bindings = file.bindings := rfl
  exact lookup_eq_of_exchange?_eq hbindings (exchange?_before h) builtins

/-- Files with the same variables that hold nothing from a place on know the same if their cases
before it are the same. -/
theorem lookup_eq_of_take_eq {a b : RequestFile} {place : Nat} (hbindings : a.bindings = b.bindings)
    (hcases : a.cases.take place = b.cases.take place) (ha : a.HoldsNothingFrom place)
    (hb : b.HoldsNothingFrom place) (builtins : Resolver) :
    a.lookup builtins = b.lookup builtins := by
  have hexchange : a.exchange? = b.exchange? := by
    rw [← exchange?_before ha, ← exchange?_before hb]
    funext owner
    simp only [exchange?, findCase?, before, hcases]
  exact lookup_eq_of_exchange?_eq hbindings hexchange builtins

/-- A name that no case has leads to no exchange. -/
theorem exchange?_eq_none_of_ne {file : RequestFile} {owner : List Char}
    (h : ∀ name side, Text.cutLast? '.' owner = some (name, side) →
      some (String.ofList name) ∉ file.cases.map Case.name) : file.exchange? owner = none := by
  unfold exchange?
  cases hcut : Text.cutLast? '.' owner with
  | none => rfl
  | some parts =>
    have hcase : file.findCase? (String.ofList parts.1) = none := by
      rw [findCase?, List.find?_eq_none]
      intro c hc hfound
      refine h parts.1 parts.2 hcut (List.mem_map.2 ⟨c, hc, ?_⟩)
      simpa using hfound
    simp [hcase]

/-- A key that leads to no exchange is unknown as a reference. -/
theorem reference?_eq_none {file : RequestFile} {key : List Char}
    (h : ∀ owner, owner? key = some owner → file.exchange? owner = none) :
    file.reference? key = none := by
  rw [reference?]
  unfold owner? at h
  cases hheader : Text.cut? ".header.".toList key with
  | some parts =>
    have hnone := h parts.1 (by rw [hheader])
    simp [header?, hnone]
  | none =>
    cases hbody : Text.cut? ".body.".toList key with
    | none => rfl
    | some parts =>
      have hnone := h parts.1 (by rw [hheader, hbody, Option.map_some])
      simp [bodyPart?, hnone]

/-- A file that holds nothing from a place on does not know a key that names no case before it,
unless the key is a variable or a built-in function. -/
theorem lookup_eq_none {file : RequestFile} {place : Nat} {key : String}
    (h : file.HoldsNothingFrom place) (hahead : file.PointsAhead place key) {builtins : Resolver}
    (hbinding : file.bindings.get? key = none)
    (hbuiltin : key.toList.head? = some '$' → builtins key = none) :
    file.lookup builtins key = none := by
  have hbefore : (file.before place).bindings.get? key = none := hbinding
  rw [← lookup_before h, lookup, hbefore]
  by_cases hdollar : key.toList.head? = some '$'
  · simpa [hdollar] using hbuiltin hdollar
  · simp only [if_neg hdollar]
    apply reference?_eq_none
    intro owner howner
    apply exchange?_eq_none_of_ne
    intro name side hcut
    have hreferent : referent? key = some (String.ofList name) := by
      rw [referent?, howner, Option.bind_some, hcut, Option.map_some]
    exact hahead _ hreferent

/-! ## Keys of headers and of bodies -/

/-- The key of a header. -/
def headerKey (name : String) (side : Side) (header : String) : String :=
  name ++ "." ++ side.name ++ ".header." ++ header

/-- The characters of a key, with the name of the header at the end. -/
theorem toList_headerKey (name : String) (side : Side) (header : String) :
    (headerKey name side header).toList =
      name.toList ++ '.' :: (side.name.toList ++ (".header.".toList ++ header.toList)) := by
  simp [headerKey]

/-- The first mark of a header in the key of a header is the one before its name. -/
theorem cut?_header_headerKey {name : String} (hname : '.' ∉ name.toList) (side : Side)
    (header : String) :
    Text.cut? ".header.".toList (headerKey name side header).toList =
      some (name.toList ++ '.' :: side.name.toList, header.toList) := by
  have hmark : ".header.".toList = '.' :: ("header".toList ++ ['.']) := rfl
  have hside : side.name.toList ≠ "header".toList := by cases side <;> decide
  have hheader : '.' :: ("header".toList ++ ['.'] ++ header.toList) =
      '.' :: ("header".toList ++ ['.']) ++ header.toList := rfl
  rw [toList_headerKey, hmark, Text.cut?_append_of_notMem hname, List.cons_append]
  rw [Text.cut?_append_cons_of_ne (by decide) side.notMem_name hside]
  rw [hheader, Text.cut?_mark_append]
  simp

/-- The key of a header refers to the case whose name it begins with. -/
theorem referent?_headerKey {name : String} (hname : '.' ∉ name.toList) (side : Side)
    (header : String) : referent? (headerKey name side header) = some name := by
  rw [referent?, owner?, cut?_header_headerKey hname]
  simp only [Option.bind_some]
  rw [Text.cutLast?_append_cons side.notMem_name, Option.map_some, String.ofList_toList]

/-- The key of a body refers to the case whose name it begins with, or to one with a dot in its
name. -/
theorem eq_or_mem_of_referent?_bodyKey {name : String} (hname : '.' ∉ name.toList) (side : Side)
    (path : String) {other : String} (h : referent? (bodyKey name side path) = some other) :
    other = name ∨ '.' ∈ other.toList := by
  rw [referent?, owner?, cut?_header_bodyKey hname] at h
  cases hheader : Text.cut? ".header.".toList ('.' :: path.toList) with
  | none =>
    rw [hheader, Option.map_none] at h
    simp only [cut?_body_bodyKey hname, Option.map_some, Option.bind_some] at h
    rw [Text.cutLast?_append_cons side.notMem_name] at h
    simp at h
    exact .inl h.symm
  | some parts =>
    rw [hheader, Option.map_some] at h
    simp only [Option.bind_some] at h
    obtain ⟨⟨before, side'⟩, hcut, rfl⟩ := Option.map_eq_some_iff.1 h
    -- The dots before the side and before the word `body` both stand before the mark.
    refine .inr ?_
    rw [String.toList_ofList]
    apply Text.mem_of_cutLast? hcut
    simp only [List.count_append, List.count_cons_self]
    omega

/-! ## Keys that begin with the name of a case -/

section

variable {file : RequestFile} {name : String}

/-- Where no name has a dot in it, the case that a key refers to is the one whose name it begins
with. -/
theorem findCase?_of_exchange?
    (hnames : ∀ c ∈ file.cases, ∀ other, c.name = some other → '.' ∉ other.toList)
    (hname : '.' ∉ name.toList) {rest owner later : List Char}
    (hkey : name.toList ++ '.' :: rest = owner ++ '.' :: later) {e : Exchange} {side : Side}
    (h : file.exchange? owner = some (e, side)) :
    owner = name.toList ++ '.' :: side.name.toList ∧
      ∃ c, file.findCase? name = some c ∧ c.exchange = some e := by
  obtain ⟨other, c, rfl, hcase, hexchange⟩ := exchange?_eq_some_iff.1 h
  have hother : c.name = some other := by simpa using List.find?_some hcase
  have hdot := hnames c (List.mem_of_find?_eq_some hcase) other hother
  rw [List.append_assoc, List.cons_append] at hkey
  obtain rfl : name = other := String.toList_inj.1 (Text.append_cons_inj hname hdot hkey).1
  exact ⟨rfl, c, hcase, hexchange⟩

/-- A key that begins with a name is known only if the first case with the name holds something,
unless the key is a variable. -/
theorem exists_of_lookup_ne_none
    (hnames : ∀ c ∈ file.cases, ∀ other, c.name = some other → '.' ∉ other.toList)
    (hname : ∀ x ∈ name.toList, Text.isWord x = true) {builtins : Resolver} {rest : String}
    (hbinding : file.bindings.get? (name ++ "." ++ rest) = none)
    (h : file.lookup builtins (name ++ "." ++ rest) ≠ none) :
    ∃ c e, file.findCase? name = some c ∧ c.exchange = some e := by
  have hdot : '.' ∉ name.toList := Text.notMem_of_isWord (by decide +kernel) hname
  have hkey : (name ++ "." ++ rest).toList = name.toList ++ '.' :: rest.toList := by simp
  rw [lookup_eq_reference? builtins hname hkey hbinding] at h
  obtain ⟨owner, howner, hexchange⟩ :
      ∃ owner, owner? (name ++ "." ++ rest).toList = some owner ∧ file.exchange? owner ≠ none := by
    refine Classical.byContradiction fun hnot => h (reference?_eq_none fun owner howner => ?_)
    exact Classical.byContradiction fun hexchange => hnot ⟨owner, howner, hexchange⟩
  obtain ⟨found, hfound⟩ := Option.ne_none_iff_exists'.1 hexchange
  obtain ⟨later, hlater⟩ := exists_eq_append_of_owner? howner
  obtain ⟨-, c, hcase⟩ := findCase?_of_exchange? hnames hdot (hkey.symm.trans hlater) hfound
  exact ⟨c, found.1, hcase⟩

/-- The key of a header of an executed case gives the first header with the name that was recorded
on the side. -/
theorem lookup_headerKey (builtins : Resolver) {c : Case} {e : Exchange}
    (hname : ∀ x ∈ name.toList, Text.isWord x = true) (hcase : file.findCase? name = some c)
    (hexchange : c.exchange = some e) (side : Side) (header : String)
    (hbinding : file.bindings.get? (headerKey name side header) = none) :
    file.lookup builtins (headerKey name side header) = findHeader? (e.headersOf side) header := by
  have hdot : '.' ∉ name.toList := Text.notMem_of_isWord (by decide +kernel) hname
  rw [lookup_eq_reference? builtins hname (toList_headerKey name side header) hbinding, reference?,
    cut?_header_headerKey hdot]
  simp only [header?]
  rw [exchange?_append_cons hcase hexchange]
  cases side <;> simp [Exchange.headersOf, Request.header?, Response.header?]

/-- A key with the mark of a header that begins with a name and is not the key of a header of one of
the sides is unknown, unless it is a variable. -/
theorem lookup_eq_none_of_ne_headerKey
    (hnames : ∀ c ∈ file.cases, ∀ other, c.name = some other → '.' ∉ other.toList)
    (hname : ∀ x ∈ name.toList, Text.isWord x = true) (builtins : Resolver) {side header : String}
    (hbinding : file.bindings.get? (name ++ "." ++ side ++ ".header." ++ header) = none)
    (hne : ∀ (known : Side) (other : String),
      name ++ "." ++ side ++ ".header." ++ header ≠ headerKey name known other) :
    file.lookup builtins (name ++ "." ++ side ++ ".header." ++ header) = none := by
  have hdot : '.' ∉ name.toList := Text.notMem_of_isWord (by decide +kernel) hname
  have hkey : (name ++ "." ++ side ++ ".header." ++ header).toList =
      name.toList ++ '.' :: (side.toList ++ ".header.".toList ++ header.toList) := by simp
  rw [lookup_eq_reference? builtins hname hkey hbinding, reference?, hkey]
  have hmark : ".header.".toList <:+:
      name.toList ++ '.' :: (side.toList ++ ".header.".toList ++ header.toList) :=
    ⟨name.toList ++ '.' :: side.toList, header.toList, by simp⟩
  obtain ⟨owner, after, hcut⟩ := Text.exists_cut?_of_infix hmark
  rw [hcut]
  simp only [header?]
  cases hexchange : file.exchange? owner with
  | none => rfl
  | some found =>
    -- The first mark is behind a side, so the key is one of a header of it.
    have hparts := Text.eq_of_cut? hcut
    have hmarked : owner ++ ".header.".toList ++ after =
        owner ++ '.' :: ("header.".toList ++ after) := by simp
    obtain ⟨howner, -⟩ := findCase?_of_exchange? hnames hdot (hparts.trans hmarked) hexchange
    refine absurd ?_ (hne found.2 (String.ofList after))
    rw [← String.toList_inj, hkey, hparts, howner, toList_headerKey, String.toList_ofList]
    simp

/-- A word that is no side makes no key of a header. -/
theorem ne_headerKey (hname : '.' ∉ name.toList) {side : String} (hside : '.' ∉ side.toList)
    (hne : ∀ known : Side, side ≠ known.name) (header : String) (known : Side) (other : String) :
    name ++ "." ++ side ++ ".header." ++ header ≠ headerKey name known other := by
  intro heq
  have hchars : name.toList ++ '.' :: (side.toList ++ '.' :: ("header.".toList ++ header.toList)) =
      name.toList ++
        '.' :: (known.name.toList ++ '.' :: ("header.".toList ++ other.toList)) := by
    simpa [headerKey] using congrArg String.toList heq
  have hrest := (Text.append_cons_inj hname hname hchars).2
  exact hne known (String.toList_inj.1 (Text.append_cons_inj hside known.notMem_name hrest).1)

end

end Volley.RequestFile
