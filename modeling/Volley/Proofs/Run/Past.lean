import Volley.Proofs.RequestFile.Referent
import Volley.Proofs.Run.Attempts
import Volley.Proofs.Template.Pieces

/-!
# Requests depend on the past alone

What a run does at the cases up to a place depends on these cases and on nothing that comes after
them. `execute_samePast` says so of two files that have the same variables and the same cases up to
the place: the attempts there are the same, and so is what the cases hold in the end, although the
other cases may have any names and templates, and any of the cases may hold something from before.

The two runs share their past (`SamePast`), since a case is prepared while the file holds nothing
from its place on, and then both files know the same (`RequestFile.lookup_eq_of_take_eq`). What
comes later changes nothing there (`take_cases_foldl_advance`). For the same reason a placeholder
that refers to no earlier case is sent as it was written (`Unanswered.eq_none`).
-/

namespace Volley

variable {σ : Type}

/-! ## Placeholders in parts of cases -/

/-- The characters of pieces that are filled in, where the first has a place. -/
def Template.fillFrom (resolverAt : Nat → Resolver) (place : Nat) (pieces : List Piece) :
    List Char :=
  (pieces.zipIdx place).flatMap fun (piece, place) => piece.fill (resolverAt place)

/-- A text around a piece of it is filled in on both sides. -/
theorem substituteAt_eq_of_pieces (resolverAt : Nat → Resolver) {s : String}
    {left right : List Piece} {piece : Piece}
    (h : Template.pieces s.toList = left ++ piece :: right) :
    substituteAt resolverAt s = String.ofList
      (Template.fillFrom resolverAt 0 left ++ piece.fill (resolverAt left.length) ++
        Template.fillFrom resolverAt (left.length + 1) right) := by
  rw [substituteAt, h, List.zipIdx_append, List.zipIdx_cons]
  simp [Template.fillFrom]

/-- The template of a part of a case. -/
def Case.part? (c : Case) : CasePart → Option String
  | .method => some c.method
  | .url => some c.url
  | .header place => (c.headers[place]?).map Prod.snd
  | .body => some c.body

/-- The text of a part of a request. -/
def Request.part? (r : Request) : CasePart → Option String
  | .method => some r.method
  | .url => some r.url
  | .header place => (r.headers[place]?).map Prod.snd
  | .body => some r.body

/-- Every part of a prepared case is its template, filled in. -/
theorem Case.part?_prepareAt (resolverAt : Site → Resolver) (c : Case) (part : CasePart) :
    (c.prepareAt resolverAt).part? part =
      (c.part? part).map (substituteAt fun piece => resolverAt ⟨part, piece⟩) := by
  cases part with
  | method => rfl
  | url => rfl
  | body => rfl
  | header place =>
    simp only [Request.part?, Case.part?, prepareAt, List.getElem?_map, List.getElem?_zipIdx,
      Option.map_map, Nat.zero_add]
    rfl

namespace Run

/-! ## What answers a key -/

/-- A key at a site of a case that neither a resolver before the file nor a variable nor a built-in
function answers, and that refers to no earlier case. -/
structure Unanswered (conditions : Conditions σ) (file : RequestFile) (place : Nat) (site : Site)
    (key : String) : Prop where
  /-- No resolver that is asked before the file knows the key. -/
  extra : ∀ resolver ∈ conditions.extra, resolver key = none
  /-- The key is no variable. -/
  binding : file.bindings.get? key = none
  /-- If the key has the form of a built-in function, there is no such function. -/
  builtin : key.toList.head? = some '$' → conditions.builtins place site key = none
  /-- No case before this one has the name that the key refers to. -/
  ahead : file.PointsAhead place key

/-- Such a key is not known when the case is prepared. -/
theorem Unanswered.eq_none {conditions : Conditions σ} {file : RequestFile} {place : Nat}
    {site : Site} {key : String} (h : Unanswered conditions file place site key)
    (hholds : file.HoldsNothingFrom place) :
    Resolver.chain (conditions.extra ++ [file.lookup (conditions.builtins place site)]) key =
      none := by
  rw [Resolver.chain, List.findSome?_eq_none_iff]
  intro resolver hresolver
  rcases List.mem_append.1 hresolver with hextra | hfile
  · exact h.extra resolver hextra
  · obtain rfl := List.mem_singleton.1 hfile
    exact RequestFile.lookup_eq_none hholds h.ahead h.binding h.builtin

/-- An attempt at a case keeps a placeholder with such a key as it was written, between the texts
that the pieces on both sides of it become. -/
theorem Logged.part?_eq_of_unanswered {conditions : Conditions σ} {file : RequestFile} {network : σ}
    {run : Run σ} {log : List Attempt} (h : Logged conditions file network run log) {a : Attempt}
    (ha : a ∈ log) {c : Case} (hc : file.cases[a.place]? = some c) {part : CasePart}
    {template : String} (hpart : c.part? part = some template) {left right : List Piece}
    {inner : List Char} (hpieces : Template.pieces template.toList = left ++ .slot inner :: right)
    (hkey : Unanswered conditions file a.place ⟨part, left.length⟩ (Piece.key inner)) :
    ∃ resolverAt, a.request.part? part = some (String.ofList
      (Template.fillFrom resolverAt 0 left ++ (Piece.slot inner).raw ++
        Template.fillFrom resolverAt (left.length + 1) right)) := by
  obtain ⟨d, hd, hrequest⟩ := h.prepared a ha
  obtain rfl : c = d := by simpa [hc] using hd
  have hrelease : file.release = (run.file.heldBefore a.place).release :=
    h.templates.symm.trans (RequestFile.release_heldBefore _ _).symm
  have hbindings : file.bindings = (run.file.heldBefore a.place).bindings := by
    have hsame := congrArg RequestFile.bindings hrelease
    rwa [RequestFile.release_bindings, RequestFile.release_bindings] at hsame
  have hkey' : Unanswered conditions (run.file.heldBefore a.place) a.place ⟨part, left.length⟩
      (Piece.key inner) :=
    ⟨hkey.extra, hbindings ▸ hkey.binding, hkey.builtin, hkey.ahead.of_release_eq hrelease⟩
  have hnone := hkey'.eq_none (RequestFile.holdsNothingFrom_heldBefore _ _)
  rw [hrequest, Run.request, Case.part?_prepareAt, hpart, Option.map_some]
  refine ⟨fun piece => Resolver.chain (conditions.extra ++
    [(run.file.heldBefore a.place).lookup (conditions.builtins a.place ⟨part, piece⟩)]), ?_⟩
  rw [substituteAt_eq_of_pieces _ hpieces]
  simp only [Piece.fill, hnone]

/-! ## Two runs with the same past -/

/-- Two runs whose files have the same cases before a bound, with what these hold, and in which the
same has happened. -/
structure SamePast (bound : Nat) (first second : Run σ) : Prop where
  /-- The variables are the same. -/
  bindings : first.file.bindings = second.file.bindings
  /-- The cases before the bound are the same, and hold the same. -/
  cases : first.file.cases.take bound = second.file.cases.take bound
  /-- The networks are in the same state. -/
  network : first.network = second.network
  /-- The same requests were sent. -/
  sent : first.sent = second.sent
  /-- Both go on, or both have ended in the same way. -/
  failure : first.failure = second.failure

/-- What is recorded at a place does not depend on the cases from a bound on. -/
theorem take_cases_recordAny {a b : RequestFile} {bound : Nat}
    (h : a.cases.take bound = b.cases.take bound) (index : Nat) (e? : Option Exchange) :
    (a.recordAny index e?).cases.take bound = (b.recordAny index e?).cases.take bound := by
  cases e? with
  | none => exact h
  | some e =>
    simp only [RequestFile.recordAny, Option.elim_some, RequestFile.record, List.take_modify, h]

/-- What is recorded from a bound on is in no case before it. -/
theorem take_cases_recordAny_of_le (file : RequestFile) {bound index : Nat} (h : bound ≤ index)
    (e? : Option Exchange) :
    (file.recordAny index e?).cases.take bound = file.cases.take bound := by
  cases e? with
  | none => rfl
  | some e =>
    have hlength : (file.cases.take bound).length ≤ index := by
      rw [List.length_take]
      omega
    rw [RequestFile.recordAny, Option.elim_some, RequestFile.record]
    simp only [List.take_modify, List.modify_eq_self hlength]

/-- Recording does not change the variables. -/
theorem bindings_recordAny (file : RequestFile) (index : Nat) (e? : Option Exchange) :
    (file.recordAny index e?).bindings = file.bindings := by
  cases e? <;> rfl

namespace SamePast

variable {bound index : Nat} {first second : Run σ}

/-- The case at a place before the bound is the same. -/
theorem getElem?_eq (h : SamePast bound first second) (hindex : index < bound) :
    first.file.cases[index]? = second.file.cases[index]? := by
  have hcase := congrArg (fun cases : List Case => cases[index]?) h.cases
  simpa [List.getElem?_take, hindex] using hcase

/-- Both runs make the same attempt at such a place, or neither makes one. -/
theorem attempt?_eq (h : SamePast bound first second) (hindex : index < bound)
    (hfirst : first.file.HoldsNothingFrom index) (hsecond : second.file.HoldsNothingFrom index)
    (conditions : Conditions σ) :
    first.attempt? conditions index = second.attempt? conditions index := by
  have hcases : first.file.cases.take index = second.file.cases.take index := by
    have htake := congrArg (List.take index) h.cases
    simpa [List.take_take, Nat.min_eq_left (Nat.le_of_lt hindex)] using htake
  -- Both files know the same, because nothing is held from the place on.
  have hlookup := RequestFile.lookup_eq_of_take_eq h.bindings hcases hfirst hsecond
  have hrequest (c : Case) : Run.request conditions first.file index c =
      Run.request conditions second.file index c := by
    simp only [Run.request, hlookup]
  have hattempt : first.attempt conditions index = second.attempt conditions index := by
    funext c
    rw [attempt, attempt, hrequest, h.network]
  rw [attempt?, attempt?, isSuccess, isSuccess, h.failure, RequestFile.hasMethod,
    RequestFile.hasMethod, h.getElem?_eq hindex, hattempt]

/-- Runs with the same past go on in the same way. -/
theorem advance (h : SamePast bound first second) (hindex : index < bound)
    (hfirst : first.file.HoldsNothingFrom index) (hsecond : second.file.HoldsNothingFrom index)
    (conditions : Conditions σ) :
    SamePast bound (Run.advance conditions first index) (Run.advance conditions second index) := by
  rw [advance_eq_elim, advance_eq_elim, h.attempt?_eq hindex hfirst hsecond]
  cases second.attempt? conditions index with
  | none => exact h
  | some a =>
    refine ⟨?bindings, take_cases_recordAny h.cases _ _, ?network, ?sent, rfl⟩
    case bindings =>
      rw [Option.elim_some, Option.elim_some, after, after, bindings_recordAny, bindings_recordAny,
        h.bindings]
    case network => rw [Option.elim_some, Option.elim_some, after, after, h.network]
    case sent => rw [Option.elim_some, Option.elim_some, after, after, h.sent]

end SamePast

/-- Runs of two files with the same variables and the same cases before a bound share their past, as
long as they have not come beyond it. -/
theorem samePast_upTo (conditions : Conditions σ) (network : σ) {a b : RequestFile} {bound : Nat}
    (hbindings : a.bindings = b.bindings)
    (hcases : (a.cases.take bound).map Case.released = (b.cases.take bound).map Case.released)
    {place : Nat} (hplace : place ≤ bound) :
    SamePast bound (upTo conditions a network place) (upTo conditions b network place) ∧
      attempts conditions (a.begin network) (List.range place) =
        attempts conditions (b.begin network) (List.range place) := by
  induction place with
  | zero =>
    refine ⟨⟨hbindings, ?_, rfl, rfl, rfl⟩, rfl⟩
    change (a.cases.map Case.released).take bound = (b.cases.map Case.released).take bound
    rw [← List.map_take, ← List.map_take, hcases]
  | succ place ih =>
    obtain ⟨hpast, hattempts⟩ := ih (by omega)
    have hfirst := holdsNothingFrom_upTo conditions a network place
    have hsecond := holdsNothingFrom_upTo conditions b network place
    constructor
    · rw [upTo_succ, upTo_succ]
      exact hpast.advance hplace hfirst hsecond conditions
    · have hattempt := hpast.attempt?_eq hplace hfirst hsecond conditions
      rw [List.range_succ, attempts_append, attempts_append, hattempts, attempts, attempts,
        attempts, attempts]
      exact congrArg (fun a? : Option Attempt => _ ++ (a?.toList ++ [])) hattempt

/-- What a run does from a bound on changes no case before it. -/
theorem take_cases_foldl_advance (conditions : Conditions σ) (run : Run σ) {bound : Nat}
    {places : List Nat} (hplaces : ∀ place ∈ places, bound ≤ place) :
    (places.foldl (advance conditions) run).file.cases.take bound = run.file.cases.take bound := by
  induction places generalizing run with
  | nil => rfl
  | cons index rest ih =>
    rw [List.foldl_cons, ih _ fun place hplace => hplaces place (List.mem_cons_of_mem _ hplace)]
    rw [advance_eq_elim]
    cases hattempt : run.attempt? conditions index with
    | none => rfl
    | some a =>
      obtain ⟨-, -, c, -, rfl⟩ := exists_of_attempt? hattempt
      exact take_cases_recordAny_of_le _ (hplaces index List.mem_cons_self) _

/-- A run in which an attempt did not succeed has ended. -/
theorem failure_ne_none_of_mem_attempts {conditions : Conditions σ} {run : Run σ}
    {places : List Nat} {a : Attempt} (ha : a ∈ attempts conditions run places)
    (hfailed : a.succeeded conditions.expected = false) :
    (places.foldl (advance conditions) run).failure ≠ none := by
  induction places generalizing run with
  | nil => simp [attempts] at ha
  | cons index rest ih =>
    rw [attempts, List.mem_append, Option.mem_toList] at ha
    rw [List.foldl_cons]
    rcases ha with ha | ha
    · have hended : (advance conditions run index).failure ≠ none := by
        rw [advance_eq_elim, ha, Option.elim_some, after, if_neg (by simp [hfailed])]
        exact Option.some_ne_none _
      rwa [foldl_advance_eq_self conditions hended]
    · exact ih ha

/-- The places before the end of a file are those up to a place and those after it. -/
theorem range_eq_append (length bound : Nat) :
    ∃ later, List.range length = List.range (min bound length) ++ later ∧
      (∀ place ∈ later, bound ≤ place) := by
  refine ⟨(List.range (length - min bound length)).map (min bound length + ·), ?_, ?_⟩
  · rw [← List.range_add]
    congr 1
    omega
  · intro place hplace
    obtain ⟨k, hk, rfl⟩ := List.mem_map.1 hplace
    have := List.mem_range.1 hk
    omega

end Run

namespace RequestFile

/-- The attempts before a bound are those of the run that has come so far. -/
theorem filter_attempts (conditions : Conditions σ) (file : RequestFile) (network : σ)
    (bound : Nat) :
    (file.attempts conditions network).filter (·.place < bound) =
      Run.attempts conditions (file.begin network)
        (List.range (min bound file.cases.length)) := by
  obtain ⟨later, hrange, hlater⟩ := Run.range_eq_append file.cases.length bound
  rw [attempts, hrange, Run.attempts_append, List.filter_append, List.filter_eq_self.2,
    List.filter_eq_nil_iff.2, List.append_nil]
  · intro a ha
    have := hlater _ (Run.place_mem_of_mem_attempts ha)
    simpa using this
  · intro a ha
    have := List.mem_range.1 (Run.place_mem_of_mem_attempts ha)
    simp
    omega

/-- An execution is the run that has come to a bound, gone on from there. -/
theorem exists_execute_eq (conditions : Conditions σ) (file : RequestFile) (network : σ)
    (bound : Nat) :
    ∃ later : List Nat, (∀ place ∈ later, bound ≤ place) ∧
      file.execute conditions network = later.foldl (Run.advance conditions)
        (Run.upTo conditions file network (min bound file.cases.length)) := by
  obtain ⟨later, hrange, hlater⟩ := Run.range_eq_append file.cases.length bound
  refine ⟨later, hlater, ?_⟩
  rw [execute, hrange, List.foldl_append]
  rfl

/-- Two files with the same variables and the same cases up to a place make the same attempts there
and record the same, up to the point where a run ends, whatever their other cases are. A placeholder
at the place that nothing answers and that refers to no earlier case is sent as it was written. -/
theorem execute_samePast (conditions : Conditions σ) (network : σ) {a b : RequestFile} (i : Nat)
    (hbindings : a.bindings = b.bindings)
    (hcases : (a.cases.take (i + 1)).map Case.released =
      (b.cases.take (i + 1)).map Case.released) :
    let first := a.execute conditions network
    let second := b.execute conditions network
    (Run.Logged conditions a network first (a.attempts conditions network) ∧
      Run.Logged conditions b network second (b.attempts conditions network)) ∧
    (a.attempts conditions network).filter (·.place < i + 1) =
      (b.attempts conditions network).filter (·.place < i + 1) ∧
    first.file.cases.take (i + 1) = second.file.cases.take (i + 1) ∧
    (∀ x ∈ a.attempts conditions network, x.place < i + 1 →
      x.succeeded conditions.expected = false →
        first.sent = second.sent ∧ first.failure = second.failure ∧
          first.network = second.network) ∧
    (∀ x ∈ a.attempts conditions network, x.place = i → ∀ c, a.cases[i]? = some c →
      ∀ part template, c.part? part = some template →
        ∀ left inner right, Template.pieces template.toList = left ++ .slot inner :: right →
          Run.Unanswered conditions a i ⟨part, left.length⟩ (Piece.key inner) →
            ∃ resolverAt, x.request.part? part = some (String.ofList
              (Template.fillFrom resolverAt 0 left ++ (Piece.slot inner).raw ++
                Template.fillFrom resolverAt (left.length + 1) right))) := by
  intro first second
  have hlength : min (i + 1) a.cases.length = min (i + 1) b.cases.length := by
    have hboth := congrArg List.length hcases
    rwa [List.length_map, List.length_map, List.length_take, List.length_take] at hboth
  obtain ⟨hpast, hattempts⟩ := Run.samePast_upTo conditions network hbindings hcases
    (Nat.min_le_left (i + 1) a.cases.length)
  obtain ⟨laterA, hlaterA, hfirst⟩ := a.exists_execute_eq conditions network (i + 1)
  obtain ⟨laterB, hlaterB, hsecond⟩ := b.exists_execute_eq conditions network (i + 1)
  rw [← hlength] at hsecond
  have hlogA : Run.Logged conditions a network first (a.attempts conditions network) :=
    Run.logged_attempts conditions a network a.cases.length
  refine ⟨⟨hlogA, Run.logged_attempts conditions b network b.cases.length⟩, ?attempts, ?cases,
    ?stop, ?literal⟩
  case attempts => rw [filter_attempts, filter_attempts, hattempts, hlength]
  case cases =>
    change (a.execute conditions network).file.cases.take (i + 1) =
      (b.execute conditions network).file.cases.take (i + 1)
    rw [hfirst, hsecond, Run.take_cases_foldl_advance conditions _ hlaterA,
      Run.take_cases_foldl_advance conditions _ hlaterB, hpast.cases]
  case stop =>
    intro x hx hplace hfailed
    have hx' : x ∈ (a.attempts conditions network).filter (·.place < i + 1) :=
      List.mem_filter.2 ⟨hx, by simpa using hplace⟩
    rw [filter_attempts] at hx'
    have hendA : (Run.upTo conditions a network (min (i + 1) a.cases.length)).failure ≠ none :=
      Run.failure_ne_none_of_mem_attempts hx' hfailed
    have hendB : (Run.upTo conditions b network (min (i + 1) a.cases.length)).failure ≠ none :=
      hpast.failure ▸ hendA
    rw [Run.foldl_advance_eq_self conditions hendA] at hfirst
    rw [Run.foldl_advance_eq_self conditions hendB] at hsecond
    rw [← hfirst, ← hsecond] at hpast
    exact ⟨hpast.sent, hpast.failure, hpast.network⟩
  case literal =>
    rintro x hx rfl c hc part template hpart left inner right hpieces hkey
    exact hlogA.part?_eq_of_unanswered hx hc hpart hpieces hkey

/-- What was received before a file is executed again. -/
def staleExchange : Exchange where
  request := ⟨"GET", "http://h/", [("x", "old")], ""⟩
  response := ⟨200, [("x", "old")], [], 0, 0⟩

/-- A file whose second case refers to itself and to a case that is still to come. -/
def forwardFile : RequestFile where
  bindings := .empty
  cases := [
    { name := some "a", method := "GET", url := "http://h/", exchange := some staleExchange },
    { name := some "b", method := "GET", url := "http://h/\x7b\x7bb.response.header.x\x7d\x7d"
      headers := [("y", "\x7b\x7b c.request.body.$.k \x7d\x7d")], exchange := some staleExchange },
    { name := some "c", method := "POST", url := "http://h/c", body := "\x7b\"k\":1\x7d" }]

/-- A file with the same first cases, and later ones with the names of earlier cases. -/
def otherForwardFile : RequestFile where
  bindings := .empty
  cases := forwardFile.cases.take 2 ++ [
    { name := some "a", method := "GET", url := "http://h/2", exchange := some staleExchange },
    { name := some "c" }, { name := some "b", exchange := some staleExchange }]
  autoRelease := true

/-- Circumstances in which every request is answered. -/
def answeringConditions : Conditions Nat where
  extra := [fun key => if key = "a" then some "b" else none]
  builtins := fun _ _ _ => none
  expected := 200
  send := fun request count => (.ok ⟨200, request.headers, [], 0, 0⟩, count + 1)

/-- The second cases of both files are sent with the placeholders as they were written. -/
theorem execute_samePast_forwardFile :
    forwardFile.bindings = otherForwardFile.bindings ∧
    (forwardFile.cases.take 2).map Case.released =
      (otherForwardFile.cases.take 2).map Case.released ∧
    let first := forwardFile.execute answeringConditions 0
    let second := otherForwardFile.execute answeringConditions 0
    let attempts := forwardFile.attempts answeringConditions 0
    attempts.filter (·.place < 2) =
      (otherForwardFile.attempts answeringConditions 0).filter (·.place < 2) ∧
    first.file.cases.take 2 = second.file.cases.take 2 ∧
    ∀ x ∈ attempts, x.place = 1 →
      x.request.part? .url = some "http://h/\x7b\x7bb.response.header.x\x7d\x7d" ∧
        x.request.part? (.header 0) = some "\x7b\x7b c.request.body.$.k \x7d\x7d" := by
  have hcases : (forwardFile.cases.take 2).map Case.released =
      (otherForwardFile.cases.take 2).map Case.released := rfl
  refine ⟨rfl, hcases, ?_⟩
  intro first second attempts
  obtain ⟨-, hattempts, htake, -, hliteral⟩ := execute_samePast answeringConditions 0 (i := 1)
    (a := forwardFile) (b := otherForwardFile) rfl hcases
  refine ⟨hattempts, htake, fun x hx hplace => ⟨?url, ?header⟩⟩
  case url =>
    have hkey : Piece.key "b.response.header.x".toList = headerKey "b" .response "x" := by
      decide +kernel
    have hahead : forwardFile.PointsAhead 1 (headerKey "b" .response "x") := by
      intro name hname
      rw [referent?_headerKey (by decide)] at hname
      obtain rfl : "b" = name := by simpa using hname
      decide
    obtain ⟨resolverAt, hsent⟩ := hliteral x hx hplace _ rfl .url _ rfl
      ("http://h/".toList.map .char) "b.response.header.x".toList [] (by decide +kernel)
      ⟨by decide +kernel, rfl, fun _ => rfl, hkey ▸ hahead⟩
    rw [hsent]
    simp [Template.fillFrom, Piece.fill, Piece.raw]
  case header =>
    have hkey : Piece.key " c.request.body.$.k ".toList = bodyKey "c" .request "$.k" := by
      decide +kernel
    have hahead : forwardFile.PointsAhead 1 (bodyKey "c" .request "$.k") := by
      intro name hname
      rcases eq_or_mem_of_referent?_bodyKey (by decide) .request "$.k" hname with rfl | hdot
      · decide
      · intro hmem
        obtain rfl : name = "a" := by simpa [forwardFile] using hmem
        revert hdot
        decide
    obtain ⟨resolverAt, hsent⟩ := hliteral x hx hplace _ rfl (.header 0) _ rfl [] _ []
      (by decide +kernel) ⟨by decide +kernel, rfl, fun _ => rfl, hkey ▸ hahead⟩
    rw [hsent]
    simp [Template.fillFrom, Piece.raw]

end RequestFile

end Volley
