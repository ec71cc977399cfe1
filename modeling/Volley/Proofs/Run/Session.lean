import Mathlib.Data.List.Induction
import Volley.Proofs.RequestFile.Referent
import Volley.Proofs.Run.Attempts
import Volley.Run.Session

/-!
# What a case holds, by what was done

What the cases of a session's files hold is known from the operations alone: a case holds the
exchange that it completed in the latest execution of its file, if the file was not released since,
and nothing otherwise (`exchange_eq_some_iff_completed`). `Effect` says once what an operation does
to what the file in a slot holds, and `effect_of_apply` that there is nothing else. The induction is
on the history, from its end.

A key of a session's file leads to a case by its name, so it shows what the case has completed in
the latest execution, or nothing (`RequestFile.lookup_replay`).
-/

namespace Volley

variable {σ : Type}

/-- What a case holds after an execution is what it completed in it. -/
theorem RequestFile.exchange_execute_eq_some_iff {conditions : Conditions σ} {file : RequestFile}
    {network : σ} {place : Nat} {c : Case}
    (hc : (file.execute conditions network).file.cases[place]? = some c) (e : Exchange) :
    c.exchange = some e ↔
      ∃ a ∈ file.attempts conditions network, a.place = place ∧ a.exchange? = some e := by
  have hlogged := Run.logged_attempts conditions file network file.cases.length
  constructor
  · intro he
    -- A case at which no attempt was made holds nothing.
    have hplace : place ∈ (file.attempts conditions network).map Attempt.place := by
      refine Classical.byContradiction fun hnot => ?_
      rw [hlogged.others place c hc hnot] at he
      nomatch he
    obtain ⟨a, ha, rfl⟩ := List.mem_map.1 hplace
    obtain ⟨d, hd, hheld⟩ := hlogged.held a ha
    obtain rfl : c = d := Option.some.inj (hc.symm.trans hd)
    exact ⟨a, ha, rfl, hheld.symm.trans he⟩
  · rintro ⟨a, ha, rfl, he⟩
    obtain ⟨d, hd, hheld⟩ := hlogged.held a ha
    obtain rfl : c = d := Option.some.inj (hc.symm.trans hd)
    exact hheld.trans he

/-- A file that was released holds nothing. -/
theorem RequestFile.holdsNothing_release (file : RequestFile) :
    file.release.HoldsNothingFrom 0 := by
  intro c hc
  obtain ⟨d, -, rfl⟩ := List.mem_map.1 hc
  rfl

/-- A copy holds nothing. -/
theorem RequestFile.holdsNothing_copy (mocks : Option Mock.Registry) (worldOf : String → World)
    (expand : Bool) (file : RequestFile) : (file.copy mocks worldOf expand).HoldsNothingFrom 0 := by
  intro c hc
  cases expand with
  | false => exact file.holdsNothing_release c hc
  | true =>
    obtain ⟨d, hd, rfl⟩ := List.mem_map.1 hc
    exact file.holdsNothing_release d hd

/-- Changing a template does not change what the cases hold. -/
theorem RequestFile.map_exchange_setTemplate (file : RequestFile) (place : Nat) (template : Case) :
    (file.setTemplate place template).cases.map Case.exchange = file.cases.map Case.exchange := by
  apply List.ext_getElem?
  intro i
  rw [setTemplate, List.getElem?_map, List.getElem?_modify, List.getElem?_map, Option.map_eq_map,
    Option.map_map]
  congr 1
  funext c
  simp only [Function.comp_apply]
  split_ifs <;> rfl

/-- What an operation on files does to the file in a slot, as far as it matters what the file holds
afterwards. -/
inductive Effect (files : List RequestFile) (op : Operation σ) (slot : Nat) (file : RequestFile) :
    Prop where
  /-- The file is new. -/
  | added (hslot : files.length ≤ slot) (hfile : file.HoldsNothingFrom 0)
  /-- The file holds what it held. -/
  | kept {before : RequestFile} (hbefore : files[slot]? = some before)
      (hop : op.drops slot = false)
      (hfile : file.cases.map Case.exchange = before.cases.map Case.exchange)
  /-- The file was released. -/
  | released (hop : op = .release slot) (hfile : file.HoldsNothingFrom 0)
  /-- The file was executed. -/
  | executed {before : RequestFile} {conditions : Conditions σ} {network : σ}
      (hbefore : files[slot]? = some before) (hop : op = .execute slot conditions network)
      (hfile : file = (before.execute conditions network).file)

/-- An operation on one slot has its effect there, and no effect on the others. -/
theorem effect_of_modify {files : List RequestFile} {op : Operation σ} {target slot : Nat}
    {change : RequestFile → RequestFile} {file : RequestFile}
    (hfile : (files.modify target change)[slot]? = some file)
    (hdrops : target ≠ slot → op.drops slot = false)
    (htarget : ∀ before, target = slot → files[slot]? = some before →
      Effect files op slot (change before)) : Effect files op slot file := by
  rw [List.getElem?_modify] at hfile
  obtain ⟨before, hbefore, rfl⟩ := Option.map_eq_some_iff.1 hfile
  split_ifs with hslot
  · exact htarget before hslot hbefore
  · exact .kept hbefore (hdrops hslot) rfl

/-- An operation that adds files has no effect on those that are there. -/
theorem effect_of_append {files added : List RequestFile} {op : Operation σ} {slot : Nat}
    {file : RequestFile} (hfile : (files ++ added)[slot]? = some file)
    (hdrops : op.drops slot = false) (hadded : ∀ file ∈ added, file.HoldsNothingFrom 0) :
    Effect files op slot file := by
  rcases Nat.lt_or_ge slot files.length with hlt | hge
  · rw [List.getElem?_append_left hlt] at hfile
    exact .kept hfile hdrops rfl
  · rw [List.getElem?_append_right hge] at hfile
    exact .added hge (hadded file (List.mem_of_getElem? hfile))

/-- An operation has one of these effects on each file that is there afterwards. -/
theorem effect_of_apply {files : List RequestFile} {op : Operation σ} {slot : Nat}
    {file : RequestFile} (hfile : (op.apply files)[slot]? = some file) :
    Effect files op slot file := by
  cases op with
  | add new =>
    refine effect_of_append hfile rfl fun file hmem => ?_
    obtain rfl : file = new.release := List.mem_singleton.1 hmem
    exact new.holdsNothing_release
  | execute target conditions network =>
    refine effect_of_modify hfile (fun hne => by simpa [Operation.drops] using hne) ?_
    rintro before rfl hbefore
    exact .executed hbefore rfl rfl
  | release target =>
    refine effect_of_modify hfile (fun hne => by simpa [Operation.drops] using hne) ?_
    rintro before rfl hbefore
    exact .released rfl before.holdsNothing_release
  | copy source mocks worldOf expand =>
    refine effect_of_append hfile rfl fun file hmem => ?_
    obtain ⟨original, -, rfl⟩ := Option.map_eq_some_iff.1 (Option.mem_toList.1 hmem)
    exact original.holdsNothing_copy mocks worldOf expand
  | setBindings target bindings =>
    refine effect_of_modify hfile (fun _ => rfl) ?_
    rintro before rfl hbefore
    exact .kept hbefore rfl rfl
  | setTemplate target place template =>
    refine effect_of_modify hfile (fun _ => rfl) ?_
    rintro before rfl hbefore
    exact .kept hbefore rfl (before.map_exchange_setTemplate place template)

/-! ## The latest execution -/

/-- A case has completed its round trip in the latest execution of its file, and the file was not
released since; this is what it has sent and received. -/
def Completed (history : List (Operation σ)) (slot place : Nat) (e : Exchange) : Prop :=
  ∃ earlier conditions network later file,
    history = earlier ++ .execute slot conditions network :: later ∧
    (∀ op ∈ later, op.drops slot = false) ∧
    (replay earlier)[slot]? = some file ∧
    ∃ a ∈ file.attempts conditions network, a.place = place ∧ a.exchange? = some e

/-- One more operation. -/
theorem replay_append_singleton (history : List (Operation σ)) (op : Operation σ) :
    replay (history ++ [op]) = op.apply (replay history) := by
  rw [replay, List.foldl_append]
  rfl

/-- No operation takes a file away. -/
theorem length_le_length_apply (files : List RequestFile) (op : Operation σ) :
    files.length ≤ (op.apply files).length := by
  cases op <;> simp [Operation.apply]

/-- What is done later takes no file away. -/
theorem length_replay_le (earlier later : List (Operation σ)) :
    (replay earlier).length ≤ (replay (earlier ++ later)).length := by
  induction later using List.reverseRecOn with
  | nil => exact Nat.le_of_eq (by rw [List.append_nil])
  | append_singleton later op ih =>
    rw [← List.append_assoc, replay_append_singleton]
    exact Nat.le_trans ih (length_le_length_apply _ op)

/-- An operation after which a case has completed its round trip is the execution itself, or the
case had completed it before and the operation does not drop that. -/
theorem completed_append_singleton_iff {history : List (Operation σ)} {op : Operation σ}
    {slot place : Nat} {e : Exchange} :
    Completed (history ++ [op]) slot place e ↔
      (∃ conditions network file, op = .execute slot conditions network ∧
        (replay history)[slot]? = some file ∧
        ∃ a ∈ file.attempts conditions network, a.place = place ∧ a.exchange? = some e) ∨
      (op.drops slot = false ∧ Completed history slot place e) := by
  constructor
  · rintro ⟨earlier, conditions, network, later, file, heq, hlater, hfile, hattempt⟩
    -- The last operation is the execution, or it comes after it.
    cases later using List.reverseRecOn with
    | nil =>
      obtain ⟨rfl, hop⟩ := List.append_inj' heq rfl
      exact .inl ⟨conditions, network, file, List.singleton_inj.1 hop, hfile, hattempt⟩
    | append_singleton later last _ =>
      rw [← List.cons_append, ← List.append_assoc] at heq
      obtain ⟨hhistory, hop⟩ := List.append_inj' heq rfl
      obtain rfl : op = last := List.singleton_inj.1 hop
      rw [List.forall_mem_append, List.forall_mem_singleton] at hlater
      exact .inr ⟨hlater.2, earlier, conditions, network, later, file, hhistory, hlater.1, hfile,
        hattempt⟩
  · rintro (⟨conditions, network, file, rfl, hfile, hattempt⟩ | ⟨hop, h⟩)
    · exact ⟨history, conditions, network, [], file, rfl, by simp, hfile, hattempt⟩
    · obtain ⟨earlier, conditions, network, later, file, rfl, hlater, hfile, hattempt⟩ := h
      refine ⟨earlier, conditions, network, later ++ [op], file, by simp, ?_, hfile, hattempt⟩
      rw [List.forall_mem_append, List.forall_mem_singleton]
      exact ⟨hlater, hop⟩

/-- Nothing has been completed in a slot that has no file. -/
theorem Completed.lt_length {history : List (Operation σ)} {slot place : Nat} {e : Exchange}
    (h : Completed history slot place e) : slot < (replay history).length := by
  obtain ⟨earlier, conditions, network, later, file, rfl, -, hfile, -⟩ := h
  obtain ⟨hlt, -⟩ := List.getElem?_eq_some_iff.1 hfile
  exact Nat.lt_of_lt_of_le hlt (length_replay_le _ _)

/-- A case holds what it has sent and received in the latest execution of its file, if it completed
its round trip and the file was not released since. Otherwise it holds nothing. -/
theorem exchange_eq_some_iff_completed (history : List (Operation σ)) {slot place : Nat}
    {file : RequestFile} (hfile : (replay history)[slot]? = some file) {c : Case}
    (hc : file.cases[place]? = some c) (e : Exchange) :
    c.exchange = some e ↔ Completed history slot place e := by
  induction history using List.reverseRecOn generalizing file c with
  | nil => simp [replay] at hfile
  | append_singleton history op ih =>
    rw [replay_append_singleton] at hfile
    rw [completed_append_singleton_iff]
    cases effect_of_apply hfile with
    | added hslot hnothing =>
      -- There was no file in the slot that could have been executed.
      rw [hnothing c (List.mem_of_getElem? hc)]
      refine iff_of_false (fun he => nomatch he) ?_
      rintro (⟨conditions, network, before, -, hbefore, -⟩ | ⟨-, hcompleted⟩)
      · obtain ⟨hlt, -⟩ := List.getElem?_eq_some_iff.1 hbefore
        exact Nat.not_le_of_lt hlt hslot
      · exact Nat.not_le_of_lt hcompleted.lt_length hslot
    | @kept before hbefore hop hexchange =>
      have hplace := congrArg (fun exchanges => exchanges[place]?) hexchange
      simp only [List.getElem?_map, hc, Option.map_some] at hplace
      obtain ⟨d, hd, hdc⟩ := Option.map_eq_some_iff.1 hplace.symm
      rw [← hdc, ih hbefore hd]
      refine ⟨fun h => .inr ⟨hop, h⟩, ?_⟩
      rintro (⟨conditions, network, executed, rfl, -, -⟩ | ⟨-, hcompleted⟩)
      · simp [Operation.drops] at hop
      · exact hcompleted
    | released hop hnothing =>
      subst hop
      rw [hnothing c (List.mem_of_getElem? hc)]
      refine iff_of_false (fun he => nomatch he) ?_
      rintro (⟨conditions, network, before, hop, -, -⟩ | ⟨hop, -⟩)
      · nomatch hop
      · simp [Operation.drops] at hop
    | @executed before conditions network hbefore hop hexecuted =>
      subst hop hexecuted
      rw [RequestFile.exchange_execute_eq_some_iff hc e]
      refine ⟨fun h => .inl ⟨conditions, network, before, rfl, hbefore, h⟩, ?_⟩
      rintro (⟨conditions', network', before', hop, hbefore', hattempt⟩ | ⟨hop, -⟩)
      · obtain ⟨-, rfl, rfl⟩ := Operation.execute.inj hop
        obtain rfl : before = before' := Option.some.inj (hbefore.symm.trans hbefore')
        exact hattempt
      · simp [Operation.drops] at hop

/-! ## What a session knows -/

/-- The names of headers are compared without the case of letters. -/
theorem findHeader?_congr {a b : String} (h : sameLetters a b = true) (headers : List Header) :
    findHeader? headers a = findHeader? headers b := by
  have hletters : a.toList.map Char.toLower = b.toList.map Char.toLower := by
    simpa [sameLetters] using h
  simp only [findHeader?, sameLetters, hletters]

namespace RequestFile

/-- The place of the first case with a name. -/
def placeOf? (file : RequestFile) (name : String) : Option Nat :=
  file.cases.findIdx? fun c => c.name == some name

/-- The first case with a name stands at its place. -/
theorem findCase?_eq_bind (file : RequestFile) (name : String) :
    file.findCase? name = (file.placeOf? name).bind fun place => file.cases[place]? := by
  rw [findCase?, List.find?_eq_bind_findIdx?_getElem?]
  rfl

/-- Whatever was done to the files of a session, no key shows what is stale. A key that begins with
a name and is no variable is known only if the first case with the name completed its round trip in
the latest execution of this very file, and the file was not released since. If it did, a key of a
header gives the first header that was recorded on the side, in whatever case of letters its name is
written. A key with the mark of a header after anything else is unknown; where the mark stands
twice, the first one counts. -/
theorem lookup_replay (history : List (Operation σ)) {slot : Nat} {file : RequestFile}
    (hfile : (replay history)[slot]? = some file)
    (hnames : ∀ c ∈ file.cases, ∀ other, c.name = some other → '.' ∉ other.toList)
    (builtins : Resolver) {name : String} (hname : ∀ x ∈ name.toList, Text.isWord x = true) :
    (∀ rest, file.bindings.get? (name ++ "." ++ rest) = none →
      (∀ place e, file.placeOf? name = some place → ¬ Completed history slot place e) →
      file.lookup builtins (name ++ "." ++ rest) = none) ∧
    (∀ place e, file.placeOf? name = some place → Completed history slot place e →
      ∀ (side : Side) (header spelled : String), sameLetters spelled header = true →
        file.bindings.get? (headerKey name side spelled) = none →
        file.lookup builtins (headerKey name side spelled) =
          ((e.headersOf side).find? fun h => sameLetters h.1 header).map Prod.snd) ∧
    (∀ side header : String,
      file.bindings.get? (name ++ "." ++ side ++ ".header." ++ header) = none →
      (∀ (known : Side) (other : String),
        name ++ "." ++ side ++ ".header." ++ header ≠ headerKey name known other) →
      file.lookup builtins (name ++ "." ++ side ++ ".header." ++ header) = none) := by
  refine ⟨fun rest hbinding hstale => ?stale, fun place e hplace hcompleted => ?completed,
    fun side header hbinding => ?other⟩
  case stale =>
    -- What is known was completed.
    refine Classical.byContradiction fun hknown => ?_
    obtain ⟨c, e, hcase, hexchange⟩ := exists_of_lookup_ne_none hnames hname hbinding hknown
    obtain ⟨place, hplace, hc⟩ :=
      Option.bind_eq_some_iff.1 ((file.findCase?_eq_bind name).symm.trans hcase)
    exact hstale place e hplace
      ((exchange_eq_some_iff_completed history hfile hc e).1 hexchange)
  case completed =>
    intro side header spelled hspelled hbinding
    obtain ⟨hlt, -⟩ := List.findIdx?_eq_some_iff_getElem.1 hplace
    have hc := List.getElem?_eq_getElem hlt
    have hcase : file.findCase? name = some file.cases[place] := by
      rw [findCase?_eq_bind, hplace, Option.bind_some, hc]
    have hexchange := (exchange_eq_some_iff_completed history hfile hc e).2 hcompleted
    rw [lookup_headerKey builtins hname hcase hexchange side spelled hbinding,
      findHeader?_congr hspelled]
    rfl
  case other => exact lookup_eq_none_of_ne_headerKey hnames hname builtins hbinding

/-- A file with two cases. -/
def relayFile : RequestFile where
  bindings := .empty
  cases := [
    { name := some "a", method := "GET", url := "http://h/"
      headers := [("Id", "7"), ("id", "8")] },
    { name := some "b", method := "GET", url := "http://h/" }]

/-- Circumstances in which the first request is answered with its own headers, and no other is. -/
def relayConditions : Conditions Bool where
  builtins := fun _ _ _ => none
  expected := 200
  send := fun request answered =>
    (if answered then .error (.engine "no answer") else .ok ⟨200, request.headers, [], 0, 0⟩, true)

/-- A failed execution of `relayFile`, after which it is copied and the template of its first case
is changed. -/
def relayHistory : List (Operation Bool) :=
  [.add relayFile, .execute 0 relayConditions false,
    .copy 0 none (fun _ => ⟨⟨0, 0⟩, 0, id, fun _ => none⟩) true,
    .setTemplate 0 0 { name := some "a", method := "PUT" }]

/-- What the first case of `relayFile` has sent and received. -/
def relayExchange : Exchange where
  request := ⟨"GET", "http://h/", [("Id", "7"), ("id", "8")], ""⟩
  response := ⟨200, [("Id", "7"), ("id", "8")], [], 0, 0⟩

/-- The file of `relayHistory`. -/
def relayedFile : RequestFile where
  bindings := .empty
  cases := [{ name := some "a", method := "PUT", exchange := some relayExchange },
    { name := some "b", method := "GET", url := "http://h/" }]

/-- The names of both cases of `relayFile` are words without dots. -/
theorem notMem_name_relayFile {file : RequestFile}
    (hfile : file.cases.map Case.name = [some "a", some "b"]) :
    ∀ c ∈ file.cases, ∀ other, c.name = some other → '.' ∉ other.toList := by
  intro c hc other hother
  have hmem : some other ∈ [some "a", some "b"] := by
    rw [← hfile, ← hother]
    exact List.mem_map_of_mem hc
  obtain rfl | rfl : other = "a" ∨ other = "b" := by simpa using hmem
  · decide
  · decide

/-- The first case has answered, the second has not, and the copy knows nothing of it. -/
theorem lookup_replay_relayHistory :
    (replay relayHistory)[0]? = some relayedFile ∧
    (replay relayHistory)[1]? = some { relayFile with autoRelease := true } ∧
    Completed relayHistory 0 0 relayExchange ∧
    relayedFile.lookup (fun _ => none) (headerKey "a" .response "iD") = some "7" ∧
    relayedFile.lookup (fun _ => none) ("a" ++ "." ++ "reply" ++ ".header." ++ "id") = none ∧
    relayedFile.lookup (fun _ => none) ("b" ++ "." ++ "request.body.$.x") = none ∧
    RequestFile.lookup (fun _ => none) { relayFile with autoRelease := true }
      ("a" ++ "." ++ "response.header.id") = none := by
  have hfile : (replay relayHistory)[0]? = some relayedFile := by decide +kernel
  have hcopy : (replay relayHistory)[1]? = some { relayFile with autoRelease := true } := by
    decide +kernel
  have ha : ∀ x ∈ "a".toList, Text.isWord x = true := isWord_headerCase
  have hb : ∀ x ∈ "b".toList, Text.isWord x = true :=
    List.forall_mem_singleton.2 (by decide +kernel)
  have hcompleted : Completed relayHistory 0 0 relayExchange :=
    (exchange_eq_some_iff_completed relayHistory hfile rfl relayExchange).1 rfl
  refine ⟨hfile, hcopy, hcompleted, ?answered, ?otherSide, ?unanswered, ?copied⟩
  case answered =>
    rw [(lookup_replay relayHistory hfile (notMem_name_relayFile rfl) _ ha).2.1 0 relayExchange
      (by decide +kernel) hcompleted .response "id" "iD" (by decide +kernel) rfl]
    decide +kernel
  case otherSide =>
    refine (lookup_replay relayHistory hfile (notMem_name_relayFile rfl) _ ha).2.2 _ _ rfl ?_
    exact ne_headerKey (by decide) (by decide) (fun known => by cases known <;> decide) _
  case unanswered =>
    refine (lookup_replay relayHistory hfile (notMem_name_relayFile rfl) _ hb).1 _ rfl ?_
    intro place e hplace hcompleted
    obtain rfl : 1 = place := Option.some.inj hplace
    nomatch (exchange_eq_some_iff_completed relayHistory hfile rfl e).2 hcompleted
  case copied =>
    refine (lookup_replay relayHistory hcopy (notMem_name_relayFile rfl) _ ha).1 _ rfl ?_
    intro place e hplace hcompleted
    obtain rfl : 0 = place := Option.some.inj hplace
    nomatch (exchange_eq_some_iff_completed relayHistory hcopy rfl e).2 hcompleted

end RequestFile

end Volley
