import Volley.Proofs.Run.Attempt

/-!
# A run stops at its first failure

`FailFast` is the law of a run that has come to a place of its file: the attempts that it has made,
at which of them it ended, and what the file holds because of them. `FailFast.advance` shows that
one step of the run keeps it, and `foldl_advance_failFast` that the whole run has it.
`execute_failFast` is the law of `RequestFile.execute`.

Nothing is assumed of the file, of the network or of the resolvers. The file may hold what an
earlier run has recorded, whatever way that ended: the run begins by releasing it.
-/

namespace Volley.Run

variable {σ : Type}

/-- What a run has done, by the log of its attempts. -/
structure Logged (conditions : Conditions σ) (file : RequestFile) (network : σ) (run : Run σ)
    (log : List Attempt) : Prop where
  /-- The templates, the variables and the flag of the file are as they were. -/
  templates : run.file.release = file.release
  /-- The requests of the attempts are all that was sent. -/
  sent : run.sent = log.map Attempt.request
  /-- What came back is what the network answers to them, one after the other. -/
  answered : log.map Attempt.answer = answers conditions.send run.sent network
  /-- The network is as they have left it. -/
  network_eq : run.network = networkAfter conditions.send run.sent network
  /-- Each request is its case filled in from the file that holds what the cases before it have
  recorded, and nothing else. -/
  prepared : ∀ a ∈ log, ∃ c, file.cases[a.place]? = some c ∧
    a.request = Run.request conditions (run.file.heldBefore a.place) a.place c
  /-- The case of an attempt holds the response to it, if one came back. -/
  held : ∀ a ∈ log, ∃ c, run.file.cases[a.place]? = some c ∧ c.exchange = a.exchange?
  /-- Every other case holds nothing. -/
  others : ∀ place c, run.file.cases[place]? = some c → place ∉ log.map Attempt.place →
    c.exchange = none

/-- The law of a run that has come to a bound: `earlier` are the attempts after which it went on,
and `stop` is the one that ended it. -/
structure FailFast (conditions : Conditions σ) (file : RequestFile) (network : σ) (bound : Nat)
    (run : Run σ) (earlier : List Attempt) (stop : Option Attempt) : Prop extends
    Logged conditions file network run (earlier ++ stop.toList) where
  /-- The attempts are made at the cases with a method, in the order of the file and without leaving
  one out, up to the one that ended the run, or else up to the bound. -/
  places : (earlier ++ stop.toList).map Attempt.place =
    file.placesBelow (stop.elim bound fun k => k.place + 1)
  /-- The run goes on after a response with the expected status. -/
  succeeded : ∀ a ∈ earlier, a.succeeded conditions.expected = true
  /-- It ends at an attempt without such a response. -/
  stopped : ∀ k ∈ stop, k.succeeded conditions.expected = false
  /-- Its failure is the fault of that attempt. -/
  failure : run.failure = stop.map (Attempt.fault conditions.expected)

/-- An attempt at a case after all those of the log adds to the log. -/
theorem Logged.after {conditions : Conditions σ} {file : RequestFile} {network : σ} {run : Run σ}
    {log : List Attempt} (h : Logged conditions file network run log) {index : Nat} {c : Case}
    (hc : run.file.cases[index]? = some c) (hlog : ∀ a ∈ log, a.place < index) :
    Logged conditions file network (run.after conditions (run.attempt conditions index c))
      (log ++ [run.attempt conditions index c]) := by
  -- Nothing is held from the place of the new attempt on.
  have hnone : ∀ i d, index ≤ i → run.file.cases[i]? = some d → d.exchange = none := by
    intro i d hi hd
    apply h.others i d hd
    intro hmem
    obtain ⟨a, ha, rfl⟩ := List.mem_map.1 hmem
    have := hlog a ha
    omega
  generalize hnew : run.attempt conditions index c = new
  have hplace : new.place = index := by rw [← hnew]; rfl
  have hsent : (run.after conditions new).sent = run.sent ++ [new.request] := rfl
  have hfile : (run.after conditions new).file = run.file.recordAny index new.exchange? := by
    rw [← hplace]; rfl
  refine ⟨?templates, ?sent, ?answered, ?network_eq, ?prepared, ?held, ?others⟩
  case templates => rw [hfile, RequestFile.release_recordAny, h.templates]
  case sent =>
    rw [hsent, List.map_append, ← h.sent]
    rfl
  case answered =>
    rw [hsent, answers_append_singleton, ← h.network_eq, ← h.answered, List.map_append, ← hnew]
    rfl
  case network_eq =>
    rw [hsent, networkAfter_append_singleton, ← h.network_eq]
    rfl
  case prepared =>
    intro a ha
    rw [hfile]
    rcases List.mem_append.1 ha with ha | ha
    · rw [RequestFile.heldBefore_recordAny _ (Nat.le_of_lt (hlog a ha))]
      exact h.prepared a ha
    · obtain rfl : a = new := by simpa using ha
      obtain ⟨d, hd, hdc⟩ := RequestFile.exists_released_eq h.templates hc
      rw [hplace, RequestFile.heldBefore_recordAny _ (Nat.le_refl index),
        RequestFile.heldBefore_eq_self hnone]
      refine ⟨d, hd, ?_⟩
      rw [request_eq_of_released_eq conditions run.file index hdc, ← hnew]
      rfl
  case held =>
    intro a ha
    rw [hfile]
    rcases List.mem_append.1 ha with ha | ha
    · rw [RequestFile.getElem?_recordAny_ne _ (Nat.ne_of_gt (hlog a ha))]
      exact h.held a ha
    · obtain rfl : a = new := by simpa using ha
      refine ⟨{ c with exchange := a.exchange? }, ?_, rfl⟩
      rw [hplace]
      exact RequestFile.getElem?_recordAny_eq hc (hnone index c (Nat.le_refl index) hc) _
  case others =>
    intro place d hd hmem
    rw [List.map_append, List.mem_append, not_or] at hmem
    have hne : index ≠ place := by
      rintro rfl
      exact hmem.2 (by simp [hplace])
    rw [hfile, RequestFile.getElem?_recordAny_ne _ hne] at hd
    exact h.others place d hd hmem.1

/-- One step of a run keeps the law. -/
theorem FailFast.advance {conditions : Conditions σ} {file : RequestFile} {network : σ}
    {bound : Nat} {run : Run σ} {earlier : List Attempt} {stop : Option Attempt}
    (h : FailFast conditions file network bound run earlier stop) :
    ∃ earlier stop, FailFast conditions file network (bound + 1)
      (Run.advance conditions run bound) earlier stop := by
  cases stop with
  | some k =>
    -- The run has ended.
    have hfailure : run.failure ≠ none := by simp [h.failure]
    rw [advance_eq_self conditions (.inl hfailure)]
    exact ⟨earlier, some k, h.toLogged, h.places, h.succeeded, h.stopped, h.failure⟩
  | none =>
    have hmethod := RequestFile.hasMethod_eq_of_release_eq h.templates bound
    have hplaces := h.places
    have hfailure := h.failure
    rw [Option.elim_none] at hplaces
    rw [Option.map_none] at hfailure
    cases hb : file.hasMethod bound with
    | false =>
      -- The case is passed over.
      rw [advance_eq_self conditions (.inr (hmethod.trans hb))]
      refine ⟨earlier, none, h.toLogged, ?_, h.succeeded, h.stopped, h.failure⟩
      rw [hplaces, Option.elim_none, RequestFile.placesBelow_succ, hb]
      simp
    | true =>
      obtain ⟨c, hc⟩ := RequestFile.exists_of_hasMethod (hmethod.trans hb)
      rw [advance_eq_after conditions hfailure hc (hmethod.trans hb)]
      have hlog : ∀ a ∈ earlier ++ Option.toList none, a.place < bound := by
        intro a ha
        have hmem := List.mem_map_of_mem (f := Attempt.place) ha
        rw [hplaces] at hmem
        exact RequestFile.lt_of_mem_placesBelow hmem
      have hlogged := h.toLogged.after hc hlog
      generalize hnew : run.attempt conditions bound c = new at hlogged ⊢
      have hplace : new.place = bound := by rw [← hnew]; rfl
      have hplaces' : (earlier ++ [new]).map Attempt.place = file.placesBelow (bound + 1) := by
        rw [RequestFile.placesBelow_succ, hb, ← hplaces]
        simp [hplace]
      rw [Option.toList_none, List.append_nil] at hlogged
      cases hsuccess : new.succeeded conditions.expected with
      | true =>
        refine ⟨earlier ++ [new], none, by simpa using hlogged, by simpa using hplaces', ?_, ?_, ?_⟩
        · intro a ha
          rcases List.mem_append.1 ha with ha | ha
          · exact h.succeeded a ha
          · obtain rfl : a = new := by simpa using ha
            exact hsuccess
        · simp
        · simp [after, hsuccess]
      | false =>
        refine ⟨earlier, some new, hlogged, ?_, h.succeeded, ?_, ?_⟩
        · rw [Option.elim_some, hplace]
          exact hplaces'
        · intro k hk
          obtain rfl : new = k := by simpa using hk
          exact hsuccess
        · simp [after, hsuccess]

/-- A run that has just begun has done nothing. -/
theorem logged_start (conditions : Conditions σ) (file : RequestFile) (network : σ) :
    Logged conditions file network ⟨file.release, network, [], none⟩ [] := by
  refine ⟨RequestFile.release_release file, rfl, rfl, rfl, by simp, by simp, ?_⟩
  intro place c hc _
  have hc' : file.release.cases[place]? = some c := hc
  rw [RequestFile.release_cases, List.getElem?_map] at hc'
  obtain ⟨d, -, rfl⟩ := Option.map_eq_some_iff.1 hc'
  rfl

/-- A run over the places before a bound has the law. -/
theorem foldl_advance_failFast (conditions : Conditions σ) (file : RequestFile) (network : σ)
    (bound : Nat) :
    ∃ earlier stop, FailFast conditions file network bound
      ((List.range bound).foldl (Run.advance conditions) ⟨file.release, network, [], none⟩)
      earlier stop := by
  induction bound with
  | zero =>
    exact ⟨[], none, logged_start conditions file network, rfl, by simp, by simp, rfl⟩
  | succ bound ih =>
    obtain ⟨earlier, stop, h⟩ := ih
    rw [List.range_succ, List.foldl_append]
    exact h.advance

end Volley.Run

namespace Volley

variable {σ : Type}

/-- An execution handles the cases with a method in file order up to the first that gets no response
or one with another status than the expected one, and depends on nothing that the file holds from
earlier executions. -/
theorem RequestFile.execute_failFast (conditions : Conditions σ) (file : RequestFile)
    (network : σ) :
    (∃ earlier stop, Run.FailFast conditions file network file.cases.length
      (file.execute conditions network) earlier stop) ∧
    file.release.execute conditions network = file.execute conditions network := by
  constructor
  · exact Run.foldl_advance_failFast conditions file network file.cases.length
  · rw [execute, execute, release_release, release_cases, List.length_map]

end Volley
