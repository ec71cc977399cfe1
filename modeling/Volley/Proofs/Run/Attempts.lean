import Volley.Proofs.Run.FailFast

/-!
# The attempts of a run

The log of a run as a function: `Run.attempts` lists what happens at the places that a run goes
through, and `RequestFile.attempts` what happens in an execution. A run is known by its log
(`logged_attempts`), and a log is continued by what happens at further places (`attempts_append`),
so a run that goes on does not change what it has done before.
-/

namespace Volley

variable {σ : Type}

namespace Run

/-- The attempt that a run makes at a place, if it has not ended and a case with a method stands
there. -/
def attempt? (conditions : Conditions σ) (run : Run σ) (index : Nat) : Option Attempt :=
  if run.isSuccess && run.file.hasMethod index then
    (run.file.cases[index]?).map (run.attempt conditions index)
  else none

/-- The attempts of a run that goes through a list of places. -/
def attempts (conditions : Conditions σ) : Run σ → List Nat → List Attempt
  | _, [] => []
  | run, index :: later =>
    (run.attempt? conditions index).toList ++
      attempts conditions (advance conditions run index) later

/-- A run makes an attempt or stays as it is. -/
theorem advance_eq_elim (conditions : Conditions σ) (run : Run σ) (index : Nat) :
    advance conditions run index =
      (run.attempt? conditions index).elim run (run.after conditions) := by
  by_cases hgoes : run.failure = none ∧ run.file.hasMethod index = true
  · obtain ⟨c, hc⟩ := RequestFile.exists_of_hasMethod hgoes.2
    rw [advance_eq_after conditions hgoes.1 hc hgoes.2]
    simp [attempt?, isSuccess, hgoes.1, hgoes.2, hc]
  · have hnone : run.attempt? conditions index = none := by
      rw [attempt?, if_neg]
      simpa [isSuccess] using hgoes
    rw [advance_eq_self conditions (stays_of_not hgoes), hnone, Option.elim_none]

/-- An attempt is made at a case with a method by a run that has not ended. -/
theorem exists_of_attempt? {conditions : Conditions σ} {run : Run σ} {index : Nat} {a : Attempt}
    (h : run.attempt? conditions index = some a) :
    run.failure = none ∧ run.file.hasMethod index = true ∧
      ∃ c, run.file.cases[index]? = some c ∧ a = run.attempt conditions index c := by
  rw [attempt?] at h
  split_ifs at h with hgoes
  obtain ⟨c, hc, rfl⟩ := Option.map_eq_some_iff.1 h
  have hboth : run.failure = none ∧ run.file.hasMethod index = true := by
    simpa [isSuccess] using hgoes
  exact ⟨hboth.1, hboth.2, c, hc, rfl⟩

/-- The attempts at further places are those of the run that has come so far. -/
theorem attempts_append (conditions : Conditions σ) (run : Run σ) (earlier later : List Nat) :
    attempts conditions run (earlier ++ later) =
      attempts conditions run earlier ++
        attempts conditions (earlier.foldl (advance conditions) run) later := by
  induction earlier generalizing run with
  | nil => rfl
  | cons index rest ih => simp [attempts, ih]

/-- Attempts are made at the places that a run goes through. -/
theorem place_mem_of_mem_attempts {conditions : Conditions σ} {run : Run σ} {places : List Nat}
    {a : Attempt} (h : a ∈ attempts conditions run places) : a.place ∈ places := by
  induction places generalizing run with
  | nil => simp [attempts] at h
  | cons index rest ih =>
    rw [attempts, List.mem_append, Option.mem_toList] at h
    rcases h with h | h
    · obtain ⟨-, -, c, -, rfl⟩ := exists_of_attempt? h
      exact List.mem_cons_self
    · exact List.mem_cons_of_mem _ (ih h)

/-- A run that has ended stays as it is. -/
theorem foldl_advance_eq_self (conditions : Conditions σ) {run : Run σ} (h : run.failure ≠ none)
    (places : List Nat) : places.foldl (advance conditions) run = run := by
  induction places with
  | nil => rfl
  | cons index rest ih => rw [List.foldl_cons, advance_eq_self conditions (.inl h), ih]

end Run

/-- A file at the beginning of its execution. -/
def RequestFile.begin (file : RequestFile) (network : σ) : Run σ :=
  ⟨file.release, network, [], none⟩

/-- The attempts of an execution. -/
def RequestFile.attempts (conditions : Conditions σ) (file : RequestFile) (network : σ) :
    List Attempt :=
  Run.attempts conditions (file.begin network) (List.range file.cases.length)

namespace Run

/-- The run that has come to a bound. -/
def upTo (conditions : Conditions σ) (file : RequestFile) (network : σ) (bound : Nat) : Run σ :=
  (List.range bound).foldl (advance conditions) (file.begin network)

/-- The run goes on to the next place. -/
theorem upTo_succ (conditions : Conditions σ) (file : RequestFile) (network : σ) (bound : Nat) :
    upTo conditions file network (bound + 1) =
      advance conditions (upTo conditions file network bound) bound := by
  rw [upTo, List.range_succ, List.foldl_append]
  rfl

/-- A run is known by its attempts. -/
theorem logged_attempts (conditions : Conditions σ) (file : RequestFile) (network : σ)
    (bound : Nat) :
    Logged conditions file network (upTo conditions file network bound)
      (attempts conditions (file.begin network) (List.range bound)) := by
  induction bound with
  | zero => exact logged_start conditions file network
  | succ bound ih =>
    rw [upTo_succ, List.range_succ, attempts_append, attempts, attempts, List.append_nil,
      advance_eq_elim]
    change Logged conditions file network
      (((upTo conditions file network bound).attempt? conditions bound).elim _ _)
      (_ ++ ((upTo conditions file network bound).attempt? conditions bound).toList)
    cases hattempt : (upTo conditions file network bound).attempt? conditions bound with
    | none => simpa using ih
    | some a =>
      obtain ⟨-, -, c, hc, rfl⟩ := exists_of_attempt? hattempt
      exact ih.after hc fun a ha => List.mem_range.1 (place_mem_of_mem_attempts ha)

/-- A run that has come to a bound holds nothing from there on. -/
theorem holdsNothingFrom_upTo (conditions : Conditions σ) (file : RequestFile) (network : σ)
    (bound : Nat) : (upTo conditions file network bound).file.HoldsNothingFrom bound := by
  intro c hc
  obtain ⟨i, hi⟩ := List.mem_iff_getElem?.1 hc
  rw [List.getElem?_drop] at hi
  refine (logged_attempts conditions file network bound).others _ c hi fun hmem => ?_
  obtain ⟨a, ha, hplace⟩ := List.mem_map.1 hmem
  have := List.mem_range.1 (place_mem_of_mem_attempts ha)
  omega

end Run

end Volley
