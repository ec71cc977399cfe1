import Mathlib.Data.List.Forall2
import Volley.Proofs.Run.Attempts
import Volley.Report.Stat

/-!
# Runs over a shared network

The runs of several files may use one network in turns. What such a run sees of the network is
whatever the others have left of it, so before each case the network may be in any state
(`Run.Reaches`). To the run itself this makes no difference: it is an execution of its file over a
network that gives the answers that the run received (`Reaches.exists_execute`), and so it has all
the laws of executions.

The exchanges that a file holds after an execution are those of its attempts, in their order
(`filterMap_exchange_execute`), which gives the sizes in the outcome of an iteration.
-/

namespace Volley

variable {σ : Type}

/-- The network that gives the answers of a list, one after the other. -/
def reply (_ : Request) : List (Except Fault Response) →
    Except Fault Response × List (Except Fault Response)
  | [] => (.error (.engine "no answer left"), [])
  | answer :: later => (answer, later)

/-- The circumstances of a run, but with a network that gives the answers of a list. -/
def Conditions.scripted (conditions : Conditions σ) :
    Conditions (List (Except Fault Response)) where
  extra := conditions.extra
  builtins := conditions.builtins
  expected := conditions.expected
  send := reply

namespace Run

/-- A run that has come to a place of a file while others may have used the network. -/
inductive Reaches (conditions : Conditions σ) (file : RequestFile) : Run σ → Nat → Prop where
  /-- Nothing has been executed. -/
  | start (network : σ) : Reaches conditions file (file.begin network) 0
  /-- The next case is executed over the network as others have left it. -/
  | next {run : Run σ} {place : Nat} (h : Reaches conditions file run place) (network : σ) :
      Reaches conditions file (advance conditions { run with network := network } place) (place + 1)

/-- A run does not change the templates of its file. -/
theorem Reaches.release_eq {conditions : Conditions σ} {file : RequestFile} {run : Run σ}
    {place : Nat} (h : Reaches conditions file run place) : run.file.release = file.release := by
  induction h with
  | start network => exact RequestFile.release_release file
  | next h network ih => rw [release_advance, ih]

/-- A run does not change the number of cases. -/
theorem Reaches.length_cases {conditions : Conditions σ} {file : RequestFile} {run : Run σ}
    {place : Nat} (h : Reaches conditions file run place) :
    run.file.cases.length = file.cases.length := by
  have hlength := congrArg (fun file => file.cases.length) h.release_eq
  simpa using hlength

/-- The answers that a network can give to requests. -/
def Answers (send : Request → σ → Except Fault Response × σ) (sent : List Request)
    (answers : List (Except Fault Response)) : Prop :=
  List.Forall₂ (fun request answer => ∃ network, (send request network).1 = answer) sent answers

/-- A run among others is a run over a network of its own, which gives the answers that the run
received. -/
theorem Reaches.exists_upTo {conditions : Conditions σ} {file : RequestFile} {run : Run σ}
    {place : Nat} (h : Reaches conditions file run place) :
    ∃ answers, Answers conditions.send run.sent answers ∧ ∀ later,
      upTo conditions.scripted file (answers ++ later) place =
        { file := run.file, network := later, sent := run.sent, failure := run.failure } := by
  induction h with
  | start network => exact ⟨[], List.Forall₂.nil, fun later => rfl⟩
  | @next run place h network ih =>
    obtain ⟨answers, hanswers, hupTo⟩ := ih
    by_cases hgoes : run.failure = none ∧ run.file.hasMethod place = true
    · obtain ⟨c, hc⟩ := RequestFile.exists_of_hasMethod hgoes.2
      have hadvance : advance conditions { run with network := network } place =
          after conditions { run with network := network } (attempt conditions _ place c) :=
        advance_eq_after conditions hgoes.1 hc hgoes.2
      let answer := (conditions.send (request conditions run.file place c) network).1
      -- What the shared network answers here is the next answer of the script.
      rw [hadvance]
      refine ⟨answers ++ [answer], ?_, fun later => ?_⟩
      · exact List.rel_append hanswers (.cons ⟨network, rfl⟩ .nil)
      · rw [upTo_succ, List.append_assoc, hupTo]
        exact advance_eq_after conditions.scripted hgoes.1 hc hgoes.2
    · have hstays := stays_of_not hgoes
      have hadvance : advance conditions { run with network := network } place =
          { run with network := network } := advance_eq_self conditions hstays
      rw [hadvance]
      refine ⟨answers, hanswers, fun later => ?_⟩
      rw [upTo_succ, hupTo]
      exact advance_eq_self conditions.scripted hstays

/-- A run among others that has come to the end of its file is an execution of the file. -/
theorem Reaches.exists_execute {conditions : Conditions σ} {file : RequestFile} {run : Run σ}
    (h : Reaches conditions file run file.cases.length) :
    ∃ answers, Answers conditions.send run.sent answers ∧
      file.execute conditions.scripted answers =
        { file := run.file, network := [], sent := run.sent, failure := run.failure } := by
  obtain ⟨answers, hanswers, hupTo⟩ := h.exists_upTo
  have hend := hupTo []
  rw [List.append_nil] at hend
  exact ⟨answers, hanswers, hend⟩

end Run

/-! ## The exchanges of an execution -/

/-- Recording at a place adds to what a file holds, if nothing is held from that place on. -/
theorem RequestFile.filterMap_exchange_recordAny {file : RequestFile} {place : Nat} {c : Case}
    (hc : file.cases[place]? = some c) (h : file.HoldsNothingFrom place) (e? : Option Exchange) :
    (file.recordAny place e?).cases.filterMap Case.exchange =
      file.cases.filterMap Case.exchange ++ e?.toList := by
  obtain ⟨hlt, hget⟩ := List.getElem?_eq_some_iff.1 hc
  have hnone : (file.cases.drop place).filterMap Case.exchange = [] :=
    List.filterMap_eq_nil_iff.2 h
  have hlater : (file.cases.drop (place + 1)).filterMap Case.exchange = [] :=
    List.filterMap_eq_nil_iff.2 fun d hd => h d (List.mem_of_mem_tail (by rwa [List.tail_drop]))
  have hheld : file.cases.filterMap Case.exchange =
      (file.cases.take place).filterMap Case.exchange := by
    conv_lhs => rw [← List.take_append_drop place file.cases]
    rw [List.filterMap_append, hnone, List.append_nil]
  cases e? with
  | none => simp [recordAny]
  | some e =>
    have hrecord : (file.recordAny place (some e)).cases =
        file.cases.take place ++ { c with exchange := some e } :: file.cases.drop (place + 1) := by
      rw [← hget]
      exact List.modify_eq_take_cons_drop hlt
    simp [hrecord, hlater, hheld]

namespace Run

/-- The exchanges that a run holds are those of its attempts. -/
theorem filterMap_exchange_upTo (conditions : Conditions σ) (file : RequestFile) (network : σ)
    (bound : Nat) :
    (upTo conditions file network bound).file.cases.filterMap Case.exchange =
      (attempts conditions (file.begin network) (List.range bound)).filterMap
        Attempt.exchange? := by
  induction bound with
  | zero =>
    refine List.filterMap_eq_nil_iff.2 ?_
    exact holdsNothingFrom_upTo conditions file network 0
  | succ bound ih =>
    have hnone := holdsNothingFrom_upTo conditions file network bound
    rw [upTo_succ, List.range_succ, attempts_append, attempts, attempts, List.append_nil,
      List.filterMap_append, ← ih, advance_eq_elim]
    change _ = _ ++
      ((upTo conditions file network bound).attempt? conditions bound).toList.filterMap _
    cases hattempt : (upTo conditions file network bound).attempt? conditions bound with
    | none => simp
    | some a =>
      obtain ⟨-, -, c, hc, rfl⟩ := exists_of_attempt? hattempt
      exact RequestFile.filterMap_exchange_recordAny hc hnone _

end Run

/-- The exchanges that a file holds after an execution are those of its attempts. -/
theorem RequestFile.filterMap_exchange_execute (conditions : Conditions σ) (file : RequestFile)
    (network : σ) :
    (file.execute conditions network).file.cases.filterMap Case.exchange =
      (file.attempts conditions network).filterMap Attempt.exchange? :=
  Run.filterMap_exchange_upTo conditions file network file.cases.length

/-- The size of a case is that of its exchange. -/
theorem total_map_exchange (size : Case → Nat) (sizeOf : Exchange → Nat)
    (hnone : ∀ c : Case, c.exchange = none → size c = 0)
    (hsome : ∀ (c : Case) (e : Exchange), c.exchange = some e → size c = sizeOf e)
    (cases : List Case) :
    total (cases.map size) = total ((cases.filterMap Case.exchange).map sizeOf) := by
  induction cases with
  | nil => rfl
  | cons c rest ih =>
    cases he : c.exchange with
    | none => simp [he, hnone c he, ih]
    | some e => simp [he, hsome c e he, ih]

/-- The bytes of an iteration are those of the exchanges that its file holds. -/
theorem Stat.sent_ofRun (file : RequestFile) (success : Bool) :
    (Stat.ofRun file success).sent =
      total ((file.cases.filterMap Case.exchange).map fun e => e.request.size) :=
  total_map_exchange _ _ (fun c h => by simp [Case.requestSize, h])
    (fun c e h => by simp [Case.requestSize, h]) file.cases

theorem Stat.received_ofRun (file : RequestFile) (success : Bool) :
    (Stat.ofRun file success).received =
      total ((file.cases.filterMap Case.exchange).map fun e => e.response.size) :=
  total_map_exchange _ _ (fun c h => by simp [Case.responseSize, h])
    (fun c e h => by simp [Case.responseSize, h]) file.cases

end Volley
