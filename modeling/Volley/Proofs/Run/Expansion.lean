import Volley.Proofs.RequestFile.Expansion
import Volley.Proofs.Run.FailFast

/-!
# Runs of copies

A copy for one run is filled in with its variables beforehand. `execute_copy` says that a run cannot
tell: a file with the same variables and the templates as they were written sends the same requests,
ends in the same way and holds the same exchanges. The built-in functions are a fixed function of
the key here, because each use of one may otherwise give another value.

The two runs go in step (`InStep`). At every place both files know the same (`Expands.lookup_eq`),
so the attempts are the same, and what they record keeps the two files alike.
-/

namespace Volley

variable {σ : Type}

/-- The circumstances in which nothing is asked before the file and the built-in functions give the
same value at every site. -/
def Conditions.frozen (builtins : Resolver) (expected : Nat)
    (send : Request → σ → Except Fault Response × σ) : Conditions σ where
  builtins := fun _ _ => builtins
  expected := expected
  send := send

/-- A chain of one resolver is that resolver. -/
@[simp] theorem Resolver.chain_singleton (resolver : Resolver) :
    Resolver.chain [resolver] = resolver := by
  funext key
  rw [Resolver.chain, List.findSome?_singleton]

namespace Run

/-- In frozen circumstances a case is prepared with the file as the only resolver. -/
theorem request_frozen (builtins : Resolver) (expected : Nat)
    (send : Request → σ → Except Fault Response × σ) (file : RequestFile) (index : Nat) (c : Case) :
    Run.request (Conditions.frozen builtins expected send) file index c =
      c.prepare (file.lookup builtins) := by
  have hchain : Resolver.chain ([] ++ [file.lookup builtins]) = file.lookup builtins :=
    Resolver.chain_singleton _
  rw [← Case.prepareAt_const, ← hchain]
  rfl

/-- Two runs in step: the file of the first is that of the second, filled in with its variables, and
everything else is the same. -/
structure InStep (first second : Run σ) : Prop where
  /-- The first file is filled in with its variables. -/
  file : RequestFile.Expands first.file second.file
  /-- The networks are in the same state. -/
  network : first.network = second.network
  /-- The same requests were sent. -/
  sent : first.sent = second.sent
  /-- Both go on, or both have ended in the same way. -/
  failure : first.failure = second.failure

/-- Runs that go in step make the same attempt at a case. -/
theorem InStep.attempt_eq {first second : Run σ} (h : InStep first second)
    (hexp : second.file.Expandable) (builtins : Resolver) (expected : Nat)
    (send : Request → σ → Except Fault Response × σ) (index : Nat) (c : Case) :
    first.attempt (Conditions.frozen builtins expected send) index
        (RequestFile.expandCase second.file.bindings.get? c) =
      second.attempt (Conditions.frozen builtins expected send) index c := by
  -- The second file knows its variables before anything else, with the values that the first one
  -- was filled in with.
  have hrequest : Run.request (Conditions.frozen builtins expected send) first.file index
      (RequestFile.expandCase second.file.bindings.get? c) =
        Run.request (Conditions.frozen builtins expected send) second.file index c := by
    rw [request_frozen, request_frozen, h.file.lookup_eq builtins]
    exact RequestFile.prepare_expandCase hexp.values
      (fun key value => RequestFile.lookup_of_get? builtins) c
  rw [attempt, attempt, hrequest, h.network]

/-- Runs in step stay in step. -/
theorem InStep.advance {first second : Run σ} (h : InStep first second)
    (hexp : second.file.Expandable) (builtins : Resolver) (expected : Nat)
    (send : Request → σ → Except Fault Response × σ) (index : Nat) :
    InStep (Run.advance (Conditions.frozen builtins expected send) first index)
      (Run.advance (Conditions.frozen builtins expected send) second index) := by
  have hmethod := h.file.hasMethod_eq hexp index
  by_cases hgoes : second.failure = none ∧ second.file.hasMethod index = true
  · obtain ⟨hfailure, hhas⟩ := hgoes
    obtain ⟨c, hc⟩ := RequestFile.exists_of_hasMethod hhas
    have hc' : first.file.cases[index]? =
        some (RequestFile.expandCase second.file.bindings.get? c) := by
      rw [h.file.getElem?, hc, Option.map_some]
    rw [advance_eq_after _ (h.failure.trans hfailure) hc' (hmethod.trans hhas)]
    rw [advance_eq_after _ hfailure hc hhas, h.attempt_eq hexp]
    refine ⟨h.file.recordAny _ _, ?_, ?_, rfl⟩
    · rw [after, after, h.network]
    · rw [after, after, h.sent]
  · -- Neither of them goes on.
    have hstays := stays_of_not hgoes
    rw [advance_eq_self _ (by rwa [h.failure, hmethod]), advance_eq_self _ hstays]
    exact h

/-- Executions of two files of which the first is the second filled in with its variables go in
step. -/
theorem inStep_execute {a b : RequestFile} (h : RequestFile.Expands a.release b.release)
    (hexp : b.Expandable) (builtins : Resolver) (expected : Nat)
    (send : Request → σ → Except Fault Response × σ) (network : σ) :
    InStep (a.execute (Conditions.frozen builtins expected send) network)
      (b.execute (Conditions.frozen builtins expected send) network) := by
  have hlength : a.cases.length = b.cases.length := by
    have hcases := congrArg List.length h.cases
    simpa using hcases
  -- The second file can be filled in beforehand throughout, because its templates never change.
  have hboth := List.foldl_rel (l := List.range b.cases.length)
    (f := Run.advance (Conditions.frozen builtins expected send))
    (g := Run.advance (Conditions.frozen builtins expected send))
    (a := (⟨a.release, network, [], none⟩ : Run σ)) (b := ⟨b.release, network, [], none⟩)
    (r := fun first second => InStep first second ∧ second.file.Expandable)
    ⟨⟨h, rfl, rfl, rfl⟩, hexp.of_release_eq (RequestFile.release_release b).symm⟩
    fun index _ first second hrel =>
      ⟨hrel.1.advance hrel.2 builtins expected send index,
        hrel.2.of_release_eq (release_advance _ second index).symm⟩
  rw [RequestFile.execute, RequestFile.execute, hlength]
  exact hboth.1

/-- In frozen circumstances every request of an execution is a case of the file filled in by one
resolver, which gives every variable its value. -/
theorem exists_prepare_of_mem_sent {file : RequestFile} {builtins : Resolver} {expected : Nat}
    {send : Request → σ → Except Fault Response × σ} {network : σ} {request : Request}
    (h : request ∈ (file.execute (Conditions.frozen builtins expected send) network).sent) :
    ∃ c ∈ file.cases, ∃ resolver : Resolver,
      (∀ key value, file.bindings.get? key = some value → resolver key = some value) ∧
        request = c.prepare resolver := by
  obtain ⟨earlier, stop, hlaw⟩ := foldl_advance_failFast (Conditions.frozen builtins expected send)
    file network file.cases.length
  rw [RequestFile.execute, hlaw.sent] at h
  obtain ⟨a, ha, rfl⟩ := List.mem_map.1 h
  obtain ⟨c, hc, hrequest⟩ := hlaw.prepared a ha
  rw [request_frozen] at hrequest
  refine ⟨c, List.mem_of_getElem? hc, _, fun key value hvalue => ?_, hrequest⟩
  have hbindings := congrArg RequestFile.bindings hlaw.templates
  rw [RequestFile.release_bindings, RequestFile.release_bindings] at hbindings
  apply RequestFile.lookup_of_get?
  rw [RequestFile.heldBefore, hbindings]
  exact hvalue

end Run

/-- A run of a copy that was filled in with its variables is a run of the templates as they were
written with the same variables: the same requests in the same order, the same end and the same
exchanges. Every request is a case as it was written, with one value for each variable throughout.
-/
theorem RequestFile.execute_copy (mocks : Option Mock.Registry) (worldOf : String → World)
    (file plain : RequestFile)
    (hbindings : plain.bindings = (file.copy mocks worldOf true).bindings)
    (hcases : plain.cases.map Case.released = file.cases.map Case.released)
    (hvalues : ∀ key value, plain.bindings.get? key = some value → '\x7b' ∉ value.toList)
    (hmethods : ∀ c ∈ file.cases, c.method ≠ "" → substitute plain.bindings.get? c.method ≠ "")
    (builtins : Resolver) (expected : Nat) (send : Request → σ → Except Fault Response × σ)
    (network : σ) :
    let conditions := Conditions.frozen builtins expected send
    let copied := (file.copy mocks worldOf true).execute conditions network
    let direct := plain.execute conditions network
    copied.sent = direct.sent ∧ copied.failure = direct.failure ∧
      copied.network = direct.network ∧
      copied.file.cases.map Case.exchange = direct.file.cases.map Case.exchange ∧
      ∀ request ∈ copied.sent, ∃ c ∈ file.cases, ∃ resolver : Resolver,
        (∀ key value, plain.bindings.get? key = some value → resolver key = some value) ∧
          request = c.prepare resolver := by
  intro conditions copied direct
  have hexpands : Expands (file.copy mocks worldOf true).release plain.release := by
    refine ⟨hbindings.symm, ?_⟩
    rw [release_cases, release_cases, hcases, release_bindings, hbindings]
    simp only [copy, if_true, List.map_map]
    rfl
  have hexp : plain.Expandable := by
    refine ⟨hvalues, fun c hc hmethod => ?_⟩
    obtain ⟨d, hd, hdc⟩ := Case.exists_mem_released_eq hcases hc
    have hsame := Case.method_eq_of_released_eq hdc
    exact hsame ▸ hmethods d hd (hsame ▸ hmethod)
  have hstep : Run.InStep copied direct :=
    Run.inStep_execute hexpands hexp builtins expected send network
  refine ⟨hstep.sent, hstep.failure, hstep.network, hstep.file.map_exchange, ?_⟩
  intro request hrequest
  rw [hstep.sent] at hrequest
  obtain ⟨c, hc, resolver, hknows, hprepare⟩ := Run.exists_prepare_of_mem_sent hrequest
  obtain ⟨d, hd, hdc⟩ := Case.exists_mem_released_eq hcases hc
  exact ⟨d, hd, resolver, hknows, hprepare.trans (prepare_eq_of_released_eq hdc.symm resolver)⟩

/-- A world in which the draws are the multiples of seven. -/
def sevensWorld : World where
  now := ⟨0, 0⟩
  zone := 0
  chance := fun i => 7 * i
  linesOf := fun _ => none

/-- A file with a mail address to make up. One case has it in every part, one has no method, and one
refers to what the first one sent and has two placeholders without a space between them. -/
def mailFile : RequestFile where
  bindings := .ofPairs [("email", "given"), ("verb", "GET")]
  cases := [
    { name := some "a", method := "\x7b\x7bverb\x7d\x7d"
      url := "http://h/\x7b\x7bemail\x7d\x7d", headers := [("X", "\x7b\x7b email \x7d\x7d")]
      body := "\x7b\x7bemail\x7d\x7d" },
    { url := "\x7b\x7bverb\x7d\x7d" },
    { method := "POST", body := "\x7b\x7ba.request.header.X\x7d\x7d\x7b\x7bverb\x7d\x7d" }]

/-- The variables of a copy of `mailFile`, with a mail address made up. -/
def mailFileBindings : Dictionary String :=
  (mailFile.copy (some .builtin) (fun _ => sevensWorld) true).bindings

/-- A network that sends back what it is sent, and counts. -/
def echo (request : Request) (count : Nat) : Except Fault Response × Nat :=
  (.ok ⟨200, [], Text.Utf8.encode request.body.toList, 0, 0⟩, count + 1)

/-- The made-up mail address stands for the variable throughout a run of a copy of `mailFile`. -/
theorem RequestFile.execute_copy_mailFile :
    (∀ key value, mailFileBindings.get? key = some value → '\x7b' ∉ value.toList) ∧
    (∀ c ∈ mailFile.cases, c.method ≠ "" → substitute mailFileBindings.get? c.method ≠ "") ∧
    let conditions := Conditions.frozen (fun _ => none) 200 echo
    let copied := (mailFile.copy (some .builtin) (fun _ => sevensWorld) true).execute conditions 0
    let direct := ({ mailFile with bindings := mailFileBindings }).execute conditions 0
    copied.sent = direct.sent ∧ copied.failure = direct.failure ∧
      copied.network = direct.network ∧
      copied.file.cases.map Case.exchange = direct.file.cases.map Case.exchange ∧
      ∀ request ∈ copied.sent, ∃ c ∈ mailFile.cases, ∃ resolver : Resolver,
        (∀ key value, mailFileBindings.get? key = some value → resolver key = some value) ∧
          request = c.prepare resolver := by
  have hentries : ∀ entry ∈ mailFileBindings.entries, '\x7b' ∉ entry.2.toList := by
    decide +kernel
  have hvalues : ∀ key value, mailFileBindings.get? key = some value → '\x7b' ∉ value.toList :=
    fun key value hvalue => hentries (key, value) (Entries.mem_of_find? hvalue)
  have hmethods : ∀ c ∈ mailFile.cases, c.method ≠ "" →
      substitute mailFileBindings.get? c.method ≠ "" := by
    decide +kernel
  refine ⟨hvalues, hmethods, ?_⟩
  exact execute_copy (some .builtin) (fun _ => sevensWorld) mailFile
    { mailFile with bindings := mailFileBindings } rfl rfl hvalues hmethods (fun _ => none) 200
    echo 0

end Volley
