import Mathlib.Data.List.Dedup
import Mathlib.Data.List.Induction
import Volley.LineCache.Calls
import Volley.Proofs.Disk

/-!
# The lines of a file are those of its first read

A cache gains records and never loses or replaces one: of the records of a path the first one is
kept (`Gains`). In a history the records are the successful reads, so what is returned for a path is
what its first successful read gave, for ever (`gains_afterAll`). What a read gives are the lines of
the text that the file holds then (`Disk.holdsFiles`). When calls overlap, the records are what
calls settle with the cache, in the order in which they do so (`gains_run`). Two calls may read
different lines of one file then, but both return those that were settled first, since a call
returns what the cache has of its path after its last step (`Agreed`).
-/

namespace Volley.LineCache

/-! ## Records -/

/-- Lines under the shared spelling of the path that they were read from. -/
abbrev Record : Type := String × List String

/-- The first record of a path. -/
def first? (records : List Record) (path : String) : Option (List String) :=
  Entries.find? (canonicalPath path) records

/-- The record of what is read from a path, if it can be read. -/
def recordsOf (disk : Disk) (path : String) : List Record :=
  ((disk.lines? path).map fun read => (canonicalPath path, read)).toList

/-- The first record of several ones is among the first ones, or else among the others. -/
theorem find?_append (key : String) (records later : List Record) :
    Entries.find? key (records ++ later) =
      (Entries.find? key records).or (Entries.find? key later) := by
  induction records with
  | nil => rfl
  | cons record records ih =>
    obtain ⟨other, read⟩ := record
    rw [List.cons_append, Entries.find?, Entries.find?, ih]
    split <;> rfl

/-- There is a record of a key if the key is one of a record. -/
theorem isSome_find?_iff (key : String) (records : List Record) :
    (Entries.find? key records).isSome = true ↔ key ∈ records.map Prod.fst := by
  induction records with
  | nil => simp [Entries.find?]
  | cons record records ih =>
    obtain ⟨other, read⟩ := record
    rw [Entries.find?, List.map_cons, List.mem_cons, ← ih]
    by_cases hkey : key = other
    · simp [hkey]
    · simp [hkey]

/-! ## What a cache gains -/

/-- The cache has gained the first of the records of each path that it had none of. -/
def Gains (cache : LineCache) (records : List Record) (cache' : LineCache) : Prop :=
  ∀ key, cache'.entries.get? key = (cache.entries.get? key).or (Entries.find? key records)

section Gains
variable {cache cache' cache'' : LineCache} {records later : List Record} {path : String}

/-- Without records a cache gains nothing. -/
theorem gains_refl (cache : LineCache) : Gains cache [] cache :=
  fun _ => Option.or_none.symm

/-- What is gained first comes first. -/
theorem Gains.trans (h : Gains cache records cache') (h' : Gains cache' later cache'') :
    Gains cache (records ++ later) cache'' := by
  intro key
  rw [h' key, h key, find?_append, Option.or_assoc]

/-- What is kept stays. -/
theorem Gains.get?_eq (h : Gains cache records cache') {kept : List String}
    (hkept : cache.get? path = some kept) : cache'.get? path = some kept := by
  unfold get? at *
  rw [h, hkept, Option.some_or]

/-- A cache that was empty has the first record of each path. -/
theorem Gains.first? (h : Gains {} records cache) (path : String) :
    cache.get? path = first? records path :=
  (h _).trans Option.none_or

/-- A cache that was empty has as many entries as there are paths in the records. -/
theorem Gains.size (h : Gains {} records cache) :
    cache.size = (records.map Prod.fst).dedup.length := by
  have hnodup : (cache.entries.entries.map Prod.fst).Nodup :=
    (List.pairwise_map.2 cache.entries.sorted).imp fun hlt => Std.ne_of_lt hlt
  have hmem : ∀ key, key ∈ cache.entries.entries.map Prod.fst ↔
      key ∈ (records.map Prod.fst).dedup := by
    intro key
    have hfind : Entries.find? key cache.entries.entries = Entries.find? key records :=
      (h key).trans Option.none_or
    rw [List.mem_dedup, ← isSome_find?_iff, ← isSome_find?_iff, hfind]
  have hperm := (List.perm_ext_iff_of_nodup hnodup (List.nodup_dedup _)).2 hmem
  rw [LineCache.size, ← hperm.length_eq, List.length_map]

/-- Lines that are read are gained under their path. -/
theorem gains_keep (cache : LineCache) (path : String) (read : List String) :
    Gains cache [(canonicalPath path, read)] (cache.keep path read).2 := by
  intro key
  unfold keep get?
  cases hkept : cache.entries.get? (canonicalPath path) with
  | some kept =>
    by_cases hkey : key = canonicalPath path
    · rw [hkey, hkept, Option.some_or]
    · simp [Entries.find?, hkey]
  | none =>
    dsimp only
    rw [Dictionary.get?_insert]
    by_cases hkey : key = canonicalPath path
    · simp [Entries.find?, hkey, hkept]
    · simp [Entries.find?, hkey]

/-- What is returned when lines are kept is what the cache has of them from then on. -/
theorem get?_keep (cache : LineCache) (path : String) (read : List String) :
    (cache.keep path read).2.get? path = some (cache.keep path read).1 := by
  unfold keep
  cases hkept : cache.get? path with
  | some kept => exact hkept
  | none =>
    unfold get?
    dsimp only
    rw [Dictionary.get?_insert, if_pos rfl]

/-- A call returns the lines that are kept, or else those on the disk. -/
theorem fst_lines (cache : LineCache) (disk : Disk) (path : String) :
    (cache.lines disk path).1 = (cache.get? path).or (disk.lines? path) := by
  unfold lines
  cases hkept : cache.get? path with
  | some kept => rfl
  | none =>
    cases disk.lines? path with
    | none => rfl
    | some read =>
      unfold keep
      rw [hkept]
      rfl

/-- A call gains what it can read. -/
theorem gains_lines (cache : LineCache) (disk : Disk) (path : String) :
    Gains cache (recordsOf disk path) (cache.lines disk path).2 := by
  unfold lines recordsOf
  cases hread : disk.lines? path with
  | none =>
    cases cache.get? path <;> exact gains_refl cache
  | some read =>
    have hkeep := gains_keep cache path read
    cases hkept : cache.get? path with
    | none => exact hkeep
    | some kept =>
      -- Nothing is read here, but what could be read would not be gained either.
      have hsame : (cache.keep path read).2 = cache := by
        unfold keep
        rw [hkept]
      rw [hsame] at hkeep
      exact hkeep

/-- A call that returns nothing leaves the cache as it is. -/
theorem snd_lines_of_eq_none {disk : Disk} (h : (cache.lines disk path).1 = none) :
    (cache.lines disk path).2 = cache := by
  rw [fst_lines, Option.or_eq_none_iff] at h
  unfold lines
  rw [h.1, h.2]

end Gains

/-! ## Histories -/

/-- The disk after an event of a history. -/
def Event.disk (disk : Disk) : Event → Disk
  | .change c => c.apply disk
  | .lines _ | .random _ _ => disk

/-- The record of what an event can read. -/
def Event.records (disk : Disk) : Event → List Record
  | .change _ => []
  | .lines path | .random path _ => recordsOf disk path

/-- The records of all that can be read in a history. They are known without the cache. -/
def reads (disk : Disk) : List Event → List Record
  | [] => []
  | event :: later => event.records disk ++ reads (event.disk disk) later

section History
variable {s : Store}

/-- What an event does to the disk. -/
theorem disk_after (s : Store) (event : Event) : (s.after event).disk = event.disk s.disk := by
  cases event <;> rfl

/-- An event gains what it can read. -/
theorem gains_after (s : Store) (event : Event) :
    Gains s.cache (event.records s.disk) (s.after event).cache := by
  cases event with
  | change _ => exact gains_refl _
  | lines path => exact gains_lines s.cache s.disk path
  | random path _ => exact gains_lines s.cache s.disk path

/-- A history gains what can be read in it. -/
theorem gains_afterAll (s : Store) (history : List Event) :
    Gains s.cache (reads s.disk history) (s.afterAll history).cache := by
  induction history generalizing s with
  | nil => exact gains_refl _
  | cons event later ih =>
    have hlater := ih (s.after event)
    rw [disk_after] at hlater
    exact (gains_after s event).trans hlater

/-- One history after another. -/
theorem afterAll_append (s : Store) (history later : List Event) :
    s.afterAll (history ++ later) = (s.afterAll history).afterAll later :=
  List.foldl_append ..

/-- What can be read in one history after another. -/
theorem reads_append (s : Store) (history later : List Event) :
    reads s.disk (history ++ later) =
      reads s.disk history ++ reads (s.afterAll history).disk later := by
  induction history generalizing s with
  | nil => rfl
  | cons event history ih =>
    have hrest := ih (s.after event)
    rw [disk_after] at hrest
    rw [List.cons_append, reads, reads, hrest, List.append_assoc]
    rfl

/-- Changes of files leave the cache alone. -/
theorem cache_afterAll_changes (s : Store) (changes : List FileChange) :
    (s.afterAll (changes.map Event.change)).cache = s.cache := by
  induction changes generalizing s with
  | nil => rfl
  | cons change changes ih => exact ih (s.after (.change change))

/-- A random line is one of the lines that were found; without any it is empty. -/
theorem drawn_cases (chance : Nat) (found : Option (List String)) :
    (∃ lines, found = some lines ∧ lines ≠ [] ∧ drawn chance found ∈ lines) ∨
      (found.getD [] = [] ∧ drawn chance found = "") := by
  unfold drawn
  cases found with
  | none => exact .inr ⟨rfl, rfl⟩
  | some lines =>
    cases lines with
    | nil => exact .inr ⟨rfl, rfl⟩
    | cons line rest =>
      have hlt : chance % (line :: rest).length < (line :: rest).length :=
        Nat.mod_lt _ (Nat.succ_pos _)
      have hchoice : choose? chance (line :: rest) =
          some ((line :: rest)[chance % (line :: rest).length]) := List.getElem?_eq_getElem hlt
      refine .inl ⟨_, rfl, List.cons_ne_nil _ _, ?_⟩
      rw [Option.bind_some, hchoice, Option.getD_some]
      exact List.getElem_mem hlt

end History

/-! ## Overlapping calls -/

/-- The record that a call settles with the cache in its next step, if it settles any. -/
def Call.records (call : Call) : List Record :=
  match call.phase with
  | .settling read => [(canonicalPath call.path, read)]
  | _ => []

/-- The record that an action settles with the cache, if it settles any. -/
def Action.records (s : Shared) : Action → List Record
  | .step number => (s.calls[number]?.map Call.records).getD []
  | _ => []

/-- The records that actions settle with the cache, in the order in which they do so. -/
def settles (s : Shared) : List Action → List Record
  | [] => []
  | action :: later => action.records s ++ settles (s.act action) later

/-- The disk after an action. -/
def Action.disk (disk : Disk) : Action → Disk
  | .change c => c.apply disk
  | .begin _ | .step _ => disk

/-- Whether an action is a step of the call with a number. -/
def Action.isStep (number : Nat) : Action → Bool
  | .step other => other = number
  | _ => false

/-- How many steps a call can still take. -/
def Phase.rank : Phase → Nat
  | .looking => 3
  | .reading => 2
  | .settling _ => 1
  | .done _ => 0

/-- What a call has returned is what the cache has of its path. -/
def Call.Agreed (cache : LineCache) (call : Call) : Prop :=
  ∀ found, call.phase = .done (some found) → cache.get? call.path = some found

section Step
variable {disk : Disk} {cache : LineCache} {call : Call}

/-- A step of a call gains the record that it settles. -/
theorem gains_step (disk : Disk) (cache : LineCache) (call : Call) :
    Gains cache call.records (call.step disk cache).2 := by
  obtain ⟨path, phase⟩ := call
  unfold Call.records Call.step
  cases phase with
  | looking =>
    dsimp only
    split <;> exact gains_refl cache
  | reading =>
    dsimp only
    split <;> exact gains_refl cache
  | settling read => exact gains_keep cache path read
  | done found => exact gains_refl cache

/-- A call is about the same file in all of its steps. -/
theorem path_step (disk : Disk) (cache : LineCache) (call : Call) :
    (call.step disk cache).1.path = call.path := by
  unfold Call.step
  split
  · split <;> rfl
  · split <;> rfl
  · rfl
  · rfl

/-- A step is one step less to take. -/
theorem rank_step (disk : Disk) (cache : LineCache) (call : Call) :
    (call.step disk cache).1.phase.rank ≤ call.phase.rank - 1 := by
  obtain ⟨path, phase⟩ := call
  unfold Call.step
  cases phase with
  | looking =>
    dsimp only
    split
    · exact Nat.zero_le _
    · exact Nat.le_refl _
  | reading =>
    dsimp only
    split
    · exact Nat.le_refl _
    · exact Nat.zero_le _
  | settling read => exact Nat.le_refl _
  | done found => exact Nat.le_refl _

/-- After its next step, too, a call has returned what the cache has of its path. -/
theorem Call.Agreed.step (h : call.Agreed cache) :
    (call.step disk cache).1.Agreed (call.step disk cache).2 := by
  obtain ⟨path, phase⟩ := call
  unfold Call.step
  intro found hfound
  cases phase with
  | looking =>
    dsimp only at *
    split at hfound
    next kept hkept =>
      cases hfound
      simp only [hkept]
    next => cases hfound
  | reading =>
    dsimp only at *
    split at hfound <;> cases hfound
  | settling read =>
    cases hfound
    exact get?_keep cache path read
  | done result => exact h found hfound

/-- A call that looks for lines that are kept returns these, and stays with them. -/
theorem step_of_get? {kept : List String} (hkept : cache.get? call.path = some kept)
    (h : call.phase = .looking ∨ call.phase = .done (some kept)) :
    call.step disk cache = ({ call with phase := .done (some kept) }, cache) := by
  obtain ⟨path, phase⟩ := call
  unfold Call.step
  dsimp only at *
  rcases h with rfl | rfl
  · dsimp only
    rw [hkept]
  · rfl

/-- What a call reads is on the disk. -/
theorem step_settling {read : List String}
    (h : (call.step disk cache).1.phase = .settling read) : disk.lines? call.path = some read := by
  obtain ⟨path, phase⟩ := call
  unfold Call.step at h
  cases phase with
  | looking =>
    dsimp only at h
    split at h <;> cases h
  | reading =>
    dsimp only at h
    split at h
    next read' hread =>
      cases h
      exact hread
    next => cases h
  | settling read' => cases h
  | done found => cases h

end Step

section Run
variable {s : Shared}

/-- A step of a call settles what the call has read. -/
theorem records_step (s : Shared) (number : Nat) :
    (Action.step number).records s = (s.calls[number]?.map Call.records).getD [] :=
  rfl

/-- A step of a call that has not begun is none. -/
theorem act_step_of_none {number : Nat} (h : s.calls[number]? = none) :
    s.act (.step number) = s := by
  simp only [Shared.act, h]

/-- A step of a call changes the call, and the cache as the call says. -/
theorem act_step_of_some {number : Nat} {call : Call} (h : s.calls[number]? = some call) :
    s.act (.step number) =
      { s with
        cache := (call.step s.disk s.cache).2
        calls := s.calls.set number (call.step s.disk s.cache).1 } := by
  simp only [Shared.act, h]

/-- What an action does to the disk. -/
theorem disk_act (s : Shared) (action : Action) : (s.act action).disk = action.disk s.disk := by
  cases action with
  | change _ => rfl
  | begin _ => rfl
  | step number =>
    cases hcall : s.calls[number]? with
    | none => rw [act_step_of_none hcall]; rfl
    | some call => rw [act_step_of_some hcall]; rfl

/-- An action gains the record that it settles. -/
theorem gains_act (s : Shared) (action : Action) :
    Gains s.cache (action.records s) (s.act action).cache := by
  cases action with
  | change _ => exact gains_refl _
  | begin _ => exact gains_refl _
  | step number =>
    rw [records_step]
    cases hcall : s.calls[number]? with
    | none =>
      rw [act_step_of_none hcall]
      exact gains_refl _
    | some call =>
      rw [act_step_of_some hcall]
      exact gains_step s.disk s.cache call

/-- Actions gain what they settle. -/
theorem gains_run (s : Shared) (actions : List Action) :
    Gains s.cache (settles s actions) (s.run actions).cache := by
  induction actions generalizing s with
  | nil => exact gains_refl _
  | cons action later ih => exact (gains_act s action).trans (ih (s.act action))

/-- Some actions after others. -/
theorem run_append (s : Shared) (actions later : List Action) :
    s.run (actions ++ later) = (s.run actions).run later :=
  List.foldl_append ..

/-- What some actions settle after others. -/
theorem settles_append (s : Shared) (actions later : List Action) :
    settles s (actions ++ later) = settles s actions ++ settles (s.run actions) later := by
  induction actions generalizing s with
  | nil => rfl
  | cons action actions ih =>
    rw [List.cons_append, settles, settles, ih, List.append_assoc]
    rfl

/-- A call that begins has the next number. -/
theorem getElem?_begin (s : Shared) (path : String) :
    (s.act (.begin path)).calls[s.calls.length]? = some ⟨path, .looking⟩ := by
  simp [Shared.act]

/-- A call that has begun keeps its number, and changes in its own steps only. -/
theorem getElem?_act {number : Nat} {call : Call} (h : s.calls[number]? = some call)
    (action : Action) : (s.act action).calls[number]? =
      some (if action.isStep number = true then (call.step s.disk s.cache).1 else call) := by
  have hlt : number < s.calls.length := (List.getElem?_eq_some_iff.1 h).1
  cases action with
  | change _ => exact h
  | begin _ => exact (List.getElem?_append_left hlt).trans h
  | step other =>
    by_cases hother : other = number
    · rw [hother, act_step_of_some h]
      simp [Action.isStep, hlt]
    · cases hcall : s.calls[other]? with
      | none =>
        rw [act_step_of_none hcall]
        simp [Action.isStep, hother, h]
      | some call' =>
        rw [act_step_of_some hcall]
        simp [Action.isStep, hother, h]

/-- After an action a call is one of those before, or one of these a step later, or has just begun.
-/
theorem mem_calls_act {action : Action} {call : Call} (h : call ∈ (s.act action).calls) :
    call ∈ s.calls ∨ (∃ before ∈ s.calls, call = (before.step s.disk s.cache).1 ∧
      (s.act action).cache = (before.step s.disk s.cache).2) ∨ call.phase = .looking := by
  cases action with
  | change _ => exact .inl h
  | begin path =>
    rcases List.mem_append.1 h with hcall | hcall
    · exact .inl hcall
    · exact .inr (.inr (by rw [List.mem_singleton.1 hcall]))
  | step number =>
    cases hbefore : s.calls[number]? with
    | none =>
      rw [act_step_of_none hbefore] at h
      exact .inl h
    | some before =>
      rw [act_step_of_some hbefore] at h ⊢
      rcases List.mem_or_eq_of_mem_set h with hcall | hcall
      · exact .inl hcall
      · exact .inr (.inl ⟨before, List.mem_of_getElem? hbefore, hcall, rfl⟩)

/-- All calls have returned what the cache has of their paths. -/
theorem agreed_run (h : ∀ call ∈ s.calls, call.Agreed s.cache) (actions : List Action) :
    ∀ call ∈ (s.run actions).calls, call.Agreed (s.run actions).cache := by
  induction actions generalizing s with
  | nil => exact h
  | cons action later ih =>
    refine ih (s := s.act action) fun call hcall => ?_
    have hgains := gains_act s action
    rcases mem_calls_act hcall with hbefore | ⟨before, hbefore, rfl, hcache⟩ | hlooking
    · exact fun found hfound => hgains.get?_eq (h call hbefore found hfound)
    -- The call itself may have changed the cache, so what it returned is compared with the new one.
    · rw [hcache]
      exact (h before hbefore).step
    · intro found hfound
      rw [hlooking] at hfound
      cases hfound

/-- A call keeps its number and its path, and every step of its own brings it nearer to its end. -/
theorem exists_call_run {number : Nat} {call : Call} (h : s.calls[number]? = some call)
    (actions : List Action) :
    ∃ later, (s.run actions).calls[number]? = some later ∧ later.path = call.path ∧
      later.phase.rank ≤ call.phase.rank - (actions.filter (Action.isStep number)).length := by
  induction actions generalizing s call with
  | nil => exact ⟨call, h, rfl, Nat.le_refl _⟩
  | cons action actions ih =>
    have hact := getElem?_act h action
    obtain ⟨later, hlater, hpath, hrank⟩ := ih hact
    refine ⟨later, hlater, ?_, ?_⟩
    · rw [hpath]
      split
      · exact path_step ..
      · rfl
    · by_cases hstep : action.isStep number = true
      · have hone := rank_step s.disk s.cache call
        rw [if_pos hstep] at hrank
        rw [List.filter_cons_of_pos hstep, List.length_cons]
        omega
      · rw [if_neg hstep] at hrank
        rw [List.filter_cons_of_neg hstep]
        exact hrank

/-- A call that looks for lines that are kept returns these whenever it returns. -/
theorem exists_looking_run {number : Nat} {call : Call} {kept : List String}
    (h : s.calls[number]? = some call) (hkept : s.cache.get? call.path = some kept)
    (hphase : call.phase = .looking ∨ call.phase = .done (some kept)) (actions : List Action) :
    ∃ later, (s.run actions).calls[number]? = some later ∧
      (later.phase = .looking ∨ later.phase = .done (some kept)) := by
  induction actions generalizing s call with
  | nil => exact ⟨call, h, hphase⟩
  | cons action actions ih =>
    have hact := getElem?_act h action
    have hgains := gains_act s action
    by_cases hstep : action.isStep number = true
    · rw [if_pos hstep, step_of_get? hkept hphase] at hact
      exact ih hact (hgains.get?_eq hkept) (.inr rfl)
    · rw [if_neg hstep] at hact
      exact ih hact (hgains.get?_eq hkept) hphase

/-- The last call to have begun takes a step. -/
theorem act_step_last (disk : Disk) (cache : LineCache) (calls : List Call) (call : Call) :
    (Shared.mk disk cache (calls ++ [call])).act (.step calls.length) =
      Shared.mk disk (call.step disk cache).2 (calls ++ [(call.step disk cache).1]) := by
  have hlast : (calls ++ [call])[calls.length]? = some call := by simp
  rw [act_step_of_some hlast]
  simp

/-- Three steps of a call with nothing between them are what asking for the lines does. -/
theorem run_alone (s : Shared) (path : String) :
    s.run [.begin path, .step s.calls.length, .step s.calls.length, .step s.calls.length] =
      { s with
        cache := (s.cache.lines s.disk path).2
        calls := s.calls ++ [⟨path, .done (s.cache.lines s.disk path).1⟩] } := by
  have hbegin : s.act (.begin path) = Shared.mk s.disk s.cache (s.calls ++ [⟨path, .looking⟩]) := rfl
  unfold Shared.run
  rw [List.foldl_cons, List.foldl_cons, List.foldl_cons, List.foldl_cons, List.foldl_nil, hbegin,
    act_step_last, act_step_last, act_step_last]
  unfold lines
  cases hkept : s.cache.get? path with
  | some kept => simp [Call.step, hkept]
  | none =>
    cases hread : s.disk.lines? path with
    | some read => simp [Call.step, hkept, hread]
    | none => simp [Call.step, hkept, hread]

end Run

/-! ## From an empty cache -/

/-- A disk and its cache after a history that begins with an empty cache. -/
def after (disk : Disk) (history : List Event) : Store :=
  Store.afterAll { disk := disk } history

/-- A disk, its cache and the calls on it after actions that begin with an empty cache. -/
def overlapping (disk : Disk) (actions : List Action) : Shared :=
  Shared.run { disk := disk } actions

/-- The records that actions settle with a cache that is empty at first. -/
def settled (disk : Disk) (actions : List Action) : List Record :=
  settles { disk := disk } actions

/-- A record that an action settles is what one of the calls has read. -/
theorem exists_call_of_mem_records {s : Shared} {action : Action} {record : Record}
    (h : record ∈ action.records s) :
    ∃ call ∈ s.calls, canonicalPath call.path = record.1 ∧ call.phase = .settling record.2 := by
  cases action with
  | change _ => exact absurd h List.not_mem_nil
  | begin _ => exact absurd h List.not_mem_nil
  | step number =>
    rw [records_step] at h
    cases hcall : s.calls[number]? with
    | none =>
      rw [hcall] at h
      exact absurd h List.not_mem_nil
    | some call =>
      rw [hcall, Option.map_some, Option.getD_some] at h
      refine ⟨call, List.mem_of_getElem? hcall, ?_⟩
      unfold Call.records at h
      split at h
      next read hread =>
        rw [List.mem_singleton.1 h]
        exact ⟨rfl, hread⟩
      next => exact absurd h List.not_mem_nil

/-- A record of an event is what the file at the path has when the event reads it. -/
theorem exists_of_mem_event_records {disk : Disk} {event : Event} {record : Record}
    (h : record ∈ event.records disk) :
    ∃ path, canonicalPath path = record.1 ∧ disk.lines? path = some record.2 := by
  have hrecords {path : String} (hpath : record ∈ recordsOf disk path) :
      ∃ path, canonicalPath path = record.1 ∧ disk.lines? path = some record.2 := by
    obtain ⟨read, hread, rfl⟩ := Option.map_eq_some_iff.1 (Option.mem_toList.1 hpath)
    exact ⟨path, rfl, hread⟩
  cases event with
  | change _ => exact absurd h List.not_mem_nil
  | lines path => exact hrecords h
  | random path _ => exact hrecords h

section Empty
variable (disk : Disk)

/-- What a call has read was on the disk at some earlier time. -/
theorem exists_read {actions : List Action} {call : Call} {read : List String}
    (hcall : call ∈ (overlapping disk actions).calls) (hread : call.phase = .settling read) :
    ∃ earlier, earlier <+: actions ∧
      (overlapping disk earlier).disk.lines? call.path = some read := by
  -- By the last action: what it does is known from the calls before it.
  induction actions using List.reverseRecOn generalizing call with
  | nil => exact absurd hcall List.not_mem_nil
  | append_singleton actions action ih =>
    have hprefix : actions <+: actions ++ [action] := List.prefix_append ..
    have hrun : overlapping disk (actions ++ [action]) = (overlapping disk actions).act action :=
      List.foldl_concat ..
    rw [hrun] at hcall
    rcases mem_calls_act hcall with hbefore | ⟨before, -, rfl, -⟩ | hlooking
    · obtain ⟨earlier, hearlier, hlines⟩ := ih hbefore hread
      exact ⟨earlier, hearlier.trans hprefix, hlines⟩
    · exact ⟨actions, hprefix, (path_step ..).symm ▸ step_settling hread⟩
    · rw [hlooking] at hread
      cases hread

/-- What is settled was on the disk at some earlier time. -/
theorem exists_of_mem_settled {actions : List Action} {record : Record}
    (h : record ∈ settled disk actions) :
    ∃ earlier path, earlier <+: actions ∧ canonicalPath path = record.1 ∧
      (overlapping disk earlier).disk.lines? path = some record.2 := by
  induction actions using List.reverseRecOn with
  | nil => exact absurd h List.not_mem_nil
  | append_singleton actions action ih =>
    have hprefix : actions <+: actions ++ [action] := List.prefix_append ..
    unfold settled at h
    rw [settles_append] at h
    rcases List.mem_append.1 h with hbefore | hlast
    · obtain ⟨earlier, path, hearlier, hpath, hlines⟩ := ih hbefore
      exact ⟨earlier, path, hearlier.trans hprefix, hpath, hlines⟩
    · rw [settles, settles, List.append_nil] at hlast
      obtain ⟨call, hcall, hpath, hread⟩ := exists_call_of_mem_records hlast
      obtain ⟨earlier, hearlier, hlines⟩ := exists_read disk hcall hread
      exact ⟨earlier, call.path, hearlier.trans hprefix, hpath, hlines⟩

/-- A disk and its cache after some more history. -/
theorem after_append (history later : List Event) :
    after disk (history ++ later) = (after disk history).afterAll later :=
  afterAll_append ..

/-- The disk, the cache and the calls on it after some more actions. -/
theorem overlapping_append (actions later : List Action) :
    overlapping disk (actions ++ later) = (overlapping disk actions).run later :=
  run_append ..

/-- After a history the cache has what was read first from each path. -/
theorem gains_after_reads (history : List Event) :
    Gains {} (reads disk history) (after disk history).cache :=
  gains_afterAll { disk := disk } history

/-- A call gives what was read first from its path, where its own read is the last one. -/
theorem fst_lines_after (history : List Event) (path : String) :
    ((after disk history).lines path).1 = first? (reads disk (history ++ [.lines path])) path := by
  have hkept := (gains_after_reads disk history).first? path
  have hreads : reads disk (history ++ [.lines path]) =
      reads disk history ++ recordsOf (after disk history).disk path := by
    have happend := reads_append { disk := disk } history [.lines path]
    rw [reads, reads, List.append_nil] at happend
    exact happend
  have hown : first? (recordsOf (after disk history).disk path) path =
      (after disk history).disk.lines? path := by
    unfold recordsOf first?
    cases (after disk history).disk.lines? path with
    | none => rfl
    | some read => simp [Entries.find?]
  have hfirst : first? (reads disk history ++ recordsOf (after disk history).disk path) path =
      (first? (reads disk history) path).or
        (first? (recordsOf (after disk history).disk path) path) :=
    find?_append ..
  rw [Store.lines, fst_lines, hkept, hreads, hfirst, hown]

/-- What can be read in a history was on the disk at some time of it. -/
theorem exists_of_mem_reads {history : List Event} {record : Record}
    (h : record ∈ reads disk history) :
    ∃ earlier path, earlier <+: history ∧ canonicalPath path = record.1 ∧
      (after disk earlier).disk.lines? path = some record.2 := by
  induction history using List.reverseRecOn with
  | nil => exact absurd h List.not_mem_nil
  | append_singleton history event ih =>
    have hreads : reads disk (history ++ [event]) =
        reads disk history ++ reads (after disk history).disk [event] :=
      reads_append { disk := disk } history [event]
    have hprefix : history <+: history ++ [event] := List.prefix_append ..
    rw [hreads, reads, reads, List.append_nil] at h
    rcases List.mem_append.1 h with hbefore | hlast
    · obtain ⟨earlier, path, hearlier, hpath, hlines⟩ := ih hbefore
      exact ⟨earlier, path, hearlier.trans hprefix, hpath, hlines⟩
    · obtain ⟨path, hpath, hlines⟩ := exists_of_mem_event_records hlast
      exact ⟨history, path, hprefix, hpath, hlines⟩

/-- What a call gives was on the disk at some time before it. -/
theorem exists_of_fst_lines {history : List Event} {path : String} {found : List String}
    (h : ((after disk history).lines path).1 = some found) :
    ∃ earlier spelling, earlier <+: history ∧ canonicalPath spelling = canonicalPath path ∧
      (after disk earlier).disk.lines? spelling = some found := by
  have hkept := (gains_after_reads disk history).first? path
  rw [Store.lines, fst_lines, hkept, Option.or_eq_some_iff] at h
  rcases h with hfirst | ⟨-, hread⟩
  · exact exists_of_mem_reads disk (Entries.mem_of_find? hfirst)
  · exact ⟨history, path, List.prefix_rfl, rfl, hread⟩

/-- A call gives the same lines again after any more history. -/
theorem fst_lines_stable {history : List Event} {path : String} {found : List String}
    (h : ((after disk history).lines path).1 = some found) (later : List Event) :
    ((after disk (history ++ .lines path :: later)).lines path).1 = some found := by
  have hcall : (after disk (history ++ .lines path :: later)) =
      ((after disk history).after (.lines path)).afterAll later := after_append ..
  have hfirst : first? (reads disk (history ++ [.lines path])) path = some found :=
    (fst_lines_after disk history path).symm.trans h
  have hkept : ((after disk history).after (.lines path)).cache.get? path = some found := by
    have hgains := gains_after_reads disk (history ++ [.lines path])
    rw [after_append] at hgains
    exact (hgains.first? path).trans hfirst
  have hlater := (gains_afterAll _ later).get?_eq hkept
  rw [Store.lines, fst_lines, hcall, hlater, Option.some_or]

end Empty

/-- What calls give of the files of a disk, with a cache that is empty at first: one after the other
in a history, or side by side. -/
structure IsSnapshot (disk : Disk) : Prop where
  /-- Files are read as they were written, and have the lines of the text that is in them. -/
  files : ∀ history, (after disk history).disk.HoldsFiles
  /-- Changes change the files, and calls do not. -/
  changes : ∀ history event,
    (after disk (history ++ [event])).disk = event.disk (after disk history).disk
  /-- The lines that a call gives are those of the text that the file had at some time before. -/
  text : ∀ history path found, ((after disk history).lines path).1 = some found →
    ∃ earlier spelling text, earlier <+: history ∧ canonicalPath spelling = canonicalPath path ∧
      (after disk earlier).disk.read spelling = .ok (Text.Utf8.encode text) ∧
      Text.IsLines text (found.map String.toList)
  /-- A call gives the lines that were read first from its path, by itself or any call before. -/
  first : ∀ history path, ((after disk history).lines path).1 =
    first? (reads disk (history ++ [.lines path])) path
  /-- Whatever happens then, later calls give the same lines. -/
  stable : ∀ history later path found, ((after disk history).lines path).1 = some found →
    ((after disk (history ++ .lines path :: later)).lines path).1 = some found
  /-- A call that fails gives nothing, or an empty line, and leaves the cache as it is. -/
  failed : ∀ history path chance, ((after disk history).lines path).1 = none →
    ((after disk history).lines path).2 = (after disk history).cache ∧
      (after disk history).randomLine path chance = ("", (after disk history).cache)
  /-- So the next call reads the file, as it is after any changes. -/
  retried : ∀ history (changes : List FileChange) path,
    ((after disk history).lines path).1 = none →
      ((after disk (history ++ .lines path :: changes.map .change)).lines path).1 =
        (after disk (history ++ .lines path :: changes.map .change)).disk.lines? path
  /-- A random line is one of the lines of the file, or empty if there are none. -/
  random : ∀ history path chance,
    (∃ found, ((after disk history).lines path).1 = some found ∧ found ≠ [] ∧
      ((after disk history).randomLine path chance).1 ∈ found) ∨
    (((after disk history).lines path).1.getD [] = [] ∧
      ((after disk history).randomLine path chance).1 = "")
  /-- The size is the number of paths that were read. -/
  size : ∀ history, (after disk history).cache.size =
    ((reads disk history).map Prod.fst).dedup.length
  /-- Beside calls, too, files are read as they were written. -/
  filesBeside : ∀ actions, (overlapping disk actions).disk.HoldsFiles
  /-- There, too, changes change the files, and calls do not. -/
  changesBeside : ∀ actions action,
    (overlapping disk (actions ++ [action])).disk = action.disk (overlapping disk actions).disk
  /-- A call without others beside it is the one of a history. -/
  alone : ∀ actions path, let s := overlapping disk actions
    s.run [.begin path, .step s.calls.length, .step s.calls.length, .step s.calls.length] =
      { s with
        cache := (s.cache.lines s.disk path).2
        calls := s.calls ++ [⟨path, .done (s.cache.lines s.disk path).1⟩] }
  /-- A call among others returns after three steps of its own, whatever happens between them. -/
  returns : ∀ actions later path, 3 ≤ (later.filter
      (Action.isStep (overlapping disk actions).calls.length)).length →
    ∃ found, (overlapping disk (actions ++ .begin path :: later)).calls[
      (overlapping disk actions).calls.length]? = some ⟨path, .done found⟩
  /-- What calls return of a path is what was settled first, though they may have read other lines.
  -/
  agreed : ∀ actions call found, call ∈ (overlapping disk actions).calls →
    call.phase = .done (some found) → first? (settled disk actions) call.path = some found
  /-- The size is the number of paths that were settled. -/
  sizeBeside : ∀ actions, (overlapping disk actions).cache.size =
    ((settled disk actions).map Prod.fst).dedup.length
  /-- What is settled first was on the disk before. -/
  read : ∀ actions path found, first? (settled disk actions) path = some found →
    ∃ earlier spelling, earlier <+: actions ∧ canonicalPath spelling = canonicalPath path ∧
      (overlapping disk earlier).disk.lines? spelling = some found
  /-- A call that begins when lines of its path have been settled returns these. -/
  kept : ∀ actions later path found, first? (settled disk actions) path = some found →
    ∃ call, (overlapping disk (actions ++ .begin path :: later)).calls[
      (overlapping disk actions).calls.length]? = some call ∧
        (call.phase = .looking ∨ call.phase = .done (some found))

/-- A file is written, read, written again under another spelling of its path, and deleted; another
one is no text when it is read for the first time. -/
def rewritten : List Event :=
  [.change (.write "a" (Text.Utf8.encode "one\r\ntwo\n".toList)), .lines "a",
    .change (.write "./a" (Text.Utf8.encode "three".toList)), .random "a" 5,
    .change (.delete "a"), .change (.write "b" [255]), .lines "b",
    .change (.write "b" (Text.Utf8.encode "four\r".toList))]

/-- A call has read a file, but another one that reads it after a change settles its lines first. -/
def overtaken : List Action :=
  [.change (.write "a" (Text.Utf8.encode "one".toList)), .begin "a", .begin "a", .step 0, .step 0,
    .change (.write "a" (Text.Utf8.encode "two".toList)), .step 1, .step 1, .step 1, .step 0]

end Volley.LineCache
