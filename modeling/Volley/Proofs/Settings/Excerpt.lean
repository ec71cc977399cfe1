import Mathlib.Data.List.Nodup
import Volley.Proofs.Json.Compact
import Volley.Proofs.Json.Reading
import Volley.Settings.Excerpt

/-!
# Settings are read back

The JSON text of settings is read as these settings, and an object with only some of the parts as
settings with the default for the others, in whatever order and way it is written and whatever else
it holds (`parse?_excerpt`). Both come from one fact: an excerpt is read as what `keep` says
(`IsExcerpt.ofParts?_eq`), for a part is read from any tree with the value that it has in the JSON
text, and it is found wherever it stands. The JSON text is then the excerpt that has every part. A
rate that is not limited has no member there, and what is read for it is the default, which is no
limit either (`keep_members`).
-/

namespace Volley.Settings

open Json

/-! ## Values of parts -/

/-- A whole number is read as it is if it is below the bound. -/
theorem count?_of_value? {w : Written} {n bound : Nat} (hn : n < bound)
    (h : w.value? = some (.number (.whole n))) : count? bound w = some n := by
  cases w with
  | numeral m =>
    obtain ⟨number, hm, heq⟩ := Option.map_eq_some_iff.1 h
    rw [count?, hm, Json.number.inj heq]
    dsimp only
    rw [if_pos (by omega), Int.toNat_natCast]
  | _ => simp [Written.value?, Written.valueWithin?] at h

theorem word64?_of_value? {w : Written} {n : UInt64} (h : w.value? = some (wordValue n)) :
    word64? w = some n := by
  have hbound : n.toNat < word64Bound := n.toNat_lt
  rw [word64?, count?_of_value? hbound h, Option.map_some, UInt64.ofNat_toNat]

theorem word16?_of_value? {w : Written} {n : UInt16}
    (h : w.value? = some (.number (.whole n.toNat))) : word16? w = some n := by
  have hbound : n.toNat < word16Bound := n.toNat_lt
  rw [word16?, count?_of_value? hbound h, Option.map_some, UInt16.ofNat_toNat]

theorem optionalWord64?_of_value? {w : Written} {n : UInt64} (h : w.value? = some (wordValue n)) :
    optionalWord64? w = some (some n) := by
  rw [optionalWord64?, word64?_of_value? h, Option.map_some]
  rintro rfl
  simp [Written.value?, Written.valueWithin?, wordValue] at h

theorem text?_of_value? {w : Written} {s : String} (h : w.value? = some (.string s)) :
    text? w = some s := by
  cases w with
  | string units =>
    obtain ⟨text, htext, heq⟩ := Option.map_eq_some_iff.1 h
    rw [text?, htext, Json.string.inj heq]
  | _ => simp [Written.value?, Written.valueWithin?] at h

theorem flag?_of_value? {w : Written} {b : Bool} (h : w.value? = some (.bool b)) :
    flag? w = some b := by
  cases w with
  | bool b' => rw [flag?, Json.bool.inj (Option.some.inj h)]
  | _ => simp [Written.value?, Written.valueWithin?] at h

/-! ## Parts -/

/-- A part is found among members in which it stands once at most. -/
theorem part_memberParts {α : Type} {read : Written → Option α} {default value : α}
    {members : List (String × Written)} {name : String}
    (honce : (members.map Prod.fst).count name ≤ 1)
    (hread : ∀ m ∈ members, m.1 = name → read m.2 = some value) (place : Nat) :
    part (memberParts members) name place read default =
      some (if name ∈ members.map Prod.fst then value else default) := by
  have hcount : (members.filter fun m => m.1 == name).length ≤ 1 := by
    rw [← List.countP_eq_length_filter]
    rw [List.count, List.countP_map] at honce
    exact honce
  have hmem {m : String × Written} : m ∈ (members.filter fun m => m.1 == name) ↔
      m ∈ members ∧ m.1 = name := by simp
  rw [part, memberParts]
  cases hfilter : members.filter fun m => m.1 == name with
  | nil =>
    rw [if_neg]
    rw [List.mem_map]
    rintro ⟨m, hm, hname⟩
    have hfound := hmem.2 ⟨hm, hname⟩
    rw [hfilter] at hfound
    exact List.not_mem_nil hfound
  | cons m rest =>
    rw [hfilter, List.length_cons] at hcount
    obtain rfl : rest = [] := List.length_eq_zero_iff.1 (by omega)
    obtain ⟨hm, hname⟩ := hmem.1 (hfilter ▸ List.mem_cons_self : m ∈ _)
    rw [if_pos (List.mem_map.2 ⟨m, hm, hname⟩)]
    exact hread m hm hname

/-- The members of the JSON text of settings. -/
theorem mem_members_iff {s : Settings} {name : String} {value : Json} :
    (name, value) ∈ s.members ↔
      (name = "connections" ∧ value = wordValue s.connections) ∨
      (name = "requests" ∧ value = wordValue s.requests) ∨
      (name = "rate_limit" ∧ ∃ rate, s.rateLimit = some rate ∧ value = wordValue rate) ∨
      (name = "expected_status" ∧ value = .number (.whole s.expectedStatus.toNat)) ∨
      (name = "mocker" ∧ value = .string s.locale) ∨
      (name = "timeout_ms" ∧ value = wordValue s.timeout) ∨
      (name = "max_idle_per_host" ∧ value = wordValue s.maxIdle) ∨
      (name = "verbose" ∧ value = .bool s.verbose) := by
  cases hrate : s.rateLimit <;> simp [members, hrate]

/-- What is read from an excerpt as a part. -/
theorem IsExcerpt.part_eq {s : Settings} {members : List (String × Written)}
    (h : s.IsExcerpt members) {α : Type} {read : Written → Option α} {default value : α}
    {name : String} (hname : name ∈ partNames)
    (hread : ∀ w v, (name, v) ∈ s.members → w.value? = some v → read w = some value) (place : Nat) :
    part (memberParts members) name place read default =
      some (if name ∈ members.map Prod.fst then value else default) := by
  refine part_memberParts (h.once name hname) (fun m hm hm' => ?_) place
  obtain ⟨v, hv, hvalue⟩ := h.value m hm (hm' ▸ hname)
  exact hread m.2 v (hm' ▸ hv) hvalue

/-- The same for a part that no settings leave out. -/
theorem IsExcerpt.part_eq_of_value {s : Settings} {members : List (String × Written)}
    (h : s.IsExcerpt members) {α : Type} {read : Written → Option α} {value : α} {written : Json}
    {name : String} (hname : name ∈ partNames)
    (hwritten : ∀ v, (name, v) ∈ s.members → v = written)
    (hread : ∀ {w : Written}, w.value? = some written → read w = some value) (place : Nat)
    (default : α) : part (memberParts members) name place read default =
      some (if name ∈ members.map Prod.fst then value else default) :=
  h.part_eq hname (fun _ v hv hw => hread (hwritten v hv ▸ hw)) place

/-- An excerpt is read as the parts that it has, with the default for the others. -/
theorem IsExcerpt.ofParts?_eq {s : Settings} {members : List (String × Written)}
    (h : s.IsExcerpt members) :
    ofParts? (memberParts members) = some (s.keep (members.map Prod.fst)) := by
  have hconnections := h.part_eq_of_value (show "connections" ∈ partNames by decide)
    (fun v hv => by simpa [mem_members_iff] using hv) (word64?_of_value? (n := s.connections))
  have hrequests := h.part_eq_of_value (show "requests" ∈ partNames by decide)
    (fun v hv => by simpa [mem_members_iff] using hv) (word64?_of_value? (n := s.requests))
  have hrate (place : Nat) (default : Option UInt64) :
      part (memberParts members) "rate_limit" place optionalWord64? default =
        some (if "rate_limit" ∈ members.map Prod.fst then s.rateLimit else default) := by
    refine h.part_eq (by decide) (fun w v hv hw => ?_) place
    -- Settings without a limit have no such member.
    obtain ⟨rate, hlimit, rfl⟩ : ∃ rate, s.rateLimit = some rate ∧ v = wordValue rate := by
      simpa [mem_members_iff] using hv
    rw [hlimit, optionalWord64?_of_value? hw]
  have hstatus := h.part_eq_of_value (show "expected_status" ∈ partNames by decide)
    (fun v hv => by simpa [mem_members_iff] using hv) (word16?_of_value? (n := s.expectedStatus))
  have hlocale := h.part_eq_of_value (show "mocker" ∈ partNames by decide)
    (fun v hv => by simpa [mem_members_iff] using hv) (text?_of_value? (s := s.locale))
  have htimeout := h.part_eq_of_value (show "timeout_ms" ∈ partNames by decide)
    (fun v hv => by simpa [mem_members_iff] using hv) (word64?_of_value? (n := s.timeout))
  have hmaxIdle := h.part_eq_of_value (show "max_idle_per_host" ∈ partNames by decide)
    (fun v hv => by simpa [mem_members_iff] using hv) (word64?_of_value? (n := s.maxIdle))
  have hverbose := h.part_eq_of_value (show "verbose" ∈ partNames by decide)
    (fun v hv => by simpa [mem_members_iff] using hv) (flag?_of_value? (b := s.verbose))
  simp only [ofParts?, hconnections, hrequests, hrate, hstatus, hlocale, htimeout, hmaxIdle,
    hverbose, Option.bind_eq_bind, Option.bind_some]
  rfl

/-! ## Texts -/

/-- The members of an object by their names. -/
theorem mapM_named {spelled : List (List StringUnit × Written)} {members : List (String × Written)}
    (h : List.Forall₂ (fun m m' => unitsText? m.1 = some m'.1 ∧ m.2 = m'.2) spelled members) :
    (spelled.mapM fun member => (unitsText? member.1).map fun name => (name, member.2)) =
      some members := by
  induction h with
  | nil => rfl
  | cons hm _ ih =>
    rw [List.mapM_cons, hm.1, hm.2, ih]
    rfl

/-- The text of an object is read as the parts that its members give. -/
theorem parse?_of_isObject {members : List (String × Written)} {text : String}
    (h : IsObject members text.toList) : parse? text = ofParts? (memberParts members) := by
  cases h with
  | mk htext hnamed =>
    rw [parse?, read?_of_isText htext, Option.bind_some, ofWritten?, mapM_named hnamed]
    rfl

/-- The text of every part spells its value. -/
theorem spells_of_mem_members {s : Settings} {m : String × Json} (hm : m ∈ s.members) :
    Spells m.2 (write m.2) := by
  have hword (n : UInt64) : Spells (wordValue n) (write (wordValue n)) := spells_whole n.toNat_lt
  have hstatus : s.expectedStatus.toNat < word64Bound :=
    Nat.lt_trans s.expectedStatus.toNat_lt (by decide)
  obtain ⟨name, value⟩ := m
  obtain ⟨-, rfl⟩ | ⟨-, rfl⟩ | ⟨-, rate, -, rfl⟩ | ⟨-, rfl⟩ | ⟨-, rfl⟩ | ⟨-, rfl⟩ | ⟨-, rfl⟩ |
    ⟨-, rfl⟩ := mem_members_iff.1 hm
  · exact hword s.connections
  · exact hword s.requests
  · exact hword rate
  · exact spells_whole hstatus
  · exact spells_string s.locale
  · exact hword s.timeout
  · exact hword s.maxIdle
  · exact spells_bool s.verbose

/-- The compact text of an object with some of the parts, none of them twice, is an excerpt. -/
theorem exists_isExcerpt {s : Settings} {parts : List (String × Json)} (hparts : parts ⊆ s.members)
    (honce : (parts.map Prod.fst).Nodup) : ∃ members : List (String × Written),
      IsObject members (write (.object parts)) ∧ s.IsExcerpt members ∧
        members.map Prod.fst = parts.map Prod.fst := by
  obtain ⟨members, hobject, hall⟩ :=
    exists_isObject_write fun m hm => spells_of_mem_members (hparts hm)
  have hnames : members.map Prod.fst = parts.map Prod.fst := by
    rw [← List.forall₂_eq_eq_eq, List.forall₂_map_left_iff, List.forall₂_map_right_iff]
    exact hall.imp fun _ _ hm => hm.1
  refine ⟨members, hobject, ⟨fun name _ => ?_, fun m hm _ => ?_⟩, hnames⟩
  · rw [hnames]
    exact List.nodup_iff_count_le_one.1 honce name
  · obtain ⟨hlength, hget⟩ := List.forall₂_iff_get.1 hall
    obtain ⟨i, rfl⟩ := List.mem_iff_get.1 hm
    obtain ⟨hname, hvalue⟩ := hget i i.isLt (hlength ▸ i.isLt)
    exact ⟨_, hparts (hname ▸ List.get_mem parts _), hvalue⟩

/-- Settings are what all their parts say. -/
theorem keep_members (s : Settings) : s.keep (s.members.map Prod.fst) = s := by
  obtain ⟨_, _, _ | _, _, _, _, _, _⟩ := s <;> rfl

/-- No part is written twice. -/
theorem nodup_members (s : Settings) : (s.members.map Prod.fst).Nodup := by
  rw [members]
  cases s.rateLimit <;> simp

/-- Settings are read back from their JSON text, and so is what an excerpt keeps of them. -/
theorem parse?_excerpt (s : Settings) : parse? s.json = some s ∧
    ∀ (members : List (String × Written)) (text : String), IsObject members text.toList →
      s.IsExcerpt members → parse? text = some (s.keep (members.map Prod.fst)) := by
  refine ⟨?_, fun members text hobject hexcerpt => ?_⟩
  · obtain ⟨members, hobject, hexcerpt, hnames⟩ :=
      exists_isExcerpt (List.Subset.refl s.members) s.nodup_members
    have htext : s.json.toList = write (.object s.members) := String.toList_ofList
    rw [← htext] at hobject
    rw [parse?_of_isObject hobject, hexcerpt.ofParts?_eq, hnames, s.keep_members]
  · rw [parse?_of_isObject hobject, hexcerpt.ofParts?_eq]

/-- Two parts in another order, with blanks and a member that means nothing. -/
theorem parse?_excerpt_shuffled : ∃ members : List (String × Written),
    IsObject members "\x7b \"verbose\": true, \"new\":[],\"requests\":25\x7d\n".toList ∧
    IsExcerpt { connections := 3, requests := 25, rateLimit := some 7, verbose := true } members ∧
    parse? "\x7b \"verbose\": true, \"new\":[],\"requests\":25\x7d\n" =
      some { requests := 25, verbose := true } := by
  have hnone : IsBlanks [] := List.forall_mem_nil _
  have hblank : IsBlanks [' '] := List.forall_mem_singleton.2 rfl
  have hmember (name : String) (hplain : ∀ c ∈ name.toList, 0x20 ≤ c.toNat ∧ c ≠ '\"' ∧ c ≠ '\\')
      {u : List Char} (hu : IsBlanks u) {w : Written} {s : List Char} (hw : w.Spelled s) :
      MemberSpelled Written.Spelled (name.toList.map .char, w)
        ('\"' :: (name.toList ++ '\"' :: ([] ++ ':' :: (u ++ s)))) :=
    .mk (unitsSpelled_plain hplain) hnone hu hw
  have hcount : (Written.numeral ⟨false, [2, 5], none, none⟩).Spelled ['2', '5'] :=
    .numeral (.unsigned rfl (.mk (.more rfl (.one rfl)) (by decide) .absent .absent))
  have hlisted := Listed.more hblank (hmember "verbose" (by simp) hblank .trueWord) hnone
    (.more hblank (hmember "new" (by simp) hnone (.emptyArray hnone)) hnone
      (.one hnone (hmember "requests" (by simp) hnone hcount) hnone))
  have hobject : IsObject
      [("verbose", .bool true), ("new", .array []),
        ("requests", .numeral ⟨false, [2, 5], none, none⟩)]
      "\x7b \"verbose\": true, \"new\":[],\"requests\":25\x7d\n".toList :=
    .mk (.mk hnone (.object hlisted) (List.forall_mem_singleton.2 rfl : IsBlanks ['\n']))
      (.cons ⟨by decide +kernel, rfl⟩ (.cons ⟨by decide +kernel, rfl⟩
        (.cons ⟨by decide +kernel, rfl⟩ .nil)))
  have hexcerpt : IsExcerpt
      { connections := 3, requests := 25, rateLimit := some 7, verbose := true }
      [("verbose", .bool true), ("new", .array []),
        ("requests", .numeral ⟨false, [2, 5], none, none⟩)] := by
    refine ⟨by decide, fun m hm hpart => ?_⟩
    obtain rfl | rfl | rfl : _ ∨ _ ∨ _ := by simpa using hm
    · exact ⟨.bool true, by simp [members], rfl⟩
    · exact absurd hpart (by decide)
    · exact ⟨wordValue 25, by simp [members], rfl⟩
  exact ⟨_, hobject, hexcerpt, (parse?_excerpt _).2 _ _ hobject hexcerpt⟩

end Volley.Settings
