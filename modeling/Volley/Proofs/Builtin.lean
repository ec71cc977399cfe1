import Volley.Builtin
import Volley.Proofs.Calendar.Field
import Volley.Proofs.Calendar.Layout
import Volley.Proofs.Text.Integer
import Volley.Proofs.Text.White

/-!
# Which words are the layout

The functions for the time take their layout from the word behind their name, and an offset from the
last two of four words (`evaluate_eq`). A layout of a single word is so taken as it was given, with
an offset or without one. A layout of several words is not: only its first word counts, and the text
that this makes is never the right one (`formatTime_ne`), since it has no white space in it, or
begins with the name of a weekday.
-/

namespace Volley.Builtin

open Calendar
open Text (isWhite IsSpaced)

/-! ## White space in what is written -/

/-- A piece of a layout brings no white space with it. -/
theorem isWhite_of_mem_text {z : Zone} {t : Instant} {piece : LayoutPiece}
    (h : ∀ c ∈ piece.source, isWhite c = false) {c : Char} (hc : c ∈ piece.text z t) :
    isWhite c = false := by
  cases piece with
  | run letters =>
    rw [LayoutPiece.text] at hc
    split at hc
    next => exact Field.isWhite_of_mem_text hc
    next => exact h c hc
  | char c' => exact h c hc

/-- A format without white space brings none with it. -/
theorem isWhite_of_mem_formatText {z : Zone} {t : Instant} {format : Format}
    (h : ∀ c, .char c ∈ format → isWhite c = false) {c : Char} (hc : c ∈ Format.text z t format) :
    isWhite c = false := by
  obtain ⟨piece, hpiece, hmem⟩ := List.mem_flatMap.1 hc
  cases piece with
  | field f => exact Field.isWhite_of_mem_text hmem
  | char c' =>
    obtain rfl := List.mem_singleton.1 hmem
    exact h c hpiece

/-- Date and time of day bring no white space with them, with milliseconds or without. -/
theorem isWhite_of_mem_dateAndTime {z : Zone} {t : Instant} {c : Char}
    (hc : c ∈ Format.text z t (dateAndTime ++ [.char '.', .field .milli])) : isWhite c = false := by
  refine isWhite_of_mem_formatText (fun c hmem => ?_) hc
  have hmark : c ∈ ['-', '-', 'T', ':', ':', '.'] := by simpa [dateAndTime] using hmem
  have hmarks : ['-', '-', 'T', ':', ':', '.'].all (fun c => !isWhite c) = true := by decide
  simpa using List.all_eq_true.1 hmarks c hmark

/-- A character of a layout that is no token letter is a piece of its own. -/
theorem char_mem_layoutPieces {layout : List Char} {c : Char} (hc : c ∈ layout)
    (hletter : isTokenLetter c = false) : .char c ∈ layoutPieces layout := by
  have hcut := isCut_layoutPieces layout
  rw [← hcut.join] at hc
  obtain ⟨piece, hpiece, hmem⟩ := List.mem_flatMap.1 hc
  cases piece with
  | run letters =>
    have htoken := (hcut.proper _ hpiece).2 c hmem
    exact absurd (htoken.symm.trans hletter) (by decide)
  | char c' =>
    obtain rfl := List.mem_singleton.1 hmem
    exact hpiece

section Layouts

variable {z : Zone} {t : Instant} {layout : String}

/-- A layout without a name is written as the texts of its pieces. -/
theorem toList_formatTime (h : layout ∉ namedLayouts) :
    (formatTime z t layout).toList =
      (layoutPieces layout.toList).flatMap (LayoutPiece.text z t) := by
  rw [formatTime_eq z t h, pattern?_layoutPattern, Option.getD_some, String.toList_ofList]

/-- A space in a layout without a name is written as it is. -/
theorem space_mem_formatTime (hname : layout ∉ namedLayouts) (h : ' ' ∈ layout.toList) :
    ' ' ∈ (formatTime z t layout).toList := by
  rw [toList_formatTime hname]
  exact List.mem_flatMap.2 ⟨.char ' ', char_mem_layoutPieces h rfl, List.mem_singleton.2 rfl⟩

/-- Of the layouts without white space only one writes some. -/
theorem isWhite_of_mem_formatTime (h : ∀ c ∈ layout.toList, isWhite c = false)
    (hne : layout ≠ "rfc1123") {c : Char} (hc : c ∈ (formatTime z t layout).toList) :
    isWhite c = false := by
  have hzone {c : Char} (hc : c ∈ zoneText [':'] z) : isWhite c = false :=
    Field.isWhite_of_mem_text (show c ∈ Field.zoneColon.text z t from hc)
  by_cases hname : layout ∈ namedLayouts
  · simp only [namedLayouts, List.mem_cons, List.not_mem_nil, or_false, hne, false_or] at hname
    rcases hname with rfl | rfl
    · rw [formatTime, String.toList_ofList] at hc
      rcases List.mem_append.1 hc with hc | hc
      · refine isWhite_of_mem_dateAndTime (z := z) (t := t) ?_
        rw [Format.text, List.flatMap_append]
        exact List.mem_append_left _ hc
      · split at hc
        · obtain rfl := List.mem_singleton.1 hc
          rfl
        · exact hzone hc
    · rw [formatTime, String.toList_ofList] at hc
      rcases List.mem_append.1 hc with hc | hc
      · exact isWhite_of_mem_dateAndTime hc
      · exact hzone hc
  · rw [toList_formatTime hname] at hc
    obtain ⟨piece, hpiece, hmem⟩ := List.mem_flatMap.1 hc
    refine isWhite_of_mem_text (fun c hc => h c ?_) hmem
    rw [← (isCut_layoutPieces layout.toList).join]
    exact List.mem_flatMap.2 ⟨piece, hpiece, hc⟩

/-- The layout with white space begins with the name of a weekday. -/
theorem head?_formatTime (z : Zone) (t : Instant) :
    (formatTime z t "rfc1123").toList.head? ≠ some 'r' := by
  have hnames : ∀ name ∈ weekdayNames,
      ((name.toList.take 3).head?.any fun c => c != 'r') = true := by decide
  have hweekday : (t.date 0).weekday < weekdayNames.length := by
    have hlt : (((t.date 0).dayNumber + 4) % 7).toNat < 7 := by omega
    exact hlt
  obtain ⟨c, hc, hne⟩ := (Option.any_eq_true ..).1 (hnames _ (List.getElem_mem hweekday))
  have hfield : (Field.weekdayAbbreviation.text 0 t).head? = some c := by
    rw [Field.text, ← List.getElem_eq_getD (h := hweekday) ""]
    exact hc
  have htext : (formatTime z t "rfc1123").toList.head? = some c := by
    rw [formatTime, String.toList_ofList, Format.text, longDateAndTime, List.flatMap_cons,
      List.append_assoc, List.head?_append, hfield]
    rfl
  rw [htext]
  rintro ⟨⟩
  cases hne

/-- Text by a layout of several words is never text by the first of them. -/
theorem formatTime_ne {first : List Char} {rest : List (List Char)}
    (h : IsSpaced layout.toList (first :: rest)) (hrest : rest ≠ []) (z' : Zone) (t' : Instant) :
    formatTime z' t' (String.ofList first) ≠ formatTime z t layout := by
  obtain ⟨next, later, rfl⟩ := List.exists_cons_of_ne_nil hrest
  have hlayout := h.eq
  rw [List.intercalate_cons_cons, List.append_assoc, List.singleton_append] at hlayout
  have hspace : ' ' ∈ layout.toList := by
    rw [hlayout]
    exact List.mem_append_right _ List.mem_cons_self
  have hname : layout ∉ namedLayouts := by
    have hnames : ∀ name ∈ namedLayouts, ' ' ∉ name.toList := by decide
    exact fun hmem => hnames _ hmem hspace
  have hfirst := (h.isWord first List.mem_cons_self).2
  by_cases hweekday : String.ofList first = "rfc1123"
  · -- The one begins with the name of a weekday, the other as the layout does.
    intro heq
    refine head?_formatTime z' t' ?_
    obtain rfl : first = "rfc1123".toList := by rw [← hweekday, String.toList_ofList]
    rw [← hweekday, heq, toList_formatTime hname, hlayout]
    rfl
  · intro heq
    have hmem : ' ' ∈ (formatTime z' t' (String.ofList first)).toList :=
      heq ▸ space_mem_formatTime hname hspace
    have hwhite := isWhite_of_mem_formatTime (by rwa [String.toList_ofList]) hweekday hmem
    exact absurd hwhite (by decide)

/-- Text by the first word of a layout is text by the layout exactly if there is no other word. -/
theorem localTime_first_iff {first : List Char} {rest : List (List Char)}
    (h : IsSpaced layout.toList (first :: rest)) (zone : TimeZone) {t' : Instant}
    (htime : rest = [] → t' = t) :
    localTime zone t' (String.ofList first) = localTime zone t layout ↔
      (first :: rest).length = 1 := by
  have hlength : (first :: rest).length = 1 ↔ rest = [] := by simp
  rw [hlength]
  constructor
  · intro heq
    by_contra hrest
    exact formatTime_ne h hrest _ _ heq
  · rintro rfl
    have heq := h.eq
    rw [List.intercalate_singleton] at heq
    rw [← heq, String.ofList_toList, htime rfl]

end Layouts

/-! ## Words of a key -/

/-- The functions for the time, each with the zones that it gives the time in. -/
def clocks (w : World) : List (String × TimeZone) :=
  [("$datetime", 0), ("$localDatetime", w.zone)]

/-- The time, moved if the words behind the layout are a count and a unit. -/
def movedTime (w : World) (zone : TimeZone) : List (List Char) → Instant
  | [count, unit] => w.now.applyOffset zone count unit
  | _ => w.now

/-- The last two of four words are the offset. -/
theorem datetime_eq (w : World) (zone : TimeZone) (name part : List Char)
    (parts : List (List Char)) :
    datetime w zone (name :: part :: parts) =
      localTime zone (movedTime w zone parts) (String.ofList part) := by
  have htime : offsetTime w zone (name :: part :: parts) 4 = movedTime w zone parts := by
    unfold offsetTime
    match parts with
    | [] => rfl
    | [_] => rfl
    | [_, _] => rfl
    | _ :: _ :: _ :: rest =>
      rw [if_neg]
      · rfl
      · simp only [List.length_cons]
        omega
  have hlayout : datetime w zone (name :: part :: parts) =
      localTime zone (offsetTime w zone (name :: part :: parts) 4) (String.ofList part) := rfl
  rw [hlayout, htime]

section Keys

variable {w : World} {clock : String × TimeZone} (hclock : clock ∈ clocks w)
include hclock

/-- The name of such a function is a word. -/
theorem isWord_clock : clock.1.toList ≠ [] ∧ ∀ c ∈ clock.1.toList, isWhite c = false := by
  have hclocks : ∀ clock ∈ clocks w,
      clock.1.toList ≠ [] ∧ clock.1.toList.all (fun c => !isWhite c) = true := by
    simp only [clocks, List.forall_mem_cons, List.not_mem_nil]
    exact ⟨by decide, by decide, fun _ h => h.elim⟩
  obtain ⟨hne, hall⟩ := hclocks clock hclock
  exact ⟨hne, fun c hc => by simpa using List.all_eq_true.1 hall c hc⟩

/-- The functions for the time do not differ but in their zones. -/
theorem evaluate_of_words {text : String} {arguments : List (List Char)}
    (h : Text.words text.toList = clock.1.toList :: arguments) :
    evaluate w text = some (datetime w clock.2 (clock.1.toList :: arguments)) := by
  rw [evaluate, h]
  dsimp only
  rw [String.ofList_toList]
  simp only [clocks, List.mem_cons, List.not_mem_nil, or_false] at hclock
  rcases hclock with rfl | rfl <;> simp only

/-- The layout is the word behind the name, and the words behind it are the offset if there are two.
-/
theorem evaluate_eq {text : String} {part : List Char} {parts : List (List Char)}
    (h : IsSpaced text.toList (part :: parts)) :
    evaluate w (clock.1 ++ " " ++ text) =
      some (localTime clock.2 (movedTime w clock.2 parts) (String.ofList part)) := by
  obtain ⟨hne, hword⟩ := isWord_clock hclock
  have htext : (clock.1 ++ " " ++ text).toList = clock.1.toList ++ ' ' :: text.toList := by
    rw [String.toList_append, String.toList_append, List.append_assoc]
    rfl
  have hwords : Text.words (clock.1 ++ " " ++ text).toList = clock.1.toList :: part :: parts :=
    htext ▸ (h.cons hne hword).words_eq
  rw [evaluate_of_words hclock hwords, datetime_eq]

end Keys

/-! ## Layouts and offsets -/

/-- The name of a unit. -/
def unitName : TimeUnit → String
  | .year => "y"
  | .month => "M"
  | .day => "d"
  | .hour => "h"
  | .minute => "m"
  | .second => "s"
  | .millisecond => "ms"

/-- A unit is known by its name. -/
theorem ofName?_unitName (unit : TimeUnit) : TimeUnit.ofName? (unitName unit).toList = some unit := by
  cases unit <;> rfl

/-- An offset behind a layout is two more words. -/
theorem isSpaced_offset {layout : String} {parts : List (List Char)}
    (h : IsSpaced layout.toList parts) (n : Int) (unit : TimeUnit) :
    IsSpaced (layout ++ " " ++ toString n ++ " " ++ unitName unit).toList
      (parts ++ [(toString n).toList] ++ [(unitName unit).toList]) := by
  have hcount : (toString n).toList ≠ [] ∧ ∀ c ∈ (toString n).toList, isWhite c = false := by
    constructor
    · rw [Text.toList_toString]
      exact List.append_ne_nil_of_right_ne_nil _ Nat.toDigits_ne_nil
    · intro c hc
      rcases Text.eq_or_isDigit_of_mem_toString hc with rfl | hdigit
      · rfl
      · exact Text.isWhite_of_isDigit hdigit
  have hunit : (unitName unit).toList ≠ [] ∧
      (unitName unit).toList.all (fun c => !isWhite c) = true := by
    cases unit <;> decide
  have htext : (layout ++ " " ++ toString n ++ " " ++ unitName unit).toList =
      layout.toList ++ ' ' :: (toString n).toList ++ ' ' :: (unitName unit).toList := by
    simp only [String.toList_append, List.append_assoc]
    rfl
  rw [htext]
  exact (h.concat hcount.1 hcount.2).concat hunit.1 fun c hc => by
    simpa using List.all_eq_true.1 hunit.2 c hc

section Offsets

variable {w : World} {clock : String × TimeZone} (hclock : clock ∈ clocks w)
include hclock

/-- An offset behind a layout joins the words that the layout is taken from. -/
theorem evaluate_offset {layout : String} {part : List Char} {rest : List (List Char)}
    (h : IsSpaced layout.toList (part :: rest)) (n : Int) (unit : TimeUnit) :
    evaluate w (clock.1 ++ " " ++ layout ++ " " ++ toString n ++ " " ++ unitName unit) =
      some (localTime clock.2 (movedTime w clock.2
        (rest ++ [(toString n).toList] ++ [(unitName unit).toList])) (String.ofList part)) := by
  have hspaced := isSpaced_offset h n unit
  rw [List.cons_append, List.cons_append] at hspaced
  rw [← evaluate_eq hclock hspaced]
  simp only [String.append_assoc]

end Offsets

/-- More words than two are no offset. -/
theorem movedTime_append (w : World) (zone : TimeZone) {rest : List (List Char)} (hrest : rest ≠ [])
    (count unit : List Char) : movedTime w zone (rest ++ [count] ++ [unit]) = w.now := by
  obtain ⟨next, later, rfl⟩ := List.exists_cons_of_ne_nil hrest
  cases later with
  | nil => rfl
  | cons last others => cases others <;> rfl

/-- What a function for the time makes of a layout of words with single spaces between them. -/
structure ReadsLayout (w : World) (clock : String × TimeZone) (layout : String)
    (parts : List (List Char)) : Prop where
  /-- The time is written by the layout exactly if that is a single word. -/
  plain_iff : evaluate w (clock.1 ++ " " ++ layout) = some (localTime clock.2 w.now layout) ↔
    parts.length = 1
  /-- With an offset behind the layout, the moved time is written by it under the same condition. -/
  offset_iff : ∀ (n : Int) (unit : TimeUnit),
    evaluate w (clock.1 ++ " " ++ layout ++ " " ++ toString n ++ " " ++ unitName unit) =
        some (localTime clock.2
          (w.now.applyOffset clock.2 (toString n).toList (unitName unit).toList) layout) ↔
      parts.length = 1
  /-- The first word is what the time is written by, and two more words are taken for an offset. -/
  first : ∀ part rest, parts = part :: rest → evaluate w (clock.1 ++ " " ++ layout) =
    some (localTime clock.2 (movedTime w clock.2 rest) (String.ofList part))
  /-- With more words than one before it, an offset does not count. -/
  unmoved : ∀ part rest (n : Int) (unit : TimeUnit), parts = part :: rest → rest ≠ [] →
    evaluate w (clock.1 ++ " " ++ layout ++ " " ++ toString n ++ " " ++ unitName unit) =
      some (localTime clock.2 w.now (String.ofList part))

/-- The functions for the time honour the layouts of a single word, with an offset and without one.
Of all other layouts they honour none, in no zone and at no time, but take the first word for the
layout. -/
theorem readsLayout (w : World) {clock : String × TimeZone} (hclock : clock ∈ clocks w)
    {layout : String} {parts : List (List Char)} (h : IsSpaced layout.toList parts) :
    ReadsLayout w clock layout parts := by
  obtain ⟨part, rest, rfl⟩ := List.exists_cons_of_ne_nil h.ne_nil
  have hplain := evaluate_eq hclock h
  constructor
  case plain_iff =>
    have htime (hrest : rest = []) : movedTime w clock.2 rest = w.now := by
      rw [hrest]
      rfl
    rw [hplain, Option.some_inj, localTime_first_iff h clock.2 htime]
  case offset_iff =>
    intro n unit
    have htime (hrest : rest = []) :
        movedTime w clock.2 (rest ++ [(toString n).toList] ++ [(unitName unit).toList]) =
          w.now.applyOffset clock.2 (toString n).toList (unitName unit).toList := by
      rw [hrest]
      rfl
    rw [evaluate_offset hclock h, Option.some_inj, localTime_first_iff h clock.2 htime]
  case first =>
    rintro _ _ ⟨rfl, rfl⟩
    exact hplain
  case unmoved =>
    rintro _ _ n unit ⟨rfl, rfl⟩ hrest
    rw [evaluate_offset hclock h, movedTime_append w clock.2 hrest]

/-- The world at the beginning of 1970, eight hours to the east. -/
def firstDay : World :=
  ⟨⟨0, 0⟩, 28800, fun _ => 0, fun _ => none⟩

/-- Date and time of day are a layout of two words. -/
theorem isSpaced_dateAndTime :
    IsSpaced "YYYY-MM-DD HH:mm:ss.SSS".toList
      ["YYYY-MM-DD".toList, "HH:mm:ss.SSS".toList] := by
  have hwords : ["YYYY-MM-DD".toList, "HH:mm:ss.SSS".toList].all
      (fun word => !word.isEmpty && word.all fun c => !isWhite c) = true := by decide
  refine ⟨by decide, fun word hmem => ?_, by decide⟩
  have hword := List.all_eq_true.1 hwords word hmem
  simpa using hword

/-- A date is written as it was asked for, but the time of day behind it is not. -/
theorem readsLayout_firstDay :
    ("$localDatetime", firstDay.zone) ∈ clocks firstDay ∧
    IsSpaced "YYYY-MM-DD HH:mm:ss.SSS".toList ["YYYY-MM-DD".toList, "HH:mm:ss.SSS".toList] ∧
    ReadsLayout firstDay ("$localDatetime", firstDay.zone) "YYYY-MM-DD HH:mm:ss.SSS"
      ["YYYY-MM-DD".toList, "HH:mm:ss.SSS".toList] := by
  have hclock : ("$localDatetime", firstDay.zone) ∈ clocks firstDay :=
    List.mem_cons_of_mem _ List.mem_cons_self
  exact ⟨hclock, isSpaced_dateAndTime, readsLayout firstDay hclock isSpaced_dateAndTime⟩

/-- Not every layout is honoured: the one for date and time of day is not. -/
theorem not_forall_honoured :
    ¬ ∀ (w : World) (clock : String × TimeZone), clock ∈ clocks w →
      ∀ (layout : String) (parts : List (List Char)), IsSpaced layout.toList parts →
        evaluate w (clock.1 ++ " " ++ layout) = some (localTime clock.2 w.now layout) := by
  intro h
  have hhonoured := h firstDay ("$datetime", 0) List.mem_cons_self _ _ isSpaced_dateAndTime
  have hread : evaluate firstDay ("$datetime" ++ " " ++ "YYYY-MM-DD HH:mm:ss.SSS") =
      some "1970-01-01" := by
    have hclock : ("$datetime", 0) ∈ clocks firstDay := List.mem_cons_self
    rw [evaluate_eq hclock isSpaced_dateAndTime]
    decide +kernel
  rw [hread] at hhonoured
  exact absurd hhonoured (by decide +kernel)

end Volley.Builtin
