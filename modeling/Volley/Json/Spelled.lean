import Mathlib.Data.List.Forall2
import Volley.Json.Value

/-!
# JSON text

The grammar of JSON text, as relations between trees and the texts that spell them. A tree may be
spelled in several ways: blanks may stand around every token, a character of a string may be named
by an escape, and an exponent has its mark in either case. The reader takes no part in this. That it
reads every text of the grammar as the tree that the text spells is proved of it.
-/

namespace Volley.Json

/-- Blanks, or nothing. -/
def IsBlanks (s : List Char) : Prop :=
  ∀ c ∈ s, isBlank c = true

/-! ## Numbers -/

/-- One digit or more. -/
inductive DigitsSpelled : List Nat → List Char → Prop
  | one {d : Nat} {c : Char} : Text.asciiDigit? c = some d → DigitsSpelled [d] [c]
  | more {d : Nat} {c : Char} {ds : List Nat} {s : List Char} : Text.asciiDigit? c = some d →
    DigitsSpelled ds s → DigitsSpelled (d :: ds) (c :: s)

/-- A fraction: nothing, or the point and digits. -/
inductive FractionSpelled : Option (List Nat) → List Char → Prop
  | absent : FractionSpelled none []
  | present {ds : List Nat} {s : List Char} : DigitsSpelled ds s →
    FractionSpelled (some ds) ('.' :: s)

/-- The marks of an exponent. -/
def exponentMarks : List Char :=
  ['e', 'E']

/-- An exponent: nothing, or the mark, a sign that may be left out if it is no minus, and digits. -/
inductive ExponentSpelled : Option (Bool × List Nat) → List Char → Prop
  | absent : ExponentSpelled none []
  | unsigned {mark : Char} {ds : List Nat} {s : List Char} : mark ∈ exponentMarks →
    DigitsSpelled ds s → ExponentSpelled (some (false, ds)) (mark :: s)
  | plus {mark : Char} {ds : List Nat} {s : List Char} : mark ∈ exponentMarks →
    DigitsSpelled ds s → ExponentSpelled (some (false, ds)) (mark :: '+' :: s)
  | minus {mark : Char} {ds : List Nat} {s : List Char} : mark ∈ exponentMarks →
    DigitsSpelled ds s → ExponentSpelled (some (true, ds)) (mark :: '-' :: s)

/-- A number without its sign. A zero before the point stands alone. -/
inductive Numeral.UnsignedSpelled : Numeral → List Char → Prop
  | mk {negative : Bool} {whole : List Nat} {fraction : Option (List Nat)}
    {exponent : Option (Bool × List Nat)} {s t u : List Char} : DigitsSpelled whole s →
    (whole.head? = some 0 → whole = [0]) → FractionSpelled fraction t → ExponentSpelled exponent u →
    UnsignedSpelled ⟨negative, whole, fraction, exponent⟩ (s ++ (t ++ u))

/-- A number. -/
inductive Numeral.Spelled : Numeral → List Char → Prop
  | unsigned {n : Numeral} {s : List Char} : n.negative = false → n.UnsignedSpelled s → Spelled n s
  | minus {n : Numeral} {s : List Char} : n.negative = true → n.UnsignedSpelled s →
    Spelled n ('-' :: s)

/-! ## Strings -/

/-- A unit of a string: a character that needs no escape, a short escape, or a code of four
hexadecimal digits. -/
inductive StringUnit.Spelled : StringUnit → List Char → Prop
  | plain {c : Char} : 0x20 ≤ c.toNat → c ≠ '\"' → c ≠ '\\' → Spelled (.char c) [c]
  | short {e c : Char} : shortEscape? e = some c → Spelled (.char c) ['\\', e]
  | code {a b c d : Char} {i j k l : Nat} : hexDigit? a = some i → hexDigit? b = some j →
    hexDigit? c = some k → hexDigit? d = some l →
    Spelled (.code (((i * 16 + j) * 16 + k) * 16 + l)) ['\\', 'u', a, b, c, d]

/-- The units of a string, one after another. -/
inductive UnitsSpelled : List StringUnit → List Char → Prop
  | nil : UnitsSpelled [] []
  | cons {unit : StringUnit} {units : List StringUnit} {s t : List Char} : unit.Spelled s →
    UnitsSpelled units t → UnitsSpelled (unit :: units) (s ++ t)

/-! ## Values -/

section

variable {α : Type} (Spells : α → List Char → Prop)

/-- One item or more, with commas between them and blanks around each. -/
inductive Listed : List α → List Char → Prop
  | one {x : α} {u s v : List Char} : IsBlanks u → Spells x s → IsBlanks v →
    Listed [x] (u ++ (s ++ v))
  | more {x : α} {xs : List α} {u s v t : List Char} : IsBlanks u → Spells x s → IsBlanks v →
    Listed xs t → Listed (x :: xs) (u ++ (s ++ (v ++ ',' :: t)))

/-- A member of an object: its name in quotes, a colon with blanks around it, and the value. -/
inductive MemberSpelled : List StringUnit × α → List Char → Prop
  | mk {units : List StringUnit} {x : α} {name u v s : List Char} : UnitsSpelled units name →
    IsBlanks u → IsBlanks v → Spells x s →
    MemberSpelled (units, x) ('\"' :: (name ++ '\"' :: (u ++ ':' :: (v ++ s))))

end

/-- The spellings of a tree, without blanks around them. -/
inductive Written.Spelled : Written → List Char → Prop
  | nullWord : Spelled .null ['n', 'u', 'l', 'l']
  | trueWord : Spelled (.bool true) ['t', 'r', 'u', 'e']
  | falseWord : Spelled (.bool false) ['f', 'a', 'l', 's', 'e']
  | numeral {n : Numeral} {s : List Char} : n.Spelled s → Spelled (.numeral n) s
  | string {units : List StringUnit} {s : List Char} : UnitsSpelled units s →
    Spelled (.string units) ('\"' :: (s ++ ['\"']))
  | emptyArray {u : List Char} : IsBlanks u → Spelled (.array []) ('[' :: (u ++ [']']))
  | array {items : List Written} {s : List Char} : Listed Spelled items s →
    Spelled (.array items) ('[' :: (s ++ [']']))
  | emptyObject {u : List Char} : IsBlanks u → Spelled (.object []) ('\x7b' :: (u ++ ['\x7d']))
  | object {members : List (List StringUnit × Written)} {s : List Char} :
    Listed (MemberSpelled Spelled) members s → Spelled (.object members) ('\x7b' :: (s ++ ['\x7d']))

/-- A text of a tree: a spelling with blanks around it. -/
inductive Written.IsText (w : Written) : List Char → Prop
  | mk {u s v : List Char} : IsBlanks u → w.Spelled s → IsBlanks v → IsText w (u ++ (s ++ v))

/-- A text of an object with the given members: their names, and what is written as their values. -/
inductive IsObject (members : List (String × Written)) : List Char → Prop
  | mk {spelled : List (List StringUnit × Written)} {s : List Char} :
    (Written.object spelled).IsText s →
    List.Forall₂ (fun m m' => unitsText? m.1 = some m'.1 ∧ m.2 = m'.2) spelled members →
    IsObject members s

end Volley.Json
