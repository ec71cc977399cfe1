import Mathlib.Tactic.MkIffOfInductiveProp
import Volley.JsonPath.Parser

/-!
# Written paths

How the steps of a path may be spelled. A name stands after a dot or in quotes between brackets, a
position between brackets, and a star in either place; a descent has two dots in front. The
spellings of the steps follow one another with nothing between them, after a dollar sign. `Written`
is the text of a path with what may be around it: white space, and a pair of braces.

A step may be spelled in several ways, so these are relations. `Step.IsWritable` says which steps
have a spelling at all.
-/

namespace Volley.JsonPath

/-- A name that can stand after a dot: it is not taken for a star, does not end too early, and loses
nothing when the path is trimmed. -/
@[mk_iff] structure IsPlainName (name : List Char) : Prop where
  /-- It is not empty. -/
  ne_nil : name ≠ []
  /-- It has no dot and no opening bracket. -/
  endsName : ∀ c ∈ name, endsName c = false
  /-- It does not begin with a star. -/
  star : name.head? ≠ some '*'
  /-- It does not end in white space. -/
  last : ∀ c ∈ name.getLast?, Text.isWhite c = false

instance (name : List Char) : Decidable (IsPlainName name) :=
  decidable_of_iff
    (name ≠ [] ∧ name.all (!endsName ·) = true ∧ name.head? ≠ some '*' ∧
      name.getLast?.all (!Text.isWhite ·) = true)
    (by simp [isPlainName_iff, Option.all_eq_true])

/-- What may stand for a selector after a dot. -/
inductive Selector.AfterDot : Selector → List Char → Prop
  | name {name : String} : IsPlainName name.toList → AfterDot (.name name) name.toList
  | wildcard : AfterDot .wildcard ['*']

/-- The characters that a name may be quoted with. -/
def quotes : List Char :=
  ['\'', '\"']

/-- What may stand for a selector between brackets. -/
inductive Selector.InBrackets : Selector → List Char → Prop
  | name {name : String} {quote : Char} : quote ∈ quotes → quote ∉ name.toList →
    InBrackets (.name name) (quote :: (name.toList ++ [quote]))
  | index {position : Int} : Text.inInt64 position →
    InBrackets (.index position) (toString position).toList
  | wildcard : InBrackets .wildcard ['*']

/-- The spellings of a step. -/
inductive Step.Spelled : Step → List Char → Prop
  | childDot {selector : Selector} {s : List Char} : selector.AfterDot s →
    Spelled (.child selector) ('.' :: s)
  | childBrackets {selector : Selector} {s : List Char} : selector.InBrackets s →
    Spelled (.child selector) ('[' :: (s ++ [']']))
  | descendantDots {selector : Selector} {s : List Char} : selector.AfterDot s →
    Spelled (.descendant selector) ('.' :: '.' :: s)
  | descendantBrackets {selector : Selector} {s : List Char} : selector.InBrackets s →
    Spelled (.descendant selector) ('.' :: '.' :: '[' :: (s ++ [']']))

/-- The spellings of steps: those of each, one after another. -/
inductive Spelled : List Step → List Char → Prop
  | nil : Spelled [] []
  | cons {step : Step} {steps : List Step} {s t : List Char} : step.Spelled s → Spelled steps t →
    Spelled (step :: steps) (s ++ t)

/-- The texts of a path. -/
inductive Written (steps : List Step) : List Char → Prop
  | bare {s text : List Char} : Spelled steps s → Text.Padded ('$' :: s) text →
    Written steps text
  | wrapped {s inner text : List Char} : Spelled steps s → Text.Padded ('$' :: s) inner →
    Text.Padded ('\x7b' :: (inner ++ ['\x7d'])) text → Written steps text

/-- A selector that can be spelled. A name has at least one quote to stand between, and a position is
in the range in which positions are read. -/
def Selector.IsWritable : Selector → Prop
  | .name key => ∃ quote ∈ quotes, quote ∉ key.toList
  | .index position => Text.inInt64 position = true
  | .wildcard => True

instance : DecidablePred Selector.IsWritable
  | .name key =>
    decidable_of_iff (quotes.any (!key.toList.contains ·) = true)
      (by simp [Selector.IsWritable])
  | .index position => inferInstanceAs (Decidable (Text.inInt64 position = true))
  | .wildcard => isTrue trivial

/-- A step that can be spelled. -/
def Step.IsWritable : Step → Prop
  | .child selector | .descendant selector => selector.IsWritable

instance : DecidablePred Step.IsWritable
  | .child selector | .descendant selector => inferInstanceAs (Decidable selector.IsWritable)

end Volley.JsonPath
