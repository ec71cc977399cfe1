import Volley.Dictionary
import Volley.Mock.Identity
import Volley.Mock.Shape
import Volley.Text.Quoted

/-!
# Replacing the values of variables

A registry replaces the value of a variable by a made-up one. The name of the variable decides
first: a few are never touched, and the semantic ones are answered by the generator of the chosen
locale. After that the shape of the value decides; what has no known shape stays.
-/

namespace Volley.Mock

/-- The locale whose generator answers when the chosen one has none. -/
def defaultLocale : String := "cn"

/-- What made-up values are taken from. -/
structure Registry where
  /-- The generators, by locale. -/
  mockers : Dictionary Mocker
  /-- The chosen locale. -/
  locale : String
  /-- The patterns, in the order in which they are tried. -/
  patterns : List Pattern

/-- The kinds of personal data that a name asks for. -/
inductive Semantic where
  /-- The number of an identity card. -/
  | idCard
  /-- A mail address. -/
  | email
  /-- A person's name. -/
  | name
  /-- A mobile number. -/
  | mobile
  deriving DecidableEq, Repr

/-- A name with its ASCII letters in lower case. No other character becomes a letter of the words
that it is compared with. -/
def lower (name : String) : String :=
  String.ofList (name.toList.map Char.toLower)

/-- Whether a variable is never replaced, by its name. -/
def isKept (name : String) : Bool :=
  lower name = "host" || lower name = "port" || lower name = "server"

/-- The kind of personal data that a name asks for. -/
def semantic? (name : String) : Option Semantic :=
  match lower name with
  | "idcard" => some .idCard
  | "email" => some .email
  | "name" => some .name
  | "mobile" => some .mobile
  | _ => none

/-- An item of personal data. -/
def Mocker.make (m : Mocker) (chance : Nat → Nat) : Semantic → String
  | .idCard => m.idCard chance
  | .email => m.email chance
  | .name => m.name chance
  | .mobile => m.mobile chance

namespace Registry

/-- The registry that replaces nothing. -/
def empty : Registry :=
  ⟨.empty, defaultLocale, []⟩

instance : Inhabited Registry := ⟨empty⟩

/-- Adds the generator of a locale, in place of the one it had. -/
def register (r : Registry) (locale : String) (mocker : Mocker) : Registry :=
  { r with mockers := r.mockers.insert locale mocker }

/-- The registry with the generator of the default locale and the patterns for dates and times. -/
def builtin : Registry :=
  { empty.register defaultLocale Mocker.cn with patterns := builtinPatterns }

/-- Chooses a locale, whether it has a generator or not. -/
def withLocale (r : Registry) (locale : String) : Registry :=
  { r with locale := locale }

/-- Adds a pattern, to be tried after those that are there. -/
def addPattern (r : Registry) (pattern : Pattern) : Registry :=
  { r with patterns := r.patterns ++ [pattern] }

/-- The generator of the chosen locale, or that of the default one. -/
def mocker? (r : Registry) : Option Mocker :=
  (r.mockers.get? r.locale).or (r.mockers.get? defaultLocale)

/-- The value by the first pattern that recognises the given one; that value itself if there is none.
-/
def shaped (r : Registry) (w : World) (given : String) : String :=
  match r.patterns.find? fun p => p.recognizes given with
  | some pattern => pattern.make w
  | none => given

/-- The value that a variable gets in place of the one that it has. -/
def value (r : Registry) (w : World) (name given : String) : String :=
  if isKept name then given
  else
    match r.mocker?, semantic? name with
    | some mocker, some kind => mocker.make w.chance kind
    | _, _ => r.shaped w given

/-- One line that says what a registry holds. -/
def describe (r : Registry) : String :=
  let locales := r.mockers.entries.map fun entry => Text.quoted entry.1
  let patterns := r.patterns.map fun p =>
    "PatternMock \x7b pattern: " ++ Text.quoted p.source ++ ", .. \x7d"
  "MockRegistry \x7b locale: " ++ Text.quoted r.locale ++ ", mockers: [" ++
    ", ".intercalate locales ++ "], patterns: [" ++ ", ".intercalate patterns ++ "] \x7d"

end Registry

end Volley.Mock
