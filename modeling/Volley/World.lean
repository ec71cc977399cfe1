import Volley.Calendar.Layout

/-!
# The world outside

What the built-in functions ask of the world: the time, the zones of the place, the lines of files,
and chance. All of it is data here, so that what a request says is a function of the file and of the
world.
-/

namespace Volley

/-- The state of the world at the moment when a value is asked for. -/
structure World where
  /-- The time. -/
  now : Calendar.Instant
  /-- The zones of the place. -/
  zone : Calendar.TimeZone
  /-- A supply of numbers drawn at random; a choice takes the remainder of one by its bound. -/
  chance : Nat → Nat
  /-- The lines of a file, if it can be read. -/
  linesOf : String → Option (List String)

/-- A choice from a list, none from an empty one. -/
def choose? {α : Type} (chance : Nat) (choices : List α) : Option α :=
  choices[chance % choices.length]?

end Volley
