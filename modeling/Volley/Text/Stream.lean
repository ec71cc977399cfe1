import Volley.Text.Cut

/-!
# Lines of streams

A stream hands out its bytes in chunks, and where it cuts them has nothing to do with the lines: a
chunk may end within a line, within the end of a line or within a character. A line is read chunk
by chunk, up to the first line feed. What comes after that in its chunk is the first chunk from
then on.
-/

namespace Volley.Text

/-- The bytes of a stream up to its first line feed and with it, or all of them if it has none; and
the chunks that are left. -/
def readLine : List (List UInt8) → List UInt8 × List (List UInt8)
  | [] => ([], [])
  | chunk :: later =>
    match chunk.dropWhile (· != 10) with
    | [] => (chunk ++ (readLine later).1, (readLine later).2)
    | _ :: rest => (chunk.takeWhile (· != 10) ++ [10], rest :: later)

/-- Reading a line loses nothing. -/
theorem readLine_append_flatten (chunks : List (List UInt8)) :
    (readLine chunks).1 ++ (readLine chunks).2.flatten = chunks.flatten := by
  induction chunks with
  | nil => rfl
  | cons chunk later ih =>
    have hchunk := List.takeWhile_append_dropWhile (p := (· != 10)) (l := chunk)
    rw [readLine]
    split
    · simp [ih]
    · rename_i b rest hdrop
      have hb : b = 10 := by
        have hhead := List.head?_dropWhile_not (· != 10) chunk
        rw [hdrop] at hhead
        simpa using hhead
      rw [hdrop, hb] at hchunk
      rw [List.flatten_cons, List.flatten_cons, List.append_assoc, List.singleton_append,
        ← List.cons_append, ← List.append_assoc, hchunk]

/-- A line that was read without its end: a line feed, and a carriage return right before it. -/
def dropLineEnd (line : List Char) : List Char :=
  match dropStop? ['\n'] line with
  | some start => (dropStop? ['\r'] start).getD start
  | none => line

end Volley.Text
