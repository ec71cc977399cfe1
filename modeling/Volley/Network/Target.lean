import Volley.Text.Cut
import Volley.Text.Percent

/-!
# Paths, queries and fragments

What follows the host of an address. A path is a list of segments, and its canonical form has no
detours: a segment of one dot stays where it is, and one of two dots takes back the segment before
it, unless that is the letter of a drive.
-/

namespace Volley.Target

/-! ## Reserved characters -/

/-- What has to be encoded in a path. -/
def pathReserved : List Char :=
  [' ', '"', '#', '<', '>', '?', '\x60', '\x7b', '\x7d']

/-- What has to be encoded in a query. -/
def queryReserved : List Char :=
  [' ', '"', '#', '<', '>']

/-- What has to be encoded in a fragment. -/
def fragmentReserved : List Char :=
  [' ', '"', '<', '>', '\x60']

/-! ## Paths -/

/-- The dots that a segment consists of, if it consists of nothing else; a dot may be encoded. -/
def dots? : List Char → Option Nat
  | [] => some 0
  | '.' :: rest => (dots? rest).map (· + 1)
  | '%' :: '2' :: 'e' :: rest => (dots? rest).map (· + 1)
  | '%' :: '2' :: 'E' :: rest => (dots? rest).map (· + 1)
  | _ => none

/-- Whether a segment is the letter of a drive. -/
def isDrive : List Char → Bool
  | [letter, mark] => letter.isAlpha && (mark = ':' || mark = '|')
  | _ => false

/-- The path one step back, segments in the opposite order. The letter of a drive stays, and so does
a segment that goes on with a backslash after one. -/
def back : List (List Char) → List (List Char)
  | [] => []
  | last :: done => if isDrive (last.takeWhile (· != '\\')) then last :: done else done

/-- The segments without detours, last one first. At the end of the path dots leave an empty
segment. -/
def straighten (done : List (List Char)) : List (List Char) → List (List Char)
  | [] => done
  | segment :: rest =>
    let close (done : List (List Char)) : List (List Char) :=
      if rest.isEmpty then [] :: done else done
    match dots? segment with
    | some 1 => straighten (close done) rest
    | some 2 => straighten (close (back done)) rest
    | _ => straighten (segment :: done) rest

/-- A path, which may begin with a slash, as its segments. -/
def segments (isSlash : Char → Bool) : List Char → List (List Char)
  | c :: rest => Text.split isSlash (if isSlash c then rest else c :: rest)
  | [] => [[]]

/-- The path of segments in its canonical form. -/
def ofSegments (parts : List (List Char)) : List Char :=
  (straighten [] parts).reverse.flatMap fun segment =>
    '/' :: Text.Percent.encode pathReserved segment

/-! ## All that follows the host -/

/-- A path, a query and a fragment in their canonical form; how a path gets there and what a query
reserves is up to the scheme. -/
def canonical (path : List Char → List Char) (queryReserved s : List Char) : List Char :=
  let beforeQuery := s.takeWhile fun c => c != '?' && c != '#'
  let afterPath := s.dropWhile fun c => c != '?' && c != '#'
  let query := afterPath.takeWhile (· != '#')
  let fragment := afterPath.dropWhile (· != '#')
  path beforeQuery ++
    (match query with
      | [] => []
      | mark :: rest => mark :: Text.Percent.encode queryReserved rest) ++
    (match fragment with
      | [] => []
      | mark :: rest => mark :: Text.Percent.encode fragmentReserved rest)

end Volley.Target
