/-
  The edit distance between two texts, and suggestions made from it.

  The distance counts the fewest insertions, deletions and replacements of single characters that turn
  one text into the other.  It is worked out for all suffixes of the second text at once: a row holds
  the distances to `b`, to `b` without its first character, and so on down to the empty text, and one
  more character in front of the first text turns a row into the next.
-/

namespace RollConditions

namespace Text

/-- The distances from the empty text to every suffix of a text: all its characters are inserted. -/
def emptyRow : List Char → List Nat
  | [] => [0]
  | _ :: rest => (rest.length + 1) :: emptyRow rest

/-- The row of `first :: a` from the row of `a`, over the suffixes of `b`.  A first character is deleted,
    or the first of `b` is inserted, or the two are matched. -/
def nextRow (first : Char) : List Char → List Nat → List Nat
  | other :: b, here :: row =>
    let shorter := nextRow first b row
    let matched := row.headD 0 + if first = other then 0 else 1
    min (here + 1) (min (shorter.headD 0 + 1) matched) :: shorter
  | _, row => row.map (· + 1)

/-- The distances from a text to every suffix of another, the whole of it first. -/
def distances (a b : List Char) : List Nat := a.foldr (fun first row => nextRow first b row) (emptyRow b)

/-- The edit distance between two texts, counted in characters. -/
def editDistance (a b : String) : Nat := (distances a.toList b.toList).headD 0

/-- The first of the candidates that is nearest to a text, among those that pass a test on their
    distance. -/
def nearest? (text : String) (isNear : Nat → Bool) (candidates : List String) : Option String :=
  let near := (candidates.map (fun candidate => (candidate, editDistance text candidate))).filter
    (fun entry => isNear entry.2)
  let least? := (near.map (·.2)).min?
  least?.bind (fun least => (near.find? (fun entry => entry.2 == least)).map (·.1))

end Text

end RollConditions
