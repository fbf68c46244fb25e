/-
  Sets of facts.

  A condition asks three things of the facts it is tested against: whether a fact is among them, which
  facts there are, and which value a field has.  `FactSet` names these three, with the value of a field
  worked out from the list of all facts unless a kind of set has a shorter way.  Four kinds of set are
  instances: hashed sets, ordered sets, plain lists, and in `Fact/RollOptions.lean` the roll options
  that this library itself collects facts in.  An ordered set has the shorter way: the readings of a
  path all begin alike and so stand next to each other, and only that stretch is looked at.
-/
import Std.Data.HashSet
import Std.Data.TreeSet
import RollConditions.Fact.Reading

namespace RollConditions

/-- A kind of collection that a condition can be tested against. -/
class FactSet (σ : Type) where
  /-- Whether a fact is in the collection. -/
  contains : σ → String → Bool
  /-- The facts of the collection; the order means nothing, and a plain list may repeat some. -/
  facts : σ → List String
  /-- The value of a field among the facts. -/
  value? : σ → String → Option Int := fun collection path =>
    Fact.onlyReading? path (facts collection)

namespace Fact

/-- Whether a fact begins as the readings of a path do. -/
def hasStem (path fact : String) : Bool := (stem path).isPrefixOf fact.toList

/-- The stretch of an ascending list that begins with the stem of a path: nothing before the stem, and
    from there on as long as facts begin with it. -/
def stretch (path : String) (ascending : List String) : List String :=
  (ascending.dropWhile (fun fact => decide (fact < String.ofList (stem path)))).takeWhile (hasStem path)

end Fact

/-- A plain list is the set of its entries. -/
instance : FactSet (List String) where
  contains facts fact := facts.contains fact
  facts facts := facts

instance : FactSet (Std.HashSet String) where
  contains set fact := set.contains fact
  facts set := set.toList

/-- An ordered set looks for the value of a field in one stretch only. -/
instance : FactSet (Std.TreeSet String) where
  contains set fact := set.contains fact
  facts set := set.toList
  value? set path := Fact.onlyReading? path (Fact.stretch path set.toList)

/-- The value of a field in an ordered set is that of its only reading in the stretch of the path. -/
theorem FactSet.value?_treeSet (set : Std.TreeSet String) (path : String) :
    FactSet.value? set path = Fact.onlyReading? path (Fact.stretch path set.toList) := rfl

end RollConditions
