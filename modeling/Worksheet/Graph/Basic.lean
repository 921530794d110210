import Std.Data.ExtTreeMap
import Std.Data.ExtTreeSet

/-!
A dependency graph holds ordered pairs of names, the second of which depends on the first, with its
neighbours kept in both directions.
-/

namespace Worksheet

/-- A set of names in ascending order. -/
abbrev NameSet :=
  Std.ExtTreeSet String

/-- A finite map from names in ascending order. -/
abbrev NameMap (α : Type) :=
  Std.ExtTreeMap String α

/-- Pairs of a name and a dependent of it, indexed by either side and counted. -/
structure Graph where
  dependents : NameMap NameSet
  dependees : NameMap NameSet
  size : Nat
deriving DecidableEq

namespace Graph

/-- The names stored for a key, none where it is absent. -/
def neighbours (index : NameMap NameSet) (key : String) : NameSet :=
  index.getD key ∅

/-- Stores one more name for a key. -/
def insertNeighbour (index : NameMap NameSet) (key name : String) : NameMap NameSet :=
  index.insert key ((neighbours index key).insert name)

/-- Removes a name from a key, and the key with its last name. -/
def eraseNeighbour (index : NameMap NameSet) (key name : String) : NameMap NameSet :=
  let rest := (neighbours index key).erase name
  if rest.isEmpty then index.erase key else index.insert key rest

/-- No pairs at all. -/
def empty : Graph :=
  ⟨∅, ∅, 0⟩

instance : Inhabited Graph := ⟨empty⟩

/-- The names that depend on a name. -/
def dependentsOf (g : Graph) (name : String) : NameSet :=
  neighbours g.dependents name

/-- The names that a name depends on. -/
def dependeesOf (g : Graph) (name : String) : NameSet :=
  neighbours g.dependees name

/-- Whether there are no pairs. -/
def isEmpty (g : Graph) : Bool :=
  g.size == 0

/-- How many names a name depends on. -/
def dependeeCount (g : Graph) (name : String) : Nat :=
  (g.dependeesOf name).size

/-- Whether any name depends on a name. -/
def hasDependents (g : Graph) (name : String) : Bool :=
  g.dependents.contains name

/-- Whether a name depends on any. -/
def hasDependees (g : Graph) (name : String) : Bool :=
  g.dependees.contains name

/-- Every pair, by its first and then its second name. -/
def pairs (g : Graph) : List (String × String) :=
  g.dependents.toList.flatMap fun (s, ts) => ts.toList.map fun t => (s, t)

/-- Adds the pair that makes one name depend on another, unless it is there. -/
def add (g : Graph) (s t : String) : Graph :=
  if (g.dependentsOf s).contains t then g
  else ⟨insertNeighbour g.dependents s t, insertNeighbour g.dependees t s, g.size + 1⟩

/-- Removes the pair that makes one name depend on another, if it is there. -/
def remove (g : Graph) (s t : String) : Graph :=
  if (g.dependentsOf s).contains t then
    ⟨eraseNeighbour g.dependents s t, eraseNeighbour g.dependees t s, g.size - 1⟩
  else g

/-- Makes some names the only ones that depend on a name. -/
def replaceDependents (g : Graph) (s : String) (names : List String) : Graph :=
  let cleared := (g.dependentsOf s).toList.foldl (fun g t => g.remove s t) g
  names.foldl (fun g t => g.add s t) cleared

/-- Makes a name depend on some names only. -/
def replaceDependees (g : Graph) (t : String) (names : List String) : Graph :=
  let cleared := (g.dependeesOf t).toList.foldl (fun g s => g.remove s t) g
  names.foldl (fun g s => g.add s t) cleared

end Graph

end Worksheet
