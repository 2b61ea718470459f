import I2cTopology.OrderedMap
import I2cTopology.Toml.Value

/-!
# Building tables from keys

Keys of several parts and headers build tables piece by piece. Which pieces may be added to a table depends on how it
came to be, so tables under construction remember that. Adding a key twice, or to something that is complete, fails.
-/

namespace I2cTopology.Toml

/-- How a table came to be. -/
inductive Origin where
  /-- It has a header of its own, so it is written down in one place. -/
  | header
  /-- It lies on the way to a table that has a header. -/
  | onPath
  /-- It was made by a key of several parts. -/
  | dotted
deriving DecidableEq

/-- An entry of a table under construction. -/
inductive Node where
  | value (value : Value)
  | table (origin : Origin) (entries : List (String × Node))
  /-- An array of tables, each with a header of its own. -/
  | tables (elements : List (List (String × Node)))

/-- A table under construction. -/
abbrev Table := List (String × Node)

/-- A key: the names of the tables on the way, and the name in the last of them. -/
structure Key where
  path : List String
  name : String
deriving DecidableEq

/-- A key from its parts. -/
def Key.ofParts? (parts : List String) : Option Key := parts.getLast?.map fun name => ⟨parts.dropLast, name⟩

mutual

/-- The value that a finished entry stands for. -/
def Node.toValue : Node → Value
  | .value v => v
  | .table _ entries => .table (entriesToValues entries)
  | .tables elements => .array (elementsToValues elements)

/-- The values that the entries of a finished table stand for. -/
def entriesToValues : List (String × Node) → List (String × Value)
  | [] => []
  | (name, node) :: entries => (name, node.toValue) :: entriesToValues entries

/-- The values that the tables of a finished array stand for. -/
def elementsToValues : List (List (String × Node)) → List Value
  | [] => []
  | entries :: elements => .table (entriesToValues entries) :: elementsToValues elements

end

namespace Table

/-- Sets an entry. -/
def set (t : Table) (name : String) (node : Node) : Table := Entries.upsert name (fun _ => node) t

/-- Changes by `f` the table that `path` leads to. Missing tables on the way are made with the origin `made`; in an
array of tables the way goes through the last one. Keys of several parts do not lead into a table with a header. -/
def descend (made : Origin) (f : Origin → Table → Option Table) : List String → Origin → Table → Option Table
  | [], origin, t => f origin t
  | name :: path, _, t =>
    match Entries.find? name t with
    | none => (descend made f path made []).map fun sub => t.set name (.table made sub)
    | some (.value _) => none
    | some (.tables elements) =>
      match elements.getLast? with
      | none => none
      | some last =>
        (descend made f path .header last).map fun sub => t.set name (.tables (elements.dropLast ++ [sub]))
    | some (.table origin sub) =>
      if made = .dotted ∧ origin = .header then none
      else (descend made f path origin sub).map fun sub => t.set name (.table origin sub)

/-- Adds a value under a key. -/
def add (t : Table) (key : Key) (value : Value) : Option Table :=
  descend .dotted (fun origin t =>
    if (key.path ≠ [] ∧ origin ≠ .dotted) ∨ (Entries.find? key.name t).isSome then none
    else some (t.set key.name (.value value))) key.path .header t

/-- Adds values under keys one after the other. -/
def addAll (t : Table) (pairs : List (Key × Value)) : Option Table := pairs.foldlM (fun t p => t.add p.1 p.2) t

/-- Adds the table of a header. It may have been made before on the way to other tables, and then moves to the end. -/
def addTable (t : Table) (key : Key) (pairs : List (Key × Value)) : Option Table :=
  descend .onPath (fun _ t =>
    match Entries.find? key.name t with
    | none => (addAll [] pairs).map fun sub => t ++ [(key.name, .table .header sub)]
    | some (.table .onPath sub) =>
      (addAll sub pairs).map fun sub => t.filter (·.1 != key.name) ++ [(key.name, .table .header sub)]
    | some _ => none) key.path .header t

/-- Adds the next table of an array of tables. -/
def addElement (t : Table) (key : Key) (pairs : List (Key × Value)) : Option Table :=
  descend .onPath (fun _ t =>
    match Entries.find? key.name t with
    | none => (addAll [] pairs).map fun sub => t.set key.name (.tables [sub])
    | some (.tables elements) => (addAll [] pairs).map fun sub => t.set key.name (.tables (elements ++ [sub]))
    | some _ => none) key.path .header t

end Table

end I2cTopology.Toml
