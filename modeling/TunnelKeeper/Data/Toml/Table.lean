import TunnelKeeper.Data.Basic
/-!
# Tables of TOML under construction

A document fills its tables piece by piece, and may neither give a key twice nor come back to a
table that is finished. So a table remembers how it came about: whether a header named it, or only
a header for one of its parts, or a dotted key.
-/

namespace TunnelKeeper.Toml

mutual

/-- What a key of a table stands for. -/
inductive Item
  | value (data : Data)
  | table (table : Table)
  | tables (done : List Table) (last : Table)

/-- A table: whether it came about without a header of its own, whether through a dotted key, and
its keys in order. -/
inductive Table
  | mk (implicit dotted : Bool) (items : List (String × Item))

end

namespace Table

/-- Whether the table came about without a header of its own. -/
def implicit : Table → Bool
  | .mk implicit _ _ => implicit

/-- Whether the table came about through a dotted key. -/
def dotted : Table → Bool
  | .mk _ dotted _ => dotted

/-- The keys in order. -/
def items : Table → List (String × Item)
  | .mk _ _ items => items

/-- A table that a header names. -/
def explicit : Table := .mk false false []

/-- The table with other keys. -/
def withItems (t : Table) (items : List (String × Item)) : Table := .mk t.implicit t.dotted items

/-- What a key stands for. -/
def find? (t : Table) (key : String) : Option Item := t.items.lookup key

/-- Replaces what a key stands for, or adds the key at the end. -/
def put (t : Table) (key : String) (item : Item) : Table :=
  if (t.find? key).isSome then
    t.withItems (t.items.map fun (k, old) => (k, if k = key then item else old))
  else t.withItems (t.items ++ [(key, item)])

/-- Removes a key. -/
def remove (t : Table) (key : String) : Table :=
  t.withItems (t.items.filter fun (k, _) => k != key)

/-- Changes the table at the end of a path. Tables on the way come about if they are missing; a
dotted key does not lead into a table that has a header of its own. -/
def change (byDots : Bool) (f : Table → Option Table) : List String → Table → Option Table
  | [], t => f t
  | key :: path, t =>
    match t.find? key with
    | some (.value _) => none
    | some (.tables done last) =>
      (change byDots f path last).map fun last => t.put key (.tables done last)
    | some (.table child) =>
      if byDots ∧ !child.implicit then none
      else (change byDots f path child).map fun child => t.put key (.table child)
    | none =>
      (change byDots f path (.mk true byDots [])).map fun child => t.put key (.table child)

/-- Adds a value under a dotted key. A key may be given once, and one with dots only to tables
that came about through dots. -/
def addValue (t : Table) (path : List String) (key : String) (value : Data) : Option Table :=
  change true
    (fun t =>
      if t.dotted = path.isEmpty then none
      else if (t.find? key).isSome then none
      else some (t.put key (.value value)))
    path t

end Table

mutual

/-- The data of an item. -/
def Item.toData : Item → Data
  | .value data => data
  | .table t => t.toData
  | .tables done last => .list (tablesData done ++ [last.toData])

/-- The data of a table. -/
def Table.toData : Table → Data
  | .mk _ _ items => .object (itemsData items)

/-- The data of a list of tables. -/
def tablesData : List Table → List Data
  | [] => []
  | t :: rest => t.toData :: tablesData rest

/-- The data of the keys of a table. -/
def itemsData : List (String × Item) → List (String × Data)
  | [] => []
  | (key, item) :: rest => (key, item.toData) :: itemsData rest

end

end TunnelKeeper.Toml
