import TunnelKeeper.Number.Binary64
/-!
# Data trees

The values that a document can hold, whatever its format. A tree may be damaged: where a document
stops making sense the tree says so at that very place, so a reader that goes through the tree in
the order of the document meets the fault exactly when it needs the part that is missing.
-/

namespace TunnelKeeper

/-- Why a document cannot be read on. -/
inductive Fault
  | truncated
  | malformed
  deriving DecidableEq, Repr

/-- The words for a damaged document. -/
def Fault.message : Fault → String
  | .truncated => "<eof>"
  | .malformed => "<syntax>"

/-- A value of a document.

A sequence or a table ends with a fault when the document is damaged where the next comma or the
closing bracket should stand. A damaged value has the fault that a reader of the value meets, and
the fault, if any, that one meets who only passes over it. -/
inductive Data
  | null
  | bool (value : Bool)
  | int (value : Int)
  | float (value : Number.Binary64)
  | text (value : String)
  | seq (items : List Data) (ending : Option Fault)
  | table (entries : List (Except Fault String × Data)) (ending : Option Fault)
  | damaged (fault : Fault) (passing : Option Fault)

namespace Data

instance : Inhabited Data := ⟨.null⟩

/-- A sequence without damage of its own. -/
def list (items : List Data) : Data := .seq items none

/-- A table without damage of its own. -/
def object (entries : List (String × Data)) : Data :=
  .table (entries.map fun (key, value) => (.ok key, value)) none

/-- A natural number. -/
def nat (n : Nat) : Data := .int n

/-- A value that may be missing. -/
def orNull {α : Type} (write : α → Data) : Option α → Data
  | some a => write a
  | none => .null

mutual

/-- Passes over a value, which fails where the document cannot be read on. -/
def pass : Data → Except Fault Unit
  | .damaged _ (some fault) => .error fault
  | .seq items ending => do
    passItems items
    match ending with
    | some fault => .error fault
    | none => .ok ()
  | .table entries ending => do
    passEntries entries
    match ending with
    | some fault => .error fault
    | none => .ok ()
  | _ => .ok ()

/-- Passes over the items of a sequence. -/
def passItems : List Data → Except Fault Unit
  | [] => .ok ()
  | item :: rest => do
    pass item
    passItems rest

/-- Passes over the entries of a table; a damaged key does not stop one who does not read it. -/
def passEntries : List (Except Fault String × Data) → Except Fault Unit
  | [] => .ok ()
  | (_, value) :: rest => do
    pass value
    passEntries rest

end

/-- Puts an entry into a list that is sorted by key; an entry of the same key is replaced. -/
def insertSorted (key : String) (value : Data) : List (String × Data) → List (String × Data)
  | [] => [(key, value)]
  | (k, v) :: rest =>
    if key = k then (key, value) :: rest
    else if key < k then (key, value) :: (k, v) :: rest
    else (k, v) :: insertSorted key value rest

/-- The greatest number of containers that may stand inside each other. -/
def depthLimit : Nat := 127

mutual

/-- Reads a whole value: every fault counts, containers may be nested at most `depth` deep, and
the entries of a table are sorted by key, where the last of equal keys wins. -/
def settle : Nat → Data → Except Fault Data
  | _, .damaged fault _ => .error fault
  | depth, .seq items ending =>
    match depth with
    | 0 => .error .malformed
    | depth + 1 => do
      let items ← settleItems depth items
      match ending with
      | some fault => .error fault
      | none => .ok (.list items)
  | depth, .table entries ending =>
    match depth with
    | 0 => .error .malformed
    | depth + 1 => do
      let entries ← settleEntries depth [] entries
      match ending with
      | some fault => .error fault
      | none => .ok (.object entries)
  | _, other => .ok other

/-- Reads the items of a sequence. -/
def settleItems : Nat → List Data → Except Fault (List Data)
  | _, [] => .ok []
  | depth, item :: rest => do
    let item ← settle depth item
    let rest ← settleItems depth rest
    .ok (item :: rest)

/-- Reads the entries of a table into those that are already sorted. -/
def settleEntries : Nat → List (String × Data) → List (Except Fault String × Data) →
    Except Fault (List (String × Data))
  | _, sorted, [] => .ok sorted
  | depth, sorted, (key, value) :: rest => do
    let key ← key
    let value ← settle depth value
    settleEntries depth (insertSorted key value sorted) rest

end

end Data

end TunnelKeeper
