import TunnelKeeper.Data.Basic
import TunnelKeeper.Text.Quoted
/-!
# Schemas

Reading typed values from data trees. A decoder goes through the tree in the order of the document
and stops at the first thing that is wrong with it: a value of the wrong type, a field that is not
known or given twice, or damage. Fields that are missing are noticed at the end of a record.

Records are described by their fields: `Fields α` lists the names and how a value of `α` is put
together, and is built with `<*>` like the value itself.
-/

namespace TunnelKeeper

open Number

/-- Where a tree comes from. The formats differ in what they say about surplus items and about
the spelling of numbers. -/
inductive Origin
  | jsonText
  | jsonValue
  | toml
  deriving DecidableEq, Repr

/-- Why a tree is not a value of the expected type. -/
inductive Issue
  | damaged (fault : Fault)
  | invalidType (found : Data) (expected : String)
  | invalidValue (found : Data) (expected : String)
  | invalidLength (length : Nat) (expected : String)
  | missingField (name : String)
  | unknownField (name : String) (known : List String)
  | duplicateField (name : String)
  | unknownVariant (name : String) (known : List String)
  | other (message : String)

namespace Issue

/-- What was found, in the words of a message. -/
def describe (origin : Origin) : Data → String
  | .null => "null"
  | .bool b => "boolean `" ++ (if b then "true" else "false") ++ "`"
  | .int i => "integer `" ++ decimalInt i ++ "`"
  | .float x =>
    "floating point `" ++ (if origin = .toml then x.positionalText else x.compactText) ++ "`"
  | .text s => "string " ++ Text.quoted s
  | .seq _ _ => "sequence"
  | .table _ _ => "map"
  | .damaged fault _ => fault.message

/-- The names that would have been right. -/
def alternatives : List String → String
  | [] => "there are no fields"
  | [a] => "expected `" ++ a ++ "`"
  | [a, b] => "expected `" ++ a ++ "` or `" ++ b ++ "`"
  | names => "expected one of " ++ ", ".intercalate (names.map fun n => "`" ++ n ++ "`")

/-- The wording of an issue. -/
def message (origin : Origin) : Issue → String
  | .damaged fault => fault.message
  | .invalidType found expected =>
    "invalid type: " ++ describe origin found ++ ", expected " ++ expected
  | .invalidValue found expected =>
    "invalid value: " ++ describe origin found ++ ", expected " ++ expected
  | .invalidLength n expected => "invalid length " ++ decimal n ++ ", expected " ++ expected
  | .missingField name => "missing field `" ++ name ++ "`"
  | .unknownField name known => "unknown field `" ++ name ++ "`, " ++ alternatives known
  | .duplicateField name => "duplicate field `" ++ name ++ "`"
  | .unknownVariant name known => "unknown variant `" ++ name ++ "`, " ++ alternatives known
  | .other text => text

end Issue

/-- Reads a typed value from a tree. -/
def Decoder (α : Type) := Origin → Data → Except Issue α

namespace Decoder

/-- Names a fault of the document as the issue. -/
def faulty {α : Type} (result : Except Fault α) : Except Issue α := result.mapError .damaged

/-- A value of the wrong type, unless it is damaged itself. -/
def mismatch {α : Type} (found : Data) (expected : String) : Except Issue α :=
  match found with
  | .damaged fault _ => .error (.damaged fault)
  | found => .error (.invalidType found expected)

/-- A text. -/
def text : Decoder String := fun _ data =>
  match data with
  | .text s => .ok s
  | other => mismatch other "a string"

/-- A truth value. -/
def bool : Decoder Bool := fun _ data =>
  match data with
  | .bool b => .ok b
  | other => mismatch other "a boolean"

/-- A natural number of some bits. -/
def natural (bits : Nat) : Decoder Nat := fun _ data =>
  match data with
  | .int (.ofNat n) =>
    if n < Nat.pow 2 bits then .ok n else .error (.invalidValue data ("u" ++ decimal bits))
  | .int (.negSucc _) => .error (.invalidValue data ("u" ++ decimal bits))
  | other => mismatch other ("u" ++ decimal bits)

/-- A value or nothing. -/
def option {α : Type} (d : Decoder α) : Decoder (Option α) := fun origin data =>
  match data with
  | .null => .ok none
  | data => (d origin data).map some

/-- The items of a sequence. -/
def items {α : Type} (d : Decoder α) (origin : Origin) : List Data → Except Issue (List α)
  | [] => .ok []
  | item :: rest => do
    let item ← d origin item
    let rest ← items d origin rest
    .ok (item :: rest)

/-- A list of values. -/
def list {α : Type} (d : Decoder α) : Decoder (List α) := fun origin data =>
  match data with
  | .seq values ending => do
    let values ← items d origin values
    match ending with
    | some fault => .error (.damaged fault)
    | none => .ok values
  | other => mismatch other "a sequence"

/-- A value that is written as a text. -/
def parsed {α : Type} (parse : String → Except String α) : Decoder α := fun origin data => do
  let s ← text origin data
  (parse s).mapError .other

/-- A decoder of a value from which another one is made. -/
def map {α β : Type} (f : α → β) (d : Decoder α) : Decoder β := fun origin data =>
  (d origin data).map f

/-- Nothing at all. -/
private def unit : Decoder Unit := fun _ data =>
  match data with
  | .null => .ok ()
  | other => mismatch other "unit"

/-- The alternative of a given name. -/
private def variant {α : Type} (options : List (String × α)) (name : String) : Except Issue α :=
  match options.lookup name with
  | some a => .ok a
  | none => .error (.unknownVariant name (options.map Prod.fst))

/-- One of some named alternatives: its name, or a table that holds nothing under its name. -/
def choice {α : Type} (options : List (String × α)) : Decoder α := fun origin data =>
  match origin, data with
  | _, .text name => variant options name
  | _, .damaged fault _ => .error (.damaged fault)
  | .jsonText, .table ((key, value) :: rest) ending => do
    let key ← faulty key
    let a ← variant options key
    unit origin value
    match rest, ending with
    | [], none => .ok a
    | [], some fault => .error (.damaged fault)
    | _ :: _, _ => .error (.damaged .malformed)
  | .jsonText, .table [] (some fault) => .error (.damaged fault)
  | .jsonText, _ => .error (.damaged .malformed)
  | _, .table [(key, value)] none => do
    let key ← faulty key
    let a ← variant options key
    unit origin value
    .ok a
  | _, .table _ _ => .error (.invalidValue data "map with a single key")
  | _, other => .error (.invalidType other "string or map")

end Decoder

/-- What stands for a field that a record does not give. -/
inductive Absent (α : Type)
  | required
  | nullable (value : α)
  | default (value : α)

/-- The fields of a record of type `α`, in the order of their declaration. -/
structure Fields (α : Type) where
  /-- The names of the fields. -/
  names : List String
  /-- Reads the value of a field of this name for its issues, if there is such a field. -/
  check : Origin → String → Data → Option (Except Issue Unit)
  /-- Puts the record together from the values under the names. -/
  ofTable : Origin → (String → Option Data) → Except Issue α
  /-- Puts the record together from the values in order: the wording of the expected length, the
  number of values taken so far, the values left and the fault at their end. -/
  ofSeq : Origin → String → Nat → List Data → Option Fault → Except Issue (α × List Data)

namespace Fields

variable {α β : Type}

/-- No field: the record is this value. -/
def pure (a : α) : Fields α where
  names := []
  check _ _ _ := none
  ofTable _ _ := .ok a
  ofSeq _ _ _ values _ := .ok (a, values)

/-- The fields of a function, then those of its argument. -/
def seq (f : Fields (α → β)) (x : Unit → Fields α) : Fields β where
  names := f.names ++ (x ()).names
  check origin name data := (f.check origin name data).or ((x ()).check origin name data)
  ofTable origin get := do
    let g ← f.ofTable origin get
    let a ← (x ()).ofTable origin get
    .ok (g a)
  ofSeq origin expected taken values ending := do
    let (g, values) ← f.ofSeq origin expected taken values ending
    let (a, values) ← (x ()).ofSeq origin expected (taken + f.names.length) values ending
    .ok (g a, values)

instance : Applicative Fields where
  pure := pure
  seq := seq

/-- One field. -/
def field (name : String) (d : Decoder α) (absent : Absent α) : Fields α where
  names := [name]
  check origin key data := if key = name then some ((d origin data).map fun _ => ()) else none
  ofTable origin get :=
    match get name, absent with
    | some data, _ => d origin data
    | none, .required => .error (.missingField name)
    | none, .nullable a => .ok a
    | none, .default a => .ok a
  ofSeq origin expected taken values ending :=
    match values, ending, absent with
    | value :: rest, _, _ => (d origin value).map (·, rest)
    | [], some fault, _ => .error (.damaged fault)
    | [], none, .default a => .ok (a, [])
    | [], none, _ => .error (.invalidLength taken expected)

/-- A field that has to be given. -/
def required (name : String) (d : Decoder α) : Fields α := field name d .required

/-- A field that may be left out. -/
def optional (name : String) (d : Decoder α) : Fields (Option α) :=
  field name (.option d) (.nullable none)

/-- A field that has a value of its own when it is left out. -/
def withDefault (name : String) (d : Decoder α) (a : α) : Fields α := field name d (.default a)

/-- Reads the entries of a table for their issues and keeps those that are fields. -/
def visit (f : Fields α) (closed : Bool) (origin : Origin) :
    List (Except Fault String × Data) → List (String × Data) → Except Issue (List (String × Data))
  | [], seen => .ok seen
  | (key, value) :: rest, seen => do
    let key ← Decoder.faulty key
    match f.check origin key value with
    | none =>
      if closed then .error (.unknownField key f.names)
      else do
        Decoder.faulty value.pass
        visit f closed origin rest seen
    | some result =>
      if (seen.lookup key).isSome then .error (.duplicateField key)
      else do
        result
        visit f closed origin rest ((key, value) :: seen)

/-- What a format says about items that no field takes. -/
def surplus (origin : Origin) (length : Nat) (left : List Data) (ending : Option Fault) :
    Except Issue Unit :=
  match origin, left, ending with
  | .jsonText, _ :: _, _ => .error (.damaged .malformed)
  | .jsonText, [], some fault => .error (.damaged fault)
  | .jsonValue, _ :: _, _ => .error (.invalidLength length "fewer elements in array")
  | _, _, _ => .ok ()

/-- Decodes a record from a table, or from a sequence of the values of its fields. A closed record
has no other fields than its own. -/
def decoder (f : Fields α) (name : String) (closed : Bool) : Decoder α := fun origin data =>
  match data with
  | .table entries ending => do
    let seen ← visit f closed origin entries []
    match ending with
    | some fault => .error (.damaged fault)
    | none => f.ofTable origin fun field => seen.lookup field
  | .seq values ending => do
    let count := f.names.length
    let expected := "struct " ++ name ++ " with " ++ decimal count ++
      (if count = 1 then " element" else " elements")
    let (a, left) ← f.ofSeq origin expected 0 values ending
    surplus origin values.length left ending
    .ok a
  | other => Decoder.mismatch other ("struct " ++ name)

end Fields

end TunnelKeeper
