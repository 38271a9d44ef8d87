import TunnelKeeper.Number.Numeral
import TunnelKeeper.Text.Split
/-!
# Options on a command line

The words of a command line are options, values of options and names of commands. A word is read
as a long option if it starts with two dashes and as a short one if it starts with one; an option
with a value takes the value from its own word or from the next one. Every option may be given
once. The value of an option is judged when the next option is met or the words end, so that the
first objection from the left is reported, apart from options that nobody knows: those are
reported at once.
-/

namespace TunnelKeeper.CommandLine

open Text

/-- A wish for help: about a command, or about the program if none is named, with all details or
as a summary. -/
structure HelpRequest where
  command : Option String
  isLong : Bool
  deriving DecidableEq, Repr

/-- Why a command line is not run. -/
inductive UsageFault
  | helpWanted (request : HelpRequest)
  | versionWanted
  | unknownOption
  | unknownCommand
  | valueMissing
  | valueUnreadable
  | valueUnwanted
  | repeated
  | optionMissing
  deriving DecidableEq, Repr

/-- The values that an option takes. -/
inductive ValueKind
  | text
  | path
  | word
  | number (limit : Nat)
  deriving DecidableEq, Repr

/-- The value of an option. -/
inductive Value
  | on (yes : Bool)
  | text (s : String)
  | number (n : Nat)
  deriving DecidableEq, Repr

/-- Reads a number below a limit, which may have a sign. -/
def readNumber? (limit : Nat) (s : List Char) : Option Nat :=
  match s with
  | '-' :: '+' :: _ => none
  | '-' :: digits => (Number.decimalBelow? limit digits).filter (· = 0)
  | _ => Number.decimalBelow? limit s

/-- Reads a value. A path is never empty, and `word` stands for a spelled-out truth value. -/
def ValueKind.read (kind : ValueKind) (s : String) : Except UsageFault Value :=
  match kind with
  | .text => .ok (.text s)
  | .path => if s = "" then .error .valueMissing else .ok (.text s)
  | .word =>
    if s = "true" then .ok (.on true)
    else if s = "false" then .ok (.on false)
    else .error .valueMissing
  | .number limit =>
    match readNumber? limit s.toList with
    | some n => .ok (.number n)
    | none => .error .valueUnreadable

/-- What an option is for: to set something to a value, to switch something on, or to ask about
the program. -/
inductive Meaning (κ : Type)
  | set (key : κ) (kind : ValueKind)
  | switch (key : κ)
  | help (request : HelpRequest)
  | version

/-- An option with its names. -/
structure Form (κ : Type) where
  long : Option String
  short : Option Char
  meaning : Meaning κ

/-- What may stand on a command line. -/
structure Grammar (κ : Type) where
  forms : List (Form κ)
  commands : List String

namespace Grammar

variable {κ : Type}

/-- What a long option means. -/
def long? (g : Grammar κ) (name : List Char) : Option (Meaning κ) :=
  (g.forms.find? fun f => f.long == some (String.ofList name)).map Form.meaning

/-- What a short option means. -/
def short? (g : Grammar κ) (name : Char) : Option (Meaning κ) :=
  (g.forms.find? fun f => f.short == some name).map Form.meaning

end Grammar

/-- The options that were read so far. The last one may still be open: its value has not been
judged, or not even been met. -/
structure Reading (κ : Type) where
  given : List (κ × Value)
  current : Option (κ × ValueKind × Option String)

namespace Reading

variable {κ : Type}

/-- Nothing was read. -/
def start : Reading κ := ⟨[], none⟩

/-- Whether the next word has to be a value. -/
def awaitsValue (r : Reading κ) : Bool :=
  match r.current with
  | some (_, _, none) => true
  | _ => false

variable [DecidableEq κ]

/-- The value of an option. -/
def value? (r : Reading κ) (key : κ) : Option Value :=
  (r.given.find? fun entry => entry.1 = key).map Prod.snd

/-- Adds an option that must not have been given before. -/
def add (r : Reading κ) (key : κ) (value : Value) : Except UsageFault (Reading κ) :=
  if (r.value? key).isSome then .error .repeated
  else .ok { r with given := r.given ++ [(key, value)] }

/-- Judges the open option. -/
def close (r : Reading κ) : Except UsageFault (Reading κ) :=
  match r.current with
  | none => .ok r
  | some (_, _, none) => .error .valueMissing
  | some (key, kind, some s) =>
    if (r.value? key).isSome then .error .repeated
    else do
      let value ← kind.read s
      .ok ⟨r.given ++ [(key, value)], none⟩

/-- Takes an option in, together with what its own word says about its value. -/
def meet (r : Reading κ) (meaning : Meaning κ) (attached : Option String) :
    Except UsageFault (Reading κ) :=
  match meaning, attached with
  | .set key kind, some s => do
    let r ← r.close
    Reading.close { r with current := some (key, kind, some s) }
  | .set key kind, none => do
    let r ← r.close
    .ok { r with current := some (key, kind, none) }
  | _, some _ => .error .valueUnwanted
  | .switch key, none => do
    let r ← r.close
    r.add key (.on true)
  | .help request, none => do
    let _ ← r.close
    .error (.helpWanted request)
  | .version, none => do
    let _ ← r.close
    .error .versionWanted

/-- Takes a value in, if one is awaited. -/
def giveValue? (r : Reading κ) (s : String) : Option (Reading κ) :=
  match r.current with
  | some (key, kind, none) => some { r with current := some (key, kind, some s) }
  | _ => none

end Reading

/-- A word by its looks. -/
inductive Word
  | ending
  | long (name : List Char) (attached : Option String)
  | short (name : Char) (rest : List Char)
  | plain
  deriving DecidableEq, Repr

/-- The looks of a word. -/
def Word.ofChars : List Char → Word
  | ['-', '-'] => .ending
  | '-' :: '-' :: rest =>
    match splitFirst '=' rest with
    | some (name, value) => .long name (some (String.ofList value))
    | none => .long rest none
  | '-' :: name :: rest => .short name rest
  | _ => .plain

/-- The value that stands in the word of a short option. -/
def attachedValue : List Char → Option String
  | [] => none
  | '=' :: rest => some (String.ofList rest)
  | rest => some (String.ofList rest)

/-- The fault of a word that is neither an option nor a value. After the word `--` the name of a
command is no command. -/
def Grammar.strayFault {κ : Type} (g : Grammar κ) (ended : Bool) (word : String) : UsageFault :=
  if g.commands = [] ∨ (ended ∧ word ∈ g.commands) then .unknownOption else .unknownCommand

/-- Reads words up to the name of a command, which is given back with the words behind it. -/
def Grammar.read {κ : Type} [DecidableEq κ] (g : Grammar κ) (r : Reading κ) :
    List String → Except UsageFault (Reading κ × Option (String × List String))
  | [] => .ok (r, none)
  | word :: rest =>
    if !r.awaitsValue ∧ word ∈ g.commands then .ok (r, some (word, rest))
    else
      match Word.ofChars word.toList with
      | .ending =>
        match rest with
        | [] => .ok (r, none)
        | stray :: _ => .error (g.strayFault true stray)
      | .long name attached =>
        match g.long? name with
        | some meaning =>
          match r.meet meaning attached with
          | .ok r => g.read r rest
          | .error fault => .error fault
        | none => .error .unknownOption
      | .short name more =>
        match g.short? name with
        | some (.set key kind) =>
          match r.meet (.set key kind) (attachedValue more) with
          | .ok r => g.read r rest
          | .error fault => .error fault
        | some meaning =>
          match r.meet meaning none with
          | .ok r => g.read r rest
          | .error fault => .error fault
        | none => .error .unknownOption
      | .plain =>
        match r.giveValue? word with
        | some r => g.read r rest
        | none => .error (g.strayFault false word)

end TunnelKeeper.CommandLine
