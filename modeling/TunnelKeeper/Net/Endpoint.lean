import TunnelKeeper.Number.Numeral
import TunnelKeeper.Text.Blank
import TunnelKeeper.Text.Split
/-!
# Endpoints

A host and a port in one text. The reader is lenient: every text has a host and a port, with
the local host and the usual port where the text has none.
-/

namespace TunnelKeeper

open Text Number

/-- Where a server listens. -/
structure Endpoint where
  host : String
  port : UInt16
  deriving DecidableEq, Repr

namespace Endpoint

/-- The host of an endpoint that names none. -/
def localHost : String := "127.0.0.1"

/-- The port of an endpoint that names none. -/
def usualPort : UInt16 := 51820

/-- The parts before and after the colon that separates the port. A host in brackets may have
colons of its own; one without brackets may not. -/
def cut (s : List Char) : Option (List Char × List Char) :=
  match s with
  | '[' :: rest => do
    let (host, after) ← splitFirst ']' rest
    match after with
    | ':' :: port => some (host, port)
    | _ => none
  | s => do
    let (host, port) ← splitLast ':' s
    if ':' ∈ host then none else some (host, port)

/-- The port that a text names. -/
def portOf (s : List Char) : UInt16 :=
  match decimalBelow? 0x10000 s with
  | some n => UInt16.ofNat n
  | none => usualPort

/-- The host that a text names. -/
def hostOf (s : List Char) : String :=
  match trimChars s with
  | [] => localHost
  | host => String.ofList host

/-- The endpoint that a text names. -/
def parse (s : String) : Endpoint :=
  match trimChars s.toList with
  | [] => ⟨localHost, usualPort⟩
  | s =>
    match cut s with
    | some (host, port) => ⟨hostOf host, portOf port⟩
    | none => ⟨String.ofList s, usualPort⟩

end Endpoint

end TunnelKeeper
