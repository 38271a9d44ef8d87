import TunnelKeeper.Net.Address
import TunnelKeeper.Number.Numeral
import TunnelKeeper.Text.Split
/-!
# URLs

Which texts are URLs, and with which scheme. Behind the scheme there may be an authority: a user, a
host and a port. The rest of a URL is never wrong.
-/

namespace TunnelKeeper

open Text

namespace Url

/-- A text without control characters and spaces at its ends and without line breaks and
tabulators inside. -/
def cleaned (s : List Char) : List Char :=
  let outer (c : Char) : Bool := c.toNat ≤ 0x20
  let inner := ((s.dropWhile outer).reverse.dropWhile outer).reverse
  inner.filter fun c => c ≠ '\t' ∧ c ≠ '\n' ∧ c ≠ '\r'

/-- The characters of a scheme. -/
def isSchemeChar (c : Char) : Bool := c.isAlphanum || c == '+' || c == '-' || c == '.'

/-- Cuts a text behind its scheme, which is given in small letters. -/
def cutScheme (s : List Char) : Option (List Char × List Char) :=
  match s with
  | [] => none
  | c :: _ =>
    if c.isAlpha then
      match s.dropWhile isSchemeChar with
      | ':' :: rest => some ((s.takeWhile isSchemeChar).map Char.toLower, rest)
      | _ => none
    else none

/-- The schemes whose URLs always have a host. -/
def hostSchemes : List String := ["http", "https", "ws", "wss", "ftp"]

/-- The characters that no host has. -/
def hostStoppers : List Char :=
  ['\x00', '\t', '\n', '\r', ' ', '#', '/', ':', '<', '>', '?', '@', '[', '\\', ']', '^', '|']

/-- Whether the text behind a colon is a port. -/
def isPort (s : List Char) : Bool :=
  s = [] || (s.all Char.isDigit && (Number.decimalBelow? 0x10000 s).isSome)

/-- Whether a text is a host with or without a port. -/
def isHost (needed : Bool) (s : List Char) : Bool :=
  match s with
  | '[' :: rest =>
    match splitFirst ']' rest with
    | some (inside, after) =>
      (Net.parseAddress .v6 inside).isSome &&
        (match after with
          | [] => true
          | ':' :: port => isPort port
          | _ => false)
    | none => false
  | s =>
    match splitFirst ':' s with
    | some (host, port) => host ≠ [] && !host.any (hostStoppers.contains ·) && isPort port
    | none => !(needed && s.isEmpty) && !s.any (hostStoppers.contains ·)

/-- Whether a text is an authority. A user needs a host. -/
def isAuthority (needed : Bool) (s : List Char) : Bool :=
  match splitLast '@' s with
  | some (user, host) => isHost (needed || !user.isEmpty) host
  | none => isHost needed s

/-- The authority at the front of a text. -/
def authority (stoppers s : List Char) : List Char := s.takeWhile fun c => !stoppers.contains c

/-- The scheme of a text, if the text is a URL. -/
def scheme? (s : String) : Option String := do
  let (name, rest) ← cutScheme (cleaned s.toList)
  let scheme := String.ofList name
  if scheme = "file" then some scheme
  else if scheme ∈ hostSchemes then
    let behind := rest.dropWhile fun c => c = '/' ∨ c = '\\'
    if isAuthority true (authority ['/', '?', '#', '\\'] behind) then some scheme else none
  else
    match rest with
    | '/' :: '/' :: behind =>
      if isAuthority false (authority ['/', '?', '#'] behind) then some scheme else none
    | _ => some scheme

end Url

end TunnelKeeper
