import TunnelKeeper.Text.Blank
import TunnelKeeper.Text.Split
/-!
# Comma-separated settings

Reading a setting that lists values between commas: spaces do not count and blank entries are
left out. The same rule reads the resolvers of a peer, of which there are always two.
-/

namespace TunnelKeeper.Listing

open Text

/-- An entry without blank margins and spaces. -/
def cleanEntry (entry : List Char) : List Char := (trimChars entry).filter (· ≠ ' ')

/-- The entries of a setting, in order. -/
def entries (s : String) : List String :=
  (((splitOn ',' s.toList).map cleanEntry).filter (· ≠ [])).map String.ofList

/-- The entries of a setting, or those of the fallback if there are none. -/
def entriesOr (s fallback : String) : List String :=
  match entries s with
  | [] => entries fallback
  | items => items

/-- The resolver that is asked first unless a peer has its own. -/
def firstResolver : String := "1.1.1.1"

/-- The resolver that is asked second unless a peer has its own. -/
def secondResolver : String := "1.0.0.1"

/-- The first two resolvers of a setting, filled up with the usual ones. -/
def resolvers (s : String) : String × String :=
  match entriesOr s (firstResolver ++ "," ++ secondResolver) with
  | [] => (firstResolver, secondResolver)
  | [a] => (a, secondResolver)
  | a :: b :: _ => (a, b)

/-- The networks a client reaches through the tunnel unless its peer says otherwise. -/
def everywhere : String := "0.0.0.0/0,::/0"

end TunnelKeeper.Listing
