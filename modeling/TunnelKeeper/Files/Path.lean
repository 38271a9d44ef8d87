import TunnelKeeper.Text.Split
/-!
# File paths

A path names a file below some directory. Its text consists of names with slashes between them.
Repeated slashes and names that are a single point mean nothing, except at the end: there they say
that a directory is meant.
-/

namespace TunnelKeeper

/-- What follows the last name of a path. -/
inductive PathEnding
  | none
  | slash
  | point
  deriving DecidableEq, Repr

/-- A path that stays below its directory: the names of directories, a last name, and what follows
it. -/
structure FilePath where
  parents : List String
  name : String
  ending : PathEnding
  deriving DecidableEq, Repr

namespace FilePath

/-- The pieces of a text between its slashes. -/
def pieces (s : String) : List String :=
  (Text.splitOn '/' s.toList).map String.ofList

/-- The pieces that are names. -/
def names (s : String) : List String := (pieces s).filter fun p => p ≠ "" ∧ p ≠ "."

/-- The name of the directory above a directory. -/
def upName : String := ".."

/-- Where some names lead from the root, if those that go up are followed. -/
def settle (names : List String) : List String :=
  names.foldl (fun place name => if name = upName then place.dropLast else place ++ [name]) []

/-- The places at which some names go up, where they begin at a place. -/
def turns : List String → List String → List (List String)
  | _, [] => []
  | place, name :: names =>
    if name = upName then place :: turns place.dropLast names else turns (place ++ [name]) names

/-- What follows the last name among some pieces, the last piece first. -/
def endingOf : List String → PathEnding
  | [] => .none
  | p :: rest =>
    if p = "" then (match endingOf rest with | .point => .point | _ => .slash)
    else if p = "." then .point
    else .none

/-- Whether a text leads below a directory, whatever its last name is: it does not begin with a
slash or with a single point, and it never goes up. -/
def isPlain (s : String) : Bool :=
  let ps := pieces s
  ps.head? ≠ some "" ∧ ps.head? ≠ some "." ∧ ".." ∉ ps

/-- Reads a path. -/
def parse? (s : String) : Option FilePath :=
  if isPlain s then
    match (names s).reverse with
    | [] => none
    | name :: above => some ⟨above.reverse, name, endingOf (pieces s).reverse⟩
  else none

end FilePath

end TunnelKeeper
