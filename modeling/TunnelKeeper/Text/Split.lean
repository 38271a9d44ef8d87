/-!
# Cutting texts

Cutting a text at a separator and into lines. All functions work on character lists, where
nothing is lost: joining the pieces of `splitOn` with the separator gives the text back.
-/

namespace TunnelKeeper.Text

/-- The pieces of a text between the occurrences of a separator; there is always at least one. -/
def splitOn (sep : Char) : List Char → List (List Char)
  | [] => [[]]
  | c :: cs =>
    if c = sep then [] :: splitOn sep cs
    else
      match splitOn sep cs with
      | [] => [[c]]
      | piece :: rest => (c :: piece) :: rest

/-- Puts a separator between the pieces. -/
def joinWith (sep : List Char) : List (List Char) → List Char
  | [] => []
  | [piece] => piece
  | piece :: rest => piece ++ sep ++ joinWith sep rest

/-- Removes one carriage return from the end of a line. -/
def dropReturn (line : List Char) : List Char :=
  if line.getLast? = some '\r' then line.dropLast else line

/-- The lines that the pieces between line feeds stand for. All but the last piece are ended by a
line feed, which may follow a carriage return; the last piece is a line if there is something in
it, which is then left as it is. -/
def linesOf : List (List Char) → List (List Char)
  | [] => []
  | [last] => if last = [] then [] else [last]
  | piece :: rest => dropReturn piece :: linesOf rest

/-- The lines of a text: each is ended by a line feed, which may follow a carriage return and
may be missing after the last one. -/
def lines (s : List Char) : List (List Char) := linesOf (splitOn '\n' s)

/-- Cuts at the first occurrence of a separator. -/
def splitFirst (sep : Char) : List Char → Option (List Char × List Char)
  | [] => none
  | c :: cs =>
    if c = sep then some ([], cs)
    else (splitFirst sep cs).map fun (before, after) => (c :: before, after)

/-- Cuts at the last occurrence of a separator. -/
def splitLast (sep : Char) : List Char → Option (List Char × List Char)
  | [] => none
  | c :: cs =>
    match splitLast sep cs with
    | some (before, after) => some (c :: before, after)
    | none => if c = sep then some ([], cs) else none

/-- What follows a leading part, if the text starts with it. -/
def afterLeading : List Char → List Char → Option (List Char)
  | [], s => some s
  | _ :: _, [] => none
  | p :: ps, c :: cs => if p = c then afterLeading ps cs else none

/-- What follows a leading part of a text, if the text starts with it. -/
def stripLeading (lead s : String) : Option String :=
  (afterLeading lead.toList s.toList).map String.ofList

/-- The number of bytes of the UTF-8 form of some characters. -/
def byteCount (s : List Char) : Nat := s.foldl (fun n c => n + c.utf8Size) 0

end TunnelKeeper.Text
