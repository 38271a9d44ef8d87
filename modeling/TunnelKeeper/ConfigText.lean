import TunnelKeeper.Text.Blank
import TunnelKeeper.Text.Split
/-!
# Configuration texts

A rendered configuration consists of lines, of which those that begin with `#` are comments. The
stripped form has neither comments nor blank margins; a name may stand above a configuration as a
comment.
-/

namespace TunnelKeeper.ConfigText

open Text

/-- Whether a line without blank margins is a comment. -/
def isComment (line : List Char) : Bool := line.head? == some '#'

/-- The lines that mean something, without blank margins. -/
def contentLines (config : String) : List (List Char) :=
  ((lines config.toList).map trimChars).filter fun line => !isComment line

/-- Lines as a text, each ended by a line feed. -/
def ofLines (ls : List (List Char)) : List Char := ls.flatMap fun line => line ++ ['\n']

/-- What stands before a name. -/
def nameMark : String := "# Name = "

/-- The comment line for a name; there is none for an empty name. -/
def nameLine (name : String) : String := if name = "" then "" else nameMark ++ name ++ "\n"

/-- The configuration without comments and blank margins. -/
def stripped (config : String) : String := String.ofList (ofLines (contentLines config))

/-- The stripped configuration below its name. -/
def strippedNamed (config : String) (name : String) : String := nameLine name ++ stripped config

/-- The configuration as it is, below its name. -/
def named (config : String) (name : String) : String := nameLine name ++ config

end TunnelKeeper.ConfigText
