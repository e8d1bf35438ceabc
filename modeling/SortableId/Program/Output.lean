/-!
# What a program leaves behind

The exit code and the texts on both output streams.
-/

namespace SortableId.Program

/-- What a run of a program leaves behind. -/
structure Output where
  code : Nat := 0
  stdout : String := ""
  stderr : String := ""
  deriving DecidableEq, Repr

namespace Output

/-- A successful run that printed one text, ended by a line break. -/
def line (text : String) : Output := { stdout := text ++ "\n" }

/-- A text of which every line is moved to the right by four blanks. -/
def indented (text : String) : String :=
  "    " ++ String.ofList (text.toList.flatMap fun c => if c = '\n' then "\n    ".toList else [c])

/-- A run that failed with an error and the cause of it. -/
def causedFailure (error cause : String) : Output where
  code := 1
  stderr := "Error: " ++ error ++ "\n\nCaused by:\n" ++ indented cause ++ "\n"

/-- A run that ended because the command line has no meaning. -/
def misuse (usage : String) : Output where
  code := 2
  stderr := "usage: " ++ usage ++ "\n"

/-- A run that printed how the program is used. -/
def help (usage : String) : Output := line ("usage: " ++ usage)

end Output

end SortableId.Program
