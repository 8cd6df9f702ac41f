import RoutePaths.CommandLine.Options

/-!
# RoutePaths.CommandLine.Help

The texts that tell how the command is used.  The help text is eighty columns
wide on every terminal; what an option does stands in a column of its own,
below the option if that is too long for its column.
-/

namespace RoutePaths.CommandLine

/-- The name of the command. -/
def commandName : String := "laravel-routes"

/-- The version of the command. -/
def version : String := "0.1.0"

/-! ## Wrapping -/

/-- A word or a part of a word; `isSpaced` if a space stands before it. -/
structure Chunk where
  isSpaced : Bool
  text : List Char
  deriving Repr, DecidableEq, Inhabited

/-- The parts of a word: a line may end after a hyphen inside it. -/
def hyphenParts (word : List Char) : List (List Char) :=
  word.splitBy fun a _ => a ≠ '-'

/-- The parts of a word, characters if no line can hold the word. -/
def wordParts (width : Nat) (word : List Char) : List (List Char) :=
  (hyphenParts word).flatMap fun part => if width < part.length then part.map ([·]) else [part]

/-- The chunks of a text. -/
def chunks (width : Nat) (s : String) : List Chunk :=
  (Text.splitOn ' ' s.toList).flatMap fun word =>
    match wordParts width word with
    | [] => []
    | part :: parts => ⟨true, part⟩ :: parts.map (⟨false, ·⟩)

/-- Fill lines with chunks; `line` is the current one. -/
def fill (width : Nat) (line : List Char) : List Chunk → List (List Char)
  | [] => [line]
  | c :: rest =>
    let longer := if line = [] then c.text
      else if c.isSpaced then line ++ ' ' :: c.text else line ++ c.text
    if longer.length ≤ width then fill width longer rest
    else line :: fill width c.text rest

/-- The lines of a text in a width. -/
def wrap (width : Nat) (s : String) : List String :=
  (fill width [] (chunks width s)).map String.ofList

/-! ## Help -/

/-- The width of the help text. -/
def helpWidth : Nat := 80

/-- The column in which the description of an option begins. -/
def descriptionColumn : Nat := 34

/-- An option as it is spelled in the help text, and its description. -/
def rows : List (String × String) :=
  [("--format [" ++ "|".intercalate (Format.all.map Format.name) ++ "]",
      "Output format (default: table)"),
    ("-o, --output TEXT", "Write yaml/json output to this file instead of stdout"),
    ("--base-prefix TEXT", "Prefix applied to every route (overrides the per-file guess)"),
    ("--exclude-resources", "Leave resource/apiResource declarations out of the output"),
    ("-v, --verbose", "Enable debug logging"),
    ("--token TEXT", "Git auth token for private repos"),
    ("--version", "Show the version and exit."),
    ("--help", "Show this message and exit.")]

/-- Spaces. -/
def blanks (n : Nat) : String := String.ofList (List.replicate n ' ')

/-- The lines of an option. -/
def rowLines (row : String × String) : List String :=
  let described := wrap (helpWidth - descriptionColumn) row.2
  let spelled := "  " ++ row.1
  if spelled.length + 2 ≤ descriptionColumn then
    match described with
    | [] => [spelled]
    | first :: rest =>
      (spelled ++ blanks (descriptionColumn - spelled.length) ++ first)
        :: rest.map (blanks descriptionColumn ++ ·)
  else spelled :: described.map (blanks descriptionColumn ++ ·)

/-- The first line of the help text and of faults. -/
def usage : String := "Usage: " ++ commandName ++ " [OPTIONS] SOURCE"

/-- The lines of the help text. -/
def helpLines : List String :=
  let paragraph (s : String) := (wrap (helpWidth - 2) s).map ("  " ++ ·)
  [usage, ""] ++ paragraph "Resolve the full URL path of every Laravel route." ++ [""]
    ++ paragraph "SOURCE is a local project path, a git URL, or a single routes/*.php file."
    ++ ["", "Options:"] ++ rows.flatMap rowLines

/-- The lines that answer a request for the version. -/
def versionLines : List String := [commandName ++ ", version " ++ version]

/-- The lines that report a fault. -/
def UsageError.lines (e : UsageError) : List String :=
  (if e.showsUsage then [usage, "Try '" ++ commandName ++ " --help' for help.", ""] else [])
    ++ ["Error: " ++ e.message]

end RoutePaths.CommandLine
