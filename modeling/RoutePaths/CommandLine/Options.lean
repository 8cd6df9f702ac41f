import RoutePaths.Text.Quoted
import RoutePaths.Text.Similarity
import RoutePaths.Text.Split

/-!
# RoutePaths.CommandLine.Options

Reading the arguments of the command:

1. an argument that begins with a dash and has more than one character is an
   option, all after a double dash are positional;
2. a long option takes its value behind an equals sign or from the next
   argument, whatever that looks like; short options can be written together
   behind one dash, and the rest of the argument is the value of the first that
   takes one;
3. of several values for one option the last one counts;
4. faults of spelling are reported first, then help and version answer, then
   the values are looked at.
-/

namespace RoutePaths.CommandLine

/-! ## Options -/

/-- What is written for the routes. -/
inductive Format where
  | table
  | annotate
  | yaml
  | json
  deriving Repr, DecidableEq, Inhabited

namespace Format

/-- The name of a format. -/
def name : Format → String
  | table => "table"
  | annotate => "annotate"
  | yaml => "yaml"
  | json => "json"

/-- All formats. -/
def all : List Format := [table, annotate, yaml, json]

/-- The format of a name. -/
def ofName? (s : String) : Option Format := all.find? (·.name = s)

end Format

/-- What the command is asked to do. -/
structure Options where
  source : String
  format : Format := .table
  output : Option String := none
  basePrefix : Option String := none
  excludeResources : Bool := false
  isVerbose : Bool := false
  token : Option String := none
  deriving Repr, DecidableEq, Inhabited

/-- The options of the command. -/
inductive Name where
  | format
  | output
  | basePrefix
  | excludeResources
  | verbose
  | token
  | version
  | help
  deriving Repr, DecidableEq, Inhabited

namespace Name

/-- All options, in the order of the help text. -/
def all : List Name :=
  [format, output, basePrefix, excludeResources, verbose, token, version, help]

/-- The long spelling. -/
def long : Name → String
  | format => "--format"
  | output => "--output"
  | basePrefix => "--base-prefix"
  | excludeResources => "--exclude-resources"
  | verbose => "--verbose"
  | token => "--token"
  | version => "--version"
  | help => "--help"

/-- The letter of the short spelling. -/
def short? : Name → Option Char
  | output => some 'o'
  | verbose => some 'v'
  | _ => none

/-- Whether an option has a value. -/
def takesValue : Name → Bool
  | format | output | basePrefix | token => true
  | _ => false

/-- The option of a long spelling. -/
def ofLong? (s : String) : Option Name := all.find? (·.long = s)

/-- The option of a letter. -/
def ofShort? (c : Char) : Option Name := all.find? (·.short? = some c)

end Name

/-! ## Faults -/

/-- Why arguments cannot be used. -/
inductive UsageError where
  | noSuchOption (name : String)
  | needsArgument (name : String)
  | takesNoValue (name : String)
  | badFormat (value : String)
  | missingSource
  | extraArguments (list : List String)
  deriving Repr, DecidableEq, Inhabited

namespace UsageError

/-- The words that may have been meant. -/
def suggestion (name : String) : String :=
  match Text.suggestions name (Name.all.map Name.long) with
  | [] => ""
  | [word] => " Did you mean " ++ Text.quote word ++ "?"
  | words => " (Did you mean one of: " ++ ", ".intercalate (words.map Text.quote) ++ "?)"

/-- The wording of a fault. -/
def message : UsageError → String
  | noSuchOption name =>
    "No such option " ++ Text.quote name ++ "."
      ++ if "--".toList.isPrefixOf name.toList then suggestion name else ""
  | needsArgument name => "Option " ++ Text.quote name ++ " requires an argument."
  | takesNoValue name => "Option " ++ Text.quote name ++ " does not take a value."
  | badFormat value =>
    "Invalid value for '--format': " ++ Text.quote value ++ " is not one of "
      ++ ", ".intercalate (Format.all.map fun f => Text.quote f.name) ++ "."
  | missingSource => "Missing argument 'SOURCE'."
  | extraArguments list =>
    "Got unexpected extra argument" ++ (if list.length = 1 then "" else "s")
      ++ " (" ++ " ".intercalate list ++ ")"

/-- Whether the usage is shown before the fault. -/
def showsUsage : UsageError → Bool
  | needsArgument _ | takesNoValue _ => false
  | _ => true

end UsageError

/-! ## Spelled arguments -/

/-- The options and positional arguments as they were spelled. -/
structure Spelled where
  format : Option String := none
  output : Option String := none
  basePrefix : Option String := none
  token : Option String := none
  excludeResources : Bool := false
  isVerbose : Bool := false
  /-- Whichever of help and version was asked for first. -/
  inquiry : Option Name := none
  positional : List String := []
  deriving Repr, DecidableEq, Inhabited

namespace Spelled

/-- The arguments with a value for an option. -/
def set (s : Spelled) (value : String) : Name → Spelled
  | .format => { s with format := some value }
  | .output => { s with output := some value }
  | .basePrefix => { s with basePrefix := some value }
  | .token => { s with token := some value }
  | _ => s

/-- The arguments with an option that has no value. -/
def turnOn (s : Spelled) : Name → Spelled
  | .excludeResources => { s with excludeResources := true }
  | .verbose => { s with isVerbose := true }
  | .version => { s with inquiry := s.inquiry <|> some .version }
  | .help => { s with inquiry := s.inquiry <|> some .help }
  | _ => s

/-- The spelling of a letter. -/
def dashed (c : Char) : String := String.ofList ['-', c]

/-- The arguments after letters behind one dash, and the option among them that
takes its value from the next argument. -/
def letters (s : Spelled) : List Char → Except UsageError (Spelled × Option Name)
  | [] => .ok (s, none)
  | c :: rest =>
    match Name.ofShort? c with
    | none => .error (.noSuchOption (dashed c))
    | some name =>
      if name.takesValue then
        if rest.isEmpty then .ok (s, some name) else .ok (s.set (String.ofList rest) name, none)
      else letters (s.turnOn name) rest

/-- What an option argument spells: its name, and the text behind the first
equals sign. -/
def cut (arg : String) : String × Option String :=
  match arg.toList.dropWhile (· ≠ '=') with
  | [] => (arg, none)
  | _ :: value => (String.ofList (arg.toList.takeWhile (· ≠ '=')), some (String.ofList value))

/-- The arguments after one option argument, and the option that takes its
value from the next argument with its spelling. -/
def option (s : Spelled) (arg : String) : Except UsageError (Spelled × Option (Name × String)) :=
  let (spelling, value?) := cut arg
  match Name.ofLong? spelling with
  | some name =>
    match name.takesValue, value? with
    | true, some value => .ok (s.set value name, none)
    | true, none => .ok (s, some (name, spelling))
    | false, some _ => .error (.takesNoValue spelling)
    | false, none => .ok (s.turnOn name, none)
  | none =>
    if "--".toList.isPrefixOf arg.toList then .error (.noSuchOption spelling)
    else (s.letters arg.toList.tail).map fun (s, name?) =>
      (s, name?.map fun name => (name, ((name.short?).map dashed).getD ""))

/-- Whether an argument is an option. -/
def isOption (arg : String) : Bool := arg.toList.head? = some '-' && 1 < arg.length

/-- The spelled arguments. -/
def read (s : Spelled) : List String → Except UsageError Spelled
  | [] => .ok s
  | arg :: rest =>
    if arg = "--" then .ok { s with positional := s.positional ++ rest }
    else if isOption arg then
      match s.option arg with
      | .error e => .error e
      | .ok (s, none) => read s rest
      | .ok (s, some (name, spelling)) =>
        match rest with
        | [] => .error (.needsArgument spelling)
        | value :: rest => read (s.set value name) rest
    else read { s with positional := s.positional ++ [arg] } rest

/-- The format that was asked for. -/
def format? (s : Spelled) : Except UsageError Format :=
  match s.format with
  | none => .ok .table
  | some name =>
    match Format.ofName? name with
    | none => .error (.badFormat name)
    | some format => .ok format

/-- The options that the arguments mean; `token` stands for a token that is not
among the arguments. -/
def options (s : Spelled) (token : Option String) : Except UsageError Options := do
  let format ← s.format?
  match s.positional with
  | [] => .error .missingSource
  | [source] => return {
      source, format, output := s.output, basePrefix := s.basePrefix,
      excludeResources := s.excludeResources, isVerbose := s.isVerbose,
      token := s.token <|> token }
  | _ :: extra => .error (.extraArguments extra)

end Spelled

/-! ## Requests -/

/-- What the arguments ask for. -/
inductive Request where
  | help
  | version
  | run (options : Options)
  deriving Repr, DecidableEq, Inhabited

/-- What the arguments ask for; `token` stands for a token that is not among
them. -/
def Request.ofArguments (token : Option String) (args : List String) :
    Except UsageError Request := do
  let spelled ← Spelled.read {} args
  match spelled.inquiry with
  | some .help => return .help
  | some _ => return .version
  | none => return .run (← spelled.options token)

end RoutePaths.CommandLine
