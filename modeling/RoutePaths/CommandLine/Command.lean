import RoutePaths.CommandLine.Help
import RoutePaths.Failure
import RoutePaths.Json.Printer
import RoutePaths.Marker
import RoutePaths.Report
import RoutePaths.Source
import RoutePaths.Yaml.Printer

/-!
# RoutePaths.CommandLine.Command

The command: it resolves a source, scans it, and writes its routes as a table,
as annotated files or as a document.

1. Messages go to the standard error if the standard output takes the routes
   themselves.
2. A source that gives no project is reported and ends the command with code 1.
3. Once the source is resolved, what was made for it is cleaned up, whether the
   rest of the command succeeds or not.
-/

namespace RoutePaths.CommandLine

/-! ## Output -/

/-- Whether messages go to the standard error. -/
def Options.isQuiet (o : Options) : Bool :=
  o.format ≠ .table && o.output.getD "" = ""

/-- Write text to the stream of messages. -/
def Options.put (o : Options) (text : String) : Run Failure Unit :=
  ExceptT.lift (Machine.report (if o.isQuiet then .warned text else .printed text))

/-- The text of lines, each with its end. -/
def linesText (ls : List (List Char)) : String :=
  String.ofList (ls.flatMap fun line => line ++ ['\n'])

/-- Write a message with tags. -/
def Options.say (o : Options) (screen : Console.Screen) (message : String) : Run Failure Unit := do
  let ls ← ExceptT.mk (pure ((Console.say screen message.toList).mapError .markup))
  o.put (linesText ls)

/-- Write a message with tags that may hold halves of surrogate pairs: the
standard error takes them as escapes, the standard output does not take them. -/
def Options.sayCodes (o : Options) (screen : Console.Screen) (message : Text.CodePoints) :
    Run Failure Unit := do
  if message.all (!Text.isHalf ·) then o.say screen (String.ofList message.chars)
  else
    let ls ← ExceptT.mk (pure ((Console.say screen message.standIns).mapError .markup))
    let text := Text.CodePoints.ofStandIns (linesText ls).toList
    match (if o.isQuiet then none else EncodingError.first? text) with
    | none => o.put (String.ofList text.escaped)
    | some e => throw (.encoding e)

/-- The text without the sequences that set colours. -/
def withoutColours (s : List Char) : Nat → List Char
  | 0 => s
  | fuel + 1 =>
    match s with
    | [] => []
    | c :: rest =>
      if c.toNat = 27 then
        match rest with
        | '[' :: t =>
          match t.dropWhile (fun d => d = ';' || d = '?' || d.isDigit) with
          | d :: u =>
            if d.isAlpha then withoutColours u fuel else c :: withoutColours rest fuel
          | [] => c :: withoutColours rest fuel
        | _ => c :: withoutColours rest fuel
      else c :: withoutColours rest fuel

/-- Plain text as it is written, without colours. -/
def plain (text : String) : String := String.ofList (withoutColours text.toList text.length)

/-- Write plain text to the standard output, without colours. -/
def echo (text : String) : Run Failure Unit :=
  ExceptT.lift (Machine.report (.printed (plain text ++ "\n")))

/-! ## Formats -/

/-- Write the files with the markers of their routes. -/
def echoAnnotated (root : String) (routes : List Route) : List String → Run Failure Unit
  | [] => return
  | name :: rest => do
    let bytes ← Run.readFile (FilePath.join root name)
    echo ("==> " ++ name ++ " <==")
    echo (Marker.annotate Marker.defaultGlyph (Project.textOf bytes)
      (routes.filter (·.sourceFile = name)))
    echoAnnotated root routes rest

/-- The text of a document in a format. -/
def Format.print : Format → Json → String
  | .json, value => Json.print value
  | _, value => Yaml.print value

/-- Write the document of a scan. -/
def writeDocument (screen : Console.Screen) (o : Options) (scan : Project.Scan) :
    Run Failure Unit := do
  let value ← Run.documentOf scan o.excludeResources
  let content := o.format.print value
  match o.output.filter (· ≠ "") with
  | none => echo content
  | some path =>
    Run.writeFile path content
    o.say screen ("[green]✓[/green] OpenAPI spec written to: " ++ path)

/-- Write the routes of a scan. -/
def writeRoutes (screen : Console.Screen) (o : Options) (scan : Project.Scan) :
    Run Failure Unit :=
  match o.format with
  | .table => do
    let ls ← ExceptT.mk (pure
      ((Report.lines screen (!o.excludeResources) scan.routes).mapError .markup))
    o.put (linesText ls)
  | .annotate =>
    echoAnnotated scan.root
      (scan.routes.filter fun r => !(o.excludeResources && r.isResource)) scan.files
  | .yaml | .json => writeDocument screen o scan

/-! ## The command -/

/-- The version of a project as it is shown. -/
def versionText (version : Option RawJson) : Text.CodePoints :=
  match version.filter (!·.isBlank) with
  | none => .ofString "unknown"
  | some version => version.display

/-- Scan a project and write its routes. -/
def scanAndWrite (screen : Console.Screen) (o : Options) (root : String) : Run Failure Nat := do
  let scan ← (Project.scan o.basePrefix root).mapError .scan
  if scan.isLaravel then
    o.sayCodes screen
      (.ofString "[green]✓[/green] Laravel detected: " ++ versionText scan.version)
  o.say screen ("[green]✓[/green] Resolved " ++ toString scan.routes.length ++ " route(s) in "
    ++ toString scan.files.length ++ " file(s)")
  writeRoutes screen o scan
  return 0

/-- Do what the options ask for on a console; the answer is the code that the command ends with. -/
def execute (screen : Console.Screen) (o : Options) : Run Failure Nat := do
  match ← ExceptT.lift (Source.resolve o.source o.token) with
  | .error e =>
    o.say screen ("[red]Error:[/red] " ++ e.message)
    return 1
  | .ok root => (scanAndWrite screen o root).followedBy (Source.cleanUp o.source)

/-- The text of lines, each with its end. -/
def stringLines (ls : List String) : String := linesText (ls.map String.toList)

/-- The command on a console; `token` stands for a token that is
not among the arguments. -/
def run (screen : Console.Screen) (token : Option String) (args : List String) : Run Failure Nat :=
  match Request.ofArguments token args with
  | .error e => do
    ExceptT.lift (Machine.report (.warned (plain (stringLines e.lines))))
    return 2
  | .ok .help => do
    ExceptT.lift (Machine.report (.printed (stringLines helpLines)))
    return 0
  | .ok .version => do
    ExceptT.lift (Machine.report (.printed (stringLines versionLines)))
    return 0
  | .ok (.run o) => execute screen o

/-- The lowest level of log records that are shown. -/
def logLevel (token : Option String) (args : List String) : Level :=
  match Request.ofArguments token args with
  | .ok (.run o) => if o.isVerbose then .debug else .info
  | _ => .info

/-- What events put on the standard output. -/
def standardOutput (events : List Event) : String :=
  String.join (events.map fun
    | .printed text => text
    | _ => "")

/-- What events put on the standard error, if log records of a level and above
are shown. -/
def standardError (level : Level) (events : List Event) : String :=
  String.join (events.map fun
    | .warned text => text
    | .logged entry => if level.rank ≤ entry.level.rank then entry.line ++ "\n" else ""
    | _ => "")

end RoutePaths.CommandLine
