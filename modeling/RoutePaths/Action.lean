import RoutePaths.Failure
import RoutePaths.Json.Printer
import RoutePaths.Source
import RoutePaths.Text.Casing
import RoutePaths.Yaml.Printer

/-!
# RoutePaths.Action

The step of a build workflow that writes the document of a project.  Its inputs
are variables of the environment, its outputs are lines behind those of a file
that the environment names, and it writes a summary behind another.  Blanks
around an input do not count.
-/

namespace RoutePaths.Action

/-! ## Inputs -/

/-- The variables of an environment. -/
abbrev Environment := Ledger String String

/-- The text without the blanks around it. -/
def trimmed (s : String) : String := String.ofList (Text.trim s.toList)

/-- The value of an input. -/
def input (env : Environment) (name default : String) : String :=
  trimmed ((env.get? name).getD default)

/-- Whether an input says yes. -/
def isOn (env : Environment) (name : String) : Bool :=
  ["true", "1", "yes"].contains (String.ofList (Text.lower (input env name "").toList))

/-- What the step is asked to do. -/
structure Inputs where
  source : String
  output : String
  format : String
  basePrefix : Option String
  token : Option String
  failOnEmpty : Bool
  deriving Repr, DecidableEq, Inhabited

/-- The inputs in an environment.  A prefix that is not set is the one that the
names of files stand for; an empty one is no prefix. -/
def Inputs.ofEnvironment (env : Environment) : Inputs where
  source := input env "INPUT_SOURCE" "."
  output := input env "INPUT_OUTPUT" "routes-openapi.yaml"
  format := input env "INPUT_FORMAT" "yaml"
  basePrefix := (env.get? "INPUT_BASE_PREFIX").map trimmed
  token := some (input env "INPUT_TOKEN" "") |>.filter (· ≠ "")
  failOnEmpty := isOn env "INPUT_FAIL_ON_EMPTY"

/-! ## Outputs -/

/-- Write a line to the standard output. -/
def say (line : String) : Run Failure Unit :=
  ExceptT.lift (Machine.report (.printed (line ++ "\n")))

/-- Write behind the file that a variable names, if it names one. -/
def appendTo (env : Environment) (name text : String) : Run Failure Unit :=
  match (env.get? name).filter (· ≠ "") with
  | none => return
  | some path => Run.appendFile path text

/-- Give a value to an output of the step. -/
def setOutput (env : Environment) (name value : String) : Run Failure Unit :=
  appendTo env "GITHUB_OUTPUT" (name ++ "=" ++ value ++ "\n")

/-- Write text to the summary of the step. -/
def summarize (env : Environment) (text : String) : Run Failure Unit :=
  appendTo env "GITHUB_STEP_SUMMARY" text

/-- A text set as code. -/
def code (s : String) : String := "\x60" ++ s ++ "\x60"

/-- The row of a route in the summary. -/
def row (r : Route) : String :=
  "| " ++ code r.methodLabel ++ " | " ++ code r.resolvedPath ++ " | " ++ r.sourceFile ++ ":"
    ++ toString (r.lineIndex + 1) ++ " |\n"

/-- The summary of routes, by file and line. -/
def summary (inputs : Inputs) (routes : List Route) : String :=
  "## Laravel Routes\n\n" ++ "| Method | Route Path | Source |\n" ++ "|---|---|---|\n"
    ++ String.join ((Route.ordered routes).map row)
    ++ "\nSpec written to " ++ code inputs.output ++ " (" ++ inputs.format ++ ")\n"

/-! ## The step -/

/-- Scan a project and write its document and the outputs. -/
def scanAndWrite (env : Environment) (inputs : Inputs) (root : String) : Run Failure Nat := do
  let scan ← (Project.scan inputs.basePrefix root).mapError .scan
  let routes := scan.routes
  say ("Resolved " ++ toString routes.length ++ " routes in " ++ toString scan.files.length
    ++ " files")
  let value ← Run.documentOf scan false
  Run.writeFile inputs.output
    (if inputs.format = "json" then Json.print value else Yaml.print value)
  say ("OpenAPI spec written to: " ++ inputs.output)
  setOutput env "spec-path" inputs.output
  setOutput env "total-routes" (toString routes.length)
  setOutput env "resource-count" (toString (routes.countP Route.isResource))
  if routes.isEmpty then
    say "::warning::No routes found. Check that routes/*.php exists."
    summarize env "## Laravel Routes\n\nNo routes found.\n"
    return if inputs.failOnEmpty then 1 else 0
  else
    summarize env (summary inputs routes)
    return 0

/-- The step in an environment; the answer is the code that it ends with. -/
def run (env : Environment) : Run Failure Nat := do
  let inputs := Inputs.ofEnvironment env
  match ← ExceptT.lift (Source.resolve inputs.source inputs.token) with
  | .error e =>
    say ("::error::Failed to resolve repo: " ++ e.message)
    return 1
  | .ok root =>
    say ("Repo resolved: " ++ root)
    (scanAndWrite env inputs root).followedBy (Source.cleanUp inputs.source)

end RoutePaths.Action
