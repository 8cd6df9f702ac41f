import RoutePaths.Action
import RoutePaths.CommandLine.Command
import RoutePaths.Proofs.Project.Scan

/-!
# RoutePaths.Proofs.Project.Output

What the command and the workflow step do with a project.  Both scan it, report, and
write files, and nothing else: both are plain (`CommandLine.plain_scanAndWrite`,
`Action.plain_scanAndWrite`).  Before that both resolve a source, and go on with what it
is resolved to (`CommandLine.run_execute`, `Action.run_run`).
-/

namespace RoutePaths

variable {writes : Prop}

namespace Run

theorem plain_readFile (path : String) : Plain writes (readFile path).run :=
  Plain.run_look (fun _ => Plain.run_mk _) fun _ _ => rfl

theorem plain_documentOf (scan : Project.Scan) (excludeResources : Bool) :
    Plain writes (documentOf scan excludeResources).run :=
  (Plain.run_mk _).run_bind fun _ => Plain.run_pure _

end Run

/-! ## the command -/

namespace CommandLine

/-- A text is put into the file of the options or printed. -/
theorem plain_put (o : Options) (text : String) : Plain writes (o.put text).run := by
  refine Plain.run_report ?_
  split <;> rfl

theorem plain_say (o : Options) (screen : Console.Screen) (message : String) :
    Plain writes (o.say screen message).run :=
  (Plain.run_mk _).run_bind fun _ => plain_put o _

theorem plain_sayCodes (o : Options) (screen : Console.Screen) (message : Text.CodePoints) :
    Plain writes (o.sayCodes screen message).run := by
  rw [Options.sayCodes]
  split
  · exact plain_say o screen _
  · refine (Plain.run_mk _).run_bind fun ls => ?_
    dsimp only
    split
    · exact plain_put o _
    · exact Plain.run_throw _

theorem plain_echo (text : String) : Plain writes (echo text).run := Plain.run_report rfl

theorem plain_echoAnnotated (root : String) (routes : List Route) (names : List String) :
    Plain writes (echoAnnotated root routes names).run := by
  induction names with
  | nil => exact Plain.run_pure _
  | cons name rest ih =>
    refine (Run.plain_readFile _).run_bind fun bytes => ?_
    refine (plain_echo _).run_bind fun _ => ?_
    exact (plain_echo _).run_bind fun _ => ih

/-- The document is put where the options say and touches nothing else. -/
theorem plain_writeDocument (hwrites : writes) (screen : Console.Screen) (o : Options)
    (scan : Project.Scan) :
    Plain writes (writeDocument screen o scan).run := by
  refine (Run.plain_documentOf _ _).run_bind fun value => ?_
  dsimp only
  split
  · exact plain_echo _
  · exact (Plain.writeFile hwrites _ _).run_bind fun _ => plain_say o screen _

/-- The same for the routes. -/
theorem plain_writeRoutes (hwrites : writes) (screen : Console.Screen) (o : Options)
    (scan : Project.Scan) :
    Plain writes (writeRoutes screen o scan).run := by
  rw [writeRoutes]
  split
  · exact (Plain.run_mk _).run_bind fun _ => plain_put o _
  · exact plain_echoAnnotated _ _ _
  · exact plain_writeDocument hwrites screen o scan
  · exact plain_writeDocument hwrites screen o scan

/-- **What the command does with a project is plain.** -/
theorem plain_scanAndWrite (hwrites : writes) (screen : Console.Screen) (o : Options)
    (root : String) :
    Plain writes (scanAndWrite screen o root).run := by
  refine ((Project.plain_scan _ _).run_mapError _).run_bind fun scan => ?_
  have hrest : Plain writes (do
      o.say screen ("[green]✓[/green] Resolved " ++ toString scan.routes.length ++ " route(s) in "
        ++ toString scan.files.length ++ " file(s)")
      writeRoutes screen o scan
      return 0 : Run Failure Nat).run :=
    (plain_say o screen _).run_bind fun _ =>
      (plain_writeRoutes hwrites screen o scan).run_bind fun _ => Plain.run_pure _
  split
  · exact (plain_sayCodes o screen _).run_bind fun _ => hrest
  · exact hrest

/-- What the command does once its source is resolved. -/
def proceed (screen : Console.Screen) (o : Options) :
    Except Source.SourceError String → Run Failure Nat
  | .error e => do
    o.say screen ("[red]Error:[/red] " ++ e.message)
    return 1
  | .ok root => (scanAndWrite screen o root).followedBy (Source.cleanUp o.source)

/-- A command resolves its source and goes on with the result. -/
theorem execute_eq (screen : Console.Screen) (o : Options) :
    execute screen o = ExceptT.lift (Source.resolve o.source o.token) >>= proceed screen o :=
  congrArg (ExceptT.lift (Source.resolve o.source o.token) >>= ·) <| funext fun result => by
    cases result <;> rfl

/-- The command goes on with what its source is resolved to. -/
theorem run_execute (m : Machine) (screen : Console.Screen) (o : Options) :
    (execute screen o).run m =
      (proceed screen o (Source.resolve o.source o.token m).1).run
        (Source.resolve o.source o.token m).2 := by
  rw [execute_eq, Run.run_lift_bind]

end CommandLine

/-! ## the workflow step -/

namespace Action

theorem plain_say (line : String) : Plain writes (say line).run := Plain.run_report rfl

theorem plain_appendTo (hwrites : writes) (env : Environment) (name text : String) :
    Plain writes (appendTo env name text).run := by
  rw [appendTo]
  split
  · exact Plain.run_pure _
  · exact .appendFile hwrites _ _

/-- **What the step does with a project is plain.** -/
theorem plain_scanAndWrite (hwrites : writes) (env : Environment) (inputs : Inputs)
    (root : String) : Plain writes (scanAndWrite env inputs root).run := by
  refine ((Project.plain_scan _ _).run_mapError _).run_bind fun scan => ?_
  refine (plain_say _).run_bind fun _ => ?_
  refine (Run.plain_documentOf _ _).run_bind fun value => ?_
  refine (Plain.writeFile hwrites _ _).run_bind fun _ => ?_
  refine (plain_say _).run_bind fun _ => ?_
  refine (plain_appendTo hwrites env _ _).run_bind fun _ => ?_
  refine (plain_appendTo hwrites env _ _).run_bind fun _ => ?_
  refine (plain_appendTo hwrites env _ _).run_bind fun _ => ?_
  split
  · refine (plain_say _).run_bind fun _ => ?_
    exact (plain_appendTo hwrites env _ _).run_bind fun _ => Plain.run_pure _
  · exact (plain_appendTo hwrites env _ _).run_bind fun _ => Plain.run_pure _

/-- What the step does once its source is resolved. -/
def proceed (env : Environment) (inputs : Inputs) :
    Except Source.SourceError String → Run Failure Nat
  | .error e => do
    say ("::error::Failed to resolve repo: " ++ e.message)
    return 1
  | .ok root => do
    say ("Repo resolved: " ++ root)
    (scanAndWrite env inputs root).followedBy (Source.cleanUp inputs.source)

/-- The action resolves its source and goes on with the result. -/
theorem run_eq (env : Environment) :
    run env = ExceptT.lift (Source.resolve (Inputs.ofEnvironment env).source
      (Inputs.ofEnvironment env).token) >>= proceed env (.ofEnvironment env) :=
  congrArg (ExceptT.lift (Source.resolve _ _) >>= ·) <| funext fun result => by
    cases result <;> rfl

/-- The step goes on with what its source is resolved to. -/
theorem run_run (m : Machine) (env : Environment) :
    (run env).run m =
      (proceed env (.ofEnvironment env) (Source.resolve (Inputs.ofEnvironment env).source
        (Inputs.ofEnvironment env).token m).1).run
        (Source.resolve (Inputs.ofEnvironment env).source
          (Inputs.ofEnvironment env).token m).2 := by
  rw [run_eq, Run.run_lift_bind]

end Action

end RoutePaths
