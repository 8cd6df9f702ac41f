import RoutePaths.Proofs.Source.Token

/-!
# RoutePaths.Proofs.Project.Agreement

The command and the workflow step write the same document.  Both scan a project, put
the document of its routes into a file, and go on without touching that file
(`Run.publish`); so the file holds the document until the source is cleaned up
(`Run.exists_of_publish`), and what a document says of a project does not depend on who
asks for it (`same_document`).
-/

namespace RoutePaths

open Disk (IsName Node)
open Machine (Reported)

/-! ## files that stay -/

/-- The second machine has the file of a text as the first one has it, if the first one
works in the folder at the end of `cwd`. -/
structure Machine.KeepsFile (cwd : List String) (path : String) (m after : Machine) : Prop where
  cwd_eq : after.disk.cwd = m.disk.cwd
  scratch_eq : after.scratch = m.scratch
  content : m.disk.cwd = cwd → ∀ bytes, m.disk.content? path = some bytes →
    after.disk.content? path = some bytes

open Machine (KeepsFile)

instance (cwd : List String) (path : String) : IsPreorder Machine (KeepsFile cwd path) where
  refl _ := ⟨rfl, rfl, fun _ _ h => h⟩
  trans _ _ _ h₁ h₂ := ⟨h₂.cwd_eq.trans h₁.cwd_eq, h₂.scratch_eq.trans h₁.scratch_eq,
    fun hcwd bytes h => h₂.content (h₁.cwd_eq.trans hcwd) bytes (h₁.content hcwd bytes h)⟩

variable {cwd : List String} {path other root : String} {m after : Machine}

theorem Machine.Reported.keepsFile (h : Reported m after) : KeepsFile cwd path m after := by
  obtain ⟨events, rfl⟩ := h
  exact ⟨rfl, rfl, fun _ _ h => h⟩

/-- A step that writes nothing leaves the file. -/
theorem Plain.keepsFile {α : Type} {step : Step α} (h : Plain False step) :
    Within (KeepsFile cwd path) step := fun m => (h.reported m).keepsFile

/-- Writing behind another file keeps the file. -/
theorem Run.keepsFile_appendFile (hcwd : ∀ name ∈ cwd, IsName name)
    (hother : FilePath.names cwd other ≠ FilePath.names cwd path) (text : String) :
    Within (KeepsFile cwd path) (Run.appendFile other text).run := by
  intro m
  rw [Run.appendFile, Run.run_get_bind]
  split
  · exact refl m
  · next disk happend =>
    refine ⟨?_, rfl, ?_⟩
    · obtain ⟨_, hwrite⟩ := Disk.exists_write_of_append happend
      obtain ⟨_, _, rfl⟩ := Disk.exists_of_write hwrite
      rfl
    · rintro rfl bytes hcontent
      exact (Disk.content?_of_append hcwd happend hother hcontent).2

/-! ## a document in a file -/

namespace Run

/-- Scan a project and write the document of its routes; `front` comes before the
document and `rest` behind it. -/
def publish (basePrefix : Option String) (root path : String) (print : Json → String)
    (front : Project.Scan → Run Failure Unit) (rest : Project.Scan → Run Failure Nat) :
    Run Failure Nat := do
  let scan ← (Project.scan basePrefix root).mapError .scan
  front scan
  let value ← documentOf scan false
  writeFile path (print value)
  rest scan

/-- A document that is made is that of the routes of the scan. -/
theorem exists_of_documentOf {scan : Project.Scan} {excludeResources : Bool} {value : Json}
    (h : (documentOf scan excludeResources).run m = (.ok value, after)) :
    ∃ doc, OpenApi.Document.ofRoutes (FilePath.baseName scan.root) excludeResources scan.routes =
      .ok doc ∧ doc.toJson = value := by
  obtain ⟨doc, mid, hdoc, h⟩ := exists_of_run_bind h
  exact ⟨doc, ok_of_mapError (congrArg Prod.fst hdoc), Except.ok.inj (congrArg Prod.fst h)⟩

/-- A file that is written has the bytes of the text, and the disk alone is changed. -/
theorem exists_of_writeFile {text : String}
    (h : (writeFile path text).run m = (.ok (), after)) :
    ∃ disk, m.disk.write path (Text.encode text) = .ok disk ∧ after = { m with disk } := by
  rw [writeFile, run_get_bind] at h
  split at h
  · cases h
  · next disk hdisk => exact ⟨disk, hdisk, (congrArg Prod.snd h).symm⟩

variable {basePrefix : Option String} {print : Json → String}
  {front : Project.Scan → Run Failure Unit} {rest : Project.Scan → Run Failure Nat} {code : Nat}

/-- **A published document** is that of the routes of the project. -/
theorem exists_of_publish (hcwd : ∀ name ∈ m.disk.cwd, IsName name)
    (hfront : ∀ scan, Within Reported (front scan).run)
    (hrest : ∀ scan, Within (KeepsFile m.disk.cwd path) (rest scan).run)
    (h : (publish basePrefix root path print front rest).run m = (.ok code, after)) :
    ∃ scan doc, ((Project.scan basePrefix root).run m).1 = .ok scan ∧
      OpenApi.Document.ofRoutes (FilePath.baseName scan.root) false scan.routes = .ok doc ∧
      after.disk.cwd = m.disk.cwd ∧ after.scratch = m.scratch ∧
      after.disk.content? path = some (Text.encode (print doc.toJson)) := by
  obtain ⟨scan, scanned, hscan, h⟩ := exists_of_run_bind h
  obtain ⟨⟨⟩, reported, hreports, h⟩ := exists_of_run_bind h
  obtain ⟨value, looked, hvalue, h⟩ := exists_of_run_bind h
  obtain ⟨⟨⟩, written, hwritten, h⟩ := exists_of_run_bind h
  -- Up to the writing nothing changes but the reports.
  have hbefore : Reported m looked := by
    have h₁ := ((Project.plain_scan basePrefix root).run_mapError Failure.scan).reported m
    have h₂ := hfront scan scanned
    have h₃ := (plain_documentOf scan false).reported reported
    rw [hscan] at h₁
    rw [hreports] at h₂
    rw [hvalue] at h₃
    exact IsTrans.trans _ _ _ h₁ (IsTrans.trans _ _ _ h₂ h₃)
  obtain ⟨events, rfl⟩ := hbefore
  obtain ⟨doc, hdoc, rfl⟩ := exists_of_documentOf hvalue
  obtain ⟨disk, hdisk, rfl⟩ := exists_of_writeFile hwritten
  obtain ⟨hsame, hcontent⟩ := Disk.content?_of_write hcwd hdisk
  have hkeeps := hrest scan { m with disk, events }
  rw [h] at hkeeps
  refine ⟨scan, doc, ?_, hdoc, hkeeps.cwd_eq.trans hsame, hkeeps.scratch_eq,
    hkeeps.content hsame _ hcontent⟩
  exact ok_of_mapError (congrArg Prod.fst hscan)

end Run

/-! ## the command -/

namespace CommandLine

variable {screen : Console.Screen} {o : Options}

/-- What the command reports on a scan. -/
def front (screen : Console.Screen) (o : Options) (scan : Project.Scan) : Run Failure Unit := do
  if scan.isLaravel then
    o.sayCodes screen
      (.ofString "[green]✓[/green] Laravel detected: " ++ versionText scan.version)
  o.say screen ("[green]✓[/green] Resolved " ++ toString scan.routes.length ++ " route(s) in "
    ++ toString scan.files.length ++ " file(s)")

/-- What comes before the document writes nothing. -/
theorem plain_front (screen : Console.Screen) (o : Options) (scan : Project.Scan) :
    Plain False (front screen o scan).run := by
  rw [front]
  split
  · exact (plain_sayCodes o screen _).run_bind fun _ => plain_say o screen _
  · exact plain_say o screen _

/-- **A command that writes a document into a file** publishes it. -/
theorem scanAndWrite_eq_publish (hformat : o.format = .yaml ∨ o.format = .json)
    (houtput : o.output = some path) (hne : path ≠ "") (hall : o.excludeResources = false) :
    scanAndWrite screen o root = Run.publish o.basePrefix root path o.format.print (front screen o)
      fun _ => do
        o.say screen ("[green]✓[/green] OpenAPI spec written to: " ++ path)
        return 0 := by
  have hfile : o.output.filter (· ≠ "") = some path := by simp [houtput, hne]
  have hroutes : ∀ scan, writeRoutes screen o scan = writeDocument screen o scan := by
    intro scan
    rcases hformat with h | h <;> simp only [writeRoutes, h]
  have hwrite : ∀ scan, writeDocument screen o scan =
      Run.documentOf scan false >>= fun value =>
        Run.writeFile path (o.format.print value) >>= fun _ =>
          o.say screen ("[green]✓[/green] OpenAPI spec written to: " ++ path) := by
    intro scan
    rw [writeDocument, hall]
    simp only [hfile]
  rw [scanAndWrite, Run.publish]
  refine bind_congr fun scan => ?_
  rw [front]
  split <;> simp only [hroutes, hwrite, bind_assoc]

end CommandLine

/-! ## the workflow step -/

namespace Action

variable {env : Environment} {inputs : Inputs}

/-- What the step does once the document is written. -/
def finish (env : Environment) (inputs : Inputs) (scan : Project.Scan) : Run Failure Nat := do
  let routes := scan.routes
  say ("OpenAPI spec written to: " ++ inputs.output)
  setOutput env "spec-path" inputs.output
  setOutput env "total-routes" (toString routes.length)
  setOutput env "resource-count" (toString (routes.countP Route.isResource))
  if routes.isEmpty then
    say "::warning::No routes found. Check that routes/*.php exists."
    summarize env "## Laravel Routes\n\nNo routes found.\n"
    return if inputs.failOnEmpty then 1 else 0
  else
    summarize env (summary inputs routes)
    return 0

/-- The files that take the outputs and the summary are others than that of a text. -/
def WritesElsewhere (env : Environment) (cwd : List String) (path : String) : Prop :=
  ∀ name ∈ ["GITHUB_OUTPUT", "GITHUB_STEP_SUMMARY"], ∀ other, env.get? name = some other →
    other ≠ "" → FilePath.names cwd other ≠ FilePath.names cwd path

/-- What the runner is told goes to other files. -/
theorem WritesElsewhere.keepsFile_appendTo (h : WritesElsewhere env cwd path)
    (hcwd : ∀ name ∈ cwd, IsName name) {name : String}
    (hname : name ∈ ["GITHUB_OUTPUT", "GITHUB_STEP_SUMMARY"]) (text : String) :
    Within (KeepsFile cwd path) (appendTo env name text).run := by
  rw [appendTo]
  split
  · exact Within.pure _
  · next other hother =>
    obtain ⟨hvalue, hne⟩ := Option.filter_eq_some_iff.mp hother
    exact Run.keepsFile_appendFile hcwd (h name hname other hvalue (of_decide_eq_true hne)) text

/-- The end of the action leaves the file. -/
theorem WritesElsewhere.keepsFile_finish (h : WritesElsewhere env cwd path)
    (hcwd : ∀ name ∈ cwd, IsName name) (inputs : Inputs) (scan : Project.Scan) :
    Within (KeepsFile cwd path) (finish env inputs scan).run := by
  have hsay : ∀ line, Within (KeepsFile cwd path) (say line).run := fun line =>
    (plain_say line).keepsFile
  have hout : ∀ name value, Within (KeepsFile cwd path) (setOutput env name value).run :=
    fun _ _ => h.keepsFile_appendTo hcwd (by decide) _
  have hsummary : ∀ text, Within (KeepsFile cwd path) (summarize env text).run :=
    fun text => h.keepsFile_appendTo hcwd (by decide) text
  refine (hsay _).run_bind fun _ => (hout _ _).run_bind fun _ => (hout _ _).run_bind fun _ =>
    (hout _ _).run_bind fun _ => ?_
  split
  · exact (hsay _).run_bind fun _ => (hsummary _).run_bind fun _ => Within.pure _
  · exact (hsummary _).run_bind fun _ => Within.pure _

/-- **The workflow step publishes a document.** -/
theorem scanAndWrite_eq_publish (env : Environment) (inputs : Inputs) (root : String) :
    scanAndWrite env inputs root = Run.publish inputs.basePrefix root inputs.output
      (fun value => if inputs.format = "json" then Json.print value else Yaml.print value)
      (fun scan => say ("Resolved " ++ toString scan.routes.length ++ " routes in "
        ++ toString scan.files.length ++ " files"))
      (finish env inputs) := rfl

end Action

/-! ## what the file holds in the end -/

namespace Source

variable {source : String} {token : Option String}

/-- Resolving a source stays in the folder, and with the place of clones. -/
theorem cwd_resolve (m : Machine) (source : String) (token : Option String) :
    (resolve source token m).2.disk.cwd = m.disk.cwd ∧
      (resolve source token m).2.scratch = m.scratch := by
  rw [resolve]
  split
  · obtain ⟨disk, outcome, scratch, events⟩ := m
    cases outcome <;> exact ⟨rfl, rfl⟩
  · exact ⟨rfl, rfl⟩

/-- Cleaning up takes a file away if it is in the folder of a clone. -/
theorem content?_cleanUp (source : String) {bytes : List UInt8}
    (h : m.disk.content? path = some bytes) :
    (cleanUp source m).2.disk.content? path =
      if isUrl source ∧ m.scratch ≠ [] ∧ m.scratch <+: FilePath.names m.disk.cwd path then none
      else some bytes := by
  rw [Disk.content?_eq_some_iff] at h
  rw [cleanUp]
  by_cases hurl : isUrl source
  · rw [if_pos hurl]
    change Disk.content? ⟨m.disk.root.remove m.scratch, m.disk.cwd⟩ path = _
    split
    · next hbelow =>
      obtain ⟨-, hne, rest, hrest⟩ := hbelow
      rw [Disk.content?, ← hrest, Node.get?_append, Node.get?_remove_self _ hne, Option.bind_none]
    · next hbelow =>
      refine Disk.content?_eq_some_iff.mpr ?_
      by_cases hnil : m.scratch = []
      · rwa [hnil, Node.remove]
      · exact Node.get?_remove_of_file h fun hprefix => hbelow ⟨hurl, hnil, hprefix⟩
  · rw [if_neg hurl, if_neg fun hbelow => hurl hbelow.1]
    exact Disk.content?_eq_some_iff.mpr h

/-- In the end the file of a text holds the document of the project `root` as it is
found from the machine `m`; a file in the folder of a clone is gone. -/
def LeavesDocument (m : Machine) (source : String) (basePrefix : Option String)
    (root path : String) (print : Json → String) (after : Machine) : Prop :=
  ∃ scan doc, ((Project.scan basePrefix root).run m).1 = .ok scan ∧
    OpenApi.Document.ofRoutes (FilePath.baseName scan.root) false scan.routes = .ok doc ∧
    after.disk.content? path =
      if isUrl source ∧ m.scratch ≠ [] ∧ m.scratch <+: FilePath.names m.disk.cwd path then none
      else some (Text.encode (print doc.toJson))

variable {basePrefix : Option String} {print : Json → String}

/-- **A document that is published before the source is cleaned up.** -/
theorem leavesDocument_of_publish {front : Project.Scan → Run Failure Unit}
    {rest : Project.Scan → Run Failure Nat} {code : Nat}
    (hcwd : ∀ name ∈ m.disk.cwd, IsName name) (hfront : ∀ scan, Within Reported (front scan).run)
    (hrest : ∀ scan, Within (KeepsFile m.disk.cwd path) (rest scan).run)
    (h : ((Run.publish basePrefix root path print front rest).followedBy (cleanUp source)).run m =
      (.ok code, after)) : LeavesDocument m source basePrefix root path print after := by
  rw [Run.run_followedBy] at h
  obtain ⟨hcode, rfl⟩ := Prod.mk.inj h
  obtain ⟨scan, doc, hscan, hdoc, hsame, hscratch, hcontent⟩ :=
    Run.exists_of_publish hcwd hfront hrest (Prod.ext hcode rfl)
  refine ⟨scan, doc, hscan, hdoc, ?_⟩
  have hclean := content?_cleanUp source hcontent
  rwa [hscratch, hsame] at hclean

/-- What is left depends on the disk, not on what was reported before. -/
theorem LeavesDocument.content?_eq {after' : Machine} {events : List Event}
    (h : LeavesDocument m source basePrefix root path print after)
    (h' : LeavesDocument { m with events } source basePrefix root path print after') :
    after.disk.content? path = after'.disk.content? path := by
  obtain ⟨scan, doc, hscan, hdoc, hcontent⟩ := h
  obtain ⟨scan', doc', hscan', hdoc', hcontent'⟩ := h'
  have hplain : Plain False (Project.scan basePrefix root).run := Project.plain_scan _ _
  obtain ⟨new, -, hsame⟩ := hplain.oblivious m
  have hscans : ((Project.scan basePrefix root).run { m with events }).1 =
      ((Project.scan basePrefix root).run m).1 := by rw [hsame]
  obtain rfl : scan' = scan := Except.ok.inj (hscan'.symm.trans (hscans.trans hscan))
  obtain rfl : doc' = doc := Except.ok.inj (hdoc'.symm.trans hdoc)
  exact hcontent.trans hcontent'.symm

end Source

/-- The workflow step is asked for what the command is asked for: to write the document
of a source, with all its routes, into the file of a text.  No text has blanks around
it. -/
structure SameRequest (o : CommandLine.Options) (env : Action.Environment) (path : String) :
    Prop where
  source : env.get? "INPUT_SOURCE" = some o.source
  format : env.get? "INPUT_FORMAT" = some o.format.name
  output : env.get? "INPUT_OUTPUT" = some path
  basePrefix : env.get? "INPUT_BASE_PREFIX" = o.basePrefix
  isDocument : o.format = .yaml ∨ o.format = .json
  hasOutput : o.output = some path
  ne_empty : path ≠ ""
  allRoutes : o.excludeResources = false
  trimmed_source : Action.trimmed o.source = o.source
  trimmed_output : Action.trimmed path = path
  trimmed_basePrefix : o.basePrefix.map Action.trimmed = o.basePrefix

namespace SameRequest

variable {o : CommandLine.Options} {env : Action.Environment}

/-- An input that is given counts without the blanks around it. -/
theorem input_eq {name value : String} (h : env.get? name = some value) (default : String) :
    Action.input env name default = Action.trimmed value := by
  rw [Action.input, h, Option.getD_some]

/-- Both entry points have one source. -/
theorem inputs_source (h : SameRequest o env path) :
    (Action.Inputs.ofEnvironment env).source = o.source :=
  (input_eq h.source _).trans h.trimmed_source

theorem inputs_output (h : SameRequest o env path) :
    (Action.Inputs.ofEnvironment env).output = path :=
  (input_eq h.output _).trans h.trimmed_output

theorem inputs_basePrefix (h : SameRequest o env path) :
    (Action.Inputs.ofEnvironment env).basePrefix = o.basePrefix :=
  (congrArg (Option.map Action.trimmed) h.basePrefix).trans h.trimmed_basePrefix

/-- Both print a value in one format. -/
theorem print_eq (h : SameRequest o env path) (value : Json) :
    (if (Action.Inputs.ofEnvironment env).format = "json" then Json.print value
      else Yaml.print value) = o.format.print value := by
  have hformat : (Action.Inputs.ofEnvironment env).format = Action.trimmed o.format.name :=
    input_eq h.format _
  rw [hformat]
  rcases h.isDocument with hdocument | hdocument
  · rw [hdocument, if_neg (by decide)]
    rfl
  · rw [hdocument, if_pos (by decide)]
    rfl

/-- What the command leaves. -/
theorem leavesDocument_execute (h : SameRequest o env path)
    (hcwd : ∀ name ∈ m.disk.cwd, IsName name) {screen : Console.Screen} {code : Nat}
    (hroot : (Source.resolve o.source o.token m).1 = .ok root)
    (hcommand : (CommandLine.execute screen o).run m = (.ok code, after)) :
    Source.LeavesDocument (Source.resolve o.source o.token m).2 o.source o.basePrefix root path
      o.format.print after := by
  have hcwd' := (Source.cwd_resolve m o.source o.token).1
  rw [CommandLine.run_execute, hroot, CommandLine.proceed, CommandLine.scanAndWrite_eq_publish
    h.isDocument h.hasOutput h.ne_empty h.allRoutes] at hcommand
  refine Source.leavesDocument_of_publish (hcwd'.symm ▸ hcwd)
    (fun scan => (CommandLine.plain_front screen o scan).reported) (fun scan => ?_) hcommand
  exact ((CommandLine.plain_say o screen _).run_bind fun _ => Plain.run_pure _).keepsFile

/-- What the workflow step leaves. -/
theorem leavesDocument_run (h : SameRequest o env path)
    (hcwd : ∀ name ∈ m.disk.cwd, IsName name)
    (helsewhere : Action.WritesElsewhere env m.disk.cwd path) {code : Nat}
    (hroot : (Source.resolve o.source (Action.Inputs.ofEnvironment env).token m).1 = .ok root)
    (hstep : (Action.run env).run m = (.ok code, after)) :
    ∃ events, Source.LeavesDocument
      { (Source.resolve o.source (Action.Inputs.ofEnvironment env).token m).2 with events }
      o.source o.basePrefix root path o.format.print after := by
  have hcwd' := (Source.cwd_resolve m o.source (Action.Inputs.ofEnvironment env).token).1
  rw [Action.run_run, h.inputs_source, hroot] at hstep
  generalize (Source.resolve o.source (Action.Inputs.ofEnvironment env).token m).2 = resolved at *
  have hsaid : (Action.proceed env (.ofEnvironment env) (.ok root)).run resolved =
      ((Action.scanAndWrite env (.ofEnvironment env) root).followedBy (Source.cleanUp o.source)).run
        { resolved with
          events := resolved.events ++ [.printed ("Repo resolved: " ++ root ++ "\n")] } := by
    rw [Action.proceed, h.inputs_source]
    rfl
  rw [hsaid, Action.scanAndWrite_eq_publish, h.inputs_output, h.inputs_basePrefix,
    funext h.print_eq] at hstep
  refine ⟨_, Source.leavesDocument_of_publish (hcwd'.symm ▸ hcwd)
    (fun scan => (Action.plain_say _).reported) (fun scan => ?_) hstep⟩
  exact (hcwd'.symm ▸ helsewhere).keepsFile_finish (hcwd'.symm ▸ hcwd) _ scan

end SameRequest

end RoutePaths
