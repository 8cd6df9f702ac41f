import RoutePaths.Proofs.Project.Output
import RoutePaths.Proofs.Source.Clone

/-!
# RoutePaths.Proofs.Source.Leftover

What the command and the workflow step leave of a clone.  Both resolve their
source, and both clean up behind what they do with the project, which is plain and
so makes no folder (`Plain.noFolderMade`).  A source that gives no project is
reported, and then they end; so of a clone without a folder `routes`, and of one
that failed, the folder stays (`clone_left_iff`).
-/

namespace RoutePaths

/-! ## the command -/

namespace CommandLine

theorem hasFolder_execute_iff {m : Machine} (hfresh : Source.Fresh m) (screen : Console.Screen)
    (o : Options) :
    ((execute screen o).run m).2.disk.root.HasFolder m.scratch ↔
      Source.isUrl o.source ∧ ¬Source.FetchesProject m :=
  Source.hasFolder_resolve_iff hfresh
    (fun _ => ((plain_say o screen _).run_bind fun _ => Plain.run_pure _).reported)
    fun root => Source.cleansUp_followedBy
      (plain_scanAndWrite trivial screen o root).noFolderMade o.source

/-- The folder of a clone that the command leaves. -/
theorem hasFolder_run_iff {m : Machine} (hfresh : Source.Fresh m) (screen : Console.Screen)
    (token : Option String) (args : List String) :
    ((run screen token args).run m).2.disk.root.HasFolder m.scratch ↔
      ∃ o, Request.ofArguments token args = .ok (.run o) ∧ Source.isUrl o.source ∧
        ¬Source.FetchesProject m := by
  -- Without a request to run there is no source, and nothing but a report.
  have hother : ∀ {step : Run Failure Nat}, Within Machine.Reported step.run →
      (∀ o, Request.ofArguments token args ≠ .ok (.run o)) →
      ((step.run m).2.disk.root.HasFolder m.scratch ↔
        ∃ o, Request.ofArguments token args = .ok (.run o) ∧ Source.isUrl o.source ∧
          ¬Source.FetchesProject m) := by
    intro step hstep hrequest
    rw [(hstep m).disk_eq]
    exact iff_of_false hfresh.not_hasFolder fun ⟨o, ho, _⟩ => hrequest o ho
  have hreport : ∀ (e : Event) (code : Nat), Within Machine.Reported
      (do ExceptT.lift (Machine.report e); return code : Run Failure Nat).run :=
    fun _ _ _ => ⟨_, rfl⟩
  rw [run]
  split
  · next hrequest => exact hother (hreport _ _) (by simp [hrequest])
  · next hrequest => exact hother (hreport _ _) (by simp [hrequest])
  · next hrequest => exact hother (hreport _ _) (by simp [hrequest])
  · next o hrequest =>
    rw [hasFolder_execute_iff hfresh]
    simp [hrequest]

end CommandLine

/-! ## the workflow step -/

namespace Action

/-- The folder of a clone that the step leaves. -/
theorem hasFolder_run_iff {m : Machine} (hfresh : Source.Fresh m) (env : Environment) :
    ((run env).run m).2.disk.root.HasFolder m.scratch ↔
      Source.isUrl (Inputs.ofEnvironment env).source ∧ ¬Source.FetchesProject m := by
  rw [run]
  generalize Inputs.ofEnvironment env = inputs
  refine Source.hasFolder_resolve_iff hfresh (fun e => ?_) fun root => ?_
  · exact ((plain_say _).run_bind fun _ => Plain.run_pure _).reported
  · refine Source.CleansUp.lift_bind (fun _ => ⟨_, rfl⟩) fun _ => ?_
    exact Source.cleansUp_followedBy
      (plain_scanAndWrite trivial env inputs root).noFolderMade inputs.source

end Action

/-! ## what is left -/

/-- **What is left of a clone**, whatever the arguments and the environment, and
however the run ends: the command and the workflow step leave the folder that they
have made exactly if their source is a URL that gives no project. -/
theorem clone_left_iff {m : Machine} (hfresh : Source.Fresh m) :
    (∀ screen token args,
      ((CommandLine.run screen token args).run m).2.disk.root.HasFolder m.scratch ↔
        ∃ o, CommandLine.Request.ofArguments token args = .ok (.run o) ∧
          Source.isUrl o.source ∧ ¬Source.FetchesProject m) ∧
      ∀ env, ((Action.run env).run m).2.disk.root.HasFolder m.scratch ↔
        Source.isUrl (Action.Inputs.ofEnvironment env).source ∧ ¬Source.FetchesProject m :=
  ⟨fun screen token args => CommandLine.hasFolder_run_iff hfresh screen token args,
    fun env => Action.hasFolder_run_iff hfresh env⟩

/-- Git fetches a project. -/
theorem clone_left_iff_fetched :
    let m : Machine := ⟨⟨.folder [("tmp", .folder [])], []⟩,
      .fetched [("routes", .folder [("web.php", .file [])])], ["tmp", "clone"], []⟩
    Source.Fresh m ∧
      (∀ screen token args,
        ((CommandLine.run screen token args).run m).2.disk.root.HasFolder m.scratch ↔
          ∃ o, CommandLine.Request.ofArguments token args = .ok (.run o) ∧
            Source.isUrl o.source ∧ ¬Source.FetchesProject m) ∧
        ∀ env, ((Action.run env).run m).2.disk.root.HasFolder m.scratch ↔
          Source.isUrl (Action.Inputs.ofEnvironment env).source ∧ ¬Source.FetchesProject m := by
  intro m
  have hfresh : Source.Fresh m := ⟨by decide, rfl⟩
  exact ⟨hfresh, clone_left_iff hfresh⟩

/-- **A repository without a folder `routes`** is left where it was cloned, by the
command and by the workflow step. -/
theorem clone_left_without_routes :
    let m : Machine := ⟨⟨.folder [("tmp", .folder [])], []⟩,
      .fetched [("README.md", .file (Text.encode "hi"))], ["tmp", "clone"], []⟩
    Source.Fresh m ∧
      ((CommandLine.run { width := 80 } none ["https://example.com/app.git"]).run
        m).2.disk.root.HasFolder m.scratch ∧
      ((Action.run [("INPUT_SOURCE", "https://example.com/app.git")]).run
        m).2.disk.root.HasFolder m.scratch := by
  intro m
  have hfresh : Source.Fresh m := ⟨by decide, rfl⟩
  have hproject : ¬Source.FetchesProject m := by
    rintro ⟨entries, routes, hclone, hroutes⟩
    obtain rfl := CloneOutcome.fetched.inj hclone
    contradiction
  refine ⟨hfresh, ?_, ?_⟩
  · exact (CommandLine.hasFolder_run_iff hfresh _ _ _).mpr ⟨_, rfl, by decide, hproject⟩
  · exact (Action.hasFolder_run_iff hfresh _).mpr ⟨by decide, hproject⟩

end RoutePaths
