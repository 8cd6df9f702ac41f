import RoutePaths.Failure
import RoutePaths.Proofs.Machine
import RoutePaths.Source

/-!
# RoutePaths.Proofs.Source.Clone

What becomes of the folder of a clone.  It is made before git is called, so it is
there however the clone ends (`clone_leads`).  A run that resolves a source and
cleans up behind what it does with the project leaves the folder exactly if the
source is a URL that gives no project (`hasFolder_resolve_iff`): there is nothing
to be done then, and the run ends without cleaning up.
-/

namespace RoutePaths.Source

open Disk (IsName Node)

variable {m : Machine} {source : String} {token : Option String} {disk : Disk}
  {way : List String} {es : List (String × Node)}

/-! ## clones -/

/-- A clone would give a project: a folder that holds a folder `routes`. -/
def FetchesProject (m : Machine) : Prop :=
  ∃ entries routes, m.clone = .fetched entries ∧
    Ledger.get? entries "routes" = some (.folder routes)

/-- The folder that a clone would go to can be made: its way is spelled with names,
and nothing is there yet. -/
structure Fresh (m : Machine) : Prop where
  isName : ∀ name ∈ m.scratch, IsName name
  missing : m.disk.root.get? m.scratch = none

theorem Fresh.ne_nil (h : Fresh m) : m.scratch ≠ [] := by
  intro hnil
  have hmissing := h.missing
  rw [hnil, Node.get?_nil] at hmissing
  contradiction

theorem Fresh.not_hasFolder (h : Fresh m) : ¬m.disk.root.HasFolder m.scratch := by
  rintro ⟨es, hes⟩
  rw [h.missing] at hes
  contradiction

/-- A folder is a project if it holds a folder `routes`. -/
theorem validate_ofNames (hget : disk.root.get? way = some (.folder es))
    (hnames : ∀ name ∈ way, IsName name) (hne : way ≠ []) :
    validate disk (FilePath.ofNames way) =
      if (Ledger.get? es "routes").any (·.isFolder) then .ok (FilePath.ofNames way)
      else .error (.noRoutes (FilePath.ofNames way)) := by
  have hlocate := Disk.locate_ofNames hget hnames hne
  have hnode : disk.node? (FilePath.ofNames way) = some (.folder es) :=
    Disk.node?_eq_some_iff.mpr ⟨way, hlocate, hget⟩
  have hroutes : disk.node? (FilePath.join (FilePath.ofNames way) "routes") =
      Ledger.get? es "routes" := by
    have hwalk : Disk.walk disk.root way ["routes"] = .ok (way ++ ["routes"]) :=
      Disk.walk_name ⟨es, hget⟩ (by decide)
    have hjoin := Disk.locate_join hlocate hwalk (by decide) (List.cons_ne_nil _ _)
    rw [String.intercalate_singleton] at hjoin
    rw [Disk.node?, hjoin]
    simp [Node.get?_append, hget, Node.get?_folder_cons]
  rw [validate, FilePath.absolute_ofNames hnames hne]
  simp only [Disk.isFile, Disk.isFolder, hnode, hroutes]
  cases (Ledger.get? es "routes").any (·.isFolder) <;> rfl

/-- What git fetches stands in the folder of the clone, which is then looked at. -/
theorem clone_of_fetched {entries : List (String × Node)} (hclone : m.clone = .fetched entries)
    (source : String) (token : Option String) :
    ∃ after, clone source token m = (validate after.disk (FilePath.ofNames m.scratch), after) ∧
      after.scratch = m.scratch ∧ after.disk.root.get? m.scratch = some (.folder entries) := by
  obtain ⟨disk, outcome, scratch, events⟩ := m
  obtain rfl := hclone
  exact ⟨_, rfl, rfl, Node.get?_put_self ..⟩

/-- A clone that fetches nothing leaves the folder empty. -/
theorem clone_of_not_fetched (hclone : ∀ entries, m.clone ≠ .fetched entries) (source : String)
    (token : Option String) :
    ∃ e after, clone source token m = (.error e, after) ∧ after.scratch = m.scratch ∧
      after.disk.root.get? m.scratch = some (.folder []) := by
  obtain ⟨disk, outcome, scratch, events⟩ := m
  cases outcome with
  | timedOut => exact ⟨_, _, rfl, rfl, Node.get?_put_self ..⟩
  | noGit => exact ⟨_, _, rfl, rfl, Node.get?_put_self ..⟩
  | failed report => exact ⟨_, _, rfl, rfl, Node.get?_put_self ..⟩
  | fetched entries => exact absurd rfl (hclone entries)

/-- **However a clone ends**, its folder is there; and it gives a project if git
fetches one. -/
theorem clone_leads (hfresh : Fresh m) (source : String) (token : Option String) :
    (clone source token m).2.scratch = m.scratch ∧
      (clone source token m).2.disk.root.HasFolder m.scratch ∧
      ((∃ root, (clone source token m).1 = .ok root) ↔ FetchesProject m) := by
  by_cases hclone : ∃ entries, m.clone = .fetched entries
  · obtain ⟨entries, hclone⟩ := hclone
    obtain ⟨after, hresult, hscratch, hget⟩ := clone_of_fetched hclone source token
    rw [hresult]
    refine ⟨hscratch, ⟨entries, hget⟩, ?_⟩
    have hproject : FetchesProject m ↔
        (Ledger.get? entries "routes").any (·.isFolder) = true := by
      rw [Node.any_isFolder_iff, FetchesProject, hclone]
      constructor
      · rintro ⟨_, routes, hfetched, hroutes⟩
        obtain rfl := CloneOutcome.fetched.inj hfetched
        exact ⟨routes, hroutes⟩
      · rintro ⟨routes, hroutes⟩
        exact ⟨entries, routes, rfl, hroutes⟩
    rw [validate_ofNames hget hfresh.isName hfresh.ne_nil, hproject]
    split
    · next hroutes => exact iff_of_true ⟨_, rfl⟩ hroutes
    · next hroutes => exact iff_of_false (by simp) hroutes
  · obtain ⟨e, after, hresult, hscratch, hget⟩ :=
      clone_of_not_fetched (not_exists.mp hclone) source token
    rw [hresult]
    refine ⟨hscratch, ⟨[], hget⟩, iff_of_false (by simp) ?_⟩
    rintro ⟨entries, -, hfetched, -⟩
    exact hclone ⟨entries, hfetched⟩

/-! ## cleaning up -/

/-- The step leaves no folder of a clone behind, and without one it makes no
folder. -/
def CleansUp (source : String) {α : Type} (step : Step α) : Prop :=
  ∀ m : Machine, m.scratch ≠ [] →
    if isUrl source then ¬(step m).2.disk.root.HasFolder m.scratch
    else Machine.NoFolderMade m (step m).2

/-- Cleaning up behind a run that makes no folders of its own. -/
theorem cleansUp_followedBy {α : Type} {run : Run Failure α}
    (hrun : Within Machine.NoFolderMade run.run) (source : String) :
    CleansUp source (run.followedBy (cleanUp source)).run := by
  intro m hne
  have hafter := hrun m
  split
  · next hurl =>
    have hclean : ((run.followedBy (cleanUp source)).run m).2.disk.root =
        (run.run m).2.disk.root.remove (run.run m).2.scratch := by
      rw [Run.run_followedBy, cleanUp, if_pos hurl]
      rfl
    rintro ⟨es, hes⟩
    rw [hclean, ← hafter.scratch, Node.get?_remove_self _ (hafter.scratch ▸ hne)] at hes
    contradiction
  · next hurl =>
    have hclean : ((run.followedBy (cleanUp source)).run m).2 = (run.run m).2 := by
      rw [Run.run_followedBy, cleanUp, if_neg hurl]
      rfl
    rw [hclean]
    exact hafter

/-- A report in front does not matter. -/
theorem CleansUp.lift_bind {α β : Type} {step : Step α} {next : α → Run Failure β}
    (hstep : Within Machine.Reported step) (hnext : ∀ a, CleansUp source (next a).run) :
    CleansUp source (ExceptT.lift step >>= next).run := by
  intro m hne
  have hbefore := hstep m
  have hafter := hnext (step m).1 (step m).2 (hbefore.scratch_eq ▸ hne)
  rw [hbefore.scratch_eq] at hafter
  rw [Run.run_lift_bind]
  split
  · next hurl => rwa [if_pos hurl] at hafter
  · next hurl =>
    rw [if_neg hurl] at hafter
    exact IsTrans.trans _ _ _ hbefore.noFolderMade hafter

/-- **What is left of a clone**, by a run that resolves a source, only reports if it
gives no project, and cleans up behind what it does with a project: the folder of
the clone, if no project is fetched. -/
theorem hasFolder_resolve_iff (hfresh : Fresh m) {α : Type}
    {next : Except SourceError String → Run Failure α}
    (herror : ∀ e, Within Machine.Reported (next (.error e)).run)
    (hok : ∀ root, CleansUp source (next (.ok root)).run) :
    ((ExceptT.lift (resolve source token) >>= next).run m).2.disk.root.HasFolder m.scratch ↔
      isUrl source ∧ ¬FetchesProject m := by
  rw [Run.run_lift_bind]
  by_cases hurl : isUrl source
  · have hresolve : resolve source token m = clone source token m := by
      rw [resolve, if_pos hurl]
    obtain ⟨hscratch, hfolder, hproject⟩ := clone_leads hfresh source token
    rw [hresolve, ← hproject]
    cases hresult : (clone source token m).1 with
    | error e =>
      refine iff_of_true ?_ ⟨hurl, nofun⟩
      rwa [(herror e _).disk_eq]
    | ok root =>
      have hclean := hok root (clone source token m).2 (hscratch ▸ hfresh.ne_nil)
      rw [if_pos hurl, hscratch] at hclean
      exact iff_of_false hclean fun h => h.2 ⟨root, rfl⟩
  · have hresolve : resolve source token m = (validate m.disk source, m) := by
      rw [resolve, if_neg hurl]
      rfl
    refine iff_of_false (fun hfolder => hfresh.not_hasFolder ?_) fun h => hurl h.1
    rw [hresolve] at hfolder
    cases hresult : validate m.disk source with
    | error e =>
      rw [hresult, (herror e _).disk_eq] at hfolder
      exact hfolder
    | ok root =>
      have hclean := hok root m hfresh.ne_nil
      rw [hresult] at hfolder
      rw [if_neg hurl] at hclean
      exact hclean.folders _ hfolder

end RoutePaths.Source
