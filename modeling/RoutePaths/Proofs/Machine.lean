import Mathlib.Order.Defs.Unbundled
import RoutePaths.Failure
import RoutePaths.Proofs.Disk.Lookup

/-!
# RoutePaths.Proofs.Machine

What steps and runs may do to a machine.  `Within R` says that a step leads
from any machine to one that is related to it by `R`, with whatever answer or
failure; if `R` is a preorder, steps one after the other stay within it, so it
is enough to look at single reports and writings.  Two relations are used:

* `Machine.Reported` — nothing has changed but what was reported;
* `Machine.NoFolderMade` — no folder is there that was not there before, and the
  place of clones is the same; this is what writing files keeps.
-/

namespace RoutePaths

/-! ## relations between machines -/

namespace Machine

/-- The second machine is the first one with other reports. -/
def Reported (m after : Machine) : Prop := ∃ events, after = { m with events }

/-- Every folder of the second machine is one of the first, and the place of clones
is the same. -/
structure NoFolderMade (m after : Machine) : Prop where
  scratch : after.scratch = m.scratch
  folders : ∀ place, after.disk.root.HasFolder place → m.disk.root.HasFolder place

instance : IsPreorder Machine Reported where
  refl m := ⟨m.events, rfl⟩
  trans := by
    rintro m _ _ ⟨_, rfl⟩ ⟨events, rfl⟩
    exact ⟨events, rfl⟩

instance : IsPreorder Machine NoFolderMade where
  refl _ := ⟨rfl, fun _ h => h⟩
  trans _ _ _ h₁ h₂ :=
    ⟨h₂.scratch.trans h₁.scratch, fun place h => h₁.folders place (h₂.folders place h)⟩

variable {m after : Machine}

/-- A report leaves the disk. -/
theorem Reported.disk_eq (h : Reported m after) : after.disk = m.disk := by
  obtain ⟨events, rfl⟩ := h
  rfl

theorem Reported.scratch_eq (h : Reported m after) : after.scratch = m.scratch := by
  obtain ⟨events, rfl⟩ := h
  rfl

theorem Reported.noFolderMade (h : Reported m after) : NoFolderMade m after :=
  ⟨h.scratch_eq, fun place hfolder => by rwa [h.disk_eq] at hfolder⟩

end Machine

/-! ## runs one after the other -/

variable {ε ε' α β : Type} {m : Machine}

namespace Run

/-- A failure ends the run; an answer is handed to what is next. -/
theorem run_bind (run : Run ε α) (next : α → Run ε β) (m : Machine) :
    (run >>= next).run m =
      match run.run m with
      | (.ok a, after) => (next a).run after
      | (.error e, after) => (.error e, after) := by
  change (match run.run m with
    | (result, after) => ExceptT.bindCont next result after) = _
  rcases run.run m with ⟨_ | _, _⟩ <;> rfl

/-- A run goes on with the answer of its first part. -/
theorem run_bind_of_ok {run : Run ε α} {a : α} (h : (run.run m).1 = .ok a)
    (next : α → Run ε β) : (run >>= next).run m = (next a).run (run.run m).2 := by
  rw [run_bind]
  generalize run.run m = result at h ⊢
  obtain ⟨_, after⟩ := result
  obtain rfl := h
  rfl

/-- A run stops where its first part fails. -/
theorem run_bind_of_error {run : Run ε α} {e : ε} (h : (run.run m).1 = .error e)
    (next : α → Run ε β) : (run >>= next).run m = (.error e, (run.run m).2) := by
  rw [run_bind]
  generalize run.run m = result at h ⊢
  obtain ⟨_, after⟩ := result
  obtain rfl := h
  rfl

/-- The parts of a run that does not fail do not fail either. -/
theorem exists_of_run_bind {run : Run ε α} {next : α → Run ε β} {b : β} {after : Machine}
    (h : (run >>= next).run m = (.ok b, after)) :
    ∃ a mid, run.run m = (.ok a, mid) ∧ (next a).run mid = (.ok b, after) := by
  rw [run_bind] at h
  split at h
  · next a mid hrun => exact ⟨a, mid, hrun, h⟩
  · cases h

/-- A step that cannot fail hands its answer on. -/
theorem run_lift_bind (step : Step α) (next : α → Run ε β) (m : Machine) :
    (ExceptT.lift step >>= next).run m = (next (step m).1).run (step m).2 := rfl

/-- Looking at the machine changes nothing. -/
theorem run_get_bind (next : Machine → Run ε β) (m : Machine) :
    ((get : Run ε Machine) >>= next).run m = (next m).run m := rfl

/-- What follows a run does not change its result. -/
theorem run_followedBy (run : Run ε α) (after : Step Unit) (m : Machine) :
    (run.followedBy after).run m = ((run.run m).1, (after.run (run.run m).2).2) := rfl

/-- Renaming the error changes the result only. -/
theorem run_mapError (f : ε → ε') (run : Run ε α) (m : Machine) :
    (run.mapError f).run m = ((run.run m).1.mapError f, (run.run m).2) := rfl

/-- Renaming errors makes no answer. -/
theorem ok_of_mapError {result : Except ε α} {f : ε → ε'} {a : α}
    (h : result.mapError f = .ok a) : result = .ok a := by
  cases result with
  | ok b => exact congrArg Except.ok (Except.ok.inj h)
  | error e => cases h

end Run

/-! ## staying within a relation -/

/-- A step leads to machines that are related to those it starts from. -/
def Within (R : Machine → Machine → Prop) (step : Step α) : Prop := ∀ m, R m (step m).2

namespace Within

variable {R : Machine → Machine → Prop} [IsPreorder Machine R]

theorem pure (a : α) : Within R (Pure.pure a : Step α) := refl

/-- What two steps are within, one after the other, both together are within. -/
theorem bind {step : Step α} {next : α → Step β} (hstep : Within R step)
    (hnext : ∀ a, Within R (next a)) : Within R (step >>= next) := fun m =>
  IsTrans.trans _ _ _ (hstep m) (hnext _ _)

theorem get : Within R (MonadState.get : Step Machine) := refl

/-- The same for runs that can fail. -/
theorem run_bind {run : Run ε α} {next : α → Run ε β} (hrun : Within R run.run)
    (hnext : ∀ a, Within R (next a).run) : Within R (run >>= next).run := by
  rw [ExceptT.run_bind]
  refine hrun.bind fun result => ?_
  cases result with
  | ok a => exact hnext a
  | error e => exact pure _

end Within

end RoutePaths
