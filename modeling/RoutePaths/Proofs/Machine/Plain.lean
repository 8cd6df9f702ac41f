import RoutePaths.Proofs.Machine

/-!
# RoutePaths.Proofs.Machine.Plain

Steps that are put together from looking at the disk, reporting, and writing files
(`Plain`).  Scans are plain, and so is what the command and the workflow step do
with a project; what holds of such steps is shown once, by induction on how they are
put together:

* without writing they change nothing but what was reported (`Plain.reported`), and
  even with writing they make no folder (`Plain.noFolderMade`);
* they are oblivious (`Plain.oblivious`): what was reported before makes no
  difference to what they answer, write and report.
-/

namespace RoutePaths

open Machine (NoFolderMade Reported)

variable {ε ε' α β : Type} {writes : Prop}

/-- Whether an event is a call of git. -/
def Event.isCall : Event → Bool
  | called .. => true
  | _ => false

/-- Steps that are put together from looking at anything but the reports, reporting
anything but a call of git and, if `writes`, writing files. -/
inductive Plain (writes : Prop) : {α : Type} → Step α → Prop
  | pure {α : Type} (a : α) : Plain writes (Pure.pure a : Step α)
  | bind {α β : Type} {step : Step α} {next : α → Step β} (hstep : Plain writes step)
      (hnext : ∀ a, Plain writes (next a)) : Plain writes (step >>= next)
  | look {α : Type} {next : Machine → Step α} (hnext : ∀ m, Plain writes (next m))
      (hsame : ∀ m events, next { m with events } = next m) : Plain writes (get >>= next)
  | report {e : Event} (he : e.isCall = false) : Plain writes (Machine.report e)
  | logAll (entries : List LogRecord) : Plain writes (Machine.logAll entries)
  | writeFile (hwrites : writes) (path text : String) : Plain writes (Run.writeFile path text).run
  | appendFile (hwrites : writes) (path text : String) :
      Plain writes (Run.appendFile path text).run

namespace Plain

/-! ## putting runs together -/

theorem run_pure (a : α) : Plain writes (Pure.pure a : Run ε α).run := .pure _

theorem run_throw (e : ε) : Plain writes (throw e : Run ε α).run := .pure _

theorem run_mk (result : Except ε α) : Plain writes (ExceptT.mk (Pure.pure result) : Run ε α).run :=
  .pure _

/-- A step that is plain is plain as a run that cannot fail. -/
theorem run_lift {step : Step α} (h : Plain writes step) :
    Plain writes (ExceptT.lift step : Run ε α).run :=
  h.bind fun _ => .pure _

/-- Two plain runs, one after the other, are plain. -/
theorem run_bind {run : Run ε α} {next : α → Run ε β} (hrun : Plain writes run.run)
    (hnext : ∀ a, Plain writes (next a).run) : Plain writes (run >>= next).run := by
  rw [ExceptT.run_bind]
  refine hrun.bind fun result => ?_
  cases result with
  | ok a => exact hnext a
  | error e => exact .pure _

/-- A run may look at the machine, apart from what was reported so far. -/
theorem run_look {next : Machine → Run ε α} (hnext : ∀ m, Plain writes (next m).run)
    (hsame : ∀ m events, next { m with events } = next m) : Plain writes (get >>= next).run := by
  have hstep : Plain writes (get >>= fun m => (next m).run) :=
    look hnext fun m events => congrArg ExceptT.run (hsame m events)
  exact hstep

theorem run_mapError {run : Run ε α} (h : Plain writes run.run) (f : ε → ε') :
    Plain writes (run.mapError f).run :=
  h.bind fun _ => .pure _

theorem run_report {e : Event} (he : e.isCall = false) :
    Plain writes (ExceptT.lift (Machine.report e) : Run ε Unit).run :=
  run_lift (report he)

/-! ## what plain steps leave alone -/

variable {R : Machine → Machine → Prop} [IsPreorder Machine R] {step : Step α}

/-- **Plain steps stay within a relation** if reporting and, where it may be done,
writing files do. -/
theorem within (h : Plain writes step) (hreport : ∀ m events, R m { m with events })
    (hwrite : writes → ∀ path text, Within R (Run.writeFile path text).run)
    (happend : writes → ∀ path text, Within R (Run.appendFile path text).run) : Within R step := by
  induction h with
  | pure a => exact Within.pure a
  | bind _ _ ih ihnext => exact ih.bind ihnext
  | look _ _ ih => exact Within.get.bind ih
  | report _ => exact fun m => hreport m _
  | logAll _ => exact fun m => hreport m _
  | writeFile hw path text => exact hwrite hw path text
  | appendFile hw path text => exact happend hw path text

/-- **Without writing nothing changes** but what was reported. -/
theorem reported (h : Plain False step) : Within Reported step :=
  h.within (fun _ _ => ⟨_, rfl⟩) False.elim False.elim

/-- **Writing files makes no folder.** -/
theorem noFolderMade (h : Plain writes step) : Within NoFolderMade step := by
  refine h.within (fun _ _ => ⟨rfl, fun _ => id⟩) (fun _ path text m => ?_) fun _ path text m => ?_
  · rw [Run.writeFile, Run.run_get_bind]
    split
    · exact refl m
    · next disk hwrite => exact ⟨rfl, fun _ => Disk.hasFolder_of_write hwrite⟩
  · rw [Run.appendFile, Run.run_get_bind]
    split
    · exact refl m
    · next disk happend =>
      obtain ⟨all, hwrite⟩ := Disk.exists_write_of_append happend
      exact ⟨rfl, fun _ => Disk.hasFolder_of_write hwrite⟩

end Plain

/-! ## oblivious steps -/

/-- What was reported before makes no difference to a step: it gives the same
answer, leaves the same disk and reports the same.  And it calls no git. -/
def Oblivious (step : Step α) : Prop :=
  ∀ m : Machine, ∃ new : List Event, (∀ e ∈ new, e.isCall = false) ∧
    ∀ events, step { m with events } =
      ((step m).1, { (step m).2 with events := events ++ new })

namespace Oblivious

variable {step : Step α}

/-- A step that reports nothing. -/
theorem of_silent
    (h : ∀ m events, step { m with events } = ((step m).1, { (step m).2 with events })) :
    Oblivious step := fun m => ⟨[], by simp, fun events => by rw [List.append_nil, h]⟩

theorem pure (a : α) : Oblivious (Pure.pure a : Step α) := .of_silent fun _ _ => rfl

/-- Two oblivious steps, one after the other, are oblivious. -/
theorem bind {next : α → Step β} (hstep : Oblivious step) (hnext : ∀ a, Oblivious (next a)) :
    Oblivious (step >>= next) := by
  intro m
  obtain ⟨new, hnew, hsame⟩ := hstep m
  obtain ⟨new', hnew', hsame'⟩ := hnext (step m).1 (step m).2
  refine ⟨new ++ new', fun e he => (List.mem_append.mp he).elim (hnew e) (hnew' e),
    fun events => ?_⟩
  calc (step >>= next) { m with events }
      = next (step { m with events }).1 (step { m with events }).2 := rfl
    _ = next (step m).1 { (step m).2 with events := events ++ new } := by rw [hsame]
    _ = _ := by rw [hsame', List.append_assoc]; rfl

theorem report {e : Event} (he : e.isCall = false) : Oblivious (Machine.report e) := fun _ =>
  ⟨[e], by simpa using he, fun _ => rfl⟩

theorem logAll (entries : List LogRecord) : Oblivious (Machine.logAll entries) := fun _ =>
  ⟨entries.map .logged, by simp [Event.isCall], fun _ => rfl⟩

end Oblivious

/-- **Plain steps are oblivious.** -/
theorem Plain.oblivious {step : Step α} (h : Plain writes step) : Oblivious step := by
  induction h with
  | pure a => exact .pure a
  | bind _ _ ih ihnext => exact ih.bind ihnext
  | @look _ next hnext hsame ih =>
    -- Looked at from either machine, the step goes on in the same way.
    intro m
    obtain ⟨new, hnew, hstep⟩ := ih m m
    refine ⟨new, hnew, fun events => ?_⟩
    calc next { m with events } { m with events } = next m { m with events } := by rw [hsame]
      _ = _ := hstep events
  | report he => exact .report he
  | logAll entries => exact .logAll entries
  | writeFile _ path text =>
    refine .of_silent fun m events => ?_
    rw [Run.writeFile, Run.run_get_bind, Run.run_get_bind]
    cases m.disk.write path (Text.encode text) <;> rfl
  | appendFile _ path text =>
    refine .of_silent fun m events => ?_
    rw [Run.appendFile, Run.run_get_bind, Run.run_get_bind]
    cases m.disk.append path (Text.encode text) <;> rfl

end RoutePaths
