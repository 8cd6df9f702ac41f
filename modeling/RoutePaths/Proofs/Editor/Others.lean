import RoutePaths.Proofs.Editor.Display

/-!
# RoutePaths.Proofs.Editor.Others

What a command for one document leaves to all others: their decorations, their requests
and their timers, and the session enabled or disabled as it was (`Layer.SameFor`).  The
operations that take something away take it from the document that they name:

* a request cancels the timer that its document waits for, which is one of its own
  (`Scheduler.Consistent.sameFor_supersede`);
* a timer that goes off is noted where it stands, and the document that waits for nothing
  any more is its own (`Layer.sameFor_waiting`).

So nothing that is done for other documents, however often, disturbs a document
(`Layer.others_undisturbed`), whether or not it fails.
-/

namespace RoutePaths.Editor

variable {id other : String}

/-! ## timers -/

namespace Scheduler

variable {s s' s'' : Scheduler} {n : Nat} {t : Timer} {f : Timer → Timer}

/-- A document waits for the same timer, has made as many requests, and the same timers
stand at the same places for it. -/
structure SameFor (id : String) (s s' : Scheduler) : Prop where
  pending : s'.pending.get? id = s.pending.get? id
  generation : s'.generations.get? id = s.generations.get? id
  timers : ∀ (n : Nat) (t : Timer), t.document.id = id →
    (s'.timers[n]? = some t ↔ s.timers[n]? = some t)

theorem SameFor.refl (id : String) (s : Scheduler) : s.SameFor id s :=
  ⟨rfl, rfl, fun _ _ _ => Iff.rfl⟩

theorem SameFor.trans (h : s.SameFor id s') (h' : s'.SameFor id s'') : s.SameFor id s'' :=
  ⟨h'.pending.trans h.pending, h'.generation.trans h.generation,
    fun n t ht => (h'.timers n t ht).trans (h.timers n t ht)⟩

/-- Timers that are changed still belong to their documents. -/
theorem sameFor_modifyTimer (ht : s.timers[n]? = some t) (hne : id ≠ t.document.id)
    (hf : ∀ t, (f t).document = t.document) : s.SameFor id (s.modifyTimer n f) := by
  refine ⟨rfl, rfl, fun m u hu => ?_⟩
  by_cases hm : n = m
  · subst hm
    rw [getElem?_modifyTimer_self ht, ht, Option.some.injEq, Option.some.injEq]
    -- Of this document is neither the timer that stood there nor the one that stands there now.
    refine iff_of_false ?_ ?_
    · rintro rfl
      exact hne (hu.symm.trans (congrArg Document.id (hf t)))
    · rintro rfl
      exact hne hu.symm
  · rw [getElem?_modifyTimer_of_ne hm]

/-- Another document can leave the table. -/
theorem SameFor.erase (h : s.SameFor id s') (hne : id ≠ other) :
    s.SameFor id { s' with pending := s'.pending.erase other } :=
  ⟨(Ledger.get?_erase_of_ne _ hne).trans h.pending, h.generation, h.timers⟩

/-- **The timer that is cancelled** belongs to the document of the request. -/
theorem Consistent.sameFor_supersede (h : s.Consistent) (hne : id ≠ other) :
    s.SameFor id (s.supersede other) := by
  rw [Scheduler.supersede]
  cases hpending : s.pending.get? other with
  | none => exact .refl id s
  | some n =>
    obtain ⟨t, ht, rfl, -⟩ := h.listed other n hpending
    have hcancelled : s.SameFor id (s.cancelTimer n) := sameFor_modifyTimer ht hne fun _ => rfl
    exact hcancelled.erase hne

/-- A new timer belongs to the document of its request. -/
theorem sameFor_enlist (hne : id ≠ t.document.id) : s.SameFor id (s.enlist t) := by
  refine ⟨Ledger.get?_put_of_ne _ _ hne, Ledger.get?_put_of_ne _ _ hne, fun m u hu => ?_⟩
  refine ⟨fun h => ?_, fun h => ?_⟩
  · rcases getElem?_concat_cases h with h | ⟨-, rfl⟩
    · exact h
    · exact absurd hu.symm hne
  · exact (List.getElem?_append_left (List.getElem?_eq_some_iff.mp h).1).trans h

/-- A request for one document changes nothing for others. -/
theorem Consistent.sameFor_schedule (h : s.Consistent) {doc : Document} (hne : id ≠ doc.id) :
    s.SameFor id (s.schedule doc) := by
  rw [schedule_eq_enlist]
  exact (h.sameFor_supersede hne).trans (sameFor_enlist hne)

end Scheduler

/-! ## commands -/

/-- The command is for one document: it names the document, or makes one of its timers go
off while no command is stored. -/
def Command.Addresses (l : Layer) (id : String) : Command → Prop
  | set other _ | get other | clear other => other = id
  | refresh doc | close doc | schedule doc => doc.id = id
  | fire n => l.stored = none ∧ ∃ t, l.scheduler.timers[n]? = some t ∧ t.document.id = id
  | _ => False

namespace Layer

variable {l m k : Layer} {n : Nat} {t : Timer} {command : Command}

/-- Nothing of a document is changed, nor is the session enabled or disabled. -/
structure SameFor (id : String) (l m : Layer) : Prop where
  session : l.session.SameFor id m.session
  scheduler : l.scheduler.SameFor id m.scheduler

theorem SameFor.refl (id : String) (l : Layer) : l.SameFor id l := ⟨.refl id _, .refl id _⟩

theorem SameFor.trans (h : l.SameFor id m) (h' : m.SameFor id k) : l.SameFor id k :=
  ⟨h.session.trans h'.session, h.scheduler.trans h'.scheduler⟩

/-- It is noted that a timer went off, which may be stale. -/
theorem sameFor_noted (ht : l.scheduler.timers[n]? = some t) (hne : id ≠ t.document.id)
    (event : Event) : l.SameFor id ((l.recorded event).noted n) :=
  ⟨.refl id _, Scheduler.sameFor_modifyTimer ht hne fun _ => rfl⟩

/-- A timer that begins to wait changes nothing for other documents. -/
theorem sameFor_waiting (ht : l.scheduler.timers[n]? = some t) (hne : id ≠ t.document.id) :
    l.SameFor id (l.waiting n t) :=
  ⟨.refl id _, (sameFor_noted ht hne _).scheduler.erase hne⟩

/-- What a timer does with the answer changes nothing for other documents. -/
theorem sameFor_resume (hne : id ≠ t.document.id) :
    l.SameFor id (resume n t (l.answered t.document)).2 := by
  rcases resume_answered_cases l n t with heq | ⟨-, -, heq⟩
  · exact heq ▸ ⟨.refl id _, .refl id _⟩
  · exact heq ▸ ⟨Session.sameFor_refreshed hne, .refl id _⟩

/-- A firing without a stored step changes nothing for other documents. -/
theorem sameFor_fire (hstored : l.stored = none) (ht : l.scheduler.timers[n]? = some t)
    (hne : id ≠ t.document.id) : l.SameFor id (l.run (.fire n)).2 := by
  by_cases hcurrent : l.scheduler.isCurrent t
  · rw [run_fire_of_none ht hcurrent hstored]
    exact (sameFor_waiting ht hne).trans (sameFor_resume hne)
  · rw [run_fire_of_stale ht hcurrent]
    exact sameFor_noted ht hne _

/-- A command that addresses a document changes nothing for others. -/
theorem sameFor_run (h : l.scheduler.Consistent) (haddresses : command.Addresses l other)
    (hne : id ≠ other) : l.SameFor id (l.run command).2 := by
  cases command with
  | fire n =>
    obtain ⟨hstored, t, ht, rfl⟩ := haddresses
    exact sameFor_fire hstored ht hne
  | set _ ds =>
    obtain rfl := haddresses
    rw [run_eq l (by simp)]
    exact ⟨Session.sameFor_set hne ds, .refl id _⟩
  | get => exact ⟨.refl id _, .refl id _⟩
  | clear =>
    obtain rfl := haddresses
    rw [run_eq l (by simp)]
    exact ⟨Session.sameFor_clear hne, .refl id _⟩
  | refresh doc =>
    obtain rfl := haddresses
    rw [run_eq l (by simp)]
    exact ⟨Session.sameFor_refreshed hne, .refl id _⟩
  | close doc =>
    obtain rfl := haddresses
    rw [run_eq l (by simp)]
    exact ⟨Session.sameFor_clear hne, .refl id _⟩
  | schedule doc =>
    obtain rfl := haddresses
    exact ⟨.refl id _, h.sameFor_schedule hne⟩
  | _ => exact haddresses.elim

/-! ## runs -/

/-- Each of the commands is for a document other than this one, when its turn comes. -/
def AddressOthers (id : String) : Layer → List Command → Prop
  | _, [] => True
  | l, command :: commands =>
    (∃ other, id ≠ other ∧ command.Addresses l other) ∧ AddressOthers id (l.run command).2 commands

/-- **Documents do not disturb each other.**  A command for one document, whether it fails
or not, leaves all others as they were: what is stored for them, what they wait for, how
many requests they made, and all their timers; and it neither enables nor disables the
session.  So do any number of commands for other documents. -/
theorem others_undisturbed (h : l.Reachable) :
    (∀ (command : Command) (id other : String), command.Addresses l other → id ≠ other →
      l.SameFor id (l.run command).2) ∧
    ∀ id commands, AddressOthers id l commands → l.SameFor id (l.runAll commands) := by
  refine ⟨fun _ _ _ => sameFor_run h.sound.scheduler, fun id commands hothers => ?_⟩
  induction commands generalizing l with
  | nil => exact .refl id l
  | cons command commands ih =>
    obtain ⟨⟨other, hne, haddresses⟩, hothers⟩ := hothers
    -- The commands that follow start from a reachable layer again.
    have hrun : l.SameFor id (l.run command).2 := sameFor_run h.sound.scheduler haddresses hne
    exact hrun.trans (ih (h.leads (Leads.refl.run command)) hothers)

/-- One document is shown and waits for its timer, while those of another one go off, the
last of them also after the handle was released. -/
theorem others_undisturbed_fired :
    let web : Document := ⟨"web", "routes/web.php", "Route::get('/x', f);"⟩
    let api : Document := ⟨"api", "routes/api.php", "Route::get('/y', f);"⟩
    let l := (initial true true {} 500).runAll
      [.schedule web, .schedule api, .schedule web, .refresh api]
    let released := (l.run .release).2
    let commands : List Command := [.fire 0, .fire 2, .schedule web, .close web]
    (l.Reachable ∧ released.Reachable) ∧ l.scheduler.pending = [("api", 1), ("web", 2)] ∧
    l.session.handle.get "api" = .ok [⟨0, "🧩 Route Path: /api/y"⟩] ∧
    (Command.Addresses l "web" (.fire 2) ∧ (l.run (.fire 2)).1 = .ok .nothing ∧
      l.SameFor "api" (l.run (.fire 2)).2) ∧
    (Command.Addresses released "web" (.fire 2) ∧ (released.run (.fire 2)).1 = .error .released ∧
      released.SameFor "api" (released.run (.fire 2)).2) ∧
    AddressOthers "api" l commands ∧ l.SameFor "api" (l.runAll commands) := by
  intro web api l released commands
  have hreachable : l.Reachable := ⟨true, true, {}, 500, .runAll .refl _⟩
  have hreleased : released.Reachable := hreachable.leads (Leads.refl.run .release)
  have hdecorations : l.session.handle.get "api" = .ok [⟨0, "🧩 Route Path: /api/y"⟩] := by
    decide +kernel
  have hfire : Command.Addresses l "web" (.fire 2) := ⟨rfl, _, rfl, rfl⟩
  have hfire' : Command.Addresses released "web" (.fire 2) := ⟨rfl, _, rfl, rfl⟩
  have hok : (l.run (.fire 2)).1 = .ok .nothing := by decide +kernel
  have herror : (released.run (.fire 2)).1 = .error .released := by decide +kernel
  have hothers : AddressOthers "api" l commands :=
    ⟨⟨"web", by decide, rfl, _, rfl, rfl⟩, ⟨"web", by decide, rfl, _, rfl, rfl⟩,
      ⟨"web", by decide, rfl⟩, ⟨"web", by decide, rfl⟩, trivial⟩
  obtain ⟨hstep, hrun⟩ := others_undisturbed hreachable
  obtain ⟨hstep', -⟩ := others_undisturbed hreleased
  exact ⟨⟨hreachable, hreleased⟩, by decide +kernel, hdecorations,
    ⟨hfire, hok, hstep _ _ _ hfire (by decide)⟩,
    ⟨hfire', herror, hstep' _ _ _ hfire' (by decide)⟩, hothers, hrun _ _ hothers⟩

end Layer

end RoutePaths.Editor
