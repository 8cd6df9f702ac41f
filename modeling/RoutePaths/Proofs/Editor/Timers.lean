import RoutePaths.Proofs.Editor.Run

/-!
# RoutePaths.Proofs.Editor.Timers

The timers of the annotation layer in every state of every run, also while the
editor is asked about a document (`Sound`): the scheduler is consistent, and
its timers are those of the requests that the history tells of.  So every timer
is accounted for (`timers_accounted`): its document waits for it, or it was
cancelled, or it has gone off.
-/

namespace RoutePaths.Editor

/-! ## requests of a history -/

/-- The document of a request. -/
def Event.request? : Event → Option Document
  | began (.schedule doc) => some doc
  | _ => none

/-- The documents of the requests of a history, in order. -/
def requested (history : List Event) : List Document := history.filterMap Event.request?

theorem requested_append (a b : List Event) : requested (a ++ b) = requested a ++ requested b :=
  List.filterMap_append

/-- An event that is no request adds none. -/
theorem requested_concat_of_none {event : Event} (h : event.request? = none)
    (history : List Event) : requested (history ++ [event]) = requested history := by
  rw [requested_append, requested, requested, List.filterMap_cons_none h]
  exact List.append_nil _

/-- What happens later takes back no request. -/
theorem requested_mono {a b : List Event} (h : a <+: b) : requested a <+: requested b :=
  h.filterMap _

namespace Layer

variable {l m : Layer} {n : Nat} {t : Timer}

/-! ## the invariant -/

/-- The scheduler is consistent, and its timers are those of the requests. -/
structure Sound (l : Layer) : Prop where
  scheduler : l.scheduler.Consistent
  requested : requested l.history = l.scheduler.snapshots

/-- A new layer is sound. -/
theorem sound_initial (isAcquired isEnabled : Bool) (config : Config) (delay : Int) :
    (initial isAcquired isEnabled config delay).Sound :=
  ⟨.initial delay, rfl⟩

theorem snapshots_noted (l : Layer) (n : Nat) :
    (l.noted n).scheduler.snapshots = l.scheduler.snapshots := by
  rw [Scheduler.snapshots_eq_map, requests_noted, ← Scheduler.snapshots_eq_map]

/-- A timer that begins to wait leaves the snapshots. -/
theorem snapshots_waiting (l : Layer) (n : Nat) (t : Timer) :
    (l.waiting n t).scheduler.snapshots = l.scheduler.snapshots :=
  snapshots_noted (l.recorded _) n

/-- A command requests what the scheduler makes a timer for. -/
theorem snapshots_onScheduler (command : Command) (s : Scheduler) :
    (command.onScheduler s).snapshots = s.snapshots ++ requested [.began command] := by
  cases command with
  | schedule doc => exact s.snapshots_schedule doc
  | cancel =>
    rw [Command.onScheduler, Scheduler.snapshots_eq_map, Scheduler.requests_cancel,
      ← Scheduler.snapshots_eq_map]
    exact (List.append_nil _).symm
  | _ => exact (List.append_nil _).symm

/-- Every command keeps the scheduler consistent. -/
theorem consistent_onScheduler {s : Scheduler} (h : s.Consistent) (command : Command) :
    (command.onScheduler s).Consistent := by
  cases command with
  | schedule doc => exact h.schedule doc
  | cancel => exact h.cancel
  | _ => exact h

/-- A current timer leaves the table when it begins to wait, and the scheduler stays consistent. -/
theorem consistent_waiting (h : l.scheduler.Consistent) (ht : l.scheduler.timers[n]? = some t)
    (hcurrent : l.scheduler.isCurrent t) : (l.waiting n t).scheduler.Consistent :=
  h.withdraw ht (fun _ => rfl) (fun _ => .inr rfl) fun _ => h.eq_of_listed ht hcurrent

/-- A step keeps a layer sound. -/
theorem Sound.step (h : l.Sound) (hstep : Step l m) : m.Sound := by
  cases hstep with
  | command hfire =>
    refine ⟨?_, ?_⟩
    · rw [scheduler_run l hfire]
      exact consistent_onScheduler h.scheduler _
    · rw [scheduler_run l hfire, history_run l hfire, requested_append, snapshots_onScheduler,
        h.requested]
  | missed hmissing => exact ⟨h.scheduler, (requested_concat_of_none rfl _).trans h.requested⟩
  | stale ht hstale =>
    refine ⟨h.scheduler.fired _, ?_⟩
    rw [snapshots_noted]
    exact (requested_concat_of_none rfl _).trans h.requested
  | waiting ht hcurrent =>
    refine ⟨consistent_waiting h.scheduler ht hcurrent, ?_⟩
    rw [snapshots_waiting]
    exact (requested_concat_of_none rfl _).trans h.requested
  | answered doc => exact ⟨h.scheduler, (requested_concat_of_none rfl _).trans h.requested⟩
  | shown hrequest hcurrent hanswer =>
    exact ⟨h.scheduler, (requested_concat_of_none rfl _).trans h.requested⟩

/-- Every layer that can be reached is sound. -/
theorem Reachable.sound (h : l.Reachable) : l.Sound :=
  h.invariant sound_initial fun hstep h => h.step hstep

/-! ## what follows -/

/-- A timer that is neither cancelled nor gone off is the one that its document
waits for. -/
theorem Sound.listed_of_live (h : l.Sound) (ht : l.scheduler.timers[n]? = some t)
    (hcancelled : ¬ t.isCancelled) (hfired : ¬ t.hasFired) :
    l.scheduler.pending.get? t.document.id = some n := by
  rcases h.scheduler.settled n t ht with hpending | hcancelled' | hfired'
  · exact hpending
  · exact absurd hcancelled' hcancelled
  · exact absurd hfired' hfired

/-- **Every timer is accounted for.**  A document waits for the last timer that
was made for it, or for none; that timer is started, not cancelled, and carries
the count of the requests of the document so far.  A timer that nothing waits
for is cancelled or has gone off, so of one document there is at most one that
is neither. -/
theorem timers_accounted (h : l.Reachable) :
    (∀ id n, l.scheduler.pending.get? id = some n →
      ∃ t, l.scheduler.timers[n]? = some t ∧ t.document.id = id ∧
        IsNewest l.scheduler.snapshots n t.document ∧ t.isStarted ∧ ¬ t.isCancelled ∧
        l.scheduler.generations.get? id = some t.generation) ∧
    (∀ id, l.scheduler.generation id = countFor (requested l.history) id) ∧
    (∀ n t, l.scheduler.timers[n]? = some t → (∀ id, l.scheduler.pending.get? id ≠ some n) →
      t.isCancelled ∨ t.hasFired) ∧
    (∀ (n m : Nat) (t u : Timer),
      l.scheduler.timers[n]? = some t → l.scheduler.timers[m]? = some u →
      t.document.id = u.document.id → ¬ t.isCancelled → ¬ t.hasFired →
      ¬ u.isCancelled → ¬ u.hasFired → n = m) := by
  have hsound := h.sound
  refine ⟨?_, ?_, ?_, ?_⟩
  · intro id n hpending
    obtain ⟨t, ht, rfl, hstarted, hcancelled, hcurrent⟩ := hsound.scheduler.listed id n hpending
    exact ⟨t, ht, rfl, (hsound.scheduler.isCurrent_iff_isNewest ht).mp hcurrent, hstarted,
      hcancelled, of_decide_eq_true hcurrent⟩
  · intro id
    rw [hsound.scheduler.total, hsound.requested]
  · intro n t ht hunlisted
    exact (hsound.scheduler.settled n t ht).resolve_left (hunlisted _)
  · intro n m t u ht hu hid htc htf huc huf
    have hn := hsound.listed_of_live ht htc htf
    rw [hid, hsound.listed_of_live hu huc huf] at hn
    exact (Option.some.inj hn).symm

/-- A document is edited again while the editor is asked about it; another one
waits for its second timer. -/
theorem timers_accounted_edited_meanwhile :
    let web : Document := ⟨"web", "routes/web.php", "Route::get('/x', f);"⟩
    let api : Document := ⟨"api", "routes/api.php", "Route::get('/y', f);"⟩
    let l := (initial true true {} 500).runAll
      [.schedule web, .schedule api, .schedule api, .onCheck (.schedule web), .fire 0, .fire 1]
    l.Reachable ∧ l.scheduler.pending = [("api", 2), ("web", 3)] ∧
    (∀ id n, l.scheduler.pending.get? id = some n →
      ∃ t, l.scheduler.timers[n]? = some t ∧ t.document.id = id ∧
        IsNewest l.scheduler.snapshots n t.document ∧ t.isStarted ∧ ¬ t.isCancelled ∧
        l.scheduler.generations.get? id = some t.generation) ∧
    (∀ id, l.scheduler.generation id = countFor (requested l.history) id) ∧
    (∀ n t, l.scheduler.timers[n]? = some t → (∀ id, l.scheduler.pending.get? id ≠ some n) →
      t.isCancelled ∨ t.hasFired) ∧
    (∀ (n m : Nat) (t u : Timer),
      l.scheduler.timers[n]? = some t → l.scheduler.timers[m]? = some u →
      t.document.id = u.document.id → ¬ t.isCancelled → ¬ t.hasFired →
      ¬ u.isCancelled → ¬ u.hasFired → n = m) := by
  intro web api l
  have hreachable : l.Reachable := ⟨true, true, {}, 500, .runAll .refl _⟩
  exact ⟨hreachable, by decide, timers_accounted hreachable⟩

end Layer

end RoutePaths.Editor
