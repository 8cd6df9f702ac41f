import Mathlib.Logic.Relation
import RoutePaths.Editor.Layer
import RoutePaths.Proofs.Editor.Scheduler

/-!
# RoutePaths.Proofs.Editor.Run

Runs of the annotation layer.  A run comes through the states between its
commands, and through those in which the editor is asked about a document and
something else may be carried out (`Leads`).

A command that makes a timer go off may have another one carried out inside it.
Nothing is stored while that one is carried out, so it runs as if it stood
alone (`runWith_quietCheck`), and every command falls into steps that have
nothing inside them (`steps_run`).  What every step keeps is kept by all runs
(`Reachable.invariant`).
-/

namespace RoutePaths.Editor

/-! ## what a command changes -/

namespace Session

/-- The session after an operation on its handle, which failed or not. -/
def handled (s : Session) : Except HandleError Handle → Session
  | .error _ => s
  | .ok handle => { s with handle }

/-- The session after it was told to refresh a document, which failed or not. -/
def refreshed (s : Session) (doc : Document) : Session :=
  match s.refresh doc with
  | .error _ => s
  | .ok (_, session) => session

end Session

namespace Command

/-- What a command makes of the session, timers that go off apart. -/
def onSession : Command → Session → Session
  | acquire, s => { s with handle := s.handle.acquire }
  | release, s => { s with handle := s.handle.release }
  | set id ds, s => s.handled (s.handle.set id ds)
  | clear id, s => s.handled (s.handle.clear id)
  | clearAll, s => s.handled s.handle.clearAll
  | toggle, s => s.toggle.2
  | refresh doc, s => s.refreshed doc
  | close doc, s => s.handled (s.handle.clear doc.id)
  | _, s => s

/-- What a command makes of the scheduler, timers that go off apart. -/
def onScheduler : Command → Scheduler → Scheduler
  | schedule doc, s => s.schedule doc
  | cancel, s => s.cancel
  | _, s => s

/-- What the editor answers after a command. -/
def onActivity : Command → Activity → Activity
  | activate activity, _ => activity
  | _, activity => activity

/-- What is stored after a command, timers that go off apart. -/
def onStored : Command → Option Command → Option Command
  | onCheck command, _ => some command
  | _, stored => stored

end Command

/-! ## what a history tells -/

/-- What happens while the editor is asked: nothing, or one command, in which no
other begins. -/
inductive Meanwhile : List Event → Prop
  | nothing : Meanwhile []
  | command (command : Command) {events : List Event} (h : ∀ other, .began other ∉ events) :
      Meanwhile (.began command :: events)

/-- The history ends with an answer that the document is active: that timer went
off, the editor was asked, and this is what it says. -/
def EndsActive (history : List Event) (n : Nat) (id : String) : Prop :=
  ∃ before inner, Meanwhile inner ∧
    history = before ++ .began (.fire n) :: inner ++ [.answered id true]

namespace Layer

/-! ## states -/

/-- The layer before the first command. -/
def initial (isAcquired isEnabled : Bool) (config : Config) (delay : Int) : Layer where
  session := { handle := if isAcquired then Handle.acquire {} else {}, config, isEnabled }
  scheduler := { delay }

/-- The layer when a current timer has just gone off. -/
def gone (l : Layer) (n : Nat) (t : Timer) : Layer :=
  ((l.recorded (.began (.fire n))).noted n).unlisted t.document.id

/-- The layer while the editor is asked about the document of that timer. -/
def waiting (l : Layer) (n : Nat) (t : Timer) : Layer := (l.gone n t).asked t.document

/-- The layer after the snapshot of a timer was shown. -/
def shown (l : Layer) (n : Nat) (t : Timer) : Layer :=
  { l.recorded (.refreshed n t.document t.generation) with
    session := l.session.refreshed t.document }

/-- The states that a run comes through: those between its commands, and those
in which the editor is asked about a document.  From these the run may go on with
any commands, so what happens inside a question is covered state by state. -/
inductive Leads (l : Layer) : Layer → Prop
  | refl : l.Leads l
  | run {m : Layer} (command : Command) : l.Leads m → l.Leads (m.run command).2
  | waiting {m : Layer} {n : Nat} {t : Timer} : l.Leads m → m.scheduler.timers[n]? = some t →
      m.scheduler.isCurrent t → l.Leads (m.waiting n t)

/-- The states of all runs. -/
def Reachable (l : Layer) : Prop :=
  ∃ isAcquired isEnabled config delay, (initial isAcquired isEnabled config delay).Leads l

/-- Running commands is a way that leads on. -/
theorem Leads.runAll {l m : Layer} (h : l.Leads m) (commands : List Command) :
    l.Leads (m.runAll commands) := by
  induction commands generalizing m with
  | nil => exact h
  | cons command commands ih => exact ih (h.run command)

/-- What is led to leads on. -/
theorem Leads.trans {l m k : Layer} (h : l.Leads m) (h' : m.Leads k) : l.Leads k := by
  induction h' with
  | refl => exact h
  | run command _ ih => exact ih.run command
  | waiting _ ht hcurrent ih => exact ih.waiting ht hcurrent

/-- What a reachable layer leads to is reachable. -/
theorem Reachable.leads {l m : Layer} (h : l.Reachable) (hleads : l.Leads m) : m.Reachable := by
  obtain ⟨isAcquired, isEnabled, config, delay, h⟩ := h
  exact ⟨isAcquired, isEnabled, config, delay, h.trans hleads⟩

/-! ## steps -/

/-- What happens at once. -/
inductive Step : Layer → Layer → Prop
  /-- A command that makes no timer go off. -/
  | command (l : Layer) {command : Command} (h : ∀ n, command ≠ .fire n) :
      Step l (l.run command).2
  /-- There is no such timer. -/
  | missed (l : Layer) {n : Nat} (h : l.scheduler.timers[n]? = none) :
      Step l (l.recorded (.began (.fire n)))
  /-- A timer goes off that is not current any more. -/
  | stale (l : Layer) {n : Nat} {t : Timer} (ht : l.scheduler.timers[n]? = some t)
      (hstale : ¬ l.scheduler.isCurrent t) : Step l ((l.recorded (.began (.fire n))).noted n)
  /-- A current timer goes off, and the editor is asked. -/
  | waiting (l : Layer) {n : Nat} {t : Timer} (ht : l.scheduler.timers[n]? = some t)
      (hcurrent : l.scheduler.isCurrent t) : Step l (l.waiting n t)
  /-- The editor answers. -/
  | answered (l : Layer) (doc : Document) : Step l (l.answered doc).2
  /-- The editor has just said that the document is active, and the timer is
  current still. -/
  | shown (l : Layer) {n : Nat} {t : Timer} (hrequest : l.scheduler.requests[n]? = some t.request)
      (hcurrent : l.scheduler.isCurrent t)
      (hanswer : EndsActive l.history n t.document.id) : Step l (l.shown n t)

/-- What happens step by step. -/
abbrev Steps : Layer → Layer → Prop := Relation.ReflTransGen Step

/-! ## commands that make no timer go off -/

variable {l m : Layer} {n : Nat} {t : Timer} {doc : Document} {command : Command}

/-- What a command does to the handle shows in the session only. -/
theorem onHandle_snd (l : Layer) (result : Except HandleError Handle) :
    (l.onHandle result).2 = { l with session := l.session.handled result } := by
  cases result <;> rfl

/-- **A command** that makes no timer go off. -/
theorem run_eq (l : Layer) (h : ∀ n, command ≠ .fire n) :
    (l.run command).2 =
      { l.recorded (.began command) with
        session := command.onSession l.session
        scheduler := command.onScheduler l.scheduler
        activity := command.onActivity l.activity
        stored := command.onStored l.stored } := by
  cases command with
  | fire n => exact absurd rfl (h n)
  | set id ds => exact onHandle_snd _ _
  | clear id => exact onHandle_snd _ _
  | clearAll => exact onHandle_snd _ _
  | refresh doc =>
    simp only [run, runWith, perform, Command.onSession, Session.refreshed, recorded]
    cases l.session.refresh doc <;> rfl
  | close doc =>
    simp only [run, runWith, perform, Session.close, Command.onSession, Session.handled, recorded]
    cases l.session.handle.clear doc.id <;> rfl
  | _ => rfl

/-- Apart from a firing, a command touches the scheduler by its own operation only. -/
theorem scheduler_run (l : Layer) (h : ∀ n, command ≠ .fire n) :
    (l.run command).2.scheduler = command.onScheduler l.scheduler := by
  rw [run_eq l h]

/-- Apart from a firing, a command leaves one event. -/
theorem history_run (l : Layer) (h : ∀ n, command ≠ .fire n) :
    (l.run command).2.history = l.history ++ [.began command] := by
  rw [run_eq l h]
  rfl

/-! ## what only grows -/

/-- No command takes back a request. -/
theorem requests_onScheduler_mono (command : Command) (s : Scheduler) :
    s.requests <+: (command.onScheduler s).requests := by
  cases command with
  | schedule doc => exact s.requests_schedule_mono doc
  | cancel => exact (Scheduler.requests_cancel s).symm ▸ List.prefix_rfl
  | _ => exact List.prefix_rfl

/-- Noting that a timer went off asks for nothing. -/
theorem requests_noted (l : Layer) (n : Nat) :
    (l.noted n).scheduler.requests = l.scheduler.requests :=
  Scheduler.requests_modifyTimer fun _ => rfl

theorem requests_waiting (l : Layer) (n : Nat) (t : Timer) :
    (l.waiting n t).scheduler.requests = l.scheduler.requests :=
  requests_noted (l.recorded _) n

/-- A step takes back no request. -/
theorem Step.requests_mono (h : Step l m) : l.scheduler.requests <+: m.scheduler.requests := by
  cases h with
  | command h =>
    rw [scheduler_run l h]
    exact requests_onScheduler_mono _ _
  | stale ht hstale => exact (requests_noted (l.recorded _) _).symm ▸ List.prefix_rfl
  | waiting ht hcurrent => exact (requests_waiting l _ _).symm ▸ List.prefix_rfl
  | missed | answered | shown => exact List.prefix_rfl

/-- A step leaves what happened before it. -/
theorem Step.history_mono (h : Step l m) : l.history <+: m.history := by
  cases h with
  | command h =>
    rw [history_run l h]
    exact List.prefix_append _ _
  | _ => exact List.prefix_append _ _

theorem Steps.requests_mono (h : Steps l m) :
    l.scheduler.requests <+: m.scheduler.requests := by
  induction h with
  | refl => exact List.prefix_rfl
  | tail _ hstep ih => exact ih.trans hstep.requests_mono

theorem Steps.history_mono (h : Steps l m) : l.history <+: m.history := by
  induction h with
  | refl => exact List.prefix_rfl
  | tail _ hstep ih => exact ih.trans hstep.history_mono

/-! ## timers that go off -/

/-- The snapshot of a current timer is shown. -/
theorem showSnapshot_of_current (h : l.scheduler.isCurrent t) (n : Nat) :
    (l.showSnapshot n t).2 = l.shown n t := by
  rw [showSnapshot, if_pos h, shown, Session.refreshed]
  simp only [recorded]
  cases l.session.refresh t.document <;> rfl

/-- A timer that is no longer current shows nothing. -/
theorem showSnapshot_of_stale (h : ¬ l.scheduler.isCurrent t) (n : Nat) :
    (l.showSnapshot n t).2 = l := by
  rw [showSnapshot, if_neg h]

/-- Without a stored step the answer follows the question at once. -/
theorem check_of_none (h : l.stored = none) (doc : Document) :
    l.check doc = (l.asked doc).answered doc := by
  rw [check, h]
  rfl

/-- Of a firing without a timer only the event is left. -/
theorem run_fire_of_missing (h : l.scheduler.timers[n]? = none) :
    (l.run (.fire n)).2 = l.recorded (.began (.fire n)) := by
  change (fireWith check (l.recorded (.began (.fire n))) n).2 = _
  have hmissing : (l.recorded (.began (.fire n))).scheduler.timers[n]? = none := h
  rw [fireWith, hmissing]

/-- That a stale timer went off is only noted. -/
theorem run_fire_of_stale (ht : l.scheduler.timers[n]? = some t)
    (hstale : ¬ l.scheduler.isCurrent t) :
    (l.run (.fire n)).2 = (l.recorded (.began (.fire n))).noted n := by
  change (fireWith check (l.recorded (.began (.fire n))) n).2 = _
  have htimer : (l.recorded (.began (.fire n))).scheduler.timers[n]? = some t := ht
  rw [fireWith, htimer]
  exact congrArg Prod.snd (if_neg hstale)

/-- A current timer asks whether the session is active and goes on with the answer. -/
theorem run_fire_of_current (ht : l.scheduler.timers[n]? = some t)
    (hcurrent : l.scheduler.isCurrent t) :
    (l.run (.fire n)).2 = (resume n t ((l.gone n t).check t.document)).2 := by
  change (fireWith check (l.recorded (.began (.fire n))) n).2 = _
  have htimer : (l.recorded (.began (.fire n))).scheduler.timers[n]? = some t := ht
  rw [fireWith, htimer]
  exact congrArg Prod.snd (if_pos hcurrent)

/-- A timer goes off while nothing is stored. -/
theorem run_fire_of_none (ht : l.scheduler.timers[n]? = some t)
    (hcurrent : l.scheduler.isCurrent t) (hstored : l.stored = none) :
    (l.run (.fire n)).2 = (resume n t ((l.waiting n t).answered t.document)).2 := by
  have hgone : (l.gone n t).stored = none := hstored
  rw [run_fire_of_current ht hcurrent, check_of_none hgone, waiting]

/-- Nothing is stored while a command is carried out inside another, so it runs
as if it stood alone. -/
theorem runWith_quietCheck (h : l.stored = none) (command : Command) :
    runWith (fireWith quietCheck) l command = l.run command := by
  cases command with
  | fire n =>
    have hfire : fireWith quietCheck (l.recorded (.began (.fire n))) n =
        fireWith check (l.recorded (.began (.fire n))) n := by
      rw [fireWith, fireWith]
      cases (l.recorded (.began (.fire n))).scheduler.timers[n]? with
      | none => rfl
      | some t =>
        have hgone : (l.gone n t).stored = none := h
        change (if _ then resume n t (quietCheck (l.gone n t) t.document) else _) =
          if _ then resume n t (check (l.gone n t) t.document) else _
        rw [check_of_none hgone]
        rfl
    simp only [run, runWith, perform, hfire]
  | _ => rfl

/-- A timer goes off while a command is stored: it is carried out in the
state in which the editor is asked. -/
theorem run_fire_of_some (ht : l.scheduler.timers[n]? = some t)
    (hcurrent : l.scheduler.isCurrent t) (hstored : l.stored = some command) :
    (l.run (.fire n)).2 =
      match (l.waiting n t).run command with
      | (.error _, m) => m
      | (.ok _, m) => (resume n t (m.answered t.document)).2 := by
  have hgone : (l.gone n t).stored = some command := hstored
  rw [run_fire_of_current ht hcurrent, check, hgone]
  change (resume n t (match runWith (fireWith quietCheck) (l.waiting n t) command with
      | (.error e, m) => (.error e, m)
      | (.ok _, m) => m.answered t.document)).2 = _
  rw [runWith_quietCheck rfl]
  rcases (l.waiting n t).run command with ⟨_ | _, m⟩ <;> rfl

/-! ## runs by steps -/

/-- The editor says that the document is active. -/
theorem resume_of_active (h : l.activity.answer t.document.id = true) (n : Nat) :
    (resume n t (l.answered t.document)).2 = ((l.answered t.document).2.showSnapshot n t).2 := by
  rw [answered, h]
  rfl

/-- The snapshot is shown only if the document is active and the timer current. -/
theorem resume_answered_cases (l : Layer) (n : Nat) (t : Timer) :
    (resume n t (l.answered t.document)).2 = (l.answered t.document).2 ∨
      (l.activity.answer t.document.id = true ∧
        (l.answered t.document).2.scheduler.isCurrent t ∧
        (resume n t (l.answered t.document)).2 = (l.answered t.document).2.shown n t) := by
  cases hactive : l.activity.answer t.document.id with
  | false =>
    rw [answered, hactive]
    exact .inl rfl
  | true =>
    rw [resume_of_active hactive]
    by_cases hcurrent : (l.answered t.document).2.scheduler.isCurrent t
    · exact .inr ⟨rfl, hcurrent, showSnapshot_of_current hcurrent n⟩
    · exact .inl (showSnapshot_of_stale hcurrent n)

/-- No command begins after the answer. -/
theorem exists_events_resume (l : Layer) (n : Nat) (t : Timer) :
    ∃ events, (∀ command, .began command ∉ events) ∧
      (resume n t (l.answered t.document)).2.history = l.history ++ events := by
  rcases resume_answered_cases l n t with heq | ⟨-, -, heq⟩
  · rw [heq]
    exact ⟨[_], by simp, rfl⟩
  · rw [heq]
    exact ⟨[_, .refreshed n t.document t.generation], by simp, List.append_assoc ..⟩

/-- What a command does while nothing is stored, in which no other begins. -/
theorem exists_meanwhile_run (hstored : l.stored = none) (command : Command) :
    ∃ inner, Meanwhile inner ∧ (l.run command).2.history = l.history ++ inner := by
  cases command with
  | fire n =>
    cases ht : l.scheduler.timers[n]? with
    | none =>
      rw [run_fire_of_missing ht]
      exact ⟨[.began (.fire n)], .command _ (by simp), rfl⟩
    | some t =>
      by_cases hcurrent : l.scheduler.isCurrent t
      · rw [run_fire_of_none ht hcurrent hstored]
        obtain ⟨events, hevents, hhistory⟩ := exists_events_resume (l.waiting n t) n t
        refine ⟨.began (.fire n) :: events, .command _ hevents, hhistory.trans ?_⟩
        exact List.append_assoc ..
      · rw [run_fire_of_stale ht hcurrent]
        exact ⟨[.began (.fire n)], .command _ (by simp), rfl⟩
  | _ => exact ⟨_, .command _ (by simp), history_run l (by simp)⟩

/-- The editor answers, and the timer goes on from there. -/
theorem steps_resume (hrequest : l.scheduler.requests[n]? = some t.request)
    {before inner : List Event} (hinner : Meanwhile inner)
    (hhistory : l.history = before ++ .began (.fire n) :: inner) :
    Steps l (resume n t (l.answered t.document)).2 := by
  have hanswered : Steps l (l.answered t.document).2 := .single (.answered l t.document)
  rcases resume_answered_cases l n t with heq | ⟨hactive, hcurrent, heq⟩
  · rw [heq]
    exact hanswered
  · rw [heq]
    refine hanswered.tail (.shown _ hrequest hcurrent ⟨before, inner, hinner, ?_⟩)
    rw [answered, recorded, hactive, hhistory]

/-- Whatever happens while a timer waits, its request keeps its place. -/
theorem getElem?_requests_waiting (ht : l.scheduler.timers[n]? = some t)
    (h : Steps (l.waiting n t) m) : m.scheduler.requests[n]? = some t.request := by
  have hrequest : (l.waiting n t).scheduler.requests[n]? = some t.request := by
    rw [requests_waiting, Scheduler.getElem?_requests ht]
  obtain ⟨more, hmore⟩ := h.requests_mono
  rw [← hmore, List.getElem?_append_left (List.getElem?_eq_some_iff.mp hrequest).1, hrequest]

/-- A timer goes off, and something happens while the editor is asked. -/
theorem steps_waiting_resume (ht : l.scheduler.timers[n]? = some t)
    (hcurrent : l.scheduler.isCurrent t) (h : Steps (l.waiting n t) m) {inner : List Event}
    (hinner : Meanwhile inner) (hhistory : m.history = (l.waiting n t).history ++ inner) :
    Steps l (resume n t (m.answered t.document)).2 := by
  have hhistory' : m.history = l.history ++ .began (.fire n) :: inner :=
    hhistory.trans (List.append_assoc ..)
  exact (Relation.ReflTransGen.head (.waiting l ht hcurrent) h).trans
    (steps_resume (getElem?_requests_waiting ht h) hinner hhistory')

/-- Only a timer that is current leads to a question. -/
theorem steps_run_fire (l : Layer) (n : Nat)
    (h : ∀ t, l.scheduler.timers[n]? = some t → l.scheduler.isCurrent t →
      Steps l (l.run (.fire n)).2) : Steps l (l.run (.fire n)).2 := by
  cases ht : l.scheduler.timers[n]? with
  | none =>
    rw [run_fire_of_missing ht]
    exact .single (.missed l ht)
  | some t =>
    by_cases hcurrent : l.scheduler.isCurrent t
    · exact h t ht hcurrent
    · rw [run_fire_of_stale ht hcurrent]
      exact .single (.stale l ht hcurrent)

/-- A command that nothing interrupts is made of steps. -/
theorem steps_run_of_none (hstored : l.stored = none) (command : Command) :
    Steps l (l.run command).2 := by
  cases command with
  | fire n =>
    refine steps_run_fire l n fun t ht hcurrent => ?_
    rw [run_fire_of_none ht hcurrent hstored]
    exact steps_waiting_resume ht hcurrent .refl .nothing (List.append_nil _).symm
  | _ => exact .single (.command l (by simp))

/-- **A command falls into steps.** -/
theorem steps_run (l : Layer) (command : Command) : Steps l (l.run command).2 := by
  cases hstored : l.stored with
  | none => exact steps_run_of_none hstored command
  | some inner =>
    cases command with
    | fire n =>
      refine steps_run_fire l n fun t ht hcurrent => ?_
      -- Nothing is stored while the inner command is carried out.
      have hsteps : Steps (l.waiting n t) ((l.waiting n t).run inner).2 :=
        steps_run_of_none rfl inner
      obtain ⟨events, hevents, hhistory⟩ :=
        exists_meanwhile_run (l := l.waiting n t) rfl inner
      rw [run_fire_of_some ht hcurrent hstored]
      rcases hrun : (l.waiting n t).run inner with ⟨_ | _, m⟩
      · rw [hrun] at hsteps
        exact .head (.waiting l ht hcurrent) hsteps
      · rw [hrun] at hsteps hhistory
        exact steps_waiting_resume ht hcurrent hsteps hevents hhistory
    | _ => exact .single (.command l (by simp))

/-- Whatever leads on is made of steps. -/
theorem Leads.steps (h : l.Leads m) : Steps l m := by
  induction h with
  | refl => exact .refl
  | run command _ ih => exact ih.trans (steps_run _ command)
  | waiting _ ht hcurrent ih => exact ih.tail (.waiting _ ht hcurrent)

/-- **What holds in the beginning and is kept by every step** holds in all
states of all runs. -/
theorem Reachable.invariant {P : Layer → Prop}
    (hinitial : ∀ isAcquired isEnabled config delay,
      P (initial isAcquired isEnabled config delay))
    (hstep : ∀ {l m}, Step l m → P l → P m) (h : l.Reachable) : P l := by
  obtain ⟨isAcquired, isEnabled, config, delay, h⟩ := h
  have hsteps := h.steps
  clear h
  induction hsteps with
  | refl => exact hinitial isAcquired isEnabled config delay
  | tail _ h ih => exact hstep h ih

end Layer

end RoutePaths.Editor
