import RoutePaths.Proofs.Editor.Refresh

/-!
# RoutePaths.Proofs.Editor.Display

What the editor shows for a document.  Once the last timer of a document has
had its snapshot shown, the decorations stay as they are (`newest_snapshot_stays`):

* an operation on one document leaves those of all others (`Session.SameFor`);
* a timer that goes off shows a snapshot of its own document, and if that is
  this one, it is the last timer again and shows the same (`Shown.step`).

So only what names the document, or all documents, can change them.
-/

namespace RoutePaths.Editor

/-- The decorations of a snapshot: a marker for each route of a routes file. -/
def Config.decorations (config : Config) (doc : Document) : List Decoration :=
  if doc.isRouteFile then
    doc.routes.map fun r => ⟨r.lineIndex, Marker.text config.glyph config.label r⟩
  else []

/-- The command changes no decorations of the document, makes no request for
it, and neither disables the session nor releases its handle. -/
def Command.Spares (id : String) : Command → Prop
  | release | clearAll | toggle => False
  | set other _ | clear other => other ≠ id
  | refresh doc | close doc | schedule doc => doc.id ≠ id
  | _ => True

/-! ## handles -/

namespace Handle

variable {h h' : Handle} {id other : String} {ds : List Decoration}

@[simp] theorem get_some (shown : Ledger String (List Decoration)) (id : String) :
    (⟨some shown⟩ : Handle).get id = .ok ((shown.get? id).getD []) :=
  rfl

@[simp] theorem set_some (shown : Ledger String (List Decoration)) (id : String)
    (ds : List Decoration) : (⟨some shown⟩ : Handle).set id ds = .ok ⟨some (shown.put id ds)⟩ :=
  rfl

@[simp] theorem clear_some (shown : Ledger String (List Decoration)) (id : String) :
    (⟨some shown⟩ : Handle).clear id = .ok ⟨some (shown.erase id)⟩ :=
  rfl

/-- A handle that can be looked at is active. -/
theorem isActive_of_get_eq_ok (hget : h.get id = .ok ds) : h.isActive := by
  obtain ⟨_ | shown⟩ := h
  · contradiction
  · rfl

/-- An active handle holds decorations. -/
theorem exists_of_isActive (hactive : h.isActive) : ∃ shown, h = ⟨some shown⟩ := by
  obtain ⟨_ | shown⟩ := h
  · contradiction
  · exact ⟨shown, rfl⟩

theorem acquire_of_isActive (hactive : h.isActive) : h.acquire = h := by
  obtain ⟨shown, rfl⟩ := exists_of_isActive hactive
  rfl

/-- Setting decorations leaves those of other documents. -/
theorem shown_of_set_eq_ok (hne : id ≠ other) (hset : h.set other ds = .ok h') :
    h'.shown.map (·.get? id) = h.shown.map (·.get? id) := by
  obtain ⟨_ | shown⟩ := h
  · contradiction
  · rw [set_some, Except.ok.injEq] at hset
    rw [← hset, Option.map_some, Option.map_some, Ledger.get?_put_of_ne shown ds hne]

/-- Clearing a document leaves the others. -/
theorem shown_of_clear_eq_ok (hne : id ≠ other) (hclear : h.clear other = .ok h') :
    h'.shown.map (·.get? id) = h.shown.map (·.get? id) := by
  obtain ⟨_ | shown⟩ := h
  · contradiction
  · rw [clear_some, Except.ok.injEq] at hclear
    rw [← hclear, Option.map_some, Option.map_some, Ledger.get?_erase_of_ne shown hne]

/-- What is answered for a document is what is stored for it. -/
theorem get_congr (hshown : h'.shown.map (·.get? id) = h.shown.map (·.get? id)) :
    h'.get id = h.get id := by
  obtain ⟨_ | shown⟩ := h
  · obtain rfl : h' = ⟨none⟩ := congrArg Handle.mk (Option.map_eq_none_iff.mp hshown)
    rfl
  · obtain ⟨shown', hshown', hget⟩ := Option.map_eq_some_iff.mp hshown
    obtain rfl : h' = ⟨some shown'⟩ := congrArg Handle.mk hshown'
    rw [get_some, get_some, hget]

end Handle

/-! ## sessions -/

namespace Session

variable {s s' s'' : Session} {config : Config} {id id' : String} {doc other : Document}

/-- A refresh sets the markers of a routes file, or clears what is shown. -/
theorem refreshed_eq_handled (s : Session) (doc : Document) :
    s.refreshed doc = s.handled (if s.isEnabled && doc.isRouteFile then
      s.handle.set doc.id (s.markers doc) else s.handle.clear doc.id) := by
  by_cases hshown : s.isEnabled && doc.isRouteFile
  · rw [refreshed, refresh, if_pos hshown, if_pos hshown]
    cases s.handle.set doc.id (s.markers doc) <;> rfl
  · rw [refreshed, refresh, if_neg hshown, if_neg hshown]
    cases s.handle.clear doc.id <;> rfl

/-- Nothing but the decorations of other documents tells the sessions apart: both are
enabled or both disabled, with the same configuration, and either the handle of neither is
acquired or both store the same for the document. -/
structure SameFor (id : String) (s s' : Session) : Prop where
  enabled : s'.isEnabled = s.isEnabled
  configured : s'.config = s.config
  shown : s'.handle.shown.map (·.get? id) = s.handle.shown.map (·.get? id)

theorem SameFor.refl (id : String) (s : Session) : s.SameFor id s := ⟨rfl, rfl, rfl⟩

theorem SameFor.trans (h : s.SameFor id s') (h' : s'.SameFor id s'') : s.SameFor id s'' :=
  ⟨h'.enabled.trans h.enabled, h'.configured.trans h.configured, h'.shown.trans h.shown⟩

/-- An operation on the handle that leaves what is stored for the document. -/
theorem sameFor_handled {result : Except HandleError Handle}
    (hshown : ∀ handle, result = .ok handle →
      handle.shown.map (·.get? id) = s.handle.shown.map (·.get? id)) :
    s.SameFor id (s.handled result) := by
  cases result with
  | error e => exact .refl id s
  | ok handle => exact ⟨rfl, rfl, hshown handle rfl⟩

/-- Setting decorations changes nothing for other documents. -/
theorem sameFor_set (hne : id ≠ id') (ds : List Decoration) :
    s.SameFor id (s.handled (s.handle.set id' ds)) :=
  sameFor_handled fun _ => Handle.shown_of_set_eq_ok hne

/-- Clearing a document changes nothing for others. -/
theorem sameFor_clear (hne : id ≠ id') : s.SameFor id (s.handled (s.handle.clear id')) :=
  sameFor_handled fun _ => Handle.shown_of_clear_eq_ok hne

/-- A refresh changes nothing for other documents. -/
theorem sameFor_refreshed (hne : id ≠ doc.id) : s.SameFor id (s.refreshed doc) := by
  rw [refreshed_eq_handled]
  split
  · exact sameFor_set hne _
  · exact sameFor_clear hne

/-- The session is enabled and shows the decorations of a snapshot. -/
structure Shows (s : Session) (config : Config) (doc : Document) : Prop where
  enabled : s.isEnabled
  configured : s.config = config
  get : s.handle.get doc.id = .ok (config.decorations doc)

/-- A session that is the same for a document shows it still. -/
theorem Shows.of_sameFor (h : s.Shows config doc) (hsame : s.SameFor doc.id s') :
    s'.Shows config doc where
  enabled := hsame.enabled.trans h.enabled
  configured := hsame.configured.trans h.configured
  get := (Handle.get_congr hsame.shown).trans h.get

/-- **A refresh** shows the decorations of the snapshot. -/
theorem shows_refreshed (hactive : s.handle.isActive) (henabled : s.isEnabled) (doc : Document) :
    (s.refreshed doc).Shows s.config doc := by
  obtain ⟨shown, hshown⟩ := Handle.exists_of_isActive hactive
  rw [refreshed_eq_handled, henabled, Bool.true_and, hshown, Handle.set_some, Handle.clear_some]
  by_cases hfile : doc.isRouteFile
  · rw [if_pos hfile]
    refine ⟨henabled, rfl, ?_⟩
    rw [handled, Handle.get_some, Ledger.get?_put_self, Config.decorations, if_pos hfile]
    rfl
  · rw [if_neg hfile]
    refine ⟨henabled, rfl, ?_⟩
    rw [handled, Handle.get_some, Ledger.get?_erase_self, Config.decorations, if_neg hfile]
    rfl

namespace Shows

/-- A refresh of another document, or of the same snapshot. -/
theorem refreshed (h : s.Shows config doc) (hsame : other.id = doc.id → other = doc) :
    (s.refreshed other).Shows config doc := by
  by_cases hid : other.id = doc.id
  · obtain rfl := hsame hid
    exact h.configured ▸ shows_refreshed (Handle.isActive_of_get_eq_ok h.get) h.enabled other
  · exact h.of_sameFor (sameFor_refreshed (Ne.symm hid))

/-- A command that spares a document leaves it shown. -/
theorem onSession (h : s.Shows config doc) {command : Command} (hspares : command.Spares doc.id) :
    (command.onSession s).Shows config doc := by
  cases command with
  | acquire =>
    have hactive := Handle.isActive_of_get_eq_ok h.get
    refine ⟨h.enabled, h.configured, ?_⟩
    rw [Command.onSession, Handle.acquire_of_isActive hactive]
    exact h.get
  | set id ds => exact h.of_sameFor (sameFor_set (Ne.symm hspares) ds)
  | clear id => exact h.of_sameFor (sameFor_clear (Ne.symm hspares))
  | close other => exact h.of_sameFor (sameFor_clear (Ne.symm hspares))
  | refresh other => exact h.of_sameFor (sameFor_refreshed (Ne.symm hspares))
  | release | clearAll | toggle => exact hspares.elim
  | _ => exact h

end Shows

end Session

/-! ## runs -/

namespace Layer

variable {l m : Layer} {n : Nat} {t : Timer} {config : Config} {doc : Document}

/-- The snapshot of the last timer of a document is shown. -/
structure Shown (l : Layer) (n : Nat) (config : Config) (doc : Document) : Prop where
  newest : IsNewest l.scheduler.snapshots n doc
  shows : l.session.Shows config doc

/-- Commands that spare a document make no request for it. -/
theorem isNewest_onScheduler {s : Scheduler} (h : IsNewest s.snapshots n doc) {command : Command}
    (hspares : command.Spares doc.id) : IsNewest (command.onScheduler s).snapshots n doc := by
  rw [snapshots_onScheduler]
  cases command with
  | schedule other => exact h.append_of_ne hspares
  | _ => exact (List.append_nil s.snapshots).symm ▸ h

/-- A step that carries out no command but such as spare the document. -/
theorem Shown.step (h : l.Shown n config doc) (hsound : l.Sound) (hstep : Step l m)
    (hspares : ∀ command, m.history = l.history ++ [.began command] → command.Spares doc.id) :
    m.Shown n config doc := by
  cases hstep with
  | @command command hfire =>
    have hspares := hspares command (history_run l hfire)
    rw [run_eq l hfire]
    exact ⟨isNewest_onScheduler h.newest hspares, h.shows.onSession hspares⟩
  | missed | answered => exact ⟨h.newest, h.shows⟩
  | stale ht hstale => exact ⟨(snapshots_noted (l.recorded _) _).symm ▸ h.newest, h.shows⟩
  | waiting ht hcurrent => exact ⟨(snapshots_waiting l _ _).symm ▸ h.newest, h.shows⟩
  | @shown k t hrequest hcurrent hanswer =>
    -- The timer is the last one of its document, so if that is this document it
    -- has the same snapshot.
    refine ⟨h.newest, h.shows.refreshed fun hid => ?_⟩
    have hnewest := (hsound.justified hrequest hcurrent hanswer).newest
    rw [hsound.requested] at hnewest
    obtain rfl := h.newest.unique hnewest hid
    exact Option.some.inj (hnewest.1.symm.trans h.newest.1)

/-- Soundness is kept by any number of steps. -/
theorem Sound.steps (h : l.Sound) (hsteps : Steps l m) : m.Sound := by
  induction hsteps with
  | refl => exact h
  | tail _ hstep ih => exact ih.step hstep

/-- A snapshot stays shown through all steps that spare its document. -/
theorem Shown.steps (h : l.Shown n config doc) (hsound : l.Sound) (hsteps : Steps l m)
    {later : List Event} (hhistory : m.history = l.history ++ later)
    (hspares : ∀ command, .began command ∈ later → command.Spares doc.id) :
    m.Shown n config doc := by
  induction hsteps generalizing later with
  | refl => exact h
  | @tail k m hsteps hstep ih =>
    obtain ⟨front, hfront⟩ := Steps.history_mono hsteps
    obtain ⟨back, hback⟩ := hstep.history_mono
    have hlater : later = front ++ back := by
      rw [← hback, ← hfront, List.append_assoc] at hhistory
      exact (List.append_cancel_left hhistory).symm
    subst hlater
    have hshown := ih hfront.symm fun command hmem => hspares command (List.mem_append_left _ hmem)
    refine hshown.step (hsound.steps hsteps) hstep fun command hcommand => ?_
    rw [← hback] at hcommand
    rw [List.append_cancel_left hcommand] at hspares
    exact hspares command (List.mem_append_right _ (List.mem_singleton_self _))

/-- The last timer of a document goes off, and the editor says that the
document is active. -/
theorem Sound.shown_run_fire (h : l.Sound) (hactive : l.session.handle.isActive)
    (henabled : l.session.isEnabled) (ht : l.scheduler.timers[n]? = some t)
    (hnewest : IsNewest l.scheduler.snapshots n t.document)
    (hanswer : l.activity.answer t.document.id = true) (hstored : l.stored = none) :
    (l.run (.fire n)).2.Shown n l.session.config t.document := by
  have hcurrent : l.scheduler.isCurrent t := (h.scheduler.isCurrent_iff_isNewest ht).mpr hnewest
  have hcurrent' : ((l.waiting n t).answered t.document).2.scheduler.isCurrent t := hcurrent
  have hanswer' : (l.waiting n t).activity.answer t.document.id = true := hanswer
  rw [run_fire_of_none ht hcurrent hstored, resume_of_active hanswer',
    showSnapshot_of_current hcurrent']
  exact ⟨(snapshots_waiting l n t).symm ▸ hnewest,
    Session.shows_refreshed hactive henabled t.document⟩

/-- **The newest snapshot is shown and stays.**  When the last timer of a
document goes off, and the editor says that the document is active, the
document has the decorations of the timer's snapshot.  It keeps them whatever is
carried out later, between commands or inside them, that spares it. -/
theorem newest_snapshot_stays (h : l.Reachable) (hactive : l.session.handle.isActive)
    (henabled : l.session.isEnabled) (ht : l.scheduler.timers[n]? = some t)
    (hnewest : IsNewest l.scheduler.snapshots n t.document)
    (hanswer : l.activity.answer t.document.id = true) (hstored : l.stored = none) :
    (l.run (.fire n)).2.session.handle.get t.document.id =
        .ok (l.session.config.decorations t.document) ∧
      ∀ m later, (l.run (.fire n)).2.Leads m → m.history = (l.run (.fire n)).2.history ++ later →
        (∀ command, .began command ∈ later → command.Spares t.document.id) →
        m.session.handle.get t.document.id = .ok (l.session.config.decorations t.document) := by
  have hshown := h.sound.shown_run_fire hactive henabled ht hnewest hanswer hstored
  have hsound : (l.run (.fire n)).2.Sound := (h.leads (Leads.refl.run (.fire n))).sound
  refine ⟨hshown.shows.get, fun m later hleads hhistory hspares => ?_⟩
  exact (hshown.steps hsound hleads.steps hhistory hspares).shows.get

/-- The timer of an older snapshot goes off later, another document is
refreshed while the editor is asked, and the timer goes off once more. -/
theorem newest_snapshot_stays_meanwhile :
    let old : Document := ⟨"web", "routes/web.php", "Route::get('/x', f);"⟩
    let new : Document := ⟨"web", "routes/web.php", "Route::get('/y', f);"⟩
    let other : Document := ⟨"api", "routes/api.php", "Route::get('/z', f);"⟩
    let t : Timer := { document := new, generation := 2, interval := 500 }
    let l := (initial true true {} 500).runAll [.schedule old, .schedule new]
    let fired := (l.run (.fire 1)).2
    let m := fired.runAll [.fire 0, .cancel, .onCheck (.refresh other), .fire 1]
    let later : List Event := [.began (.fire 0), .began .cancel, .began (.onCheck (.refresh other)),
      .began (.fire 1), .began (.refresh other), .answered "web" true, .refreshed 1 new 2]
    l.Reachable ∧ l.session.handle.isActive ∧ l.session.isEnabled ∧
    l.scheduler.timers[1]? = some t ∧ IsNewest l.scheduler.snapshots 1 t.document ∧
    l.activity.answer t.document.id = true ∧ l.stored = none ∧
    fired.Leads m ∧ m.history = fired.history ++ later ∧
    (∀ command, .began command ∈ later → command.Spares t.document.id) ∧
    fired.session.handle.get "web" = .ok [⟨0, "🧩 Route Path: /y"⟩] ∧
    m.session.handle.get "web" = .ok [⟨0, "🧩 Route Path: /y"⟩] := by
  intro old new other t l fired m later
  have hreachable : l.Reachable := ⟨true, true, {}, 500, .runAll .refl _⟩
  have ht : l.scheduler.timers[1]? = some t := by decide
  have hnewest : IsNewest l.scheduler.snapshots 1 t.document := by decide
  have hleads : fired.Leads m := .runAll .refl _
  have hhistory : m.history = fired.history ++ later := by decide +kernel
  have hspares : ∀ command, .began command ∈ later → command.Spares t.document.id := by
    intro command hmem
    simp only [later, List.mem_cons, Event.began.injEq, reduceCtorEq, List.not_mem_nil,
      or_false] at hmem
    rcases hmem with rfl | rfl | rfl | rfl | rfl
    all_goals simp [Command.Spares, other, t, new]
  have hdecorations : l.session.config.decorations t.document = [⟨0, "🧩 Route Path: /y"⟩] := by
    decide +kernel
  obtain ⟨hfired, hstays⟩ := newest_snapshot_stays hreachable rfl rfl ht hnewest rfl rfl
  rw [hdecorations] at hfired hstays
  exact ⟨hreachable, rfl, rfl, ht, hnewest, rfl, rfl, hleads, hhistory, hspares, hfired,
    hstays m later hleads hhistory hspares⟩

end Layer

end RoutePaths.Editor
