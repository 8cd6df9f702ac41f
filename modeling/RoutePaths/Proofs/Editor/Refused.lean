import RoutePaths.Proofs.Editor.Run

/-!
# RoutePaths.Proofs.Editor.Refused

What a command leaves behind when it fails.  Commands fail if they need the
handle and it is released, and for no other reason (`run_eq_error_iff`).  Most of
them look at the handle before they change anything:

* a command that fails leaves the whole layer as it was (`run_of_error`);
* a toggle that fails has disabled the session already, since only then there is
  something to clear (`run_toggle_of_error`).

So a failure shows in the session exactly if it was a toggle that failed
(`failed_keeps_session_iff`).
-/

namespace RoutePaths.Editor

/-! ## the released handle -/

/-- A failure does not depend on what would have been made of the answer. -/
theorem map_eq_error_iff {ε α β : Type} {x : Except ε α} {f : α → β} {e : ε} :
    x.map f = .error e ↔ x = .error e := by
  cases x <;> simp [Except.map]

variable {e : HandleError}

namespace Handle

variable {h : Handle} {id : String} {ds : List Decoration}

/-- What needs a handle fails exactly without an active one. -/
theorem require_eq_error_iff : h.require = .error e ↔ h.isActive = false := by
  obtain ⟨_ | shown⟩ := h <;> cases e <;> simp [require, isActive]

theorem set_eq_error_iff : h.set id ds = .error e ↔ h.isActive = false :=
  map_eq_error_iff.trans require_eq_error_iff

theorem get_eq_error_iff : h.get id = .error e ↔ h.isActive = false :=
  map_eq_error_iff.trans require_eq_error_iff

theorem clear_eq_error_iff : h.clear id = .error e ↔ h.isActive = false :=
  map_eq_error_iff.trans require_eq_error_iff

theorem clearAll_eq_error_iff : h.clearAll = .error e ↔ h.isActive = false :=
  map_eq_error_iff.trans require_eq_error_iff

end Handle

namespace Session

variable {s : Session} {doc : Document}

/-- So does a refresh, enabled or not. -/
theorem refresh_eq_error_iff : s.refresh doc = .error e ↔ s.handle.isActive = false := by
  unfold refresh
  split
  · exact map_eq_error_iff.trans Handle.set_eq_error_iff
  · exact map_eq_error_iff.trans Handle.clear_eq_error_iff

/-- So does closing a document. -/
theorem close_eq_error_iff : s.close doc = .error e ↔ s.handle.isActive = false :=
  map_eq_error_iff.trans Handle.clear_eq_error_iff

/-- Toggling fails only where it disables: only then is the handle needed. -/
theorem toggle_eq_error_iff :
    s.toggle.1 = .error e ↔ s.handle.isActive = false ∧ s.isEnabled = true := by
  unfold toggle
  cases henabled : s.isEnabled with
  | false => simp
  | true =>
    simp only [if_true, and_true]
    rw [← Handle.clearAll_eq_error_iff (e := e)]
    cases s.handle.clearAll <;> simp

/-- A toggle that fails has disabled the session. -/
theorem toggle_of_error (h : s.toggle.1 = .error e) :
    s.toggle.2 = { s with isEnabled := false } := by
  obtain ⟨hreleased, henabled⟩ := toggle_eq_error_iff.mp h
  have hclear : s.handle.clearAll = .error e := Handle.clearAll_eq_error_iff.mpr hreleased
  simp [toggle, henabled, hclear]

end Session

namespace Command

variable {s : Session} {command : Command}

/-- The command needs an acquired handle; timers that go off are left aside. -/
def NeedsHandle (s : Session) : Command → Prop
  | set _ _ | get _ | clear _ | clearAll | refresh _ | close _ => True
  | toggle => s.isEnabled = true
  | _ => False

/-- A released handle is found before anything is changed, unless the session is
disabled. -/
theorem onSession_of_released (hreleased : s.handle.isActive = false)
    (hneeds : command.NeedsHandle s) (htoggle : command ≠ .toggle) :
    command.onSession s = s := by
  have hhandled : ∀ {result : Except HandleError Handle},
      result = .error .released → s.handled result = s := by
    rintro _ rfl
    rfl
  cases command with
  | set id ds => exact hhandled (Handle.set_eq_error_iff.mpr hreleased)
  | get id => rfl
  | clear id => exact hhandled (Handle.clear_eq_error_iff.mpr hreleased)
  | clearAll => exact hhandled (Handle.clearAll_eq_error_iff.mpr hreleased)
  | toggle => contradiction
  | refresh doc =>
    have herror : s.refresh doc = .error .released := Session.refresh_eq_error_iff.mpr hreleased
    rw [onSession, Session.refreshed, herror]
  | close doc => exact hhandled (Handle.clear_eq_error_iff.mpr hreleased)
  | _ => exact hneeds.elim

end Command

namespace Layer

variable {l : Layer} {command : Command}

/-- An operation on the handle fails as its result does. -/
theorem onHandle_eq_error_iff {result : Except HandleError Handle} :
    (l.onHandle result).1 = .error e ↔ result = .error e := by
  cases result <;> simp [onHandle]

/-- **A command fails** if it needs the handle and finds it released. -/
theorem run_eq_error_iff (hfire : ∀ n, command ≠ .fire n) :
    (l.run command).1 = .error e ↔
      l.session.handle.isActive = false ∧ command.NeedsHandle l.session := by
  have halways : l.session.handle.isActive = false ↔ l.session.handle.isActive = false ∧ True :=
    (and_iff_left trivial).symm
  cases command with
  | fire n => exact absurd rfl (hfire n)
  | set id ds => exact (onHandle_eq_error_iff.trans Handle.set_eq_error_iff).trans halways
  | get id => exact (map_eq_error_iff.trans Handle.get_eq_error_iff).trans halways
  | clear id => exact (onHandle_eq_error_iff.trans Handle.clear_eq_error_iff).trans halways
  | clearAll => exact (onHandle_eq_error_iff.trans Handle.clearAll_eq_error_iff).trans halways
  | toggle => exact map_eq_error_iff.trans Session.toggle_eq_error_iff
  | refresh doc =>
    have hrun : (l.run (.refresh doc)).1 = .error e ↔ l.session.refresh doc = .error e := by
      simp only [run, runWith, perform, recorded]
      cases l.session.refresh doc <;> simp
    exact hrun.trans (Session.refresh_eq_error_iff.trans halways)
  | close doc =>
    have hrun : (l.run (.close doc)).1 = .error e ↔ l.session.close doc = .error e := by
      simp only [run, runWith, perform, recorded]
      cases l.session.close doc <;> simp
    exact hrun.trans (Session.close_eq_error_iff.trans halways)
  | _ => exact iff_of_false (fun h => by cases h) And.right

/-- A toggle that fails has disabled the session, and changed nothing else. -/
theorem run_toggle_of_error (herror : (l.run .toggle).1 = .error e) :
    (l.run .toggle).2 =
      { l.recorded (.began .toggle) with session := { l.session with isEnabled := false } } := by
  have htoggle : l.session.toggle.1 = .error e := map_eq_error_iff.mp herror
  rw [run_eq l (by simp), Command.onSession, Session.toggle_of_error htoggle]
  rfl

/-- **A command that fails changes nothing**, unless it is a toggle. -/
theorem run_of_error (hfire : ∀ n, command ≠ .fire n) (htoggle : command ≠ .toggle)
    (herror : (l.run command).1 = .error e) :
    (l.run command).2 = l.recorded (.began command) := by
  obtain ⟨hreleased, hneeds⟩ := (run_eq_error_iff hfire).mp herror
  rw [run_eq l hfire, Command.onSession_of_released hreleased hneeds htoggle]
  cases command with
  | acquire | release | schedule | cancel | fire | activate | onCheck => exact hneeds.elim
  | _ => rfl

/-- **Failed operations.**  A command fails only if the handle is released, and
leaves the handle as it was.  It leaves the whole session as it was exactly if it
is no toggle: that fails only for an enabled session, which it has disabled. -/
theorem failed_keeps_session_iff (hfire : ∀ n, command ≠ .fire n)
    (herror : (l.run command).1 = .error e) :
    l.session.handle.isActive = false ∧
      (l.run command).2.session.handle = l.session.handle ∧
      ((l.run command).2.session = l.session ↔ command ≠ .toggle) := by
  refine ⟨((run_eq_error_iff hfire).mp herror).1, ?_⟩
  by_cases htoggle : command = .toggle
  · subst htoggle
    obtain ⟨-, henabled⟩ := (run_eq_error_iff hfire).mp herror
    rw [run_toggle_of_error herror]
    refine ⟨rfl, iff_of_false (fun hsame => ?_) (by simp)⟩
    have hdisabled : false = l.session.isEnabled := congrArg Session.isEnabled hsame
    exact Bool.false_ne_true (hdisabled.trans henabled)
  · rw [run_of_error hfire htoggle herror]
    exact ⟨rfl, iff_of_true rfl htoggle⟩

/-- A shown document is to be refreshed after its handle was released. -/
theorem failed_keeps_session_iff_refreshed :
    let doc : Document := ⟨"web", "routes/web.php", "Route::get('/x', f);"⟩
    let l := (initial true true {} 500).runAll [.refresh doc, .release]
    (∀ n, Command.refresh doc ≠ .fire n) ∧ (l.run (.refresh doc)).1 = .error .released ∧
      l.session.handle.isActive = false ∧
      (l.run (.refresh doc)).2.session.handle = l.session.handle ∧
      ((l.run (.refresh doc)).2.session = l.session ↔ Command.refresh doc ≠ .toggle) := by
  intro doc l
  have hfire : ∀ n, Command.refresh doc ≠ .fire n := nofun
  have herror : (l.run (.refresh doc)).1 = .error .released := by rfl
  exact ⟨hfire, herror, failed_keeps_session_iff hfire herror⟩

/-- An enabled session whose handle is released is disabled by a toggle that fails. -/
theorem disabled_by_failed_toggle :
    let l := (initial true true {} 500).runAll [.release]
    l.Reachable ∧ (l.run .toggle).1 = .error .released ∧ l.session.isEnabled = true ∧
      (l.run .toggle).2.session.isEnabled = false := by
  intro l
  exact ⟨⟨true, true, {}, 500, .runAll .refl _⟩, rfl, rfl, rfl⟩

end Layer

end RoutePaths.Editor
