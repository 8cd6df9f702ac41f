import RoutePaths.Proofs.Editor.Display

/-!
# RoutePaths.Proofs.Editor.Disabled

What a disabled session shows: nothing.  Its handle is released or blank
(`Session.Quiet`), and so it stays:

* disabling clears the handle, and fails only if the handle is released;
* an acquired handle is blank when it was released before;
* a disabled session refreshes a document by clearing it, so a timer that goes
  off after the session was disabled, or for which it is disabled while the
  editor is asked, shows nothing.

Decorations that are set without the session are the only way around it.
-/

namespace RoutePaths.Editor

/-! ## blank handles -/

namespace Handle

variable {h h' : Handle}

/-- The handle is released, or shows nothing for any document. -/
def IsBlank (h : Handle) : Prop := ∀ shown, h.shown = some shown → shown = []

theorem isBlank_released : (⟨none⟩ : Handle).IsBlank := nofun

theorem isBlank_cleared : (⟨some []⟩ : Handle).IsBlank := by
  rintro shown ⟨⟩
  rfl

/-- A handle that is acquired anew shows nothing yet. -/
theorem IsBlank.acquire (hblank : h.IsBlank) : h.acquire.IsBlank := by
  obtain ⟨_ | shown⟩ := h
  · exact isBlank_cleared
  · exact hblank

/-- Nothing is left to clear for one document. -/
theorem IsBlank.of_clear_eq_ok (hblank : h.IsBlank) {id : String} (hclear : h.clear id = .ok h') :
    h'.IsBlank := by
  obtain ⟨_ | shown⟩ := h
  · contradiction
  · obtain rfl := hblank shown rfl
    rw [clear_some, Except.ok.injEq] at hclear
    subst hclear
    exact isBlank_cleared

/-- A handle that was cleared shows nothing. -/
theorem isBlank_of_clearAll_eq_ok (hclear : h.clearAll = .ok h') : h'.IsBlank := by
  obtain ⟨_ | shown⟩ := h
  · contradiction
  · obtain rfl := Except.ok.inj hclear
    exact isBlank_cleared

/-- Only a released handle cannot be cleared. -/
theorem isBlank_of_clearAll_eq_error {e : HandleError} (hclear : h.clearAll = .error e) :
    h.IsBlank := by
  obtain ⟨_ | shown⟩ := h
  · exact isBlank_released
  · contradiction

end Handle

/-! ## sessions -/

namespace Session

variable {s : Session}

/-- The session is enabled, or shows nothing. -/
def Quiet (s : Session) : Prop := s.isEnabled = false → s.handle.IsBlank

/-- An enabled session may show what it likes. -/
theorem quiet_of_isEnabled (henabled : s.isEnabled = true) : s.Quiet := fun hdisabled =>
  absurd henabled (by simp [hdisabled])

/-- What happens to the handle does not enable or disable the session. -/
@[simp] theorem isEnabled_handled (s : Session) (result : Except HandleError Handle) :
    (s.handled result).isEnabled = s.isEnabled := by
  cases result <;> rfl

/-- Disabling clears the handle, if there is anything to clear. -/
theorem quiet_toggle (s : Session) : s.toggle.2.Quiet := by
  cases henabled : s.isEnabled with
  | false => exact quiet_of_isEnabled (by simp [toggle, henabled])
  | true =>
    intro _
    simp only [toggle, henabled, if_true]
    cases hclear : s.handle.clearAll with
    | error e => exact Handle.isBlank_of_clearAll_eq_error hclear
    | ok handle => exact Handle.isBlank_of_clearAll_eq_ok hclear

namespace Quiet

/-- An operation on the handle that leaves a blank one blank. -/
theorem handled (h : s.Quiet) {result : Except HandleError Handle}
    (hblank : ∀ handle, result = .ok handle → s.handle.IsBlank → handle.IsBlank) :
    (s.handled result).Quiet := by
  cases result with
  | error e => exact h
  | ok handle => exact fun hdisabled => hblank handle rfl (h hdisabled)

/-- A refresh keeps a session quiet: one that is disabled clears the document. -/
theorem refreshed (h : s.Quiet) (doc : Document) : (s.refreshed doc).Quiet := by
  rw [refreshed_eq_handled]
  cases henabled : s.isEnabled with
  | false => exact h.handled fun _ hclear hblank => hblank.of_clear_eq_ok hclear
  | true => exact quiet_of_isEnabled (by rw [isEnabled_handled, henabled])

/-- **A command** that sets no decorations. -/
theorem onSession (h : s.Quiet) {command : Command} (hset : ∀ id ds, command ≠ .set id ds) :
    (command.onSession s).Quiet := by
  cases command with
  | acquire => exact fun hdisabled => (h hdisabled).acquire
  | release => exact fun _ => Handle.isBlank_released
  | set id ds => exact absurd rfl (hset id ds)
  | clear id => exact h.handled fun _ hclear hblank => hblank.of_clear_eq_ok hclear
  | clearAll => exact h.handled fun _ hclear _ => Handle.isBlank_of_clearAll_eq_ok hclear
  | toggle => exact quiet_toggle s
  | refresh doc => exact h.refreshed doc
  | close doc => exact h.handled fun _ hclear hblank => hblank.of_clear_eq_ok hclear
  | _ => exact h

end Quiet

end Session

/-! ## runs -/

namespace Layer

variable {l m : Layer}

/-- A new session is quiet. -/
theorem quiet_initial (isAcquired isEnabled : Bool) (config : Config) (delay : Int) :
    (initial isAcquired isEnabled config delay).session.Quiet := by
  intro _
  cases isAcquired
  · exact Handle.isBlank_released
  · exact Handle.isBlank_cleared

/-- Only a command that sets decorations directly can break the quiet of a disabled session. -/
theorem quiet_step (h : l.session.Quiet) (hstep : Step l m)
    (hset : ∀ id ds, .began (.set id ds) ∉ m.history) : m.session.Quiet := by
  cases hstep with
  | command hfire =>
    rw [history_run l hfire] at hset
    rw [run_eq l hfire]
    exact h.onSession fun id ds heq => hset id ds (by simp [heq])
  | shown hrequest hcurrent hanswer => exact h.refreshed _
  | _ => exact h

/-- Every session that can be reached without such a command is quiet. -/
theorem Reachable.quiet (h : l.Reachable) (hset : ∀ id ds, .began (.set id ds) ∉ l.history) :
    l.session.Quiet := by
  refine h.invariant
    (P := fun l => (∀ id ds, .began (.set id ds) ∉ l.history) → l.session.Quiet)
    (fun _ _ _ _ _ => quiet_initial _ _ _ _) (fun hstep hquiet hset => ?_) hset
  exact quiet_step (hquiet fun id ds hmem => hset id ds (hstep.history_mono.subset hmem)) hstep hset

/-- **A disabled session shows nothing.**  In all states of all runs in which
nothing sets decorations but the session, between commands or inside them, the
handle of a disabled session is released or holds no decorations of any
document. -/
theorem disabled_shows_nothing (h : l.Reachable)
    (hset : ∀ id ds, .began (.set id ds) ∉ l.history) (hdisabled : l.session.isEnabled = false) :
    l.session.handle.isActive = false ∨ l.session.handle.shown = some [] := by
  have hblank := h.quiet hset hdisabled
  obtain hshown | ⟨shown, hshown⟩ : l.session.handle.shown = none ∨
      ∃ shown, l.session.handle.shown = some shown :=
    Option.eq_none_or_eq_some _
  · rw [Handle.isActive, hshown]
    exact .inl rfl
  · obtain rfl := hblank shown hshown
    exact .inr hshown

/-- The session is disabled while the editor is asked about a document that is
shown; the timer finds that its document is active and itself still the last,
but refreshes nothing. -/
theorem disabled_shows_nothing_asked :
    let doc : Document := ⟨"web", "routes/web.php", "Route::get('/x', f);"⟩
    let l := (initial true true {} 500).runAll
      [.refresh doc, .schedule doc, .onCheck .toggle, .fire 0]
    l.Reachable ∧ (∀ id ds, .began (.set id ds) ∉ l.history) ∧ l.session.isEnabled = false ∧
      .refreshed 0 doc 1 ∈ l.history ∧
      (l.session.handle.isActive = false ∨ l.session.handle.shown = some []) := by
  intro doc l
  have hreachable : l.Reachable := ⟨true, true, {}, 500, .runAll .refl _⟩
  have hhistory : l.history = [.began (.refresh doc), .began (.schedule doc),
      .began (.onCheck .toggle), .began (.fire 0), .began .toggle, .answered "web" true,
      .refreshed 0 doc 1] := by decide +kernel
  have hset : ∀ id ds, .began (.set id ds) ∉ l.history := by simp [hhistory]
  have hdisabled : l.session.isEnabled = false := by decide +kernel
  exact ⟨hreachable, hset, hdisabled, by simp [hhistory],
    disabled_shows_nothing hreachable hset hdisabled⟩

end Layer

end RoutePaths.Editor
