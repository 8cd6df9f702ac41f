import Mathlib.Data.List.Induction
import RoutePaths.Proofs.Editor.Timers

/-!
# RoutePaths.Proofs.Editor.Refresh

Which snapshots timers may show.  The editor is asked between two looks at the
count of a request, and anything may happen meanwhile; but nothing happens
between the second look and the refresh.  So in every history (`Orderly`) the
event before a refresh is the editor's answer that the document is active, to
the question of the timer that went off, and the snapshot is that of the last
request for its document up to there.

The counts of requests only grow, so those of the snapshots shown do too
(`Orderly.pairwise_shownCounts`).
-/

namespace RoutePaths.Editor

/-! ## histories -/

/-- What makes a refresh right after a history: the timer went off and the
editor has just said that the document is active, and the timer is that of the
last request for it, whose count is that of all requests for it. -/
structure Justified (before : List Event) (n : Nat) (doc : Document) (generation : Nat) :
    Prop where
  active : EndsActive before n doc.id
  newest : IsNewest (requested before) n doc
  counted : generation = countFor (requested before) doc.id

/-- Every refresh of a history is justified by what came before. -/
def Orderly (history : List Event) : Prop :=
  ∀ before n doc generation after, history = before ++ .refreshed n doc generation :: after →
    Justified before n doc generation

/-- The count of a request for a document, if its snapshot was shown. -/
def Event.shownCount? (id : String) : Event → Option Nat
  | refreshed _ doc generation => if doc.id = id then some generation else none
  | _ => none

/-- The counts of the requests for a document whose snapshots were shown, in
order. -/
def shownCounts (history : List Event) (id : String) : List Nat :=
  history.filterMap (Event.shownCount? id)

/-- One more event adds the generation it shows, if it shows one. -/
theorem shownCounts_concat (history : List Event) (event : Event) (id : String) :
    shownCounts (history ++ [event]) id =
      shownCounts history id ++ (event.shownCount? id).toList := by
  rw [shownCounts, List.filterMap_append]
  cases hcount : event.shownCount? id <;> simp [hcount, shownCounts]

theorem orderly_nil : Orderly [] := by
  intro before n doc generation after h
  have hne : before ++ .refreshed n doc generation :: after ≠ [] :=
    List.append_ne_nil_of_right_ne_nil _ (List.cons_ne_nil _ _)
  exact absurd h.symm hne

namespace Orderly

variable {history : List Event} {event : Event}

/-- A beginning of an orderly history is orderly. -/
theorem of_append {front back : List Event} (h : Orderly (front ++ back)) : Orderly front := by
  rintro before n doc generation after rfl
  exact h before n doc generation (after ++ back) (by simp)

/-- One more event. -/
theorem concat (h : Orderly history)
    (hevent : ∀ n doc generation, event = .refreshed n doc generation →
      Justified history n doc generation) : Orderly (history ++ [event]) := by
  intro before n doc generation after heq
  -- The refresh is the new event, or it stands in the history already.
  rcases List.eq_nil_or_concat after with rfl | ⟨after, last, rfl⟩
  · obtain ⟨rfl, hlast⟩ := List.append_inj' heq rfl
    exact hevent n doc generation (List.singleton_inj.mp hlast)
  · rw [List.concat_eq_append, ← List.cons_append, ← List.append_assoc] at heq
    obtain ⟨rfl, -⟩ := List.append_inj' heq rfl
    exact h before n doc generation after rfl

/-- A snapshot is shown with the count of all requests for its document. -/
theorem eq_countFor_of_shownCount? (h : Orderly (history ++ [event])) {id : String} {count : Nat}
    (hcount : event.shownCount? id = some count) : count = countFor (requested history) id := by
  cases event with
  | refreshed n doc generation =>
    rw [Event.shownCount?, Option.ite_none_right_eq_some, Option.some.injEq] at hcount
    obtain ⟨rfl, rfl⟩ := hcount
    exact (h history n doc generation [] rfl).counted
  | _ => contradiction

/-- The snapshots shown for a document are those of later and later requests. -/
theorem pairwise_shownCounts (h : Orderly history) (id : String) :
    (shownCounts history id).Pairwise (· ≤ ·) ∧
      ∀ count ∈ shownCounts history id, count ≤ countFor (requested history) id := by
  induction history using List.reverseRecOn with
  | nil => simp [shownCounts]
  | append_singleton history event ih =>
    obtain ⟨hpairwise, hbound⟩ := ih h.of_append
    have hgrown : countFor (requested history) id ≤ countFor (requested (history ++ [event])) id :=
      (requested_mono (List.prefix_append _ _)).sublist.countP_le
    have hlast : ∀ count ∈ (event.shownCount? id).toList,
        count = countFor (requested history) id := fun count hcount =>
      h.eq_countFor_of_shownCount? (Option.mem_toList.mp hcount)
    rw [shownCounts_concat]
    refine ⟨List.pairwise_append.mpr ⟨hpairwise, ?_, ?_⟩, ?_⟩
    · cases event.shownCount? id <;> simp
    · intro earlier hearlier later hlater
      rw [hlast later hlater]
      exact hbound earlier hearlier
    · intro count hcount
      rcases List.mem_append.mp hcount with hcount | hcount
      · exact Nat.le_trans (hbound count hcount) hgrown
      · exact Nat.le_trans (Nat.le_of_eq (hlast count hcount)) hgrown

end Orderly

/-! ## histories of runs -/

namespace Layer

variable {l m : Layer} {n : Nat} {t : Timer}

/-- A timer that is current is that of the last request for its document. -/
theorem Sound.justified (h : l.Sound) (hrequest : l.scheduler.requests[n]? = some t.request)
    (hcurrent : l.scheduler.isCurrent t)
    (hanswer : EndsActive l.history n t.document.id) :
    Justified l.history n t.document t.generation := by
  obtain ⟨u, hu, hrequest⟩ := Scheduler.exists_of_getElem?_requests hrequest
  have hcurrent' : l.scheduler.isCurrent u :=
    (Scheduler.isCurrent_congr rfl hrequest.symm).symm.trans hcurrent
  obtain ⟨hdocument, hgeneration⟩ : u.document = t.document ∧ u.generation = t.generation :=
    Prod.mk.inj hrequest
  refine ⟨hanswer, ?_, ?_⟩
  · rw [h.requested, ← hdocument]
    exact (h.scheduler.isCurrent_iff_isNewest hu).mp hcurrent'
  · have hlast : l.scheduler.generations.get? t.document.id = some t.generation :=
      of_decide_eq_true hcurrent
    rw [h.requested, ← h.scheduler.total, Scheduler.generation, hlast]
    rfl

/-- A step keeps a history orderly. -/
theorem orderly_step (h : Orderly l.history) (hsound : l.Sound) (hstep : Step l m) :
    Orderly m.history := by
  cases hstep with
  | command hfire =>
    rw [history_run l hfire]
    exact h.concat (by simp)
  | shown hrequest hcurrent hanswer =>
    refine h.concat fun n doc generation heq => ?_
    obtain ⟨rfl, rfl, rfl⟩ := Event.refreshed.inj heq
    exact hsound.justified hrequest hcurrent hanswer
  | _ => exact h.concat (by simp)

/-- The history of every layer that can be reached is orderly. -/
theorem Reachable.orderly (h : l.Reachable) : Orderly l.history := by
  have hboth : l.Sound ∧ Orderly l.history :=
    h.invariant (P := fun l => l.Sound ∧ Orderly l.history)
      (fun _ _ _ _ => ⟨sound_initial _ _ _ _, orderly_nil⟩)
      fun hstep h => ⟨h.1.step hstep, orderly_step h.2 h.1 hstep⟩
  exact hboth.2

/-- **No snapshot is shown that is not the newest.**  When a timer that went
off has its snapshot refreshed, it is that of the last request for its
document, and the editor has just answered that the document is active; so the
counts of the requests whose snapshots are shown for a document never fall. -/
theorem refreshed_newest (h : l.Reachable) :
    (∀ before n doc generation after,
      l.history = before ++ .refreshed n doc generation :: after →
        IsNewest (requested before) n doc ∧ EndsActive before n doc.id) ∧
    ∀ id, (shownCounts l.history id).Pairwise (· ≤ ·) := by
  refine ⟨fun before n doc generation after heq => ?_, fun id => ?_⟩
  · have hjustified := h.orderly before n doc generation after heq
    exact ⟨hjustified.newest, hjustified.active⟩
  · exact (h.orderly.pairwise_shownCounts id).1

/-- A timer goes off inside itself, and an older one goes off late. -/
theorem refreshed_newest_twice :
    let old : Document := ⟨"web", "routes/web.php", "Route::get('/x', f);"⟩
    let new : Document := ⟨"web", "routes/web.php", "Route::get('/y', f);"⟩
    let l := (initial true true {} 500).runAll
      [.schedule old, .fire 0, .schedule new, .onCheck (.fire 1), .fire 1, .fire 0]
    l.Reachable ∧ shownCounts l.history "web" = [1, 2, 2] ∧
    (∀ before n doc generation after,
      l.history = before ++ .refreshed n doc generation :: after →
        IsNewest (requested before) n doc ∧ EndsActive before n doc.id) ∧
    ∀ id, (shownCounts l.history id).Pairwise (· ≤ ·) := by
  intro old new l
  have hreachable : l.Reachable := ⟨true, true, {}, 500, .runAll .refl _⟩
  exact ⟨hreachable, by decide +kernel, refreshed_newest hreachable⟩

end Layer

end RoutePaths.Editor
