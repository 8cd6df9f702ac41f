import RoutePaths.Proofs.Editor.Refresh

/-!
# RoutePaths.Proofs.Editor.Cancel

What cancelling stops.  A timer that is cancelled after it has started to go
off is only stopped by its count, and cancelling changes no counts.  So what
cancelling leaves as it is (`cancel_stops_iff_superseded`): a timer that a later
request for its document has superseded never has its snapshot shown, cancelled
or not, and the last timer of a document may still have it shown.
-/

namespace RoutePaths.Editor

namespace Layer

variable {l m : Layer} {n : Nat} {t : Timer}

/-- A document that is requested again is newest at no earlier place, however a
history goes on. -/
theorem Reachable.isNewest_of_refreshed (h : l.Reachable) (hm : m.Reachable)
    (ht : l.scheduler.timers[n]? = some t) {later : List Event}
    (hhistory : m.history = l.history ++ later) {doc : Document} {generation : Nat}
    (hrefreshed : .refreshed n doc generation ∈ later) :
    IsNewest l.scheduler.snapshots n t.document := by
  obtain ⟨meanwhile, after, rfl⟩ := List.append_of_mem hrefreshed
  have hsnapshot := Scheduler.getElem?_snapshots ht
  have hn : n < l.scheduler.snapshots.length := (List.getElem?_eq_some_iff.mp hsnapshot).1
  rw [← List.append_assoc] at hhistory
  have hnewest := (hm.orderly _ n doc generation after hhistory).newest
  rw [requested_append, h.sound.requested] at hnewest
  have hnewest := hnewest.of_append hn
  have hdoc : doc = t.document := by
    rw [← Option.some.injEq, ← hnewest.1, hsnapshot]
  exact hdoc ▸ hnewest

/-- The last timer of a document still has its snapshot shown if it goes off
after it was cancelled, and the editor says that the document is active. -/
theorem exists_refreshed_after_cancel (h : l.Sound) (ht : l.scheduler.timers[n]? = some t)
    (hnewest : IsNewest l.scheduler.snapshots n t.document) :
    ∃ m, l.Leads m ∧ ∃ later, m.history = l.history ++ .began .cancel :: later ∧
      .refreshed n t.document t.generation ∈ later := by
  -- What was stored is replaced, so that nothing else happens during the question.
  let agree : Command := .activate (.all true)
  let ready := l.runAll [.cancel, .onCheck agree]
  have hrequests : l.scheduler.cancel.requests[n]? = some t.request := by
    rw [Scheduler.requests_cancel, Scheduler.getElem?_requests ht]
  obtain ⟨u, hu, hrequest⟩ := Scheduler.exists_of_getElem?_requests hrequests
  have hcurrent : ready.scheduler.isCurrent u :=
    (Scheduler.isCurrent_congr l.scheduler.generations_cancel hrequest).trans
      ((h.scheduler.isCurrent_iff_isNewest ht).mpr hnewest)
  let agreed := ((ready.waiting n u).run agree).2
  have hactive : agreed.activity.answer u.document.id = true := rfl
  have hcurrent' : (agreed.answered u.document).2.scheduler.isCurrent u := hcurrent
  have hrun : (ready.run (.fire n)).2 = (agreed.answered u.document).2.shown n u := by
    rw [← showSnapshot_of_current hcurrent', ← resume_of_active hactive]
    exact run_fire_of_some (l := ready) hu hcurrent rfl
  refine ⟨_, (Leads.refl.runAll [.cancel, .onCheck agree]).run (.fire n),
    [.began (.onCheck agree), .began (.fire n), .began agree, .answered u.document.id true,
      .refreshed n u.document u.generation], ?_, ?_⟩
  · rw [hrun]
    change l.history ++ [_] ++ [_] ++ [_] ++ [_] ++ [_] ++ [_] = _
    simp only [List.append_assoc, List.cons_append, List.nil_append]
    rfl
  · obtain ⟨hdocument, hgeneration⟩ : u.document = t.document ∧ u.generation = t.generation :=
      Prod.mk.inj hrequest
    simp [hdocument, hgeneration]

/-- **Cancelling** stops exactly the timers that a later request for their
document has superseded. -/
theorem cancel_stops_iff_superseded (h : l.Reachable) (ht : l.scheduler.timers[n]? = some t) :
    (∀ m : Layer, m.Reachable → ∀ later, m.history = l.history ++ .began .cancel :: later →
      ∀ doc generation, .refreshed n doc generation ∉ later) ↔
    ¬ IsNewest l.scheduler.snapshots n t.document := by
  constructor
  · intro hstopped hnewest
    obtain ⟨m, hleads, later, hhistory, hrefreshed⟩ :=
      exists_refreshed_after_cancel h.sound ht hnewest
    exact hstopped m (h.leads hleads) later hhistory _ _ hrefreshed
  · intro hsuperseded m hm later hhistory doc generation hrefreshed
    exact hsuperseded
      (h.isNewest_of_refreshed hm ht hhistory (List.mem_cons_of_mem _ hrefreshed))

/-- Of two timers of a document, the first one stays silent. -/
theorem cancel_stops_iff_superseded_edited :
    let doc : Document := ⟨"web", "routes/web.php", "Route::get('/x', f);"⟩
    let t : Timer := { document := doc, generation := 1, interval := 500, isCancelled := true }
    let l := (initial true true {} 500).runAll [.schedule doc, .schedule doc]
    l.Reachable ∧ l.scheduler.timers[0]? = some t ∧
    ((∀ m : Layer, m.Reachable → ∀ later, m.history = l.history ++ .began .cancel :: later →
      ∀ doc generation, .refreshed 0 doc generation ∉ later) ↔
    ¬ IsNewest l.scheduler.snapshots 0 t.document) := by
  intro doc t l
  have hreachable : l.Reachable := ⟨true, true, {}, 500, .runAll .refl _⟩
  have ht : l.scheduler.timers[0]? = some t := by decide
  exact ⟨hreachable, ht, cancel_stops_iff_superseded hreachable ht⟩

/-- A timer is cancelled while the editor is asked about its document, and
what it shows is shown nevertheless. -/
theorem refreshed_after_cancel :
    let doc : Document := ⟨"web", "routes/web.php", "Route::get('/x', f);"⟩
    let l := (initial true true {} 500).runAll [.schedule doc, .onCheck .cancel]
    let m := (l.run (.fire 0)).2
    m.history = l.history ++ [.began (.fire 0), .began .cancel, .answered "web" true,
        .refreshed 0 doc 1] ∧
      l.session.handle.get "web" = .ok [] ∧
      m.session.handle.get "web" = .ok [⟨0, "🧩 Route Path: /x"⟩] := by
  refine ⟨?_, ?_, ?_⟩
  · decide +kernel
  · rfl
  · rfl

end Layer

end RoutePaths.Editor
