import RoutePaths.Editor.Scheduler

/-!
# RoutePaths.Proofs.Editor.Scheduler

What the scheduler keeps from operation to operation (`Consistent`):

* a timer carries the count of the requests of its document up to its own, and
  the scheduler knows the count of all of them, so a timer is current exactly
  if no later request was made for its document (`isCurrent_iff_isNewest`);
* a document waits for the timer of its last request, which is not cancelled,
  or for none;
* a timer that no document waits for is cancelled or has gone off.

There are two ways for a timer out of the table, being superseded and going
off, and both take out no other timer (`Consistent.withdraw`): what stands in
the table is current, and of one document only one timer is current.
-/

namespace RoutePaths.Editor

/-! ## places in lists -/

section Places

variable {α : Type} {xs : List α}

/-- What stands in a list with one more item stood there before, or is the new
item at its end. -/
theorem getElem?_concat_cases {x y : α} {m : Nat} (h : (xs ++ [x])[m]? = some y) :
    xs[m]? = some y ∨ (m = xs.length ∧ y = x) := by
  rw [List.getElem?_append] at h
  split at h
  · exact .inl h
  · next hm =>
    rw [List.getElem?_singleton, Option.ite_none_right_eq_some, Option.some.injEq] at h
    exact .inr ⟨by omega, h.2.symm⟩

/-- What stands at a later place is still there behind an earlier one. -/
theorem mem_drop_of_lt {x : α} {n m : Nat} (h : xs[m]? = some x) (hlt : n < m) :
    x ∈ xs.drop (n + 1) := by
  have hget : (xs.drop (n + 1))[m - (n + 1)]? = some x := by
    rw [List.getElem?_drop, ← h]
    congr 1
    omega
  exact List.mem_of_getElem? hget

end Places

/-! ## newest documents -/

/-- The document stands at that place of the list, and none of its id behind
it. -/
def IsNewest (docs : List Document) (n : Nat) (doc : Document) : Prop :=
  docs[n]? = some doc ∧ ∀ later ∈ docs.drop (n + 1), later.id ≠ doc.id

instance (docs : List Document) (n : Nat) (doc : Document) : Decidable (IsNewest docs n doc) :=
  inferInstanceAs (Decidable (_ ∧ _))

/-- How many documents of the list have the id. -/
def countFor (docs : List Document) (id : String) : Nat := docs.countP (·.id = id)

/-- Requests are counted apart in two parts of a history. -/
theorem countFor_append (a b : List Document) (id : String) :
    countFor (a ++ b) id = countFor a id + countFor b id :=
  List.countP_append

namespace IsNewest

variable {docs more : List Document} {n m : Nat} {doc other : Document}

/-- The newest document of an id is the one with the count of them all. -/
theorem iff_countFor (h : docs[n]? = some doc) :
    IsNewest docs n doc ↔ countFor (docs.take (n + 1)) doc.id = countFor docs doc.id := by
  have hsplit : countFor docs doc.id =
      countFor (docs.take (n + 1)) doc.id + countFor (docs.drop (n + 1)) doc.id := by
    rw [← countFor_append, List.take_append_drop]
  have hnone : countFor (docs.drop (n + 1)) doc.id = 0 ↔
      ∀ later ∈ docs.drop (n + 1), later.id ≠ doc.id := by
    simp [countFor, List.countP_eq_zero]
  rw [IsNewest, ← hnone, hsplit, and_iff_right h]
  omega

/-- An id has one newest document. -/
theorem unique (h : IsNewest docs n doc) (h' : IsNewest docs m other) (hid : other.id = doc.id) :
    n = m := by
  rcases Nat.lt_trichotomy n m with hlt | heq | hgt
  · exact absurd hid (h.2 other (mem_drop_of_lt h'.1 hlt))
  · exact heq
  · exact absurd hid.symm (h'.2 doc (mem_drop_of_lt h.1 hgt))

/-- What is newest in a longer list is newest where it stands already. -/
theorem of_append (h : IsNewest (docs ++ more) n doc) (hn : n < docs.length) :
    IsNewest docs n doc := by
  refine ⟨?_, fun later hlater => h.2 later ?_⟩
  · rw [← h.1, List.getElem?_append_left hn]
  · rw [List.drop_append_of_le_length hn]
    exact List.mem_append_left _ hlater

/-- A document of another id makes none of this one newer. -/
theorem append_of_ne (h : IsNewest docs n doc) (hid : other.id ≠ doc.id) :
    IsNewest (docs ++ [other]) n doc := by
  have hn : n < docs.length := (List.getElem?_eq_some_iff.mp h.1).1
  refine ⟨?_, fun later hlater => ?_⟩
  · rw [List.getElem?_append_left hn, h.1]
  · rw [List.drop_append_of_le_length hn, List.mem_append, List.mem_singleton] at hlater
    rcases hlater with hlater | rfl
    · exact h.2 later hlater
    · exact hid

end IsNewest

/-! ## requests -/

/-- What a timer was made for: a snapshot and the count of its request. -/
def Timer.request (t : Timer) : Document × Nat := (t.document, t.generation)

namespace Scheduler

/-- What the timers were made for. -/
def requests (s : Scheduler) : List (Document × Nat) := s.timers.map Timer.request

/-- The snapshots of the timers. -/
def snapshots (s : Scheduler) : List Document := s.timers.map (·.document)

theorem snapshots_eq_map (s : Scheduler) : s.snapshots = s.requests.map Prod.fst := by
  rw [snapshots, requests, List.map_map]
  rfl

theorem getElem?_snapshots {s : Scheduler} {n : Nat} {t : Timer} (h : s.timers[n]? = some t) :
    s.snapshots[n]? = some t.document := by
  rw [snapshots, List.getElem?_map, h]
  rfl

/-- The request of a timer is at the place of the timer. -/
theorem getElem?_requests {s : Scheduler} {n : Nat} {t : Timer} (h : s.timers[n]? = some t) :
    s.requests[n]? = some t.request := by
  rw [requests, List.getElem?_map, h]
  rfl

/-- Every request has its timer. -/
theorem exists_of_getElem?_requests {s : Scheduler} {n : Nat} {request : Document × Nat}
    (h : s.requests[n]? = some request) : ∃ t, s.timers[n]? = some t ∧ t.request = request := by
  rwa [requests, List.getElem?_map, Option.map_eq_some_iff] at h

/-- Whether a timer is current depends on its request and on the generations only. -/
theorem isCurrent_congr {s s' : Scheduler} {t t' : Timer}
    (hgenerations : s'.generations = s.generations) (hrequest : t'.request = t.request) :
    s'.isCurrent t' = s.isCurrent t := by
  rw [Timer.request, Timer.request, Prod.mk.injEq] at hrequest
  rw [isCurrent, isCurrent, hgenerations, hrequest.1, hrequest.2]

/-- The counts of the requests: every timer carries that of the requests of
its document up to its own, and the scheduler knows that of all. -/
structure Counted (s : Scheduler) : Prop where
  numbered : ∀ n doc generation, s.requests[n]? = some (doc, generation) →
    generation = countFor (s.snapshots.take (n + 1)) doc.id
  total : ∀ id, s.generation id = countFor s.snapshots id

namespace Counted

variable {s s' : Scheduler} {n : Nat} {t : Timer}

/-- The count is of the requests and the generations and of nothing else. -/
theorem of_eq (h : s.Counted) (hrequests : s'.requests = s.requests)
    (hgenerations : s'.generations = s.generations) : s'.Counted := by
  constructor
  · rw [snapshots_eq_map, hrequests, ← snapshots_eq_map]
    exact h.numbered
  · rw [snapshots_eq_map, hrequests, ← snapshots_eq_map]
    intro id
    rw [generation, hgenerations]
    exact h.total id

/-- The first request of a document has the count one. -/
theorem generation_pos (h : s.Counted) (ht : s.timers[n]? = some t) : 0 < t.generation := by
  have hn : n < s.snapshots.length := (List.getElem?_eq_some_iff.mp (getElem?_snapshots ht)).1
  have hmem : t.document ∈ s.snapshots.take (n + 1) := by
    refine List.mem_of_getElem? (i := n) ?_
    rw [List.getElem?_take_of_lt (Nat.lt_succ_self n), getElem?_snapshots ht]
  rw [h.numbered n _ _ (getElem?_requests ht)]
  exact List.countP_pos_iff.mpr ⟨t.document, hmem, by simp⟩

/-- **A timer is current** exactly if its request is the last one of its
document. -/
theorem isCurrent_iff_isNewest (h : s.Counted) (ht : s.timers[n]? = some t) :
    s.isCurrent t ↔ IsNewest s.snapshots n t.document := by
  have hpos := h.generation_pos ht
  have hcurrent : s.isCurrent t ↔ t.generation = s.generation t.document.id := by
    rw [isCurrent, decide_eq_true_iff, generation]
    cases s.generations.get? t.document.id with
    | none => simp; omega
    | some generation => simp [eq_comm]
  rw [IsNewest.iff_countFor (getElem?_snapshots ht), hcurrent, h.total,
    h.numbered n _ _ (getElem?_requests ht)]

end Counted

/-! ## operations on timers -/

section ModifyTimer

variable {s : Scheduler} {n m : Nat} {t : Timer} {f : Timer → Timer}

/-- Changing the marks of a timer leaves the requests. -/
theorem requests_modifyTimer (hf : ∀ t, (f t).request = t.request) :
    (s.modifyTimer n f).requests = s.requests := by
  refine List.ext_getElem? fun m => ?_
  rw [requests, requests, modifyTimer, List.getElem?_map, List.getElem?_map, List.getElem?_modify]
  cases s.timers[m]? with
  | none => rfl
  | some t =>
    by_cases h : n = m
    · simp [h, hf]
    · simp [h]

theorem counted_modifyTimer (h : s.Counted) (hf : ∀ t, (f t).request = t.request) :
    (s.modifyTimer n f).Counted :=
  h.of_eq (requests_modifyTimer hf) rfl

/-- Every timer is changed, or was there before. -/
theorem exists_of_getElem?_modifyTimer (h : (s.modifyTimer n f).timers[m]? = some t) :
    ∃ u, s.timers[m]? = some u ∧ ((n = m ∧ t = f u) ∨ (n ≠ m ∧ t = u)) := by
  rw [modifyTimer, List.getElem?_modify] at h
  obtain ⟨u, hu, rfl⟩ := Option.map_eq_some_iff.mp h
  refine ⟨u, hu, ?_⟩
  by_cases hm : n = m
  · exact .inl ⟨hm, if_pos hm⟩
  · exact .inr ⟨hm, if_neg hm⟩

/-- The timer at the place is the changed one. -/
theorem getElem?_modifyTimer_self (h : s.timers[n]? = some t) :
    (s.modifyTimer n f).timers[n]? = some (f t) := by
  simp [modifyTimer, h]

/-- The timers at other places are as they were. -/
theorem getElem?_modifyTimer_of_ne (h : n ≠ m) :
    (s.modifyTimer n f).timers[m]? = s.timers[m]? := by
  simp [modifyTimer, h]

end ModifyTimer

/-! ## the invariant -/

/-- What the scheduler keeps from operation to operation. -/
structure Consistent (s : Scheduler) : Prop extends s.Counted where
  /-- A document waits for a current timer of its own that is not cancelled. -/
  listed : ∀ id n, s.pending.get? id = some n →
    ∃ t, s.timers[n]? = some t ∧ t.document.id = id ∧ t.isStarted ∧ ¬ t.isCancelled ∧ s.isCurrent t
  /-- A timer that its document does not wait for is cancelled or has gone off. -/
  settled : ∀ n t, s.timers[n]? = some t →
    s.pending.get? t.document.id = some n ∨ t.isCancelled ∨ t.hasFired

namespace Consistent

variable {s : Scheduler} {n m : Nat} {t : Timer}

/-- A scheduler without timers is consistent. -/
theorem initial (delay : Int) : ({ delay } : Scheduler).Consistent where
  numbered := by simp [requests]
  total _ := rfl
  listed := by simp [Ledger.get?]
  settled := by simp

/-- A document waits for no timer but its newest. -/
theorem isNewest_of_listed (h : s.Consistent) {id : String}
    (hpending : s.pending.get? id = some n) :
    ∃ t, s.timers[n]? = some t ∧ t.document.id = id ∧ IsNewest s.snapshots n t.document := by
  obtain ⟨t, ht, hid, -, -, hcurrent⟩ := h.listed id n hpending
  exact ⟨t, ht, hid, (h.isCurrent_iff_isNewest ht).mp hcurrent⟩

/-- While a timer is current, its document waits for no other. -/
theorem eq_of_listed (h : s.Consistent) (ht : s.timers[n]? = some t) (hcurrent : s.isCurrent t)
    (hpending : s.pending.get? t.document.id = some m) : m = n := by
  obtain ⟨u, -, hid, hnewest⟩ := h.isNewest_of_listed hpending
  exact hnewest.unique ((h.isCurrent_iff_isNewest ht).mp hcurrent) hid.symm

/-- A timer leaves the table once it is marked as cancelled or gone off, and
no other timer leaves with it. -/
theorem withdraw (h : s.Consistent) (ht : s.timers[n]? = some t) {f : Timer → Timer}
    (hf : ∀ t, (f t).request = t.request) (hmarked : ∀ t, (f t).isCancelled ∨ (f t).hasFired)
    (halone : ∀ m, s.pending.get? t.document.id = some m → m = n) :
    { s.modifyTimer n f with pending := s.pending.erase t.document.id }.Consistent where
  toCounted := h.toCounted.of_eq (requests_modifyTimer hf) rfl
  listed id m hpending := by
    have hid : id ≠ t.document.id := by
      rintro rfl
      rw [Ledger.get?_erase_self] at hpending
      contradiction
    rw [Ledger.get?_erase_of_ne _ hid] at hpending
    obtain ⟨u, hu, hdoc, hstarted, hcancelled, hcurrent⟩ := h.listed id m hpending
    have hne : n ≠ m := by
      rintro rfl
      rw [ht, Option.some.injEq] at hu
      exact hid (hu ▸ hdoc.symm)
    exact ⟨u, (getElem?_modifyTimer_of_ne hne).trans hu, hdoc, hstarted, hcancelled, hcurrent⟩
  settled m t' ht' := by
    obtain ⟨u, hu, ⟨-, rfl⟩ | ⟨hne, rfl⟩⟩ := exists_of_getElem?_modifyTimer ht'
    · exact .inr (hmarked u)
    · rcases h.settled m t' hu with hpending | hflags
      · -- The document of the timer that leaves waited for no other one.
        have hid : t'.document.id ≠ t.document.id := fun hid =>
          hne (halone m (hid ▸ hpending)).symm
        rw [Ledger.get?_erase_of_ne _ hid]
        exact .inl hpending
      · exact .inr hflags

/-- A timer may go off more often than once, and when nobody waits for it. -/
theorem fired (h : s.Consistent) (n : Nat) :
    (s.modifyTimer n fun t => { t with hasFired := true }).Consistent where
  toCounted := counted_modifyTimer h.toCounted fun _ => rfl
  listed id m hpending := by
    obtain ⟨u, hu, hdoc, hstarted, hcancelled, hcurrent⟩ := h.listed id m hpending
    by_cases hm : n = m
    · subst hm
      exact ⟨_, getElem?_modifyTimer_self hu, hdoc, hstarted, hcancelled, hcurrent⟩
    · exact ⟨u, (getElem?_modifyTimer_of_ne hm).trans hu, hdoc, hstarted, hcancelled, hcurrent⟩
  settled m t' ht' := by
    obtain ⟨u, hu, ⟨-, rfl⟩ | ⟨-, rfl⟩⟩ := exists_of_getElem?_modifyTimer ht'
    · exact .inr (.inr rfl)
    · exact h.settled m t' hu

/-- Withdrawing the timer of a document keeps a scheduler consistent. -/
theorem supersede (h : s.Consistent) (id : String) : (s.supersede id).Consistent := by
  rw [Scheduler.supersede]
  cases hpending : s.pending.get? id with
  | none => exact h
  | some n =>
    obtain ⟨t, ht, rfl, -⟩ := h.listed id n hpending
    refine h.withdraw ht (fun _ => rfl) (fun _ => .inl rfl) fun m hm => ?_
    rw [hpending, Option.some.injEq] at hm
    exact hm.symm

end Consistent

/-! ## one more request -/

/-- The scheduler with one more timer, which its document waits for. -/
def enlist (s : Scheduler) (t : Timer) : Scheduler :=
  { s with
    timers := s.timers ++ [t]
    pending := s.pending.put t.document.id s.timers.length
    generations := s.generations.put t.document.id t.generation }

/-- A request withdraws the listed timer of its document and enlists a new one. -/
theorem schedule_eq_enlist (s : Scheduler) (doc : Document) :
    s.schedule doc = (s.supersede doc.id).enlist
      { document := doc
        generation := (s.supersede doc.id).generation doc.id + 1
        interval := (s.supersede doc.id).delay } :=
  rfl

/-- Superseding asks for nothing. -/
theorem requests_supersede (s : Scheduler) (id : String) :
    (s.supersede id).requests = s.requests := by
  rw [supersede]
  cases s.pending.get? id with
  | none => rfl
  | some n => exact requests_modifyTimer fun _ => rfl

/-- No timer is listed for a document that was superseded. -/
theorem get?_pending_supersede (s : Scheduler) (id : String) :
    (s.supersede id).pending.get? id = none := by
  rw [supersede]
  cases hpending : s.pending.get? id with
  | none => exact hpending
  | some n => exact Ledger.get?_erase_self _ id

section Enlist

variable {s : Scheduler} {t : Timer}

/-- A new timer's request comes behind all others. -/
theorem requests_enlist : (s.enlist t).requests = s.requests ++ [t.request] :=
  List.map_append

theorem snapshots_enlist : (s.enlist t).snapshots = s.snapshots ++ [t.document] :=
  List.map_append

/-- A request adds the snapshot it was made with. -/
theorem snapshots_schedule (s : Scheduler) (doc : Document) :
    (s.schedule doc).snapshots = s.snapshots ++ [doc] := by
  rw [schedule_eq_enlist, snapshots_enlist, snapshots_eq_map, requests_supersede,
    ← snapshots_eq_map]

/-- A request leaves the earlier ones in place. -/
theorem requests_schedule_mono (s : Scheduler) (doc : Document) :
    s.requests <+: (s.schedule doc).requests := by
  rw [schedule_eq_enlist, requests_enlist, requests_supersede]
  exact List.prefix_append _ _

/-- A timer of the generation that is next for its document keeps the counts: its
request is one more of that document, and none of any other. -/
theorem Counted.enlist (h : s.Counted)
    (hgeneration : t.generation = s.generation t.document.id + 1) : (s.enlist t).Counted := by
  have hlength : s.snapshots.length = s.requests.length := by
    rw [snapshots_eq_map, List.length_map]
  have htotal : t.generation = countFor (s.snapshots ++ [t.document]) t.document.id := by
    rw [hgeneration, h.total, countFor_append]
    simp [countFor]
  constructor
  · intro n doc generation hrequest
    rw [requests_enlist] at hrequest
    rw [snapshots_enlist]
    rcases getElem?_concat_cases hrequest with hrequest | ⟨rfl, hlast⟩
    · have hn : n < s.requests.length := (List.getElem?_eq_some_iff.mp hrequest).1
      rw [List.take_append_of_le_length (by omega)]
      exact h.numbered n doc generation hrequest
    · obtain ⟨rfl, rfl⟩ := Prod.mk.inj hlast
      rw [List.take_of_length_le (by simp [hlength])]
      exact htotal
  · intro id
    rw [snapshots_enlist]
    by_cases hid : id = t.document.id
    · subst hid
      rw [← htotal, generation, Scheduler.enlist, Ledger.get?_put_self]
      rfl
    · have hother : countFor [t.document] id = 0 := by simp [countFor, eq_comm, hid]
      rw [countFor_append, hother, Nat.add_zero, ← h.total, generation, Scheduler.enlist,
        Ledger.get?_put_of_ne _ _ hid]
      rfl

/-- A request for a document that waits for nothing. -/
theorem Consistent.enlist (h : s.Consistent) (hnone : s.pending.get? t.document.id = none)
    (hgeneration : t.generation = s.generation t.document.id + 1)
    (hstarted : t.isStarted) (hcancelled : ¬ t.isCancelled) : (s.enlist t).Consistent where
  toCounted := h.toCounted.enlist hgeneration
  listed id m hpending := by
    by_cases hid : id = t.document.id
    · subst hid
      rw [Scheduler.enlist, Ledger.get?_put_self, Option.some.injEq] at hpending
      subst hpending
      refine ⟨t, List.getElem?_concat_length, rfl, hstarted, hcancelled, ?_⟩
      simp [isCurrent, Scheduler.enlist]
    · rw [Scheduler.enlist, Ledger.get?_put_of_ne _ _ hid] at hpending
      obtain ⟨u, hu, rfl, hstarted', hcancelled', hcurrent⟩ := h.listed id m hpending
      have hm : m < s.timers.length := (List.getElem?_eq_some_iff.mp hu).1
      refine ⟨u, (List.getElem?_append_left hm).trans hu, rfl, hstarted', hcancelled', ?_⟩
      rw [isCurrent, Scheduler.enlist, Ledger.get?_put_of_ne _ _ hid]
      exact hcurrent
  settled m u hu := by
    rcases getElem?_concat_cases hu with hu | ⟨rfl, rfl⟩
    · rcases h.settled m u hu with hpending | hflags
      · have hid : u.document.id ≠ t.document.id := by
          intro hid
          rw [hid, hnone] at hpending
          contradiction
        rw [Scheduler.enlist, Ledger.get?_put_of_ne _ _ hid]
        exact .inl hpending
      · exact .inr hflags
    · rw [Scheduler.enlist, Ledger.get?_put_self]
      exact .inl rfl

/-- **A request** supersedes the timer that its document waits for. -/
theorem Consistent.schedule (h : s.Consistent) (doc : Document) : (s.schedule doc).Consistent := by
  rw [schedule_eq_enlist]
  exact (h.supersede doc.id).enlist (get?_pending_supersede s doc.id) rfl rfl Bool.false_ne_true

end Enlist

/-! ## no more requests -/

section Cancel

variable {s : Scheduler}

/-- Cancelling timers changes what is marked on them, and nothing else. -/
theorem getElem?_foldl_cancelTimer (listed : Ledger String Nat) (s : Scheduler) (m : Nat) :
    (listed.foldl (fun s (_, n) => s.cancelTimer n) s).timers[m]? =
      s.timers[m]?.map fun t =>
        { t with isCancelled := t.isCancelled || decide (m ∈ listed.map Prod.snd) } := by
  induction listed generalizing s with
  | nil => simp
  | cons pair listed ih =>
    obtain ⟨id, n⟩ := pair
    simp only [List.foldl_cons]
    rw [ih, cancelTimer, modifyTimer, List.getElem?_modify]
    cases s.timers[m]? with
    | none => rfl
    | some t =>
      by_cases hm : m = n
      · simp [hm]
      · have hmem : m ∈ ((id, n) :: listed).map Prod.snd ↔ m ∈ listed.map Prod.snd := by
          simp [hm]
        simp [Ne.symm hm, decide_eq_decide.mpr hmem]

/-- Cancelling timers changes their marks only, not the generations. -/
theorem generations_foldl_cancelTimer (listed : Ledger String Nat) (s : Scheduler) :
    (listed.foldl (fun s (_, n) => s.cancelTimer n) s).generations = s.generations := by
  induction listed generalizing s with
  | nil => rfl
  | cons pair listed ih => exact ih _

theorem requests_foldl_cancelTimer (listed : Ledger String Nat) (s : Scheduler) :
    (listed.foldl (fun s (_, n) => s.cancelTimer n) s).requests = s.requests := by
  induction listed generalizing s with
  | nil => rfl
  | cons pair listed ih => exact (ih _).trans (requests_modifyTimer fun _ => rfl)

/-- A cancelled scheduler remembers every request. -/
theorem requests_cancel (s : Scheduler) : s.cancel.requests = s.requests :=
  requests_foldl_cancelTimer s.pending s

/-- A cancelled scheduler keeps its generations, so what waits can still be current. -/
theorem generations_cancel (s : Scheduler) : s.cancel.generations = s.generations :=
  generations_foldl_cancelTimer s.pending s

/-- **No more requests**: what documents wait for is cancelled. -/
theorem Consistent.cancel (h : s.Consistent) : s.cancel.Consistent where
  toCounted := h.toCounted.of_eq (requests_cancel s) (generations_cancel s)
  listed id n hpending := by simp [Scheduler.cancel, Ledger.get?] at hpending
  settled n t ht := by
    rw [Scheduler.cancel, getElem?_foldl_cancelTimer] at ht
    obtain ⟨u, hu, rfl⟩ := Option.map_eq_some_iff.mp ht
    rcases h.settled n u hu with hpending | hcancelled | hfired
    · have hmem : n ∈ s.pending.map Prod.snd :=
        List.mem_map_of_mem (Ledger.mem_of_get?_eq_some hpending)
      exact .inr (.inl (by simp [hmem]))
    · exact .inr (.inl (by simp [hcancelled]))
    · exact .inr (.inr hfired)

end Cancel

end Scheduler

end RoutePaths.Editor
