import Mathlib.Data.List.Induction
import Mathlib.Data.List.Nodup
import RoutePaths.Ledger

/-!
# RoutePaths.Proofs.Ledger

The keys of a ledger stand in the order in which they first came in: they are
the keys that were put in, each at its first place (`keys_put_of_eraseDups`).
Sorted by its names, a ledger has the same pairs, and its keys increase
(`pairwise_keys_sorted`).  What can be looked up in a ledger tells all of it but the
order of its keys (`eq_of_keys_eq`, `sorted_eq_sorted`).  Taking a key away undoes
that it was put in (`erase_put`).
-/

namespace RoutePaths

/-! ## first occurrences -/

section FirstOccurrences

variable {α : Type} [DecidableEq α]

/-- One more item stands at the end, if it is new. -/
theorem eraseDups_concat (xs : List α) (x : α) :
    (xs ++ [x]).eraseDups = if x ∈ xs then xs.eraseDups else xs.eraseDups ++ [x] := by
  rw [List.eraseDups_append]
  by_cases hx : x ∈ xs
  · simp [hx, List.removeAll]
  · simp [hx, List.removeAll, List.eraseDups_cons]

/-- Without its repeats a list has none. -/
theorem nodup_eraseDups (xs : List α) : xs.eraseDups.Nodup := by
  induction xs using List.reverseRecOn with
  | nil => exact List.nodup_nil
  | append_singleton xs x ih =>
    rw [eraseDups_concat]
    split
    · exact ih
    · next hx =>
      refine List.nodup_append.mpr ⟨ih, List.pairwise_singleton _ _, fun y hy z hz heq => hx ?_⟩
      rw [← List.mem_singleton.mp hz, ← heq]
      exact List.mem_eraseDups.mp hy

/-- What is left out does not change which of the others come first. -/
theorem filter_eraseDups (p : α → Bool) (xs : List α) :
    xs.eraseDups.filter p = (xs.filter p).eraseDups := by
  induction xs using List.reverseRecOn with
  | nil => rfl
  | append_singleton xs x ih =>
    by_cases hp : p x = true <;> by_cases hx : x ∈ xs <;> simp [eraseDups_concat, hp, hx, ih]

end FirstOccurrences

namespace Ledger

variable {κ α : Type} [DecidableEq κ] {ledger : Ledger κ α} {key : κ} {value : α}

/-! ## keys -/

/-- What is found is found under a key. -/
theorem mem_keys_of_get?_eq_some (h : ledger.get? key = some value) : key ∈ ledger.keys :=
  List.mem_map_of_mem (mem_of_get?_eq_some h)

/-- Erasing takes away one key. -/
theorem keys_erase (ledger : Ledger κ α) (key : κ) :
    (ledger.erase key).keys = ledger.keys.filter (· ≠ key) := by
  rw [erase, keys, keys, List.filter_map]
  rfl

/-- A new key stands at the end, an old one stays where it is. -/
theorem keys_put (ledger : Ledger κ α) (key : κ) (value : α) :
    (ledger.put key value).keys =
      if key ∈ ledger.keys then ledger.keys else ledger.keys ++ [key] := by
  fun_induction put ledger key value with
  | case1 => simp [keys]
  | case2 => simp [keys]
  | case3 k v rest key value hne ih =>
    have hmem : key ∈ keys ((k, v) :: rest) ↔ key ∈ keys rest := by simp [keys, Ne.symm hne]
    change k :: (put rest key value).keys = _
    simp only [ih, hmem]
    split <;> rfl

/-- **Keys stand where they first came in.** -/
theorem keys_put_of_eraseDups {given : List κ} (h : ledger.keys = given.eraseDups) (key : κ)
    (value : α) : (ledger.put key value).keys = (given ++ [key]).eraseDups := by
  rw [keys_put, eraseDups_concat, h]
  simp only [List.mem_eraseDups]

/-- If no key stands there twice, every pair can be looked up. -/
theorem get?_eq_some_iff_mem (h : ledger.keys.Nodup) :
    ledger.get? key = some value ↔ (key, value) ∈ ledger := by
  refine ⟨mem_of_get?_eq_some, fun hmem => ?_⟩
  induction ledger with
  | nil => contradiction
  | cons pair ledger ih =>
    obtain ⟨k, v⟩ := pair
    obtain ⟨hk, hrest⟩ := List.nodup_cons.mp h
    rcases List.mem_cons.mp hmem with heq | hmem
    · obtain ⟨rfl, rfl⟩ := Prod.mk.inj heq
      rw [get?, if_pos rfl]
    · have hkey : key ∈ keys ledger := List.mem_map_of_mem hmem
      have hne : k ≠ key := by
        rintro rfl
        exact hk hkey
      rw [get?, if_neg hne]
      exact ih hrest hmem

/-- **A ledger is told by the order of its keys** and the values that they have. -/
theorem eq_of_keys_eq {other : Ledger κ α} (hkeys : ledger.keys = other.keys)
    (hnodup : ledger.keys.Nodup) (hget : ∀ key, ledger.get? key = other.get? key) :
    ledger = other := by
  have hnone : ∀ {l : Ledger κ α} {key : κ}, key ∉ l.keys → l.get? key = none := fun hkey =>
    Option.eq_none_iff_forall_ne_some.mpr fun _ h => hkey (mem_keys_of_get?_eq_some h)
  induction ledger generalizing other with
  | nil => exact (List.map_eq_nil_iff.mp hkeys.symm).symm
  | cons pair ledger ih =>
    cases other with
    | nil => contradiction
    | cons pair' other =>
      obtain ⟨k, v⟩ := pair
      obtain ⟨k', v'⟩ := pair'
      obtain ⟨rfl, hrest⟩ : k = k' ∧ keys ledger = keys other := List.cons.inj hkeys
      obtain ⟨hnot, hnodup⟩ : k ∉ keys ledger ∧ (keys ledger).Nodup := List.nodup_cons.mp hnodup
      have hv : v = v' := by simpa [get?] using hget k
      have htail : ledger = other := by
        refine ih hrest hnodup fun key => ?_
        by_cases hkey : k = key
        · rw [← hkey, hnone hnot, hnone (hrest ▸ hnot)]
        · simpa [get?, hkey] using hget key
      rw [hv, htail]

/-- A new key comes in at the end. -/
theorem put_of_not_mem (h : key ∉ ledger.keys) (value : α) :
    ledger.put key value = ledger ++ [(key, value)] := by
  fun_induction put ledger key value with
  | case1 => rfl
  | case2 => exact absurd List.mem_cons_self h
  | case3 k v rest key value hne ih => rw [ih (List.not_mem_of_not_mem_cons h), List.cons_append]

/-- **Pairs with distinct keys are a ledger** as they stand. -/
theorem ofPairs_eq_self {pairs : List (κ × α)} (h : (keys pairs).Nodup) :
    ofPairs pairs = pairs := by
  induction pairs using List.reverseRecOn with
  | nil => rfl
  | append_singleton pairs pair ih =>
    rw [keys, List.map_append, List.nodup_append] at h
    obtain ⟨hpairs, -, hdisjoint⟩ := h
    have hnew : pair.1 ∉ keys pairs := fun hmem => hdisjoint _ hmem _ List.mem_cons_self rfl
    have hlast : ofPairs (pairs ++ [pair]) = put (ofPairs pairs) pair.1 pair.2 :=
      List.foldl_concat _ _ _ _
    rw [hlast, ih hpairs, put_of_not_mem hnew]

/-! ## putting twice and taking back -/

/-- The later of two values of a key stays. -/
theorem put_put (ledger : Ledger κ α) (key : κ) (first second : α) :
    (ledger.put key first).put key second = ledger.put key second := by
  fun_induction put ledger key first with
  | case1 => simp [put]
  | case2 => simp [put]
  | case3 k v rest key first hne ih => simp [put, hne, ih]

/-- A value that a key has already changes nothing. -/
theorem put_eq_self (h : ledger.get? key = some value) : ledger.put key value = ledger := by
  fun_induction put ledger key value with
  | case1 => contradiction
  | case2 =>
    rw [get?, if_pos rfl] at h
    rw [Option.some.inj h]
  | case3 k v rest key value hne ih =>
    rw [get?, if_neg hne] at h
    rw [ih h]

/-- **A new key leaves nothing behind** when it is taken away again. -/
theorem erase_put (h : ledger.get? key = none) (value : α) :
    (ledger.put key value).erase key = ledger := by
  fun_induction put ledger key value with
  | case1 => simp [erase]
  | case2 =>
    rw [get?, if_pos rfl] at h
    contradiction
  | case3 k v rest key value hne ih =>
    rw [get?, if_neg hne] at h
    simpa [erase, hne] using ih h

/-! ## sorted ledgers -/

section Sorted

variable {ledger : Ledger String α}

theorem sorted_perm (ledger : Ledger String α) : ledger.sorted.Perm ledger :=
  List.mergeSort_perm _ _

theorem mem_sorted {pair : String × α} : pair ∈ ledger.sorted ↔ pair ∈ ledger :=
  (sorted_perm ledger).mem_iff

theorem mem_keys_sorted {key : String} : key ∈ ledger.sorted.keys ↔ key ∈ ledger.keys :=
  ((sorted_perm ledger).map Prod.fst).mem_iff

/-- Sorted by names of which none is there twice, the names increase. -/
theorem pairwise_lt_mergeSort {β : Type} {f : β → String} {xs : List β} (h : (xs.map f).Nodup) :
    (xs.mergeSort fun a b => decide (f a ≤ f b)).Pairwise (f · < f ·) := by
  have hle : (xs.mergeSort fun a b => decide (f a ≤ f b)).Pairwise (f · ≤ f ·) := by
    refine (List.pairwise_mergeSort ?_ ?_ xs).imp of_decide_eq_true
    · intro a b c hab hbc
      simp only [decide_eq_true_eq] at hab hbc ⊢
      exact String.le_trans hab hbc
    · intro a b
      simpa using String.le_total (f a) (f b)
  have hperm := (List.mergeSort_perm xs fun a b => decide (f a ≤ f b)).map f
  have hne := List.pairwise_map.mp (hperm.nodup_iff.mpr h)
  exact (hle.and hne).imp fun ⟨hle, hne⟩ => Std.lt_of_le_of_ne hle hne

/-- **The keys of a sorted ledger increase**, if none stands there twice. -/
theorem pairwise_keys_sorted (h : ledger.keys.Nodup) : ledger.sorted.keys.Pairwise (· < ·) :=
  List.pairwise_map.mpr (pairwise_lt_mergeSort h)

/-- **Increasing keys** leave only one order to the pairs of a ledger. -/
theorem eq_of_pairwise_keys {other : Ledger String α} (h : ledger.keys.Pairwise (· < ·))
    (h' : other.keys.Pairwise (· < ·)) (hmem : ∀ pair, pair ∈ ledger ↔ pair ∈ other) :
    ledger = other := by
  have hnodup : ∀ {l : Ledger String α}, l.keys.Pairwise (· < ·) → l.Nodup := fun hl =>
    List.Nodup.of_map _ (hl.imp Std.ne_of_lt)
  have hperm : ledger.Perm other := (List.perm_ext_iff_of_nodup (hnodup h) (hnodup h')).mpr hmem
  refine hperm.eq_of_pairwise (fun a b _ _ hab hba => ?_) (List.pairwise_map.mp h)
    (List.pairwise_map.mp h')
  exact absurd (String.lt_trans hab hba) (String.lt_irrefl _)

/-- **A sorted ledger is told by the values of its keys.** -/
theorem sorted_eq_sorted {other : Ledger String α} (hnodup : ledger.keys.Nodup)
    (hnodup' : other.keys.Nodup) (hget : ∀ key, ledger.get? key = other.get? key) :
    ledger.sorted = other.sorted := by
  refine eq_of_pairwise_keys (pairwise_keys_sorted hnodup) (pairwise_keys_sorted hnodup') ?_
  rintro ⟨key, value⟩
  rw [mem_sorted, mem_sorted, ← get?_eq_some_iff_mem hnodup, ← get?_eq_some_iff_mem hnodup', hget]

end Sorted

end Ledger

end RoutePaths
