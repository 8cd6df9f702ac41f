/-!
# RoutePaths.Ledger

Maps from keys to values that keep the order in which keys first came in:

1. `put` replaces the value of a key where it stands, or adds the key at the
   end;
2. every key stands at most once in a ledger built by `put`.
-/

namespace RoutePaths

/-- Values by key, in the order in which the keys came in. -/
abbrev Ledger (κ α : Type) := List (κ × α)

namespace Ledger

variable {κ α : Type} [DecidableEq κ]

/-- The value of a key. -/
def get? : Ledger κ α → κ → Option α
  | [], _ => none
  | (k, v) :: rest, key => if k = key then some v else get? rest key

/-- The ledger with a value for a key. -/
def put : Ledger κ α → κ → α → Ledger κ α
  | [], key, value => [(key, value)]
  | (k, v) :: rest, key, value =>
    if k = key then (k, value) :: rest else (k, v) :: put rest key value

/-- The ledger without a key. -/
def erase (ledger : Ledger κ α) (key : κ) : Ledger κ α := ledger.filter (·.1 ≠ key)

/-- The ledger that puts the pairs one after the other. -/
def ofPairs (pairs : List (κ × α)) : Ledger κ α :=
  pairs.foldl (fun ledger (key, value) => put ledger key value) []

omit [DecidableEq κ] in
/-- The keys of a ledger in order. -/
def keys (ledger : Ledger κ α) : List κ := ledger.map (·.1)

/-- The ledger with its names in the order of their code points. -/
def sorted (ledger : Ledger String α) : Ledger String α :=
  ledger.mergeSort fun a b => decide (a.1 ≤ b.1)

/-! ## Reading after writing -/

@[simp] theorem get?_put_self (ledger : Ledger κ α) (key : κ) (value : α) :
    (ledger.put key value).get? key = some value := by
  fun_induction put ledger key value <;> simp_all [get?]

@[simp] theorem get?_put_of_ne (ledger : Ledger κ α) {key other : κ} (value : α)
    (h : other ≠ key) : (ledger.put key value).get? other = ledger.get? other := by
  fun_induction put ledger key value <;> simp_all [get?, eq_comm]

@[simp] theorem get?_erase_self (ledger : Ledger κ α) (key : κ) :
    (ledger.erase key).get? key = none := by
  induction ledger with
  | nil => rfl
  | cons pair ledger ih =>
    by_cases h : pair.1 = key <;> simp_all [erase, get?]

@[simp] theorem get?_erase_of_ne (ledger : Ledger κ α) {key other : κ} (h : other ≠ key) :
    (ledger.erase key).get? other = ledger.get? other := by
  induction ledger with
  | nil => rfl
  | cons pair ledger ih =>
    by_cases hkey : pair.1 = key <;> simp_all [erase, get?, eq_comm]

theorem mem_of_get?_eq_some {ledger : Ledger κ α} {key : κ} {value : α}
    (h : ledger.get? key = some value) : (key, value) ∈ ledger := by
  fun_induction get? ledger key <;> simp_all

end Ledger

end RoutePaths
