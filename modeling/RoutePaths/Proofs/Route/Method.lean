import RoutePaths.Proofs.Route.Call
import RoutePaths.Proofs.Route.ResolvedPath

/-!
# RoutePaths.Proofs.Route.Method

The method of a route is one of the verbs, as it was spelled, in upper case
(`exists_declaredWith`).  Upper case takes all spellings of a letter back to one,
except for the dotted capital I (`upperChar_of_foldsTo`):

* no verb begins with an i, so a method in lower case begins like a verb
  (`exists_head?_lower_method`);
* without a dotted capital I the method is that of the verb, and with one it is
  none at all (`mem_methods_iff`, `isResource_iff`); a method has one only from
  the text (`dottedI_mem_of_mem_method`).
-/

namespace RoutePaths.Text

/-- A property of all ASCII characters, by their code points. -/
theorem forall_ascii {P : Char → Prop} (h : ∀ n < 0x80, P (Char.ofNat n)) {c : Char}
    (hc : c.toNat < 0x80) : P c := by
  rw [← Char.ofNat_toNat c]
  exact h c.toNat hc

/-- The lower case of an ASCII character is one again, and has the same upper
case. -/
theorem toUpper_toLower {c : Char} (h : c.toNat < 0x80) :
    c.toLower.toNat < 0x80 ∧ c.toLower.toUpper = c.toUpper :=
  forall_ascii (P := fun c => c.toLower.toNat < 0x80 ∧ c.toLower.toUpper = c.toUpper) (by decide) h

/-- Beyond ASCII no character is made lower. -/
theorem toLower_of_le {c : Char} (h : 0x80 ≤ c.toNat) : c.toLower = c := by
  have hupper : ¬ (c.val ≥ 'A'.val ∧ c.val ≤ 'Z'.val) := by
    rintro ⟨-, hle⟩
    have hle : c.toNat ≤ 90 := UInt32.le_iff_toNat_le.mp hle
    omega
  exact dif_neg hupper

theorem toUpper_of_le {c : Char} (h : 0x80 ≤ c.toNat) : c.toUpper = c := by
  have hlower : ¬ (c.val ≥ 'a'.val ∧ c.val ≤ 'z'.val) := by
    rintro ⟨-, hle⟩
    have hle : c.toNat ≤ 122 := UInt32.le_iff_toNat_le.mp hle
    omega
  exact dif_neg hlower

theorem upperChar_of_lt {c : Char} (h : c.toNat < 0x80) : upperChar c = c.toUpper := by
  rw [upperChar, if_neg (by omega), if_neg (by omega)]

/-- **Upper case forgets how a letter was spelled**, unless it keeps a dot. -/
theorem upperChar_of_foldsTo {p c : Char} (hp : p.toNat < 0x80) (h : foldsTo p c) :
    upperChar c = p.toUpper ∨ p.toLower = 'i' ∧ c.toNat = 0x130 := by
  obtain ⟨hlower, hupper⟩ := toUpper_toLower hp
  rw [← hupper]
  simp only [foldsTo, Bool.or_eq_true, Bool.and_eq_true, decide_eq_true_eq] at h
  rcases h with (h | ⟨hs, hc⟩) | ⟨hi, hc | hc⟩
  · have hc : c.toNat < 0x80 := by
      refine Nat.lt_of_not_le fun hge => Nat.not_lt_of_le hge ?_
      rwa [← h, toLower_of_le hge] at hlower
    rw [upperChar_of_lt hc, ← h, (toUpper_toLower hc).2]
    exact .inl rfl
  · rw [upperChar, if_pos hc, hs]
    exact .inl rfl
  · exact .inr ⟨hi, hc⟩
  · rw [upperChar, hc, hi]
    exact .inl rfl

/-- The capital I with a dot above it. -/
def dottedI : Char := Char.ofNat 0x130

/-- No other character gets a dot in upper case. -/
theorem eq_dottedI_of_upperChar {c : Char} (h : upperChar c = dottedI) : c = dottedI := by
  rw [upperChar] at h
  split at h
  · exact absurd h (by decide)
  · split at h
    · exact absurd h (by decide)
    · rcases Nat.lt_or_ge c.toNat 0x80 with hc | hc
      · exact absurd h (forall_ascii (P := fun c => c.toUpper ≠ dottedI) (by decide) hc)
      · rwa [toUpper_of_le hc] at h

/-- The upper case of a spelling is that of the letter, unless it has kept a dot. -/
theorem upperChar_eq_or_eq_dottedI {p c : Char} (hp : p.toNat < 0x80) (h : foldsTo p c) :
    upperChar c = p.toUpper ∨ upperChar c = dottedI := by
  refine (upperChar_of_foldsTo hp h).imp_right fun hdot => ?_
  have hc : c = dottedI := by rw [← Char.ofNat_toNat c, hdot.2, dottedI]
  rw [hc]
  decide

end RoutePaths.Text

namespace RoutePaths.Route

variable {base sourceFile text : String} {r : Route}

/-- The method is the upper case of a spelling of the verb. -/
def DeclaredWith (verb : List Char) (r : Route) : Prop :=
  ∃ spelling, List.Forall₂ (fun p c => Text.foldsTo p c) verb spelling ∧
    r.method.toList = spelling.map Text.upperChar

/-- **The method of a route** is a verb, as it was spelled, in upper case. -/
theorem exists_declaredWith (h : r ∈ resolve base sourceFile text) :
    ∃ verb ∈ Call.verbs, r.DeclaredWith verb := by
  obtain ⟨i, line, call, -, hcall, rfl⟩ := mem_resolve_iff.mp h
  obtain ⟨verb, hverb, spelling, -, hspelling, hmethod⟩ := (Call.standsIn_of_find? hcall).verb
  exact ⟨verb, hverb, spelling, hspelling, by rw [← hmethod, ofCall, String.toList_ofList]⟩

/-- The first letter of a verb is no i, and comes back from upper case. -/
theorem first_of_cons_mem_verbs {p : Char} {ps : List Char} (h : p :: ps ∈ Call.verbs) :
    p.toNat < 0x80 ∧ p.toLower ≠ 'i' ∧ p.toUpper ≠ Text.capitalSigma ∧
      Text.lowerChar p.toUpper = [p] := by
  have hall : ∀ verb ∈ Call.verbs, verb.head?.all fun p =>
      p.toNat < 0x80 ∧ p.toLower ≠ 'i' ∧ p.toUpper ≠ Text.capitalSigma ∧
        Text.lowerChar p.toUpper = [p] := by
    decide
  exact of_decide_eq_true (hall _ h)

/-- In lower case, the method of a route begins like a verb. -/
theorem exists_head?_lower_method (h : r ∈ resolve base sourceFile text) :
    ∃ verb ∈ Call.verbs, (Text.lower r.method.toList).head? = verb.head? := by
  obtain ⟨verb, hverb, spelling, hspelling, hmethod⟩ := exists_declaredWith h
  refine ⟨verb, hverb, ?_⟩
  cases hspelling with
  | nil => exact absurd hverb (by decide)
  | @cons p c ps cs hfirst =>
    obtain ⟨hascii, hi, hsigma, hlower⟩ := first_of_cons_mem_verbs hverb
    have hupper : Text.upperChar c = p.toUpper :=
      (Text.upperChar_of_foldsTo hascii hfirst).resolve_right fun hdot => hi hdot.1
    rw [hmethod, List.map_cons, hupper, Text.lower, Text.lowerFrom, if_neg hsigma, hlower]
    rfl

/-! ## the methods of verbs -/

/-- The methods of routes and of resource declarations. -/
def methods : List String :=
  ["GET", "POST", "PUT", "DELETE", "PATCH", "OPTIONS", "ANY", "APIRESOURCE", "RESOURCE"]

/-- Without a dotted capital I, the method is the verb in upper case. -/
theorem DeclaredWith.method_eq {verb : List Char} (h : r.DeclaredWith verb)
    (hascii : ∀ p ∈ verb, p.toNat < 0x80) (hdot : Text.dottedI ∉ r.method.toList) :
    r.method = String.ofList (verb.map Char.toUpper) := by
  obtain ⟨spelling, hspelling, hmethod⟩ := h
  rw [hmethod] at hdot
  have hupper : spelling.map Text.upperChar = verb.map Char.toUpper := by
    clear hmethod
    induction hspelling with
    | nil => rfl
    | @cons p c ps cs hfirst _ ih =>
      obtain ⟨hc, hcs⟩ := not_or.mp (mt List.mem_cons.mpr hdot)
      obtain ⟨hp, hps⟩ := List.forall_mem_cons.mp hascii
      have hletter := (Text.upperChar_eq_or_eq_dottedI hp hfirst).resolve_right (Ne.symm hc)
      rw [List.map_cons, List.map_cons, hletter, ih hps hcs]
  rw [← String.toList_inj, hmethod, hupper, String.toList_ofList]

/-- The verbs are ASCII. -/
theorem ascii_of_mem_verbs {verb : List Char} (h : verb ∈ Call.verbs) :
    ∀ p ∈ verb, p.toNat < 0x80 := by
  have hall : ∀ verb ∈ Call.verbs, verb.all (·.toNat < 0x80) := by decide
  simpa using hall verb h

/-- A method has a dotted capital I only from the text. -/
theorem dottedI_mem_of_mem_method (h : r ∈ resolve base sourceFile text)
    (hdot : Text.dottedI ∈ r.method.toList) : Text.dottedI ∈ text.toList := by
  obtain ⟨i, line, call, hline, hcall, rfl⟩ := mem_resolve_iff.mp h
  obtain ⟨verb, -, spelling, hstands, -, hmethod⟩ := (Call.standsIn_of_find? hcall).verb
  rw [ofCall, String.toList_ofList, hmethod] at hdot
  obtain ⟨c, hc, hupper⟩ := List.mem_map.mp hdot
  cases Text.eq_dottedI_of_upperChar hupper
  have hmem : Text.dottedI ∈ line := (Text.trim_infix_self line).subset (hstands.subset hc)
  obtain ⟨a, b, -, -, htext⟩ := Text.exists_append_of_mem_splitOn (List.mem_of_getElem? hline)
  rw [htext]
  exact List.mem_append_right a (List.mem_append_left b hmem)

/-- **A method is one of the fixed ones** exactly if it has no dotted capital I. -/
theorem mem_methods_iff (h : r ∈ resolve base sourceFile text) :
    r.method ∈ methods ↔ Text.dottedI ∉ r.method.toList := by
  have hplain : ∀ m ∈ methods, Text.dottedI ∉ m.toList := by decide
  have hverbs : ∀ verb ∈ Call.verbs, String.ofList (verb.map Char.toUpper) ∈ methods := by decide
  refine ⟨hplain _, fun hdot => ?_⟩
  obtain ⟨verb, hverb, hdeclared⟩ := exists_declaredWith h
  rw [hdeclared.method_eq (ascii_of_mem_verbs hverb) hdot]
  exact hverbs verb hverb

/-- **A resource declaration is taken for one** exactly if its method has no dotted
capital I. -/
theorem isResource_iff
    (h : r.DeclaredWith "apiResource".toList ∨ r.DeclaredWith "resource".toList) :
    r.isResource ↔ Text.dottedI ∉ r.method.toList := by
  have hplain : ∀ m ∈ resourceMethods, Text.dottedI ∉ m.toList := by decide
  rw [isResource, List.contains_iff_mem]
  refine ⟨hplain _, fun hdot => ?_⟩
  rcases h with h | h
  · rw [h.method_eq (ascii_of_mem_verbs (by decide)) hdot]
    decide
  · rw [h.method_eq (ascii_of_mem_verbs (by decide)) hdot]
    decide

end RoutePaths.Route
