import Mathlib.Data.List.Sort
import RoutePaths.Proofs.Route.Records

/-!
# RoutePaths.Proofs.Route.Edited

What an edit of one line does to the records of the others.  The record of a line is
told by the line and its prefix (`Route.filter_resolve_eq`).  The lines behind a line have
no part in its prefix, and lines that a scan cannot tell apart may stand in front of
it one for the other.  So an edit leaves the records in front of it as they are, and, if it
exchanges interchangeable lines, those behind it as well (`Route.resolve_edited`).
-/

namespace RoutePaths

/-! ## places in lists -/

/-- Lists that agree in all places but one, where both have an item, are parted
there into the same pieces. -/
theorem exists_append_cons_of_edited {α : Type} {xs ys : List α} {i : Nat} {x y : α}
    (hrest : ∀ j ≠ i, xs[j]? = ys[j]?) (hx : xs[i]? = some x) (hy : ys[i]? = some y) :
    ∃ front back, front.length = i ∧ xs = front ++ x :: back ∧ ys = front ++ y :: back := by
  have hfront : xs.take i = ys.take i := by
    refine List.ext_getElem? fun j => ?_
    rw [List.getElem?_take, List.getElem?_take]
    split
    · exact hrest j (by omega)
    · rfl
  have hback : xs.drop (i + 1) = ys.drop (i + 1) := by
    refine List.ext_getElem? fun j => ?_
    rw [List.getElem?_drop, List.getElem?_drop]
    exact hrest (i + 1 + j) (by omega)
  have hsplit : ∀ {zs : List α} {z : α}, zs[i]? = some z →
      zs = zs.take i ++ z :: zs.drop (i + 1) := by
    intro zs z hz
    obtain ⟨hi, rfl⟩ := List.getElem?_eq_some_iff.mp hz
    rw [← List.drop_eq_getElem_cons hi, List.take_append_drop]
  refine ⟨xs.take i, xs.drop (i + 1), ?_, hsplit hx, ?_⟩
  · have hi := (List.getElem?_eq_some_iff.mp hx).1
    rw [List.length_take]
    omega
  · rw [hfront, hback]
    exact hsplit hy

namespace Route

open RoutePaths.Group (Form Interchangeable braceBalance linePrefixes literal?)

variable {text text' : String} {i : Nat} {line line' : List Char}

/-! ## records -/

/-- **The record of a line** is told by the line and its prefix, so texts that agree
in these on some lines have the same records there. -/
theorem filter_resolve_eq (base sourceFile : String) (among : Int → Bool)
    (hlines : ∀ j : Nat, among j → (Text.lines text)[j]? = (Text.lines text')[j]?)
    (hpaths : ∀ j : Nat, among j →
      (linePrefixes Form.all text)[j]? = (linePrefixes Form.all text')[j]?) :
    (resolve base sourceFile text).filter (among ·.lineIndex) =
      (resolve base sourceFile text').filter (among ·.lineIndex) := by
  have hsubset : ∀ {a b : String},
      (∀ j : Nat, among j → (Text.lines a)[j]? = (Text.lines b)[j]?) →
      (∀ j : Nat, among j → (linePrefixes Form.all a)[j]? = (linePrefixes Form.all b)[j]?) →
      (resolve base sourceFile a).filter (among ·.lineIndex) ⊆
        (resolve base sourceFile b).filter (among ·.lineIndex) := by
    intro a b hlines hpaths r hr
    obtain ⟨hmem, hamong⟩ := List.mem_filter.mp hr
    obtain ⟨j, line, call, hline, hcall, rfl⟩ := mem_extract_iff.mp hmem
    refine List.mem_filter.mpr ⟨mem_extract_iff.mpr ⟨j, line, call, ?_, hcall, ?_⟩, hamong⟩
    · rw [← hlines j hamong, hline]
    · rw [List.getD_eq_getElem?_getD, List.getD_eq_getElem?_getD, hpaths j hamong]
  have hpairwise : ∀ text, ((resolve base sourceFile text).filter (among ·.lineIndex)).Pairwise
      (·.lineIndex < ·.lineIndex) := fun text =>
    (pairwise_lineIndex_resolve base sourceFile text).filter _
  -- records in the order of their lines are told by what they are
  have : Std.Irrefl fun a b : Route => a.lineIndex < b.lineIndex := ⟨fun _ => Int.lt_irrefl _⟩
  have : Std.Antisymm fun a b : Route => a.lineIndex < b.lineIndex :=
    ⟨fun _ _ hab hba => absurd hba (Int.lt_asymm hab)⟩
  exact List.Subset.antisymm_of_pairwise (hpairwise text) (hpairwise text')
    (hsubset hlines hpaths)
    (hsubset (fun j hj => (hlines j hj).symm) fun j hj => (hpaths j hj).symm)

/-- **Edits are local.**  If two texts agree in all lines but line `i`, their records
in front of it are the same; and if line `i` has the same balance of braces in both,
and opens a group with the same literal or none, so are the records behind it. -/
theorem resolve_edited (base sourceFile : String)
    (hrest : ∀ j ≠ i, (Text.lines text)[j]? = (Text.lines text')[j]?)
    (hline : (Text.lines text)[i]? = some line) (hline' : (Text.lines text')[i]? = some line') :
    (resolve base sourceFile text).filter (·.lineIndex < (i : Int)) =
        (resolve base sourceFile text').filter (·.lineIndex < (i : Int)) ∧
      (braceBalance line = braceBalance line' → literal? Form.all line = literal? Form.all line' →
        (resolve base sourceFile text).filter (·.lineIndex ≠ (i : Int)) =
          (resolve base sourceFile text').filter (·.lineIndex ≠ (i : Int))) := by
  obtain ⟨front, back, rfl, htext, htext'⟩ := exists_append_cons_of_edited hrest hline hline'
  constructor
  · have hbefore : ∀ j : Nat, decide ((j : Int) < front.length) = true → j < front.length :=
      fun j hj => Int.ofNat_lt.mp (of_decide_eq_true hj)
    refine filter_resolve_eq base sourceFile (· < (front.length : Int))
      (fun j hj => hrest j (Nat.ne_of_lt (hbefore j hj))) fun j hj => ?_
    refine Group.getElem?_linePrefixes_of_take_eq ?_
    rw [htext, htext', List.take_append_of_le_length (hbefore j hj),
      List.take_append_of_le_length (hbefore j hj)]
  · intro hbalance hliteral
    refine filter_resolve_eq base sourceFile (· ≠ (front.length : Int))
      (fun j hj => hrest j ?_) fun j _ => ?_
    · rintro rfl
      simp at hj
    · have hsame : ∀ ls : List (List Char), List.Forall₂ (Interchangeable Form.all) ls ls :=
        fun ls => List.forall₂_same.mpr fun l _ => .refl l
      rw [Group.linePrefixes_eq_of_interchangeable]
      rw [htext, htext']
      exact List.rel_append (hsame front) (.cons ⟨hbalance, hliteral⟩ (hsame back))

/-- A route in a group gives way to a block that opens and closes on the line. -/
theorem resolve_edited_in_group :
    let text := "Route::prefix('a')->group(f \x7b\nRoute::get('x', f);\nRoute::get('y', f);\n\x7d);"
    let text' := "Route::prefix('a')->group(f \x7b\nif (1) \x7b \x7d\nRoute::get('y', f);\n\x7d);"
    (∀ j ≠ 1, (Text.lines text)[j]? = (Text.lines text')[j]?) ∧
      (Text.lines text)[1]? = some "Route::get('x', f);".toList ∧
      (Text.lines text')[1]? = some "if (1) \x7b \x7d".toList ∧
      (resolve "" "" text).filter (·.lineIndex < 1) =
        (resolve "" "" text').filter (·.lineIndex < 1) ∧
      (resolve "" "" text).filter (·.lineIndex ≠ 1) =
        (resolve "" "" text').filter (·.lineIndex ≠ 1) ∧
      resolve "" "" text' = [⟨2, "GET", "y", "/a/y", "a", ""⟩] := by
  intro text text'
  have hset : Text.lines text' = (Text.lines text).set 1 "if (1) \x7b \x7d".toList := by
    decide +kernel
  have hrest : ∀ j ≠ 1, (Text.lines text)[j]? = (Text.lines text')[j]? := fun j hj => by
    rw [hset, List.getElem?_set_ne hj.symm]
  have hline : (Text.lines text)[1]? = some "Route::get('x', f);".toList := by decide +kernel
  have hline' : (Text.lines text')[1]? = some "if (1) \x7b \x7d".toList := by decide +kernel
  obtain ⟨hbefore, hothers⟩ := resolve_edited "" "" hrest hline hline'
  exact ⟨hrest, hline, hline', hbefore, hothers (by decide +kernel) (by decide +kernel),
    by decide +kernel⟩

end Route

end RoutePaths
