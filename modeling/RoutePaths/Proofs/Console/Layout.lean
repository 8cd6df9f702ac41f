import RoutePaths.Console.Layout
import RoutePaths.Proofs.Console.Markup

/-!
# RoutePaths.Proofs.Console.Layout

A text all of whose styles can be looked up can be drawn, however it is broken into
lines: cutting, filling and putting together make no part whose style was not there
before (`faultless_layout`).
-/

namespace RoutePaths.Console

namespace Styled

variable {t u line : Styled} {ts : List Styled}

/-! ## cutting and putting together -/

/-- Parts that are dropped or keep their fault. -/
theorem faultless_of_filterMap {f : Span → Option Span}
    (hf : ∀ s s', f s = some s' → s'.fault = s.fault) (h : t.Faultless) (chars : List Char) :
    Faultless ⟨chars, t.spans.filterMap f⟩ := by
  intro part hpart
  obtain ⟨s, hs, hsome⟩ := List.mem_filterMap.mp hpart
  rw [hf s part hsome, h s hs]

/-- Parts that keep their fault. -/
theorem faultless_of_map {f : Span → Span} (hf : ∀ s, (f s).fault = s.fault) (h : t.Faultless)
    (chars : List Char) : Faultless ⟨chars, t.spans.map f⟩ := by
  intro part hpart
  obtain ⟨s, hs, rfl⟩ := List.mem_map.mp hpart
  rw [hf, h s hs]

/-- A part of the text between two places. -/
theorem Faultless.between (h : t.Faultless) (lo hi : Nat) : (t.between lo hi).Faultless := by
  refine faultless_of_filterMap (fun s s' hs => ?_) h _
  rw [Span.clip?] at hs
  split at hs
  · obtain rfl := Option.some.inj hs
    rfl
  · contradiction

/-- Other characters, whose parts are cut to fit them. -/
theorem Faultless.withChars (h : t.Faultless) (chars : List Char) :
    (t.withChars chars).Faultless := by
  rw [Styled.withChars]
  split
  · refine faultless_of_filterMap (fun s s' hs => ?_) h _
    rw [Span.trim?] at hs
    split at hs
    · obtain rfl := Option.some.inj hs
      rfl
    · contradiction
  · exact h

theorem Faultless.indent (h : t.Faultless) (n : Nat) : (t.indent n).Faultless :=
  faultless_of_map (f := Span.shift n) (fun _ => rfl) h _

theorem Faultless.fill (h : t.Faultless) (n : Nat) : (t.fill n).Faultless := h

/-- Filling up with blanks adds no fault. -/
theorem Faultless.extend (h : t.Faultless) (n : Nat) : (t.extend n).Faultless := by
  refine faultless_of_map (fun s => ?_) h _
  split <;> rfl

/-- Two texts, one behind the other. -/
theorem Faultless.append (ht : t.Faultless) (hu : u.Faultless) : (t.append u).Faultless := by
  intro part hpart
  rcases List.mem_append.mp hpart with hpart | hpart
  · exact ht part hpart
  · exact faultless_of_map (f := Span.shift t.chars.length) (fun _ => rfl) hu u.chars part hpart

/-- Any number of texts, one behind another. -/
theorem faultless_concat (h : ∀ t ∈ ts, t.Faultless) : (concat ts).Faultless := by
  have hfold : ∀ t : Styled, t.Faultless → (ts.foldl Styled.append t).Faultless := by
    induction ts with
    | nil => exact fun t ht => ht
    | cons u ts ih =>
      rw [List.forall_mem_cons] at h
      exact fun t ht => ih h.2 _ (ht.append h.1)
  exact hfold _ nofun

/-- The parts of a faultless text are faultless. -/
theorem Faultless.partsFrom (h : t.Faultless) (lo : Nat) (places : List Nat) :
    ∀ part ∈ t.partsFrom lo places, part.Faultless := by
  induction places generalizing lo with
  | nil =>
    rw [Styled.partsFrom]
    exact List.forall_mem_singleton.mpr (h.between _ _)
  | cons place places ih =>
    rw [Styled.partsFrom]
    exact List.forall_mem_cons.mpr ⟨h.between _ _, ih place⟩

/-- The texts that another is cut into. -/
theorem Faultless.cutAt (h : t.Faultless) (places : List Nat) :
    ∀ part ∈ t.cutAt places, part.Faultless := by
  cases places with
  | nil => exact List.forall_mem_singleton.mpr h
  | cons place places => exact h.partsFrom 0 (place :: places)

end Styled

open Styled (Faultless)

variable {t line : Styled}

/-! ## lines -/

/-- Blanks for tabs add no fault. -/
theorem faultless_expandTabs {parts : List Styled} (h : ∀ part ∈ parts, part.Faultless)
    (column : Nat) : ∀ part ∈ expandTabs column parts, part.Faultless := by
  induction parts generalizing column with
  | nil => nofun
  | cons part parts ih =>
    rw [List.forall_mem_cons] at h
    rw [expandTabs]
    split
    · exact List.forall_mem_cons.mpr ⟨(h.1.withChars _).extend _, ih h.2 _⟩
    · exact List.forall_mem_cons.mpr ⟨h.1, ih h.2 _⟩

/-- Spaces in place of tabs. -/
theorem faultless_withoutTabs (h : line.Faultless) : (withoutTabs line).Faultless := by
  rw [withoutTabs]
  split
  · exact h
  · exact Styled.faultless_concat (faultless_expandTabs (h.cutAt _) 0)

/-- A line that is cut to a width. -/
theorem faultless_truncate (h : line.Faultless) (width : Nat) (overflow : Overflow) :
    (truncate width overflow line).Faultless := by
  rw [truncate.eq_def]
  split
  · exact h
  · split
    · exact h.withChars _
    · exact h.withChars _

/-- A line that is put in its place. -/
theorem faultless_justified (h : line.Faultless) (width : Nat) (overflow : Overflow)
    (justify : Justify) : (justified width overflow justify line).Faultless := by
  cases justify with
  | unfilled => exact h
  | left => exact (faultless_truncate h _ _).fill _
  | center => exact ((faultless_truncate (h.withChars _) _ _).indent _).fill _
  | right => exact (faultless_truncate (h.withChars _) _ _).indent _

/-- **The lines of a text** have no style that the text does not have. -/
theorem faultless_layout (h : t.Faultless) (width : Nat) (overflow : Overflow) (justify : Justify) :
    ∀ line ∈ layout width overflow justify t, line.Faultless := by
  intro line hline
  obtain ⟨part, hpart, hline⟩ := List.mem_flatMap.mp hline
  obtain ⟨piece, hpiece, rfl⟩ := List.mem_map.mp hline
  have hlines : part.Faultless := h.cutAt _ part (List.mem_filter.mp hpart).1
  have hpieces := (faultless_withoutTabs hlines).cutAt _ piece hpiece
  exact faultless_truncate (faultless_justified (hpieces.withChars _) _ _ _) _ _

/-! ## drawing -/

/-- Numbers, paths and the like stand out in styles that are known. -/
theorem faultless_highlight (h : t.Faultless) : (highlight t).Faultless := by
  intro part hpart
  rcases List.mem_append.mp hpart with hpart | hpart
  · obtain ⟨⟨start, stop⟩, -, hsome⟩ := List.mem_filterMap.mp hpart
    dsimp only at hsome
    split at hsome
    · obtain rfl := Option.some.inj hsome
      rfl
    · contradiction
  · exact h part hpart

/-- Lines whose styles can be looked up are drawn. -/
theorem completes_draw {lines : List Styled} (h : ∀ line ∈ lines, line.Faultless) :
    Completes (draw lines) := by
  have hnone : lines.findSome? Styled.fault? = none :=
    List.findSome?_eq_none_iff.mpr fun line hline => List.findSome?_eq_none_iff.mpr (h line hline)
  rw [draw, hnone]
  exact ⟨_, rfl⟩

/-- **A text that shows** is drawn on any console. -/
theorem completes_say {screen : Screen} {s : String} (h : Shows screen.read s) :
    Completes (say screen s.toList) := by
  obtain ⟨shown, hshown, hfaultless⟩ := h
  have hdraw := completes_draw
    (faultless_layout (faultless_highlight hfaultless) screen.width .fold .unfilled)
  rw [say, hshown]
  change Completes (if screen.width = 0 then pure [] else draw _ >>= fun lines => pure _)
  split
  · exact .pure _
  · exact hdraw.bind fun _ _ => .pure _

/-- A text whose tags cannot be read is not drawn, even where there is nothing to
draw. -/
theorem readable_of_say {screen : Screen} {s : String} (h : Completes (say screen s.toList)) :
    Readable screen.read s := h.of_bind

end RoutePaths.Console
