import RoutePaths.Console.Table
import RoutePaths.Proofs.Console.Layout

/-!
# RoutePaths.Proofs.Console.Table

When a table can be drawn.  On a console that leaves its columns less than three cells
no cell is read, because no column gets wider than that (`columnWidths_le`).  On any
other console the cells of the columns without a fixed width are read to be measured
(`readable_of_drawTable`); and if all cells show, the table is drawn
(`completes_drawTable`).
-/

namespace RoutePaths.Console

variable {column : Column} {columns : List Column} {cell title : String} {avail width : Nat}
  {screen : Screen} {read : Reader}

/-! ## measuring -/

/-- A cell is read to be measured, unless the console has no room for it. -/
theorem completes_cellMeasure_iff :
    Completes (cellMeasure read avail cell) ↔ avail < 3 ∨ Readable read cell := by
  rw [cellMeasure]
  split
  · next hnarrow => exact iff_of_true ⟨_, rfl⟩ (.inl hnarrow)
  · next hwide =>
    rw [or_iff_right hwide]
    exact ⟨Completes.of_bind, fun h => h.bind fun _ _ => .pure _⟩

/-- A column without a fixed width is measured cell by cell. -/
theorem completes_columnMeasure_iff :
    Completes (columnMeasure read avail column) ↔
      avail < 3 ∨ column.fixed.isSome ∨
          ∀ cell ∈ column.header :: column.cells, Readable read cell := by
  rw [columnMeasure.eq_def]
  split
  · next hzero => exact iff_of_true ⟨_, rfl⟩ (.inl (by omega))
  · split
    · next width hfixed => exact iff_of_true ⟨_, rfl⟩ (.inr (.inl (by rw [hfixed]; rfl)))
    · next hfixed =>
      have hmeasures : Completes ((column.header :: column.cells).mapM (cellMeasure read avail)) ↔
          avail < 3 ∨ ∀ cell ∈ column.header :: column.cells, Readable read cell := by
        simp only [Completes.mapM_iff, completes_cellMeasure_iff]
        by_cases hnarrow : avail < 3 <;> simp [hnarrow]
      rw [hfixed, Option.isSome_none, Bool.false_eq_true, false_or, ← hmeasures]
      exact ⟨Completes.of_bind, fun h => h.bind fun _ _ => .pure _⟩

/-- No column is wider than the console. -/
theorem columnMeasure_le {w : Nat} (h : columnMeasure read avail column = .ok w) : w ≤ avail := by
  rw [columnMeasure.eq_def] at h
  split at h
  · next hzero =>
    obtain rfl := Except.ok.inj h
    omega
  · split at h
    · obtain rfl := Except.ok.inj h
      exact Nat.min_le_left _ _
    · obtain ⟨widths, -, h⟩ := exists_of_bind_eq_ok h
      obtain rfl := Except.ok.inj h
      split
      · exact Nat.min_le_left _ _
      · exact Nat.le_trans (Nat.min_le_left _ _) (Nat.min_le_left _ _)

/-! ## narrowing -/

variable {most : Nat}

/-- Taking from values makes none of them greater. -/
theorem reduceFrom_le {xs : List (Nat × Nat × Nat)} (h : ∀ x ∈ xs, x.2.2 ≤ most)
    (total shares : Nat) : ∀ w ∈ reduceFrom total shares xs, w ≤ most := by
  induction xs generalizing total shares with
  | nil => nofun
  | cons x xs ih =>
    obtain ⟨ratio, greatest, value⟩ := x
    rw [List.forall_mem_cons] at h
    rw [reduceFrom]
    split
    · exact List.forall_mem_cons.mpr ⟨Nat.le_trans (Nat.sub_le _ _) h.1, ih h.2 _ _⟩
    · exact List.forall_mem_cons.mpr ⟨h.1, ih h.2 _ _⟩

theorem reduce_le {values : List Nat} (h : ∀ w ∈ values, w ≤ most) (total : Nat)
    (ratios greatest : List Nat) : ∀ w ∈ reduce total ratios greatest values, w ≤ most := by
  simp only [reduce]
  split
  · exact h
  · refine reduceFrom_le (fun x hx => ?_) _ _
    exact h _ (List.of_mem_zip (List.of_mem_zip hx).2).2

theorem collapse_le {widths : List Nat} (h : ∀ w ∈ widths, w ≤ most) (flexible : List Bool)
    (fuel : Nat) : ∀ w ∈ collapse avail flexible fuel widths, w ≤ most := by
  induction fuel generalizing widths with
  | zero => exact h
  | succ fuel ih =>
    rw [collapse]
    dsimp only
    split
    · exact h
    · split
      · exact h
      · exact ih (reduce_le h _ _ _)

/-- The widths of columns that are narrowed to fit into a console. -/
def narrowed (avail : Nat) (columns : List Column) (widths : List Nat) : List Nat :=
  let flexible := columns.map (·.fixed.isNone)
  let collapsed := if flexible.any id then collapse avail flexible (sumOf widths) widths else widths
  if sumOf collapsed ≤ avail then collapsed
  else reduce (sumOf collapsed - avail) (collapsed.map fun _ => 1) collapsed collapsed

/-- The widths of columns, with the narrowing by its name. -/
theorem columnWidths_eq (read : Reader) (avail : Nat) (columns : List Column) :
    columnWidths read avail columns = columns.mapM (columnMeasure read avail) >>= fun measured =>
      let widths := measured.map fun w => if w = 0 then 1 else w
      if sumOf widths ≤ avail then pure widths
      else ((narrowed avail columns widths).zip columns).mapM fun (width, column) =>
        columnMeasure read width column := rfl

/-- Narrowing makes no column wider. -/
theorem narrowed_le {widths : List Nat} (h : ∀ w ∈ widths, w ≤ most) (avail : Nat)
    (columns : List Column) : ∀ w ∈ narrowed avail columns widths, w ≤ most := by
  have hcollapsed : ∀ w ∈ (if (columns.map (·.fixed.isNone)).any id then
      collapse avail (columns.map (·.fixed.isNone)) (sumOf widths) widths else widths),
      w ≤ most := by
    split
    · exact collapse_le h _ _
    · exact h
  rw [narrowed]
  generalize (if (columns.map (·.fixed.isNone)).any id then
    collapse avail (columns.map (·.fixed.isNone)) (sumOf widths) widths else widths) = collapsed
    at hcollapsed ⊢
  split
  · exact hcollapsed
  · exact reduce_le hcollapsed _ _ _

/-- A column that takes no cell is given one. -/
theorem widths_le {measured : List Nat}
    (h : columns.mapM (columnMeasure read avail) = .ok measured) :
    ∀ w ∈ measured.map (fun w => if w = 0 then 1 else w), w ≤ max avail 1 := by
  refine List.forall_mem_map.mpr fun w hw => ?_
  obtain ⟨column, -, hmeasure⟩ := exists_of_mem_mapM h hw
  have hle := columnMeasure_le hmeasure
  split <;> omega

/-- The columns have widths if all of them can be measured. -/
theorem completes_columnWidths
    (h : ∀ column ∈ columns, ∀ a ≤ max avail 1, Completes (columnMeasure read a column)) :
    Completes (columnWidths read avail columns) := by
  rw [columnWidths_eq]
  refine Completes.bind (Completes.mapM_iff.mpr fun column hcolumn => ?_)
    fun measured hmeasured => ?_
  · exact h column hcolumn avail (Nat.le_max_left _ _)
  · dsimp only
    split
    · exact .pure _
    · refine Completes.mapM_iff.mpr ?_
      rintro ⟨w, column⟩ hmem
      obtain ⟨hw, hcolumn⟩ := List.of_mem_zip hmem
      exact h column hcolumn w (narrowed_le (widths_le hmeasured) avail columns w hw)

/-- **No column is wider than the console**, but for the one cell that a column takes at
least. -/
theorem columnWidths_le {widths : List Nat} (h : columnWidths read avail columns = .ok widths) :
    ∀ w ∈ widths, w ≤ max avail 1 := by
  rw [columnWidths_eq] at h
  obtain ⟨measured, hmeasured, h⟩ := exists_of_bind_eq_ok h
  have hwidths := widths_le hmeasured
  dsimp only at h
  split at h
  · obtain rfl := Except.ok.inj h
    exact hwidths
  · intro w hw
    obtain ⟨⟨most, column⟩, hmem, hmeasure⟩ := exists_of_mem_mapM h hw
    have hmost := narrowed_le hwidths avail columns most (List.of_mem_zip hmem).1
    exact Nat.le_trans (columnMeasure_le hmeasure) hmost

/-! ## drawing -/

/-- A cell that shows is drawn. -/
theorem completes_cellLines (h : width < 3 ∨ Shows read cell) (justify : Justify) :
    Completes (cellLines read width justify cell) := by
  rw [cellLines]
  split
  · exact ⟨_, rfl⟩
  · next hwide =>
    obtain ⟨shown, hshown, hfaultless⟩ := h.resolve_left hwide
    rw [hshown]
    exact (completes_draw (faultless_layout hfaultless _ _ _)).bind fun _ _ => .pure _

/-- A row is drawn if its cells are. -/
theorem completes_rowLines {placed : List (Nat × Justify)} {cells : List String}
    (h : ∀ column ∈ placed, ∀ cell ∈ cells, column.1 < 3 ∨ Shows read cell) (bar : Char)
    (isHeader : Bool) : Completes (rowLines read bar isHeader placed cells) := by
  refine Completes.bind (Completes.mapM_iff.mpr ?_) fun _ _ => .pure _
  rintro ⟨⟨width, justify⟩, cell⟩ hmem
  obtain ⟨hcolumn, hcell⟩ := List.of_mem_zip hmem
  exact completes_cellLines (h _ hcolumn cell hcell) justify

/-- The cells of the rows are those of the columns. -/
theorem mem_rowsOf {count : Nat} {row : List String} (hrow : row ∈ rowsOf count columns)
    (hcell : cell ∈ row) : cell = "" ∨ ∃ column ∈ columns, cell ∈ column.cells := by
  induction count generalizing columns with
  | zero => contradiction
  | succ count ih =>
    rcases List.mem_cons.mp hrow with rfl | hrow
    · obtain ⟨column, hcolumn, rfl⟩ := List.mem_map.mp hcell
      cases hcells : column.cells with
      | nil => exact .inl rfl
      | cons first rest =>
        exact .inr ⟨column, hcolumn, by simp [hcells]⟩
    · refine (ih hrow).imp_right ?_
      rintro ⟨shorter, hshorter, hcell⟩
      obtain ⟨column, hcolumn, rfl⟩ := List.mem_map.mp hshorter
      exact ⟨column, hcolumn, List.mem_of_mem_tail hcell⟩

/-- **A table is drawn** if the console is too narrow for its cells, or if all of them
show. -/
theorem completes_drawTable (hempty : Shows screen.read "")
    (htitle : Shows screen.read title)
    (h : screen.width < columns.length + 4 ∨
      ∀ column ∈ columns, ∀ cell ∈ column.header :: column.cells, Shows screen.read cell) :
    Completes (drawTable screen title columns) := by
  rw [drawTable]
  split
  · exact .pure _
  · have hmeasure : ∀ column ∈ columns, ∀ a ≤ max (screen.width - (columns.length + 1)) 1,
        Completes (columnMeasure screen.read a column) := by
      intro column hcolumn a ha
      refine completes_columnMeasure_iff.mpr ?_
      rcases h with hnarrow | hshows
      · exact .inl (by omega)
      · exact .inr (.inr fun cell hcell => (hshows column hcolumn cell hcell).readable)
    refine (completes_columnWidths hmeasure).bind fun widths hwidths => ?_
    -- Every cell is left out or shows.
    have hrow : ∀ {cells : List String} (bar : Char) (isHeader : Bool),
        (∀ cell ∈ cells, cell = "" ∨ ∃ column ∈ columns, cell ∈ column.header :: column.cells) →
          Completes (rowLines screen.read bar isHeader
            (widths.zip (columns.map (·.justify))) cells) := by
      intro cells bar isHeader hcells
      refine completes_rowLines (fun ⟨w, justify⟩ hplaced cell hcell => ?_) bar isHeader
      rcases h with hnarrow | hshows
      · have hw := columnWidths_le hwidths w (List.of_mem_zip hplaced).1
        exact .inl (by omega)
      · rcases hcells cell hcell with rfl | ⟨column, hcolumn, hcell⟩
        · exact .inr hempty
        · exact .inr (hshows column hcolumn cell hcell)
    obtain ⟨shown, hshown, hfaultless⟩ := htitle
    refine Completes.bind ⟨shown, hshown⟩ fun shown' hshown' => ?_
    obtain rfl : shown' = shown := Except.ok.inj (hshown'.symm.trans hshown)
    refine (completes_draw (faultless_layout hfaultless _ _ _)).bind fun titleLines _ => ?_
    refine (hrow '┃' true ?_).bind fun header _ => ?_
    · refine List.forall_mem_map.mpr fun column hcolumn => .inr ⟨column, hcolumn, ?_⟩
      exact List.mem_cons_self ..
    · refine Completes.bind (Completes.mapM_iff.mpr fun row hcells => ?_) fun _ _ => .pure _
      refine hrow '│' false fun cell hcell => (mem_rowsOf hcells hcell).imp_right ?_
      exact fun ⟨column, hcolumn, hcell⟩ => ⟨column, hcolumn, List.mem_cons_of_mem _ hcell⟩

/-- **The cells that are measured** are read. -/
theorem readable_of_drawTable (h : Completes (drawTable screen title columns))
    (hwide : columns.length + 4 ≤ screen.width) (hcolumn : column ∈ columns)
    (hfixed : column.fixed = none) :
    ∀ cell ∈ column.header :: column.cells, Readable screen.read cell := by
  rw [drawTable, if_neg (by omega)] at h
  have hmeasures : Completes
      (columns.mapM (columnMeasure screen.read (screen.width - (columns.length + 1)))) :=
    h.of_bind.of_bind
  have hmeasure := completes_columnMeasure_iff.mp (Completes.mapM_iff.mp hmeasures column hcolumn)
  rcases hmeasure with hnarrow | hsome | hreadable
  · omega
  · simp [hfixed] at hsome
  · exact hreadable

end RoutePaths.Console
