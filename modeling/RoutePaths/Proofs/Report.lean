import RoutePaths.Proofs.Console.Table
import RoutePaths.Proofs.Project.Output
import RoutePaths.Proofs.Route.Method

/-!
# RoutePaths.Proofs.Report

What comes to the console, whatever way it has to read texts with tags, as long as that
keeps the laws (`Console.Lawful`).  The texts of the report that are not taken from the
scanned text show by themselves, since they are plain or plain between the tags of a
style; so the report is drawn if the paths show (`Report.completes_lines`), and not if it
reads one whose tags cannot be read (`Report.readable_of_lines`).  The message about a
source that gives no project is as good as the error in it
(`CommandLine.run_execute_of_error`).  `console_takes` puts both together.
-/

namespace RoutePaths

open Console (IsPlain IsStyle Lawful Shows Readable ClosesNothing)

variable {screen : Console.Screen}

/-! ## texts of the report -/

namespace Report

variable {read : Console.Reader} {a b : String}

/-- Plain texts make a plain text. -/
theorem isPlain_append (ha : IsPlain a.toList) (hb : IsPlain b.toList) :
    IsPlain (a ++ b).toList := by
  rw [String.toList_append]
  exact fun c hc => (List.mem_append.mp hc).elim (ha c) (hb c)

/-- A text without brackets and backslashes shows. -/
theorem shows_of_isPlain (hread : Lawful read) (h : IsPlain a.toList) : Shows read a := by
  rw [← String.append_empty (s := a)]
  exact (hread.plain a "" h).2.mpr hread.empty

/-- A plain text between the tags of a style shows, behind plain text too. -/
theorem shows_tagged (hread : Lawful read) {name : String} (hname : IsStyle name.toList)
    (ha : IsPlain a.toList) (hb : IsPlain b.toList) : Shows read (b ++ tagged name a) := by
  have htagged : Shows read (tagged name a) := by
    have hgood := (hread.tagged name a "" hname ha).2.mpr hread.empty
    rwa [String.append_empty] at hgood
  exact (hread.plain b _ hb).2.mpr htagged

theorem isPlain_nat (n : Nat) : IsPlain (toString n).toList := by
  intro c hc
  have hdigit : c.isDigit := by
    refine Nat.isDigit_of_mem_toDigits (by decide) (Nat.le_refl 10) (n := n) ?_
    rwa [Nat.toString_eq_repr, Nat.repr, String.toList_ofList] at hc
  constructor <;> rintro rfl <;> contradiction

theorem isPlain_int (n : Int) : IsPlain (toString n).toList := by
  rw [Int.toString_eq_repr, Int.repr_eq_if]
  split
  · exact isPlain_nat _
  · exact isPlain_append (by decide) (isPlain_nat _)

theorem isPlain_blanks (n : Nat) : IsPlain (String.ofList (List.replicate n ' ')).toList := by
  rw [String.toList_ofList]
  intro c hc
  rw [List.eq_of_mem_replicate hc]
  decide

theorem isStyle_of_mem : ∀ name ∈ ["bold", "red", "magenta", "yellow"], IsStyle name.toList := by
  decide +kernel

/-- Every method has a style that is one. -/
theorem isStyle_style (method : String) : IsStyle (style method).toList := by
  have hstyles : ∀ entry ∈ styles, IsStyle entry.2.toList := by decide +kernel
  have hother : IsStyle "white".toList := by decide +kernel
  rw [style]
  cases hlookup : styles.lookup method with
  | none => exact hother
  | some name =>
    obtain ⟨front, behind, hentry, -⟩ := List.lookup_eq_some_iff.mp hlookup
    exact hstyles (method, name) (hentry ▸ List.mem_append_right _ (List.mem_cons_self ..))

/-! ## routes of a text -/

variable {base file text : String} {r : Route}

/-- The verbs are spelled with letters, in whatever case. -/
theorem isPlain_method (h : r ∈ Route.resolve base file text) : IsPlain r.method.toList := by
  have hverbs : ∀ verb ∈ Call.verbs, verb.all fun p => p.toUpper ≠ '[' ∧ p.toUpper ≠ '\\' := by
    decide
  have hdotted : Text.dottedI ≠ '[' ∧ Text.dottedI ≠ '\\' := by decide
  obtain ⟨verb, hverb, spelling, hspelling, hmethod⟩ := Route.exists_declaredWith h
  rw [IsPlain, hmethod, List.forall_mem_map]
  have hspelled : ∀ d ∈ spelling, ∃ p ∈ verb, Text.foldsTo p d := by
    clear hverb hmethod
    induction hspelling with
    | nil => nofun
    | cons hfolds _ ih =>
      refine List.forall_mem_cons.mpr ⟨⟨_, List.mem_cons_self .., hfolds⟩, fun d hd => ?_⟩
      exact (ih d hd).imp fun p hp => ⟨List.mem_cons_of_mem _ hp.1, hp.2⟩
  intro d hd
  obtain ⟨p, hp, hfolds⟩ := hspelled d hd
  have hascii := Route.ascii_of_mem_verbs hverb p hp
  rcases Text.upperChar_eq_or_eq_dottedI hascii hfolds with hupper | hupper
  · rw [hupper]
    exact of_decide_eq_true (List.all_eq_true.mp (hverbs verb hverb) p hp)
  · rw [hupper]
    exact hdotted

/-- The label of a method is plain. -/
theorem isPlain_methodLabel (h : r ∈ Route.resolve base file text) :
    IsPlain r.methodLabel.toList := by
  rw [Route.methodLabel]
  split
  · exact isPlain_append (isPlain_method h) (by decide)
  · exact isPlain_method h

/-- All routes of a text are of one file. -/
theorem hasManyFiles_resolve (base file text : String) :
    hasManyFiles (Route.resolve base file text) = false := by
  have hfiles : ∀ name ∈ (Route.resolve base file text).map Route.sourceFile, name = file := by
    refine List.forall_mem_map.mpr fun r hr => ?_
    obtain ⟨i, line, call, -, -, rfl⟩ := Route.mem_resolve_iff.mp hr
    rfl
  rw [hasManyFiles, decide_eq_false_iff_not, Nat.not_lt]
  cases hnames : (Route.resolve base file text).map Route.sourceFile with
  | nil => decide
  | cons name names =>
    rw [hnames, List.forall_mem_cons] at hfiles
    have hnone : names.filter (fun other => !other == name) = [] := by
      refine List.filter_eq_nil_iff.mpr fun other hother => ?_
      simp [hfiles.1, hfiles.2 other hother]
    rw [List.eraseDups_cons, hnone]
    exact Nat.le_refl 1

/-! ## the report -/

variable {rows : List Route}

/-- The cells of the table show if the paths do. -/
theorem shows_columns (hread : Lawful read) (hmethods : ∀ r ∈ rows, IsPlain r.methodLabel.toList)
    (hpaths : ∀ r ∈ rows, Shows read r.resolvedPath ∧ Shows read r.rawPath) :
    ∀ column ∈ columns false rows, ∀ cell ∈ column.header :: column.cells, Shows read cell := by
  have hcolumn : ∀ {header : String} {cells : Route → String}, IsPlain header.toList →
      (∀ r ∈ rows, Shows read (cells r)) →
        Shows read header ∧ ∀ cell ∈ rows.map cells, Shows read cell :=
    fun hheader hcells => ⟨shows_of_isPlain hread hheader, List.forall_mem_map.mpr hcells⟩
  simp only [columns, Bool.false_eq_true, if_false, List.nil_append, List.forall_mem_cons]
  refine ⟨hcolumn (by decide) fun r _ => ?_, hcolumn (by decide) fun r hr => ?_,
    hcolumn (by decide) fun r hr => (hpaths r hr).1,
    hcolumn (by decide) fun r hr => (hpaths r hr).2, nofun⟩
  · exact shows_of_isPlain hread (isPlain_int _)
  · have hshows := shows_tagged hread (b := "") (isStyle_style r.method) (hmethods r hr) (by decide)
    rwa [String.empty_append] at hshows

/-- The lines of the summary show. -/
theorem shows_summaryTexts (hread : Lawful read) {routes : List Route}
    (hmethods : ∀ r ∈ routes, IsPlain r.method.toList) :
    ∀ line ∈ summaryTexts (summary routes), Shows read line := by
  have hcounts : ∀ entry ∈ (summary routes).counts, IsPlain entry.1.toList := by
    refine List.forall_mem_map.mpr fun method hmethod => ?_
    rw [methods, List.mem_mergeSort, List.mem_eraseDups] at hmethod
    obtain ⟨r, hr, rfl⟩ := List.mem_map.mp hmethod
    exact hmethods r (List.mem_filter.mp hr).1
  simp only [summaryTexts, List.forall_mem_append, List.forall_mem_cons, List.forall_mem_map]
  refine ⟨⟨⟨?_, ?_, nofun⟩, ?_⟩, ?_⟩
  · have hshows := shows_tagged hread (b := "") (isStyle_of_mem "bold" (by decide))
      (a := "Summary:") (by decide) (by decide)
    rwa [String.empty_append] at hshows
  · exact shows_of_isPlain hread (isPlain_append (by decide) (isPlain_nat _))
  · rintro ⟨method, count⟩ hentry
    have hname : IsPlain (method ++ ":").toList := isPlain_append (hcounts _ hentry) (by decide)
    have hcount : IsPlain (padLeft 4 (toString count)).toList :=
      isPlain_append (isPlain_blanks _) (isPlain_nat _)
    have hpadded : IsPlain (padRight 18 (method ++ ":")).toList :=
      isPlain_append hname (isPlain_blanks _)
    exact shows_of_isPlain hread
      (isPlain_append (isPlain_append (isPlain_append (by decide) hpadded) (by decide)) hcount)
  · split
    · nofun
    · refine List.forall_mem_singleton.mpr ?_
      exact shows_tagged hread (isStyle_of_mem "magenta" (by decide))
        (isPlain_append (by decide) (isPlain_nat _)) (by decide)

/-- **The report is drawn** if the console is too narrow for the paths, or if all of them
show. -/
theorem completes_lines (hread : Lawful screen.read)
    (h : screen.width < 8 ∨ ∀ r ∈ Route.resolve base file text,
      Shows screen.read r.resolvedPath ∧ Shows screen.read r.rawPath) :
    Completes (lines screen true (Route.resolve base file text)) := by
  have hrows : ∀ r ∈ Route.ordered (Route.resolve base file text),
      r ∈ Route.resolve base file text := fun r hr => List.mem_mergeSort.mp hr
  rw [lines]
  split
  · have hshows := shows_tagged hread (b := "") (isStyle_of_mem "yellow" (by decide))
      (a := "No routes discovered.") (by decide) (by decide)
    rw [String.empty_append] at hshows
    exact Console.completes_say hshows
  · rw [hasManyFiles_resolve]
    have htitle : Shows screen.read "Laravel Routes" := shows_of_isPlain hread (by decide)
    refine (Console.completes_drawTable hread.empty htitle ?_).bind fun table _ => ?_
    · refine h.imp id fun hpaths => ?_
      exact shows_columns hread (fun r hr => isPlain_methodLabel (hrows r hr)) fun r hr =>
        hpaths r (hrows r hr)
    · refine Completes.bind (Completes.mapM_iff.mpr fun line hline => ?_) fun _ _ => .pure _
      exact Console.completes_say
        (shows_summaryTexts hread (fun r hr => isPlain_method hr) line hline)

/-- **The report is not drawn** if it reads a path whose tags cannot be read. -/
theorem readable_of_lines (h : Completes (lines screen true (Route.resolve base file text)))
    (hwide : 8 ≤ screen.width) :
    ∀ r ∈ Route.resolve base file text,
      Readable screen.read r.resolvedPath ∧ Readable screen.read r.rawPath := by
  intro r hr
  have hne : (Route.resolve base file text).isEmpty = false := by
    rw [List.isEmpty_eq_false_iff]
    exact List.ne_nil_of_mem hr
  rw [lines, hne, if_neg Bool.false_ne_true, hasManyFiles_resolve] at h
  generalize hrows : shown true (Route.resolve base file text) = rows at h
  have hrow : r ∈ rows := by
    rw [← hrows]
    exact List.mem_mergeSort.mpr hr
  have hresolved :
      { header := "Route Path", limit := some 60, cells := rows.map (·.resolvedPath) } ∈
        columns false rows := by simp [columns]
  have hraw : { header := "Raw Path", limit := some 40, cells := rows.map (·.rawPath) } ∈
      columns false rows := by simp [columns]
  have hreadable := Console.readable_of_drawTable h.of_bind hwide hresolved rfl
  have hreadable' := Console.readable_of_drawTable h.of_bind hwide hraw rfl
  exact ⟨hreadable _ (List.mem_cons_of_mem _ (List.mem_map_of_mem hrow)),
    hreadable' _ (List.mem_cons_of_mem _ (List.mem_map_of_mem hrow))⟩

end Report

/-! ## errors of sources -/

namespace CommandLine

variable {m : Machine} {o : Options} {message : String} {e : Source.SourceError}

/-- What stands before the message does not matter. -/
theorem asGood_errorLine {read : Console.Reader} (hread : Lawful read) (message : String) :
    Console.AsGood read ("[red]Error:[/red] " ++ message) message := by
  have hred := hread.tagged "red" "Error:" (" " ++ message)
    (Report.isStyle_of_mem "red" (by decide)) (by decide)
  have hblank := hread.plain " " message (by decide)
  have hline : "[red]Error:[/red] " ++ message =
      "[" ++ "red" ++ "]" ++ "Error:" ++ "[/" ++ "red" ++ "]" ++ (" " ++ message) := by
    rw [← String.append_assoc]
    rfl
  rw [hline]
  exact ⟨hred.1.trans hblank.1, hred.2.trans hblank.2⟩

/-- The event of lines on the stream of messages. -/
def Options.shown (o : Options) (ls : List (List Char)) : Event :=
  if o.isQuiet then .warned (linesText ls) else .printed (linesText ls)

/-- A command whose source gives no project says so. -/
theorem run_execute_of_error (h : (Source.resolve o.source o.token m).1 = .error e) :
    (execute screen o).run m =
      match Console.say screen ("[red]Error:[/red] " ++ e.message).toList with
      | .ok ls => (.ok 1, (Machine.report (o.shown ls) (Source.resolve o.source o.token m).2).2)
      | .error fault => (.error (.markup fault), (Source.resolve o.source o.token m).2) := by
  rw [run_execute, h, proceed, Options.say]
  cases Console.say screen ("[red]Error:[/red] " ++ e.message).toList with
  | ok ls => rfl
  | error fault => rfl

/-- A command whose error cannot be read fails, and reports nothing. -/
theorem run_execute_of_unreadable (hread : Lawful screen.read)
    (h : (Source.resolve o.source o.token m).1 = .error e)
    (hmessage : ¬Readable screen.read e.message) :
    ∃ fault, (execute screen o).run m =
      (.error (.markup fault), (Source.resolve o.source o.token m).2) := by
  rw [run_execute_of_error h]
  cases hsay : Console.say screen ("[red]Error:[/red] " ++ e.message).toList with
  | ok ls =>
    have hline := Console.readable_of_say ⟨ls, hsay⟩
    exact absurd ((asGood_errorLine hread e.message).1.mp hline) hmessage
  | error fault => exact ⟨fault, rfl⟩

end CommandLine

/-! ## what the console takes -/

/-- **What the console takes**, however it reads tags, as long as it keeps the laws.  The
report on the routes of a text is drawn if all paths show, or if the console is too narrow
for them; where it reads a path whose tags cannot be read, it is not.  A source that gives
no project is reported, and ends the command with code 1, if the message shows; and if the
tags of the message cannot be read, the command fails instead and reports nothing.  A tag
that closes nothing is enough for either. -/
theorem console_takes (hread : Lawful screen.read) (base file text : String) (m : Machine)
    (o : CommandLine.Options) :
    ((screen.width < 8 ∨ ∀ r ∈ Route.resolve base file text,
        Shows screen.read r.resolvedPath ∧ Shows screen.read r.rawPath) →
      Completes (Report.lines screen true (Route.resolve base file text))) ∧
    (8 ≤ screen.width → ∀ r ∈ Route.resolve base file text,
      ¬(Readable screen.read r.resolvedPath ∧ Readable screen.read r.rawPath) →
        ¬Completes (Report.lines screen true (Route.resolve base file text))) ∧
    (8 ≤ screen.width → ∀ r ∈ Route.resolve base file text,
      ClosesNothing r.resolvedPath ∨ ClosesNothing r.rawPath →
        ¬Completes (Report.lines screen true (Route.resolve base file text))) ∧
    ∀ e, (Source.resolve o.source o.token m).1 = .error e →
      (Shows screen.read e.message →
        ∃ ls, Console.say screen ("[red]Error:[/red] " ++ e.message).toList = .ok ls ∧
          (CommandLine.execute screen o).run m =
            (.ok 1, (Machine.report (o.shown ls) (Source.resolve o.source o.token m).2).2)) ∧
      (¬Readable screen.read e.message →
        ∃ fault, (CommandLine.execute screen o).run m =
          (.error (.markup fault), (Source.resolve o.source o.token m).2)) ∧
      (ClosesNothing e.message →
        ∃ fault, (CommandLine.execute screen o).run m =
          (.error (.markup fault), (Source.resolve o.source o.token m).2)) := by
  have hbroken : 8 ≤ screen.width → ∀ r ∈ Route.resolve base file text,
      ¬(Readable screen.read r.resolvedPath ∧ Readable screen.read r.rawPath) →
        ¬Completes (Report.lines screen true (Route.resolve base file text)) :=
    fun hwide r hr hpath hlines => hpath (Report.readable_of_lines hlines hwide r hr)
  refine ⟨Report.completes_lines hread, hbroken, fun hwide r hr hcloses => ?_,
    fun e hresolve => ⟨fun hshows => ?_, ?_, fun hcloses => ?_⟩⟩
  · refine hbroken hwide r hr fun ⟨hresolved, hraw⟩ => ?_
    exact hcloses.elim (hread.unmatched _ · hresolved) (hread.unmatched _ · hraw)
  · have hline := (CommandLine.asGood_errorLine hread e.message).2.mpr hshows
    obtain ⟨ls, hls⟩ := Console.completes_say hline
    refine ⟨ls, hls, ?_⟩
    rw [CommandLine.run_execute_of_error hresolve, hls]
  · exact CommandLine.run_execute_of_unreadable hread hresolve
  · exact CommandLine.run_execute_of_unreadable hread hresolve (hread.unmatched _ hcloses)

/-- A plain path and one with a closing tag in it, and the same for what git reports. -/
theorem console_takes_plain :
    let screen : Console.Screen := { width := 80 }
    let quits (report : String) : Machine :=
      ⟨⟨.folder [], []⟩, .failed report, ["tmp", "clone"], []⟩
    let o : CommandLine.Options := { source := "https://example.com/app.git" }
    Lawful screen.read ∧
    ((∀ r ∈ Route.resolve "" "" "Route::get('/a', f);",
        Shows screen.read r.resolvedPath ∧ Shows screen.read r.rawPath) ∧
      Completes (Report.lines screen true (Route.resolve "" "" "Route::get('/a', f);"))) ∧
    (∃ r ∈ Route.resolve "" "" "Route::get('/a[/x]', f);",
      ¬(Readable screen.read r.resolvedPath ∧ Readable screen.read r.rawPath) ∧
        ¬Completes (Report.lines screen true (Route.resolve "" "" "Route::get('/a[/x]', f);"))) ∧
    ((Source.resolve o.source o.token (quits "no")).1 = .error (.cloneFailed "no") ∧
      Shows screen.read "Git clone failed: no" ∧
      ((CommandLine.execute screen o).run (quits "no")).1 = .ok 1) ∧
    (Source.resolve o.source o.token (quits "no[/x]")).1 = .error (.cloneFailed "no[/x]") ∧
      ClosesNothing "Git clone failed: no[/x]" ∧
      ∃ fault, ((CommandLine.execute screen o).run (quits "no[/x]")).1 =
        .error (.markup fault) := by
  intro screen quits o
  have hread : Lawful screen.read := Console.lawful_showMarkup id
  obtain ⟨hreport, -, -, herror⟩ := console_takes hread "" "" "Route::get('/a', f);" (quits "no") o
  obtain ⟨-, hbroken, -, hfails⟩ :=
    console_takes hread "" "" "Route::get('/a[/x]', f);" (quits "no[/x]") o
  have hshows : ∀ r ∈ Route.resolve "" "" "Route::get('/a', f);",
      Shows screen.read r.resolvedPath ∧ Shows screen.read r.rawPath := by decide +kernel
  have hroute : ⟨0, "GET", "/a[/x]", "/a[/x]", "", ""⟩ ∈
      Route.resolve "" "" "Route::get('/a[/x]', f);" := by decide +kernel
  have hpath : ¬(Readable screen.read "/a[/x]" ∧ Readable screen.read "/a[/x]") := by
    decide +kernel
  have hquits : (Source.resolve o.source o.token (quits "no")).1 = .error (.cloneFailed "no") := by
    decide +kernel
  have hmessage : Shows screen.read "Git clone failed: no" := by decide +kernel
  have hquits' : (Source.resolve o.source o.token (quits "no[/x]")).1 =
      .error (.cloneFailed "no[/x]") := by decide +kernel
  have hmessage' : ClosesNothing "Git clone failed: no[/x]" :=
    ⟨"Git clone failed: no", "x", "", by decide, by decide, by simp⟩
  refine ⟨hread, ⟨hshows, hreport (.inr hshows)⟩,
    ⟨_, hroute, hpath, hbroken (by decide) _ hroute hpath⟩,
    ⟨hquits, hmessage, ?_⟩, hquits', hmessage', ?_⟩
  · obtain ⟨ls, -, hrun⟩ := (herror _ hquits).1 hmessage
    rw [hrun]
  · obtain ⟨fault, hrun⟩ := (hfails _ hquits').2.2 hmessage'
    exact ⟨fault, by rw [hrun]⟩

/-- **A path or a message with a closing tag in it** cannot be shown. -/
theorem closing_tag_fails :
    let m : Machine := ⟨⟨.folder [], []⟩, .failed "no[/x]", ["tmp", "clone"], []⟩
    let o : CommandLine.Options := { source := "https://example.com/app.git" }
    ¬Completes (Report.lines { width := 80 } true
        (Route.resolve "" "" "Route::get('/a[/x]', f);")) ∧
      (Source.resolve o.source o.token m).1 = .error (.cloneFailed "no[/x]") ∧
      ((CommandLine.execute { width := 80 } o).run m).1 =
        .error (.markup (.unmatched "/x" 38)) := by
  decide +kernel

end RoutePaths
