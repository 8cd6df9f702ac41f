import RoutePaths.Proofs.Route.Method
import RoutePaths.Proofs.Text.Occurrence

/-!
# RoutePaths.Proofs.Route.Grammar

The lines that declare a route are those in which a declaration is spelled
(`Call.Spelling`), and the leftmost spelling tells what the record says:

* at one place of a line there is one spelling at most (`Call.Spelling.eq`),
  since no verb begins like another (`Call.eq_of_prefix_of_mem_verbs`) and every
  other part ends where a character of another kind stands;
* `Call.here?` reads what is spelled at the start of a text
  (`Call.here?_eq_some_iff`), and blanks around the line make no difference
  (`Call.find?_trim`);
* the records of a text are those of the lines with a spelling
  (`Route.extract_takes_leftmost`).
-/

namespace RoutePaths.Text

/-- A character is a spelling of one letter only. -/
theorem toLower_eq_of_foldsTo {p q c : Char} (hp : p.toNat < 0x80) (hq : q.toNat < 0x80)
    (hpc : foldsTo p c) (hqc : foldsTo q c) : p.toLower = q.toLower := by
  have hother : ∀ {p : Char}, p.toNat < 0x80 → 0x80 ≤ c.toNat → c.toLower ≠ p.toLower := by
    intro p hp hc h
    have hlower := (toUpper_toLower hp).1
    rw [← h, toLower_of_le hc] at hlower
    omega
  simp only [foldsTo, Bool.or_eq_true, Bool.and_eq_true, decide_eq_true_eq] at hpc hqc
  rcases hpc with (hpc | ⟨hps, hc⟩) | ⟨hpi, hc⟩
  · rcases hqc with (hqc | ⟨-, hc⟩) | ⟨-, hc⟩
    · exact hpc.symm.trans hqc
    · exact absurd hpc (hother hp (by omega))
    · exact absurd hpc (hother hp (by omega))
  · rcases hqc with (hqc | ⟨hqs, -⟩) | ⟨-, hc'⟩
    · exact absurd hqc (hother hq (by omega))
    · exact hps.trans hqs.symm
    · omega
  · rcases hqc with (hqc | ⟨-, hc'⟩) | ⟨hqi, -⟩
    · exact absurd hqc (hother hq (by omega))
    · omega
    · exact hpi.trans hqi.symm

/-- Of two words, one is spelled by the beginning of the other's spelling only if
it is the beginning of the other, apart from case. -/
theorem map_toLower_prefix {word word' spelling spelling' : List Char}
    (hascii : ∀ p ∈ word, p.toNat < 0x80) (hascii' : ∀ p ∈ word', p.toNat < 0x80)
    (h : List.Forall₂ (fun p c => foldsTo p c) word spelling)
    (h' : List.Forall₂ (fun p c => foldsTo p c) word' spelling') (hfront : spelling <+: spelling') :
    word.map Char.toLower <+: word'.map Char.toLower := by
  induction h generalizing word' spelling' with
  | nil => exact List.nil_prefix
  | @cons p c ps cs hfirst _ ih =>
    cases h' with
    | nil => simp at hfront
    | @cons q d qs ds hfirst' hrest' =>
      obtain ⟨rfl, hcs⟩ := List.cons_prefix_cons.mp hfront
      obtain ⟨hp, hps⟩ := List.forall_mem_cons.mp hascii
      obtain ⟨hq, hqs⟩ := List.forall_mem_cons.mp hascii'
      rw [List.map_cons, List.map_cons, toLower_eq_of_foldsTo hp hq hfirst hfirst']
      exact List.cons_prefix_cons.mpr ⟨rfl, ih hps hqs hrest' hcs⟩

/-- No blank stands for a letter other than an s or an i. -/
theorem isBlank_eq_false_of_foldsTo_R {c : Char} (h : foldsTo 'R' c) : isBlank c = false := by
  have hlower : c.toLower = 'r' := by
    simpa [foldsTo, show 'R'.toLower = 'r' from rfl] using h
  have hc : c.toNat < 0x80 := by
    refine Nat.lt_of_not_le fun hge => ?_
    rw [toLower_of_le hge] at hlower
    rw [hlower] at hge
    exact absurd hge (by decide)
  exact forall_ascii (P := fun c => c.toLower = 'r' → isBlank c = false) (by decide) hc hlower

end RoutePaths.Text

namespace RoutePaths.Call

open Text (foldsTo isBlank isQuote)

variable {found : Call} {s line : List Char}

/-! ## spellings -/

/-- A way in which a declaration is spelled at the start of the text `s`. -/
structure Spelling (s : List Char) where
  /-- `Route::`, in any case. -/
  route : List Char
  /-- The verb, in any case. -/
  verb : List Char
  /-- What stands between the verb and the parenthesis. -/
  gap : List Char
  /-- What stands between the parenthesis and the quote. -/
  margin : List Char
  /-- The quote in front of the path. -/
  opening : Char
  path : List Char
  /-- The quote behind the path. -/
  closing : Char
  /-- The text behind the declaration. -/
  rest : List Char
  eq_append : s = route ++ (verb ++ (gap ++ '(' ::
    (margin ++ opening :: (path ++ closing :: rest))))
  route_folds : List.Forall₂ (fun p c => foldsTo p c) "Route::".toList route
  verb_folds : ∃ word ∈ verbs, List.Forall₂ (fun p c => foldsTo p c) word verb
  gap_blank : ∀ c ∈ gap, isBlank c
  margin_blank : ∀ c ∈ margin, isBlank c
  opening_quote : isQuote opening
  path_ne_nil : path ≠ []
  path_plain : ∀ c ∈ path, isQuote c = false
  closing_quote : isQuote closing

/-- The declaration that is spelled. -/
def Spelling.call (d : Spelling s) : Call := ⟨d.verb.map Text.upperChar, d.path⟩

/-- No verb begins like another one. -/
theorem eq_of_prefix_of_mem_verbs {word word' : List Char} (h : word ∈ verbs) (h' : word' ∈ verbs)
    (hfront : word.map Char.toLower <+: word'.map Char.toLower) : word = word' := by
  have hall : ∀ word ∈ verbs, ∀ word' ∈ verbs,
      word.map Char.toLower <+: word'.map Char.toLower → word = word' := by
    decide
  exact hall word h word' h' hfront

/-- At most one verb is spelled at the start of a text, in one way. -/
theorem eq_of_verb_folds {word word' verb verb' t t' : List Char} (h : word ∈ verbs)
    (h' : word' ∈ verbs) (hfolds : List.Forall₂ (fun p c => foldsTo p c) word verb)
    (hfolds' : List.Forall₂ (fun p c => foldsTo p c) word' verb') (heq : verb ++ t = verb' ++ t') :
    verb = verb' ∧ t = t' := by
  have hascii := Route.ascii_of_mem_verbs h
  have hascii' := Route.ascii_of_mem_verbs h'
  have hword : word = word' := by
    have hfront : verb' <+: verb ++ t := heq ▸ List.prefix_append verb' t'
    rcases List.prefix_or_prefix_of_prefix (List.prefix_append verb t) hfront with hfront | hfront
    · exact eq_of_prefix_of_mem_verbs h h'
        (Text.map_toLower_prefix hascii hascii' hfolds hfolds' hfront)
    · exact (eq_of_prefix_of_mem_verbs h' h
        (Text.map_toLower_prefix hascii' hascii hfolds' hfolds hfront)).symm
  subst hword
  exact List.append_inj heq (hfolds.length_eq.symm.trans hfolds'.length_eq)

/-- **A declaration is spelled in one way.** -/
theorem Spelling.eq (d d' : Spelling s) : d = d' := by
  obtain ⟨route, verb, gap, margin, opening, path, closing, rest, hs, hroute, ⟨word, hword, hverb⟩,
    hgap, hmargin, hopening, -, hpath, hclosing⟩ := d
  obtain ⟨route', verb', gap', margin', opening', path', closing', rest', hs', hroute',
    ⟨word', hword', hverb'⟩, hgap', hmargin', hopening', -, hpath', hclosing'⟩ := d'
  have hquote : ∀ {q}, isQuote q → isBlank q = false := Text.isBlank_eq_false_of_isQuote
  obtain ⟨rfl, h₁⟩ := List.append_inj (hs.symm.trans hs')
    (hroute.length_eq.symm.trans hroute'.length_eq)
  obtain ⟨rfl, h₂⟩ := eq_of_verb_folds hword hword' hverb hverb' h₁
  obtain ⟨rfl, -, h₃⟩ := Text.append_cons_inj_of_kind hgap hgap' (by decide) (by decide) h₂
  obtain ⟨rfl, rfl, h₄⟩ := Text.append_cons_inj_of_kind hmargin hmargin' (hquote hopening)
    (hquote hopening') h₃
  have hplain : ∀ c, isQuote c = false → (!isQuote c) = true := by simp
  obtain ⟨rfl, rfl, rfl⟩ := Text.append_cons_inj_of_kind (fun c hc => hplain c (hpath c hc))
    (fun c hc => hplain c (hpath' c hc)) (by simp [hclosing]) (by simp [hclosing']) h₄
  rfl

/-! ## what is read -/

/-- A verb is read in any letters that fold to its own. -/
theorem verb?_eq_some_iff {verb rest : List Char} :
    verb? s = some (verb, rest) ↔
      s = verb ++ rest ∧ ∃ word ∈ verbs, List.Forall₂ (fun p c => foldsTo p c) word verb := by
  constructor
  · intro h
    obtain ⟨word, hword, h⟩ := List.exists_of_findSome?_eq_some h
    obtain ⟨hs, hfolds⟩ := Text.expectFolded_eq_some_iff.mp h
    exact ⟨hs, word, hword, hfolds⟩
  · rintro ⟨hs, word, hword, hfolds⟩
    have hread := Text.expectFolded_eq_some_iff.mpr ⟨hs, hfolds⟩
    have hsome : (verb? s).isSome := List.findSome?_isSome_iff.mpr ⟨word, hword, by rw [hread]; rfl⟩
    obtain ⟨⟨verb', rest'⟩, h⟩ := Option.isSome_iff_exists.mp hsome
    -- another verb may come first in the list, but it would be spelled at the same place
    obtain ⟨word', hword', h'⟩ := List.exists_of_findSome?_eq_some h
    obtain ⟨hs', hfolds'⟩ := Text.expectFolded_eq_some_iff.mp h'
    obtain ⟨rfl, rfl⟩ := eq_of_verb_folds hword' hword hfolds' hfolds (hs'.symm.trans hs)
    exact h

/-- **At the start of a text** what is spelled there is read, and nothing else. -/
theorem here?_eq_some_iff : here? s = some found ↔ ∃ d : Spelling s, d.call = found := by
  simp only [here?, Option.bind_eq_bind, Option.bind_eq_some_iff, Prod.exists, Option.pure_def,
    Option.some.injEq, Text.expectFolded_eq_some_iff, verb?_eq_some_iff,
    Text.expectLoose_eq_some_iff (show isBlank '(' = false by decide), Text.quoted_eq_some_iff]
  constructor
  · rintro ⟨route, _, ⟨rfl, hroute⟩, verb, _, ⟨rfl, hverb⟩, t, ⟨gap, margin, hgap, hmargin, rfl, -⟩,
      path, rest, ⟨hne, hpath, opening, closing, hopening, hclosing, rfl⟩, rfl⟩
    exact ⟨⟨route, verb, gap, margin, opening, path, closing, rest, rfl, hroute, hverb, hgap,
      hmargin, hopening, hne, hpath, hclosing⟩, rfl⟩
  · rintro ⟨d, rfl⟩
    have hfront := Text.trimStart_cons_of_not_isBlank
      (Text.isBlank_eq_false_of_isQuote d.opening_quote) (d.path ++ d.closing :: d.rest)
    exact ⟨d.route, _, ⟨d.eq_append, d.route_folds⟩, d.verb, _, ⟨rfl, d.verb_folds⟩, _,
      ⟨d.gap, d.margin, d.gap_blank, d.margin_blank, rfl, hfront⟩, d.path, d.rest,
      ⟨d.path_ne_nil, d.path_plain, d.opening, d.closing, d.opening_quote, d.closing_quote, rfl⟩,
      rfl⟩

/-- A call is found where one is spelled. -/
theorem isSome_here?_iff : (here? s).isSome ↔ Nonempty (Spelling s) := by
  simp only [Option.isSome_iff_exists, here?_eq_some_iff]
  exact ⟨fun ⟨_, d, _⟩ => ⟨d⟩, fun ⟨d⟩ => ⟨d.call, d, rfl⟩⟩

/-- The leftmost place of a line at which a declaration is spelled. -/
structure Leftmost (line : List Char) where
  /-- What stands in front of the declaration. -/
  front : List Char
  /-- The line from the declaration on. -/
  back : List Char
  eq_append : line = front ++ back
  spelling : Spelling back
  le_length : ∀ front' back', line = front' ++ back' → Nonempty (Spelling back') →
    front.length ≤ front'.length

/-- **In a line** the leftmost declaration is read. -/
theorem find?_eq_some_iff :
    find? line = some found ↔ ∃ leftmost : Leftmost line, leftmost.spelling.call = found := by
  simp only [find?, Text.search_eq_some_iff, here?_eq_some_iff, isSome_here?_iff]
  constructor
  · rintro ⟨front, back, hline, ⟨d, hd⟩, hleast⟩
    exact ⟨⟨front, back, hline, d, hleast⟩, hd⟩
  · rintro ⟨⟨front, back, hline, d, hleast⟩, hd⟩
    exact ⟨front, back, hline, ⟨d, hd⟩, hleast⟩

/-- A line has a leftmost declaration if it has any. -/
theorem exists_find?_iff :
    (∃ found, find? line = some found) ↔
      ∃ front back, line = front ++ back ∧ Nonempty (Spelling back) := by
  rw [← Option.isSome_iff_exists, find?, Text.isSome_search_iff]
  simp only [isSome_here?_iff]

/-! ## blanks around a line -/

/-- No call begins with a blank. -/
theorem here?_cons_of_isBlank {c : Char} (hc : isBlank c) (s : List Char) :
    here? (c :: s) = none := by
  have hroute : Text.expectFolded "Route::".toList (c :: s) = none := by
    refine if_neg fun hfolds => ?_
    rw [Text.isBlank_eq_false_of_foldsTo_R hfolds] at hc
    contradiction
  exact congrArg (Option.bind · _) hroute

/-- Blanks behind the text are no part of a declaration. -/
theorem here?_append_of_isBlank {blanks : List Char} (h : ∀ c ∈ blanks, isBlank c) :
    here? (s ++ blanks) = here? s := by
  refine Option.ext fun found => ?_
  rw [here?_eq_some_iff, here?_eq_some_iff]
  constructor
  · rintro ⟨⟨route, verb, gap, margin, opening, path, closing, rest, hs, hroute, hverb, hgap,
      hmargin, hopening, hne, hpath, hclosing⟩, rfl⟩
    have hs' : s ++ blanks = route ++ (verb ++ (gap ++ '(' :: (margin ++ opening :: path)))
        ++ closing :: rest := by
      simpa using hs
    obtain ⟨rest', rfl⟩ := Text.exists_of_append_blanks h
      (Text.isBlank_eq_false_of_isQuote hclosing) hs'
    exact ⟨⟨route, verb, gap, margin, opening, path, closing, rest', by simp, hroute, hverb, hgap,
      hmargin, hopening, hne, hpath, hclosing⟩, rfl⟩
  · rintro ⟨d, rfl⟩
    exact ⟨⟨d.route, d.verb, d.gap, d.margin, d.opening, d.path, d.closing, d.rest ++ blanks, by
      simp [d.eq_append], d.route_folds, d.verb_folds, d.gap_blank, d.margin_blank, d.opening_quote,
      d.path_ne_nil, d.path_plain, d.closing_quote⟩, rfl⟩

/-- **Blanks around a line** make no difference. -/
theorem find?_trim (line : List Char) : find? (Text.trim line) = find? line := by
  obtain ⟨before, hbefore, hline⟩ := Text.exists_blanks_trimStart line
  obtain ⟨behind, hbehind, hstart⟩ := Text.exists_blanks_trimEnd (Text.trimStart line)
  have hback : ∀ s, find? (s ++ behind) = find? s := by
    intro s
    induction s with
    | nil =>
      have hblank : ∀ c ∈ behind, ∀ t, here? (c :: t) = none := fun c hc =>
        here?_cons_of_isBlank (hbehind c hc)
      rw [List.nil_append, find?, ← List.append_nil behind,
        Text.search_append_of_forall_none hblank]
      rfl
    | cons c s ih =>
      rw [find?, find?, List.cons_append, Text.search, Text.search, ← List.cons_append,
        here?_append_of_isBlank hbehind]
      exact congrArg (here? (c :: s) <|> ·) ih
  calc find? (Text.trim line)
      = find? (Text.trimStart line) := by rw [← hback, Text.trim, ← hstart]
    _ = find? line := by
      conv_rhs => rw [hline]
      exact (Text.search_append_of_forall_none
        (fun c hc => here?_cons_of_isBlank (hbefore c hc)) _).symm

end RoutePaths.Call

namespace RoutePaths.Route

/-- A line has a record if it declares a route. -/
theorem exists_lineIndex_eq_iff {base sourceFile text : String} {prefixOf : Nat → List Char}
    {i : Nat} {line : List Char} (hline : (Text.lines text)[i]? = some line) :
    (∃ r ∈ extract base sourceFile prefixOf text, r.lineIndex = i) ↔
      ∃ call, Call.find? line = some call := by
  constructor
  · rintro ⟨r, hr, hindex⟩
    obtain ⟨j, line', call, hline', hcall, rfl⟩ := mem_extract_iff.mp hr
    cases Int.ofNat.inj hindex
    cases hline.symm.trans hline'
    exact ⟨call, Call.find?_trim line ▸ hcall⟩
  · rintro ⟨call, hcall⟩
    rw [← Call.find?_trim] at hcall
    exact ⟨_, mem_extract_iff.mpr ⟨i, line, call, hline, hcall, rfl⟩, rfl⟩

/-- The records of one line are the one record of its declaration. -/
theorem filter_lineIndex_extract {base sourceFile text : String} {prefixOf : Nat → List Char}
    {i : Nat} {line : List Char} {call : Call} (hline : (Text.lines text)[i]? = some line)
    (hcall : Call.find? line = some call) :
    (extract base sourceFile prefixOf text).filter (·.lineIndex = (i : Int)) =
      [ofCall base sourceFile i (prefixOf i) call] := by
  rw [← Call.find?_trim] at hcall
  have hmem : ofCall base sourceFile i (prefixOf i) call ∈ extract base sourceFile prefixOf text :=
    mem_extract_iff.mpr ⟨i, line, call, hline, hcall, rfl⟩
  have horder := pairwise_lineIndex_extract base sourceFile prefixOf text
  obtain ⟨before, behind, hrecords⟩ := List.append_of_mem hmem
  rw [hrecords, List.pairwise_append, List.pairwise_cons] at horder
  obtain ⟨-, ⟨hbehind, -⟩, hbefore⟩ := horder
  have hnone : before.filter (·.lineIndex = (i : Int)) = [] := by
    refine List.filter_eq_nil_iff.mpr fun r hr => ?_
    have hlt : r.lineIndex < i := hbefore r hr _ (List.mem_cons_self ..)
    simp only [decide_eq_true_eq]
    omega
  have hnone' : behind.filter (·.lineIndex = (i : Int)) = [] := by
    refine List.filter_eq_nil_iff.mpr fun r hr => ?_
    have hlt : i < r.lineIndex := hbehind r hr
    simp only [decide_eq_true_eq]
    omega
  rw [hrecords, List.filter_append, hnone, List.filter_cons_of_pos (by simp [ofCall]), hnone',
    List.nil_append]

/-- **Declared routes**: a line has a record just if a declaration is spelled
anywhere in it, it has one record then, and what the record says is spelled at
the leftmost such place, in one way. -/
theorem extract_takes_leftmost (base sourceFile : String) (prefixOf : Nat → List Char)
    (text : String) :
    let records := extract base sourceFile prefixOf text
    records.Pairwise (·.lineIndex < ·.lineIndex) ∧
      (∀ r ∈ records, ∃ i < (Text.lines text).length, r.lineIndex = (i : Nat)) ∧
      ∀ (i : Nat) (line : List Char), (Text.lines text)[i]? = some line →
        ((∃ r ∈ records, r.lineIndex = i) ↔
          ∃ front back, line = front ++ back ∧ Nonempty (Call.Spelling back)) ∧
        ((∃ front back, line = front ++ back ∧ Nonempty (Call.Spelling back)) →
          ∃ leftmost : Call.Leftmost line,
            (∀ d : Call.Spelling leftmost.back, d = leftmost.spelling) ∧
            ∃ r, records.filter (·.lineIndex = (i : Int)) = [r] ∧
              r.method.toList = leftmost.spelling.verb.map Text.upperChar ∧
              r.rawPath.toList = leftmost.spelling.path) := by
  intro records
  refine ⟨pairwise_lineIndex_extract base sourceFile prefixOf text, fun r hr => ?_,
    fun i line hline => ⟨?_, fun hspelled => ?_⟩⟩
  · obtain ⟨i, line, call, hline, -, rfl⟩ := mem_extract_iff.mp hr
    exact ⟨i, (List.getElem?_eq_some_iff.mp hline).1, rfl⟩
  · rw [exists_lineIndex_eq_iff hline, Call.exists_find?_iff]
  · obtain ⟨call, hcall⟩ := Call.exists_find?_iff.mpr hspelled
    obtain ⟨leftmost, rfl⟩ := Call.find?_eq_some_iff.mp hcall
    refine ⟨leftmost, fun d => d.eq leftmost.spelling, _, filter_lineIndex_extract hline hcall,
      ?_, ?_⟩
    · rw [ofCall, String.toList_ofList]
      rfl
    · rw [ofCall, String.toList_ofList]
      rfl

/-- Two declarations on one line, the first in odd letters and with a quote of
either kind. -/
theorem extract_takes_leftmost_odd :
    let text := "\x7d);\n  f(ROUTE::ap\u0131Re\u017fource\t( 'a b\", C); Route::get('/y', g);\r"
    let line := (Text.lines text)[1]?.getD []
    (Text.lines text)[1]? = some line ∧
      (∃ front back, line = front ++ back ∧ Nonempty (Call.Spelling back)) ∧
      ∃ leftmost : Call.Leftmost line,
        (∀ d : Call.Spelling leftmost.back, d = leftmost.spelling) ∧
        leftmost.spelling.verb.map Text.upperChar = "APIRESOURCE".toList ∧
        leftmost.spelling.path = "a b".toList := by
  intro text line
  have hline : (Text.lines text)[1]? = some line := by decide
  obtain ⟨-, -, hlines⟩ := extract_takes_leftmost "" "" (fun _ => []) text
  obtain ⟨hdeclared, hleftmost⟩ := hlines 1 line hline
  have hspelled := hdeclared.mp (by decide)
  obtain ⟨leftmost, hone, r, hr, hmethod, hpath⟩ := hleftmost hspelled
  have hrecord : (extract "" "" (fun _ => []) text).filter (·.lineIndex = ((1 : Nat) : Int)) =
      [⟨1, "APIRESOURCE", "a b", "/a b", "", ""⟩] := by
    decide
  cases hrecord.symm.trans hr
  exact ⟨hline, hspelled, leftmost, hone, hmethod.symm, hpath.symm⟩

end RoutePaths.Route
