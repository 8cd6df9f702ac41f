import Mathlib.Data.List.Basic
import RoutePaths.Console.Markup

/-!
# RoutePaths.Proofs.Console.Markup

Which texts with tags can be shown.  What matters of a text is whether its tags can be
read at all (`Readable`), and then whether the styles of its parts can be looked up
(`Shows`).  Of the way in which a console reads texts, no more is needed than four laws
(`Lawful`): nothing shows; a text is as good behind plain characters, and behind a plain
text between the tags of a style, as it is by itself; a tag that closes where nothing is
open cannot be read.

The laws hold of the tags as they are read here, with any emoji (`lawful_showMarkup`):
what can be shown is decided by what the tags of a text say, one after another, and
neither by where they stand nor by the texts between them (`faultsOf_showPieces`).
-/

namespace RoutePaths

variable {ε α β : Type}

/-! ## results that are no errors -/

/-- A result is no error. -/
def Completes (result : Except ε α) : Prop := ∃ a, result = .ok a

instance : (result : Except ε α) → Decidable (Completes result)
  | .ok a => isTrue ⟨a, rfl⟩
  | .error _ => isFalse nofun

variable {result : Except ε α} {next : α → Except ε β}

/-- The steps of a result that is no error are no errors either. -/
theorem exists_of_bind_eq_ok {b : β} (h : result >>= next = .ok b) :
    ∃ a, result = .ok a ∧ next a = .ok b := by
  cases result with
  | ok a => exact ⟨a, rfl, h⟩
  | error e => contradiction

namespace Completes

theorem pure (a : α) : Completes (Pure.pure a : Except ε α) := ⟨a, rfl⟩

theorem not_error (e : ε) : ¬Completes (.error e : Except ε α) := nofun

/-- A computation of two parts completes if both do. -/
theorem bind (h : Completes result) (hnext : ∀ a, result = .ok a → Completes (next a)) :
    Completes (result >>= next) := by
  obtain ⟨a, rfl⟩ := h
  exact hnext a rfl

/-- The first of two parts completes if the whole does. -/
theorem of_bind (h : Completes (result >>= next)) : Completes result :=
  let ⟨_, hb⟩ := h
  let ⟨a, ha, _⟩ := exists_of_bind_eq_ok hb
  ⟨a, ha⟩

end Completes

/-- A computation for each item completes exactly if it does for every item. -/
theorem Completes.mapM_iff {f : α → Except ε β} {xs : List α} :
    Completes (xs.mapM f) ↔ ∀ x ∈ xs, Completes (f x) := by
  induction xs with
  | nil => exact iff_of_true (Completes.pure _) nofun
  | cons x xs ih =>
    rw [List.mapM_cons, List.forall_mem_cons, ← ih]
    constructor
    · rintro ⟨ys, h⟩
      obtain ⟨y, hy, h⟩ := exists_of_bind_eq_ok h
      exact ⟨⟨y, hy⟩, Completes.of_bind ⟨ys, h⟩⟩
    · rintro ⟨hx, hxs⟩
      exact hx.bind fun _ _ => hxs.bind fun _ _ => Completes.pure _

/-- Each answer of a computation for all items is that for one of them. -/
theorem exists_of_mem_mapM {f : α → Except ε β} {xs : List α} {ys : List β} {y : β}
    (h : xs.mapM f = .ok ys) (hy : y ∈ ys) : ∃ x ∈ xs, f x = .ok y := by
  induction xs generalizing ys with
  | nil =>
    obtain rfl := Except.ok.inj h
    contradiction
  | cons x xs ih =>
    rw [List.mapM_cons] at h
    obtain ⟨first, hfirst, h⟩ := exists_of_bind_eq_ok h
    obtain ⟨rest, hrest, h⟩ := exists_of_bind_eq_ok h
    obtain rfl := Except.ok.inj h
    rcases List.mem_cons.mp hy with rfl | hy
    · exact ⟨x, List.mem_cons_self .., hfirst⟩
    · obtain ⟨x', hx', hy⟩ := ih hrest hy
      exact ⟨x', List.mem_cons_of_mem x hx', hy⟩

/-! ## texts that can be shown -/

namespace Console

variable {read : Reader}

/-- The tags of a text can be read. -/
def Readable (read : Reader) (s : String) : Prop := Completes (read s.toList)

/-- The styles of all parts of a text can be looked up. -/
def Styled.Faultless (t : Styled) : Prop := ∀ part ∈ t.spans, part.fault = none

/-- The tags of a text can be read, and all styles that they ask for can be looked
up. -/
def Shows (read : Reader) (s : String) : Prop :=
  ∃ shown, read s.toList = .ok shown ∧ shown.Faultless

instance (read : Reader) (s : String) : Decidable (Readable read s) :=
  inferInstanceAs (Decidable (Completes _))

instance (t : Styled) : Decidable t.Faultless := List.decidableBAll _ t.spans

instance (read : Reader) (s : String) : Decidable (Shows read s) :=
  match h : read s.toList with
  | .ok shown => decidable_of_iff shown.Faultless
      ⟨fun hshown => ⟨shown, h, hshown⟩,
        fun ⟨_, hok, hshown⟩ => Except.ok.inj (h.symm.trans hok) ▸ hshown⟩
  | .error _ => isFalse fun ⟨_, hok, _⟩ => nomatch h.symm.trans hok

/-- A text whose styles can be looked up has tags that can be read. -/
theorem Shows.readable {s : String} (h : Shows read s) : Readable read s :=
  let ⟨shown, hshown, _⟩ := h
  ⟨shown, hshown⟩

/-! ## reading tags -/

variable {position place : Nat} {s rest name : List Char} {c : Char}

/-- Characters that no tag begins with, and no escape. -/
def IsPlain (s : List Char) : Prop := ∀ c ∈ s, c ≠ '[' ∧ c ≠ '\\'

instance (s : List Char) : Decidable (IsPlain s) := List.decidableBAll _ s

/-- What may stand between the brackets of a tag. -/
def IsTagName : List Char → Prop
  | [] => False
  | c :: t => beginsTag c ∧ ∀ d ∈ t, d ≠ '[' ∧ d ≠ ']'

instance : (name : List Char) → Decidable (IsTagName name)
  | [] => inferInstanceAs (Decidable False)
  | c :: t =>
    have : Decidable (∀ d ∈ t, d ≠ '[' ∧ d ≠ ']') := List.decidableBAll _ t
    inferInstanceAs (Decidable (beginsTag c ∧ _))

/-- Names of tags that ask for a style, in its normal form. -/
def IsStyle (name : List Char) : Prop :=
  IsTagName name ∧ IsTagName ('/' :: name) ∧ OpenTag.split name = (name, none) ∧
    OpenTag.split ('/' :: name) = ('/' :: name, none) ∧ name.head? ≠ some '/' ∧
    name.head? ≠ some '@' ∧ Text.trim name = name ∧ normalName name = .ok name ∧
    ((⟨name, none, 0⟩ : OpenTag).span 0).fault = none

instance (name : List Char) : Decidable (IsStyle name) :=
  inferInstanceAs (Decidable (_ ∧ _ ∧ _ ∧ _ ∧ _ ∧ _ ∧ _ ∧ _ ∧ _))

/-! ## what is needed of a console -/

/-- A text can be read, and can be shown, if and only if another can. -/
def AsGood (read : Reader) (s t : String) : Prop :=
  (Readable read s ↔ Readable read t) ∧ (Shows read s ↔ Shows read t)

/-- The first tag of a text is a closing one. -/
def ClosesNothing (s : String) : Prop :=
  ∃ front name behind, s = front ++ "[/" ++ name ++ "]" ++ behind ∧ IsPlain front.toList ∧
    ∀ d ∈ name.toList, d ≠ '[' ∧ d ≠ ']'

/-- What is relied on of a console that reads texts with tags. -/
structure Lawful (read : Reader) : Prop where
  empty : Shows read ""
  /-- Plain characters in front make no difference. -/
  plain (a s : String) : IsPlain a.toList → AsGood read (a ++ s) s
  /-- Nor does a plain text in front between the tags of a style. -/
  tagged (name a s : String) : IsStyle name.toList → IsPlain a.toList →
    AsGood read ("[" ++ name ++ "]" ++ a ++ "[/" ++ name ++ "]" ++ s) s
  /-- A tag that closes where nothing is open cannot be read. -/
  unmatched (s : String) : ClosesNothing s → ¬Readable read s

/-! ## tags and what is between them -/

/-- Only a bracket, with backslashes in front or without, can open a tag. -/
theorem tag?_of_plain (hc : c ≠ '[' ∧ c ≠ '\\') (rest : List Char) : tag? (c :: rest) = none := by
  rw [tag?, List.dropWhile_cons_of_neg (by simpa using hc.2)]
  split
  · next heq => exact absurd (List.cons.inj heq).1 hc.1
  · rfl

/-- A tag that is written out is taken as one. -/
theorem tag?_of_tag (h : IsTagName name) (rest : List Char) :
    tag? ('[' :: name ++ ']' :: rest) = some (0, name, rest) := by
  obtain _ | ⟨c, t⟩ := name
  · exact absurd h id
  · obtain ⟨hc, ht⟩ := h
    have hinside : ∀ d ∈ t, decide (d ≠ '[' ∧ d ≠ ']') = true :=
      fun d hd => decide_eq_true (ht d hd)
    have hdrop : (t ++ ']' :: rest).dropWhile (fun d => d ≠ '[' ∧ d ≠ ']') = ']' :: rest := by
      rw [List.dropWhile_append_of_pos hinside, List.dropWhile_cons_of_neg (by decide)]
    have htake : (t ++ ']' :: rest).takeWhile (fun d => d ≠ '[' ∧ d ≠ ']') = t := by
      rw [List.takeWhile_append_of_pos hinside, List.takeWhile_cons_of_neg (by decide),
        List.append_nil]
    have hopening : ('[' :: c :: (t ++ ']' :: rest)).dropWhile (· = '\\') =
        '[' :: c :: (t ++ ']' :: rest) := List.dropWhile_cons_of_neg (by decide)
    have hnone : ('[' :: c :: (t ++ ']' :: rest)).takeWhile (· = '\\') = [] :=
      List.takeWhile_cons_of_neg (by decide)
    simp only [List.cons_append, tag?, hopening, if_pos hc, hdrop, htake, hnone]
    rfl

/-- A text is its first pieces and those of what is behind them. -/
theorem pieces_cons (position : Nat) (c : Char) (rest : List Char) :
    pieces position (c :: rest) = (firstPieces position c rest).1 ++
      pieces (position + (firstPieces position c rest).2 + 1)
        (rest.drop (firstPieces position c rest).2) := by
  rw [pieces]

/-- Plain characters are pieces of their own. -/
theorem pieces_append (h : IsPlain s) (position : Nat) (rest : List Char) :
    pieces position (s ++ rest) =
      s.map (fun c => .text [c] true) ++ pieces (position + s.length) rest := by
  induction s generalizing position with
  | nil => rfl
  | cons c s ih =>
    have hc := h c (List.mem_cons_self ..)
    have hfirst : firstPieces position c (s ++ rest) = ([.text [c] true], 0) := by
      rw [firstPieces, tag?_of_plain hc]
      simp [hc.2]
    have hposition : position + 0 + 1 + s.length = position + (s.length + 1) := by omega
    rw [List.cons_append, pieces_cons, hfirst]
    change .text [c] true :: pieces (position + 0 + 1) (s ++ rest) = _
    rw [ih (fun d hd => h d (List.mem_cons_of_mem c hd)), hposition]
    rfl

/-- A tag is a piece of its own. -/
theorem pieces_tag (h : IsTagName name) (position : Nat) (rest : List Char) :
    pieces position ('[' :: name ++ ']' :: rest) =
      .tag name position :: pieces (position + (name.length + 2)) rest := by
  have hfirst : firstPieces position '[' (name ++ ']' :: rest) =
      ([.tag name position], name.length + 1) := by
    rw [firstPieces, ← List.cons_append, tag?_of_tag h]
    simp
    omega
  have hdrop : (name ++ ']' :: rest).drop (name.length + 1) = rest := by
    rw [List.append_cons, List.drop_left' (by simp)]
  rw [List.cons_append, pieces_cons, hfirst, hdrop]
  rfl

/-! ## showing pieces -/

variable {chars : List Char} {tag : OpenTag} {tags : List OpenTag} {ps : List Piece}
  {emoji : Emoji}

/-- What closing a tag shows. -/
def closing (emoji : Emoji) (place : Nat) (tag : OpenTag) (tags : List OpenTag)
    (ps : List Piece) : Except MarkupError (List Char × List Span) :=
  tag.close place >>= fun span => showPieces emoji place tags ps >>= fun shown =>
    pure (shown.1, span :: shown.2)

/-- A text between tags, with the emoji of the console. -/
theorem showPieces_text (emoji : Emoji) (place : Nat) (tags : List OpenTag) (chars : List Char)
    (isPart : Bool) (ps : List Piece) :
    showPieces emoji place tags (.text chars isPart :: ps) =
      showPieces emoji (place + ((emoji chars).filter (!isDropped ·)).length) tags ps >>=
        fun shown => pure ((emoji chars).filter (!isDropped ·) ++ shown.1, shown.2) := by
  rw [showPieces]

/-- A closing tag without a name. -/
theorem showPieces_closeLast {arguments : Option (List Char)}
    (hsplit : OpenTag.split chars = ('/' :: name, arguments)) (hname : Text.trim name = [])
    (emoji : Emoji) (place position : Nat) (tags : List OpenTag) (ps : List Piece) :
    showPieces emoji place tags (.tag chars position :: ps) =
      match tags with
      | [] => .error (.nothingOpen position)
      | tag :: tags => closing emoji place tag tags ps := by
  rw [showPieces.eq_def]
  simp only [hsplit, if_pos hname]
  rfl

/-- A closing tag with a name. -/
theorem showPieces_close {arguments : Option (List Char)}
    (hsplit : OpenTag.split chars = ('/' :: name, arguments)) (hname : Text.trim name ≠ [])
    (emoji : Emoji) (place position : Nat) (tags : List OpenTag) (ps : List Piece) :
    showPieces emoji place tags (.tag chars position :: ps) =
      (normalName (Text.trim name)).mapError .colour >>= fun name =>
        match takeTag? name tags with
        | none => .error (.unmatched (String.ofList chars) position)
        | some (tag, tags) => closing emoji place tag tags ps := by
  rw [showPieces.eq_def]
  simp only [hsplit, if_neg hname]
  rfl

/-- An opening tag. -/
theorem showPieces_open {arguments : Option (List Char)}
    (hsplit : OpenTag.split chars = (name, arguments)) (hname : name.head? ≠ some '/')
    (emoji : Emoji) (place position : Nat) (tags : List OpenTag) (ps : List Piece) :
    showPieces emoji place tags (.tag chars position :: ps) =
      (normalName name).mapError .colour >>= fun name =>
        showPieces emoji place (⟨name, arguments, place⟩ :: tags) ps := by
  rw [showPieces.eq_def]
  dsimp only
  split
  · next heq =>
    rw [hsplit] at heq
    obtain ⟨rfl, -⟩ := Prod.mk.inj heq
    exact absurd rfl hname
  · next heq =>
    rw [hsplit] at heq
    obtain ⟨rfl, rfl⟩ := Prod.mk.inj heq
    rfl

/-! ## what only the tags decide -/

/-- A tag as if it stood in front; a text is nothing. -/
def Piece.bare? : Piece → Option Piece
  | .text .. => none
  | .tag chars _ => some (.tag chars 0)

/-- The tags among pieces, wherever they stand. -/
def bareTags (ps : List Piece) : List Piece := ps.filterMap Piece.bare?

/-- A piece adds its tag, if it is one. -/
theorem bareTags_cons (piece : Piece) (ps : List Piece) :
    bareTags (piece :: ps) = piece.bare?.toList ++ bareTags ps := by
  cases piece <;> rfl

theorem bareTags_append (ps qs : List Piece) : bareTags (ps ++ qs) = bareTags ps ++ bareTags qs :=
  List.filterMap_append

/-- Texts hold no tag. -/
theorem bareTags_texts (s : List Char) : bareTags (s.map fun c => .text [c] true) = [] := by
  rw [bareTags, List.filterMap_map, List.filterMap_eq_nil_iff]
  exact fun _ _ => rfl

/-- An open tag as if it stood in front. -/
def OpenTag.bare (tag : OpenTag) : OpenTag := { tag with start := 0 }

/-- The tags of a text are the same wherever it stands. -/
theorem bareTags_pieces (position position' : Nat) (s : List Char) :
    bareTags (pieces position s) = bareTags (pieces position' s) := by
  fun_induction pieces position s generalizing position' with
  | case1 => rw [pieces]
  | case2 position c rest first ih =>
    have hfirst : bareTags first.1 = bareTags (firstPieces position' c rest).1 ∧
        first.2 = (firstPieces position' c rest).2 := by
      simp only [first, firstPieces]
      split
      · constructor
        · split <;> split <;> rfl
        · rfl
      · split <;> exact ⟨rfl, rfl⟩
    rw [pieces_cons position', bareTags_append, bareTags_append, hfirst.1, ← hfirst.2, ih]

/-- Putting the parts of a text together leaves its tags. -/
theorem bareTags_join (piece : Piece) (ps : List Piece) :
    bareTags (piece.join ps) = bareTags (piece :: ps) := by
  unfold Piece.join
  split <;> rfl

/-- The tags of the parts of a text are those of its pieces. -/
theorem bareTags_segments (s : List Char) : bareTags (segments s) = bareTags (pieces 0 s) := by
  rw [segments]
  induction pieces 0 s with
  | nil => rfl
  | cons piece ps ih =>
    rw [List.foldr_cons, bareTags_join, bareTags_cons, bareTags_cons, ih]

/-- The faults of the parts that are shown. -/
def faultsOf (result : Except MarkupError (List Char × List Span)) :
    Option (List (Option ColourError)) :=
  match result with
  | .ok (_, spans) => some (spans.map Span.fault)
  | .error _ => none

/-- The faults of the parts of a text. -/
def faults (s : List Char) : Option (List (Option ColourError)) :=
  faultsOf (showPieces id 0 [] (bareTags (pieces 0 s)))

/-- Text in front adds no fault. -/
theorem faultsOf_text (result : Except MarkupError (List Char × List Span)) (kept : List Char) :
    faultsOf (result >>= fun shown => pure (kept ++ shown.1, shown.2)) = faultsOf result := by
  cases result <;> rfl

/-- A span in front adds the fault of its style. -/
theorem faultsOf_span (result : Except MarkupError (List Char × List Span)) (span : Span) :
    faultsOf (result >>= fun shown => pure (shown.1, span :: shown.2)) =
      (faultsOf result).map (span.fault :: ·) := by
  cases result <;> rfl

/-- The innermost open tag of a name is found wherever the tags stand. -/
theorem takeTag?_map_bare (name : List Char) (tags : List OpenTag) :
    takeTag? name (tags.map OpenTag.bare) =
      (takeTag? name tags).map fun found => (found.1.bare, found.2.map OpenTag.bare) := by
  induction tags with
  | nil => rfl
  | cons tag tags ih =>
    rw [List.map_cons, takeTag?, takeTag?]
    change (if tag.name = name then _ else _) = _
    split
    · rfl
    · rw [ih, Option.map_map, Option.map_map]
      rfl

/-- A tag is closed alike wherever it stands, if the rest is shown alike. -/
theorem faultsOf_closing (place : Nat) (tag : OpenTag)
    (hrest : faultsOf (showPieces emoji place tags ps) =
      faultsOf (showPieces id 0 (tags.map OpenTag.bare) (bareTags ps))) :
    faultsOf (closing emoji place tag tags ps) =
      faultsOf (closing id 0 tag.bare (tags.map OpenTag.bare) (bareTags ps)) := by
  have hspans : ∀ span span' : Span, span.fault = span'.fault →
      faultsOf (showPieces emoji place tags ps >>= fun shown => pure (shown.1, span :: shown.2)) =
        faultsOf (showPieces id 0 (tags.map OpenTag.bare) (bareTags ps) >>= fun shown =>
          pure (shown.1, span' :: shown.2)) := by
    intro span span' hfault
    rw [faultsOf_span, faultsOf_span, hfault, hrest]
  have harguments : tag.bare.arguments = tag.arguments := rfl
  rw [closing, closing, OpenTag.close, OpenTag.close, harguments]
  by_cases hat : tag.name.head? = some '@'
  · rw [if_pos hat, if_pos (show tag.bare.name.head? = some '@' from hat)]
    cases handlerError? (tag.arguments.getD []) with
    | none => exact hspans _ _ rfl
    | some e => rfl
  · rw [if_neg hat, if_neg (show tag.bare.name.head? ≠ some '@' from hat)]
    exact hspans _ _ rfl

/-- **Only the tags decide** what can be shown: not where they stand, not the texts
between them, and not the emoji of the console. -/
theorem faultsOf_showPieces (emoji : Emoji) (place : Nat) (tags : List OpenTag)
    (ps : List Piece) :
    faultsOf (showPieces emoji place tags ps) =
      faultsOf (showPieces id 0 (tags.map OpenTag.bare) (bareTags ps)) := by
  induction ps generalizing place tags with
  | nil =>
    change faultsOf (showPieces _ _ _ []) = faultsOf (showPieces _ _ _ [])
    rw [showPieces, showPieces]
    refine congrArg some ?_
    rw [List.map_map, List.map_map, List.map_map]
    rfl
  | cons piece ps ih =>
    cases piece with
    | text chars isPart =>
      rw [showPieces_text, faultsOf_text]
      exact ih _ _
    | tag chars position =>
      change _ = faultsOf (showPieces id 0 _ (.tag chars 0 :: bareTags ps))
      rcases hsplit : OpenTag.split chars with ⟨name, arguments⟩
      by_cases hname : name.head? = some '/'
      · obtain ⟨name, rfl⟩ : ∃ rest, name = '/' :: rest := by
          obtain _ | ⟨c, rest⟩ := name
          · cases hname
          · exact ⟨rest, by rw [Option.some.inj hname]⟩
        by_cases hblank : Text.trim name = []
        · rw [showPieces_closeLast hsplit hblank, showPieces_closeLast hsplit hblank]
          cases tags with
          | nil => rfl
          | cons tag tags => exact faultsOf_closing _ tag (ih _ _)
        · rw [showPieces_close hsplit hblank, showPieces_close hsplit hblank]
          cases normalName (Text.trim name) with
          | error e => rfl
          | ok name =>
            change faultsOf (match takeTag? name tags with | none => _ | some (tag, tags) => _) =
              faultsOf (match takeTag? name (tags.map OpenTag.bare) with
                | none => _
                | some (tag, tags) => _)
            rw [takeTag?_map_bare]
            cases takeTag? name tags with
            | none => rfl
            | some found => exact faultsOf_closing _ found.1 (ih _ _)
      · rw [showPieces_open hsplit hname, showPieces_open hsplit hname]
        cases normalName name with
        | error e => rfl
        | ok name => exact ih place (⟨name, arguments, place⟩ :: tags)

/-- What can be shown of the parts of a text, on any console. -/
theorem faultsOf_segments (emoji : Emoji) (s : List Char) :
    faultsOf (showPieces emoji 0 [] (segments s)) = faults s := by
  rw [faultsOf_showPieces, bareTags_segments]
  rfl

/-- The tags of a text are read, or not, whatever the emoji. -/
theorem readable_iff {emoji : Emoji} {s : String} :
    Readable (showMarkup emoji) s ↔ ∃ fs, faults s.toList = some fs := by
  rw [← faultsOf_segments emoji, Readable, showMarkup]
  cases showPieces emoji 0 [] (segments s.toList) with
  | error e => exact iff_of_false (Completes.not_error e) nofun
  | ok shown => exact iff_of_true (Completes.pure _) ⟨_, rfl⟩

/-- The styles of a text are looked up, or not, whatever the emoji. -/
theorem shows_iff {emoji : Emoji} {s : String} :
    Shows (showMarkup emoji) s ↔ ∃ fs, faults s.toList = some fs ∧ ∀ f ∈ fs, f = none := by
  rw [← faultsOf_segments emoji, Shows, showMarkup]
  cases showPieces emoji 0 [] (segments s.toList) with
  | error e => exact iff_of_false nofun nofun
  | ok shown =>
    obtain ⟨chars, spans⟩ := shown
    have hspans : (∀ f ∈ spans.map Span.fault, f = none) ↔ ∀ part ∈ spans, part.fault = none :=
      List.forall_mem_map
    constructor
    · rintro ⟨_, hshown, h⟩
      obtain rfl := Except.ok.inj hshown
      exact ⟨_, rfl, hspans.mpr fun part hpart => h part (by simpa using hpart)⟩
    · rintro ⟨_, hfaults, h⟩
      obtain rfl := Option.some.inj hfaults
      exact ⟨_, rfl, fun part hpart => hspans.mp h part (by simpa using hpart)⟩

/-! ## the laws -/

/-- The empty text is readable and has no fault. -/
theorem faults_nil : faults [] = some [] := by
  rw [faults, pieces]
  change faultsOf (showPieces _ _ _ []) = _
  rw [showPieces]
  rfl

/-- **Plain characters in front** make no difference. -/
theorem faults_append (h : IsPlain s) (rest : List Char) : faults (s ++ rest) = faults rest := by
  rw [faults, faults, pieces_append h, bareTags_append, bareTags_texts, List.nil_append,
    bareTags_pieces _ 0 rest]

/-- **A plain text between the tags of a style** in front adds a part that can be
shown. -/
theorem faults_tagged {inner : List Char} (h : IsStyle name) (hinner : IsPlain inner)
    (rest : List Char) :
    faults ('[' :: name ++ ']' :: (inner ++ ('[' :: '/' :: name ++ ']' :: rest))) =
      (faults rest).map (none :: ·) := by
  obtain ⟨hname, hclosing, hsplit, hsplit', hslash, hat, htrim, hnormal, hfault⟩ := h
  have hne : Text.trim name ≠ [] := by
    rw [htrim]
    rintro rfl
    exact hname
  have htags : bareTags (pieces 0
      ('[' :: name ++ ']' :: (inner ++ ('[' :: '/' :: name ++ ']' :: rest)))) =
      .tag name 0 :: .tag ('/' :: name) 0 :: bareTags (pieces 0 rest) := by
    rw [pieces_tag hname, pieces_append hinner, pieces_tag hclosing, bareTags_cons,
      bareTags_append, bareTags_texts, bareTags_cons, bareTags_pieces _ 0 rest]
    rfl
  rw [faults, htags, showPieces_open hsplit hslash, hnormal]
  change faultsOf (showPieces id _ [⟨name, none, _⟩] _) = _
  rw [showPieces_close hsplit' hne, htrim, hnormal]
  change faultsOf (match takeTag? name [⟨name, none, _⟩] with
    | none => _
    | some (tag, tags) => closing id _ tag tags _) = _
  rw [takeTag?, if_pos rfl]
  dsimp only
  rw [closing, OpenTag.close, if_neg hat]
  change faultsOf (showPieces id _ [] _ >>= fun shown =>
    pure (shown.1, OpenTag.span _ _ :: shown.2)) = _
  rw [faultsOf_span]
  exact congrArg (fun f => Option.map (f :: ·) _) hfault

/-- **A closing tag in front** has nothing to close. -/
theorem faults_closing (h : ∀ d ∈ name, d ≠ '[' ∧ d ≠ ']') (rest : List Char) :
    faults ('[' :: '/' :: name ++ ']' :: rest) = none := by
  have hname : IsTagName ('/' :: name) := ⟨by decide, h⟩
  obtain ⟨closed, arguments, hsplit⟩ :
      ∃ closed arguments, OpenTag.split ('/' :: name) = ('/' :: closed, arguments) := by
    rw [OpenTag.split, List.dropWhile_cons_of_pos (by decide),
      List.takeWhile_cons_of_pos (by decide)]
    split
    · exact ⟨name, none, rfl⟩
    · exact ⟨_, _, rfl⟩
  rw [faults, pieces_tag hname, bareTags_cons]
  change faultsOf (showPieces id 0 [] (.tag ('/' :: name) 0 :: _)) = none
  by_cases hblank : Text.trim closed = []
  · rw [showPieces_closeLast hsplit hblank]
    rfl
  · rw [showPieces_close hsplit hblank]
    cases normalName (Text.trim closed) with
    | error e => rfl
    | ok name => rfl

/-- **The laws hold** of tags as they are read here. -/
theorem lawful_showMarkup (emoji : Emoji) : Lawful (showMarkup emoji) where
  empty := shows_iff.mpr ⟨[], faults_nil, nofun⟩
  plain a s ha := by
    rw [AsGood, readable_iff, readable_iff, shows_iff, shows_iff, String.toList_append,
      faults_append ha]
    exact ⟨Iff.rfl, Iff.rfl⟩
  tagged name a s hname ha := by
    have htext : ("[" ++ name ++ "]" ++ a ++ "[/" ++ name ++ "]" ++ s).toList =
        '[' :: name.toList ++ ']' ::
          (a.toList ++ ('[' :: '/' :: name.toList ++ ']' :: s.toList)) := by
      simp
    rw [AsGood, readable_iff, readable_iff, shows_iff, shows_iff, htext, faults_tagged hname ha]
    cases faults s.toList with
    | none => exact ⟨iff_of_false nofun nofun, iff_of_false nofun nofun⟩
    | some fs => simp
  unmatched s hs := by
    obtain ⟨front, name, behind, rfl, hfront, hname⟩ := hs
    have htext : (front ++ "[/" ++ name ++ "]" ++ behind).toList =
        front.toList ++ ('[' :: '/' :: name.toList ++ ']' :: behind.toList) := by
      simp
    rw [readable_iff, htext, faults_append hfront, faults_closing hname]
    exact nofun

end Console

end RoutePaths
