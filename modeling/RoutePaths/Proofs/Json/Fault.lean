import Mathlib.Data.List.Induction
import RoutePaths.Json.Reader

/-!
# RoutePaths.Proofs.Json.Fault

The fault of a text that spells no value, in layers like those of the reader:

* **strings, numbers and words** — what one of them leaves of its text is an end
  that is shorter, and a fault is in the text, at a place where what it says is the
  case (`Leaves`, `Fault.Stands`);
* **values** — the same for a value, for items and for fields, each from the calls
  that it makes (`leaves_readValue_succ` and its siblings), and then for all of them
  by induction on the steps (`leaves_readAll`).  So no text fails for want of steps:
  where a value is missed, none begins (`NoValue`);
* **texts** — a fault of a text stands in it, and its wording tells the line, the
  column and the number of characters in front (`message_of_readRaw`).
-/

namespace RoutePaths.Json

variable {α β : Type} {s t rest : List Char} {fault : Fault}

/-! ## what is the case at a fault -/

/-- No value begins a text: no string, array or object, no word and no number. -/
structure NoValue (s : List Char) : Prop where
  opens : ∀ c ∈ s.head?, c ≠ '"' ∧ c ≠ '[' ∧ c ≠ '\x7b'
  word : readWord? s = none
  digit : ∀ d rest, s = d :: rest ∨ s = '-' :: d :: rest → d.isDigit = false

/-- What a fault says is the case where it says so. -/
def Fault.Stands : Fault → Prop
  | ⟨.noValue, s⟩ => NoValue s
  | ⟨.noName, s⟩ => s.head? ≠ some '"'
  | ⟨.noColon, s⟩ => s.head? ≠ some ':' ∧ ∀ c ∈ s.head?, isSpace c = false
  | ⟨.noComma, s⟩ => s.head? ≠ some ',' ∧ ∀ c ∈ s.head?, isSpace c = false
  | ⟨.noQuote, s⟩ => s.head? = some '"'
  | ⟨.control, s⟩ => ∃ c rest, s = c :: rest ∧ c.toNat < 0x20
  | ⟨.escape, s⟩ => ∃ c rest, s = '\\' :: c :: rest ∧ c ≠ 'u' ∧ escaped? c = none
  | ⟨.code, s⟩ => s.head? = some 'u' ∧
      ∀ a b c d e rest, s = 'u' :: a :: b :: c :: d :: e :: rest → unit? a b c d = none
  | ⟨.extra, s⟩ => ∃ c rest, s = c :: rest ∧ isSpace c = false
  | ⟨.byteOrderMark, s⟩ => s.head? = some '\uFEFF'
  | ⟨.tooLong digits limit, s⟩ => limit < digits ∧ ∃ ds : List Char,
      ds.length = digits ∧ (∀ d ∈ ds, d.isDigit = true) ∧ (ds <+: s ∨ '-' :: ds <+: s)

/-- What a reader leaves of a text is an end of it that is shorter, and if it
fails, its fault stands in the text. -/
def Leaves (s : List Char) : Except Fault (α × List Char) → Prop
  | .ok (_, rest) => rest <:+ s ∧ rest.length < s.length
  | .error fault => fault.Stands ∧ fault.rest <:+ s

namespace Leaves

variable {result : Except Fault (α × List Char)}

/-- A reader of an end of a text is one of the text. -/
theorem of_suffix (h : Leaves t result) (hsuffix : t <:+ s) : Leaves s result := by
  cases result with
  | error fault => exact ⟨h.1, h.2.trans hsuffix⟩
  | ok r => exact ⟨h.1.trans hsuffix, Nat.lt_of_lt_of_le h.2 hsuffix.length_le⟩

/-- What is made of the value makes no difference. -/
theorem map (h : Leaves s result) {f : α × List Char → β × List Char} (hf : ∀ r, (f r).2 = r.2) :
    Leaves s (result.map f) := by
  cases result with
  | error fault => exact h
  | ok r =>
    rw [Except.map, Leaves, hf]
    exact h

end Leaves

/-! ## strings -/

/-- A string is read up to its closing quote, and its faults are in it. -/
theorem leaves_readCodes (hsuffix : s <:+ t) : Leaves ('"' :: t) (readCodes ('"' :: t) s) := by
  have htext : s <:+ '"' :: t := hsuffix.trans (List.suffix_cons '"' t)
  fun_induction readCodes ('"' :: t) s with
  | case1 => exact ⟨rfl, List.suffix_rfl⟩
  | case2 s =>
    exact ⟨(List.suffix_cons '"' s).trans htext, Nat.lt_succ_of_le (by simpa using htext.length_le)⟩
  | case3 => exact ⟨rfl, List.suffix_rfl⟩
  | case4 a b c d s hcode =>
    refine ⟨⟨rfl, fun a' b' c' d' e rest h => ?_⟩, (List.suffix_cons _ _).trans htext⟩
    simp only [List.cons.injEq] at h
    obtain ⟨-, rfl, rfl, rfl, rfl, -⟩ := h
    exact hcode
  | case5 a b c d =>
    exact ⟨⟨rfl, by simp⟩, (List.suffix_cons _ _).trans htext⟩
  | case6 a b c d s n _ _ ih =>
    have hrest : s <:+ '\\' :: 'u' :: a :: b :: c :: d :: s :=
      List.suffix_append ['\\', 'u', a, b, c, d] s
    exact (ih (hrest.trans hsuffix) (hrest.trans htext)).map fun _ => rfl
  | case7 e s hfour hescaped =>
    split
    · next he =>
      subst he
      refine ⟨⟨rfl, fun a b c d e rest h => ?_⟩, (List.suffix_cons _ _).trans htext⟩
      exact (hfour a b c d (e :: rest) rfl (List.cons.inj h).2).elim
    · next he => exact ⟨⟨e, s, rfl, he, hescaped⟩, htext⟩
  | case8 e s _ _ _ ih =>
    have hrest : s <:+ '\\' :: e :: s := List.suffix_append ['\\', e] s
    exact (ih (hrest.trans hsuffix) (hrest.trans htext)).map fun _ => rfl
  | case9 c s _ _ _ _ hcontrol => exact ⟨⟨c, s, rfl, hcontrol⟩, htext⟩
  | case10 c s _ _ _ _ _ ih =>
    have hrest : s <:+ c :: s := List.suffix_cons c s
    exact (ih (hrest.trans hsuffix) (hrest.trans htext)).map fun _ => rfl

/-- The same from the opening quote on. -/
theorem leaves_readString (s : List Char) : Leaves ('"' :: s) (readString s) :=
  (leaves_readCodes List.suffix_rfl).map fun _ => rfl

/-! ## numbers and words -/

/-- What is behind digits ends the text. -/
theorem suffix_of_digits {ds : List Char} (h : digits s = (ds, rest)) : rest <:+ s :=
  (Prod.mk.inj h).2 ▸ List.dropWhile_suffix _

/-- The digits in front of a point begin the text. -/
theorem whole?_eq_some {ds : List Char} (h : whole? s = some (ds, rest)) :
    s = ds ++ rest ∧ ds ≠ [] ∧ ∀ d ∈ ds, d.isDigit = true := by
  have hsplit := List.takeWhile_append_dropWhile (p := Char.isDigit) (l := s)
  have hdigits : ∀ d ∈ s.takeWhile Char.isDigit, d.isDigit = true :=
    fun d hd => List.all_eq_true.mp List.all_takeWhile d hd
  rw [whole?, digits] at h
  split at h
  · contradiction
  · next ds' rest' heq =>
    obtain ⟨htake, hdrop⟩ := Prod.mk.inj heq
    obtain ⟨rfl, rfl⟩ := Prod.mk.inj (Option.some.inj h)
    rw [htake, hdrop] at hsplit
    exact ⟨hsplit.symm, List.cons_ne_nil _ _, by simp⟩
  · next hne _ =>
    obtain ⟨rfl, rfl⟩ := Prod.mk.inj (Option.some.inj h)
    exact ⟨hsplit.symm, fun hnil => hne _ (by rw [hnil]), hdigits⟩

/-- What is behind a fraction ends the text. -/
theorem fraction_suffix (s : List Char) : (fraction s).2 <:+ s := by
  fun_cases fraction s with
  | case1 => exact List.suffix_rfl
  | case2 t => exact (suffix_of_digits rfl).trans (List.suffix_cons '.' t)
  | case3 => exact List.suffix_rfl

/-- What is behind an exponent ends the text. -/
theorem suffix_of_exponent? {e : Int} (h : exponent? s = some (e, rest)) : rest <:+ s := by
  revert h
  fun_cases exponent? s with
  | case2 c _ t ds _ _ hdigits =>
    rintro ⟨⟩
    exact (suffix_of_digits hdigits).trans (List.suffix_append [c, '-'] t)
  | case4 c _ t ds _ _ hdigits =>
    rintro ⟨⟩
    exact (suffix_of_digits hdigits).trans (List.suffix_append [c, '+'] t)
  | case6 c t _ ds _ hne hdigits _ _ =>
    rw [hdigits]
    obtain _ | ⟨d, ds⟩ := ds
    · exact absurd rfl hne
    · rintro ⟨⟩
      exact (suffix_of_digits hdigits).trans (List.suffix_cons c t)
  | case5 c t _ _ hdigits =>
    rw [hdigits]
    exact nofun
  | case1 | case3 | case7 | case8 => exact nofun

/-- A number is read off the start of a text, behind its sign. -/
theorem leaves_readNumber (limit : Option Nat) (negative : Bool)
    (hstart : s = t ∨ s = '-' :: t) (hvalue : whole? t = none → NoValue s) :
    Leaves s (readNumber limit negative s t) := by
  have htext : t <:+ s := by rcases hstart with rfl | rfl <;> simp
  rw [readNumber]
  cases hwhole : whole? t with
  | none => exact ⟨hvalue hwhole, List.suffix_rfl⟩
  | some r =>
    obtain ⟨ds, rest⟩ := r
    dsimp only
    obtain ⟨rfl, hne, hdigits⟩ := whole?_eq_some hwhole
    have hleaves : ∀ rest', rest' <:+ rest → rest' <:+ s ∧ rest'.length < s.length := by
      intro rest' hrest'
      have hlength := htext.length_le
      rw [List.length_append] at hlength
      have hpos := List.length_pos_iff.mpr hne
      have hle := hrest'.length_le
      exact ⟨hrest'.trans ((List.suffix_append ds rest).trans htext), by omega⟩
    split
    · split
      · next most hmost =>
        refine ⟨⟨of_decide_eq_true (Option.filter_eq_some_iff.mp hmost).2, ds, rfl, hdigits, ?_⟩,
          List.suffix_rfl⟩
        rcases hstart with rfl | rfl
        · exact .inl (List.prefix_append ds rest)
        · exact .inr (List.prefix_append ('-' :: ds) rest)
      · exact hleaves _ (fraction_suffix rest)
    · exact hleaves _ (fraction_suffix rest)
    · next hexponent =>
      exact hleaves _ ((suffix_of_exponent? hexponent).trans (fraction_suffix rest))

/-- A word is at the start of a text, and what is behind it is the rest. -/
theorem word?_eq_some_iff {word : List Char} : word? word s = some rest ↔ s = word ++ rest := by
  fun_induction word? word s with
  | case1 s => simp [eq_comm]
  | case2 => simp
  | case3 ps s c ih => rw [ih, List.cons_append, List.cons.injEq, and_iff_right rfl]
  | case4 p ps c s h => exact iff_of_false nofun fun heq => h (List.cons.inj heq).1

/-- Behind a word there is less of the text. -/
theorem leaves_of_word? {word : List Char} (hword : word ≠ []) (h : word? word s = some rest) :
    rest <:+ s ∧ rest.length < s.length := by
  obtain rfl := word?_eq_some_iff.mp h
  have hpos := List.length_pos_iff.mpr hword
  refine ⟨List.suffix_append word rest, ?_⟩
  rw [List.length_append]
  omega

/-- A value that a word spells is the start of the text. -/
theorem leaves_of_readWord? {value : RawJson} (h : readWord? s = some (value, rest)) :
    rest <:+ s ∧ rest.length < s.length := by
  simp only [readWord?, Option.orElse_eq_orElse, Option.orElse_eq_or, Option.or_eq_some_iff,
    Option.map_eq_some_iff, Prod.mk.injEq] at h
  rcases h with ⟨_, h, -, rfl⟩ | ⟨-, ⟨_, h, -, rfl⟩ | ⟨-, ⟨_, h, -, rfl⟩ | ⟨-, ⟨_, h, -, rfl⟩ |
    ⟨-, ⟨_, h, -, rfl⟩ | ⟨-, _, h, -, rfl⟩⟩⟩⟩⟩ <;>
  exact leaves_of_word? (by decide) h

/-- No digit begins a text that no number begins. -/
theorem isDigit_head?_of_whole? (h : whole? s = none) : ∀ d ∈ s.head?, d.isDigit = false := by
  intro d hd
  obtain ⟨t, rfl⟩ := List.head?_eq_some_iff.mp hd
  cases hdigit : d.isDigit with
  | false => rfl
  | true =>
    rw [whole?, digits, List.takeWhile_cons_of_pos hdigit] at h
    split at h
    · next heq => exact absurd (Prod.mk.inj heq).1 (List.cons_ne_nil _ _)
    · contradiction
    · contradiction

/-- A word or a number is read off the start of a text that no string, array or object begins. -/
theorem leaves_readAtom (limit : Option Nat)
    (hopens : ∀ c ∈ s.head?, c ≠ '"' ∧ c ≠ '[' ∧ c ≠ '\x7b') : Leaves s (readAtom limit s) := by
  unfold readAtom
  cases hword : readWord? s with
  | some r => exact leaves_of_readWord? hword
  | none =>
    dsimp only
    refine Leaves.map ?_ fun _ => rfl
    split
    · next t =>
      refine leaves_readNumber limit true (.inr rfl) fun h => ⟨hopens, hword, ?_⟩
      have hhead := isDigit_head?_of_whole? h
      rintro d rest (heq | heq)
      · obtain ⟨rfl, -⟩ := List.cons.inj heq
        rfl
      · rw [(List.cons.inj heq).2] at hhead
        exact hhead d rfl
    · next hsign =>
      refine leaves_readNumber limit false (.inl rfl) fun h => ⟨hopens, hword, ?_⟩
      have hhead := isDigit_head?_of_whole? h
      rintro d rest (rfl | rfl)
      · exact hhead d rfl
      · exact absurd rfl (hsign _)

/-! ## values -/

/-- The blanks between the parts of a value can be left out. -/
theorem skipSpace_suffix (s : List Char) : skipSpace s <:+ s := List.dropWhile_suffix _

/-- Behind the blanks there is no blank. -/
theorem isSpace_head?_skipSpace (s : List Char) :
    ∀ c ∈ (skipSpace s).head?, isSpace c = false := by
  intro c hc
  have h := List.head?_dropWhile_not isSpace s
  rw [skipSpace, Option.mem_def] at hc
  rw [hc] at h
  simpa using h

/-- What is behind a character, with blanks in front of it or without, is less of the text. -/
theorem lt_of_skipSpace {c : Char} (h : skipSpace s = c :: rest) :
    rest <:+ s ∧ rest.length < s.length := by
  have hspace := skipSpace_suffix s
  rw [h] at hspace
  exact ⟨(List.suffix_cons c rest).trans hspace, Nat.lt_of_succ_le hspace.length_le⟩

/-- The same without the blanks behind the character. -/
theorem lt_of_separator {c : Char} (h : skipSpace s = c :: rest) :
    skipSpace rest <:+ s ∧ (skipSpace rest).length < s.length := by
  have hspace := skipSpace_suffix rest
  obtain ⟨hsuffix, hless⟩ := lt_of_skipSpace h
  exact ⟨hspace.trans hsuffix, Nat.lt_of_le_of_lt hspace.length_le hless⟩

/-- A character does not begin a text that is not of its shape. -/
theorem head?_ne {c : Char} (h : ∀ rest, s = c :: rest → False) : s.head? ≠ some c := fun hc =>
  (List.head?_eq_some_iff.mp hc).elim h

variable {limit : Option Nat} {fuel : Nat}

/-- An array or an object that is closed at once leaves less of the text. -/
theorem leaves_of_closed {c d : Char} (h : skipSpace t = d :: rest) :
    rest <:+ c :: t ∧ rest.length < (c :: t).length := by
  obtain ⟨hsuffix, hless⟩ := lt_of_skipSpace h
  exact ⟨hsuffix.trans (List.suffix_cons c t), Nat.lt_succ_of_lt hless⟩

/-- What is inside of brackets ends the text, and there are steps left for it. -/
theorem suffix_of_opened {c : Char} (hfuel : 2 * (c :: t).length < fuel + 1) :
    2 * (skipSpace t).length + 1 < fuel ∧ skipSpace t <:+ c :: t := by
  have hspace := skipSpace_suffix t
  have hlength := hspace.length_le
  rw [List.length_cons] at hfuel
  exact ⟨by omega, hspace.trans (List.suffix_cons c t)⟩

/-- A value leaves less of its text, if its items and fields do. -/
theorem leaves_readValue_succ
    (hitems : ∀ s, 2 * s.length + 1 < fuel → Leaves s (readItems limit fuel s))
    (hfields : ∀ s, 2 * s.length + 1 < fuel → Leaves s (readFields limit fuel s))
    (hfuel : 2 * s.length < fuel + 1) : Leaves s (readValue limit (fuel + 1) s) := by
  rw [readValue.eq_def]
  dsimp only
  split
  · next t => exact (leaves_readString t).map fun _ => rfl
  · next t =>
    obtain ⟨hless, hsuffix⟩ := suffix_of_opened hfuel
    split
    · next rest hclose => exact leaves_of_closed hclose
    · exact ((hitems _ hless).of_suffix hsuffix).map fun _ => rfl
  · next t =>
    obtain ⟨hless, hsuffix⟩ := suffix_of_opened hfuel
    split
    · next rest hclose => exact leaves_of_closed hclose
    · exact ((hfields _ hless).of_suffix hsuffix).map fun _ => rfl
  · next hstring harray hobject =>
    refine leaves_readAtom limit fun c hc => ?_
    obtain ⟨t, rfl⟩ := List.head?_eq_some_iff.mp hc
    refine ⟨?_, ?_, ?_⟩ <;> rintro rfl
    · exact hstring t rfl
    · exact harray t rfl
    · exact hobject t rfl

/-- Items leave less of their text, if the first value and the items behind it do. -/
theorem leaves_readItems_succ
    (hvalue : ∀ s, 2 * s.length < fuel → Leaves s (readValue limit fuel s))
    (hitems : ∀ s, 2 * s.length + 1 < fuel → Leaves s (readItems limit fuel s))
    (hfuel : 2 * s.length + 1 < fuel + 1) : Leaves s (readItems limit (fuel + 1) s) := by
  have hleaves := hvalue s (by omega)
  rw [readItems]
  cases hread : readValue limit fuel s with
  | error fault =>
    rw [hread] at hleaves
    exact hleaves
  | ok r =>
    obtain ⟨item, t⟩ := r
    rw [hread] at hleaves
    obtain ⟨hsuffix, hless⟩ := hleaves
    dsimp only
    split
    · next rest hclose =>
      obtain ⟨hrest, hlength⟩ := lt_of_skipSpace hclose
      exact ⟨hrest.trans hsuffix, by omega⟩
    · next u hcomma =>
      obtain ⟨hrest, hlength⟩ := lt_of_separator hcomma
      exact ((hitems _ (by omega)).of_suffix (hrest.trans hsuffix)).map fun _ => rfl
    · next hcomma =>
      exact ⟨⟨head?_ne hcomma, isSpace_head?_skipSpace t⟩, (skipSpace_suffix t).trans hsuffix⟩

/-- Fields leave less of their text, if the first value and the fields behind it do. -/
theorem leaves_readFields_succ
    (hvalue : ∀ s, 2 * s.length < fuel → Leaves s (readValue limit fuel s))
    (hfields : ∀ s, 2 * s.length + 1 < fuel → Leaves s (readFields limit fuel s))
    (hfuel : 2 * s.length + 1 < fuel + 1) : Leaves s (readFields limit (fuel + 1) s) := by
  rw [readFields.eq_def]
  dsimp only
  split
  · next t =>
    have hname := leaves_readString t
    cases hread : readString t with
    | error fault =>
      rw [hread] at hname
      exact hname
    | ok r =>
      obtain ⟨name, u⟩ := r
      rw [hread] at hname
      obtain ⟨hsuffix, hless⟩ := hname
      dsimp only
      split
      · next v hcolon =>
        obtain ⟨hbehind, hlength⟩ := lt_of_separator hcolon
        have hvalues := hbehind.trans hsuffix
        have hleaves := hvalue (skipSpace v) (by omega)
        cases hitem : readValue limit fuel (skipSpace v) with
        | error fault =>
          rw [hitem] at hleaves
          exact hleaves.of_suffix hvalues
        | ok r =>
          obtain ⟨item, w⟩ := r
          rw [hitem] at hleaves
          obtain ⟨hrest, hshort⟩ := hleaves
          dsimp only
          split
          · next rest hclose =>
            obtain ⟨hend, hlast⟩ := lt_of_skipSpace hclose
            exact ⟨hend.trans (hrest.trans hvalues), by omega⟩
          · next x hcomma =>
            obtain ⟨hnext, hlast⟩ := lt_of_separator hcomma
            exact ((hfields _ (by omega)).of_suffix
              (hnext.trans (hrest.trans hvalues))).map fun _ => rfl
          · next hcomma =>
            exact ⟨⟨head?_ne hcomma, isSpace_head?_skipSpace w⟩,
              (skipSpace_suffix w).trans (hrest.trans hvalues)⟩
      · next hcolon =>
        exact ⟨⟨head?_ne hcolon, isSpace_head?_skipSpace u⟩, (skipSpace_suffix u).trans hsuffix⟩
  · next h => exact ⟨head?_ne h, List.suffix_rfl⟩

/-- **Values, items and fields** leave less of their text, and if they fail, their fault stands in
it: twice as many steps as the text has characters are enough. -/
theorem leaves_readAll (limit : Option Nat) (fuel : Nat) :
    (∀ s : List Char, 2 * s.length < fuel → Leaves s (readValue limit fuel s)) ∧
    (∀ s : List Char, 2 * s.length + 1 < fuel → Leaves s (readItems limit fuel s)) ∧
    (∀ s : List Char, 2 * s.length + 1 < fuel → Leaves s (readFields limit fuel s)) := by
  induction fuel with
  | zero => exact ⟨nofun, nofun, nofun⟩
  | succ fuel ih =>
    obtain ⟨hvalue, hitems, hfields⟩ := ih
    exact ⟨fun _ => leaves_readValue_succ hitems hfields,
      fun _ => leaves_readItems_succ hvalue hitems,
      fun _ => leaves_readFields_succ hvalue hfields⟩

/-- The fault of a text that spells no value stands in the text. -/
theorem stands_of_parse {limit : Option Nat} (h : parse limit s = .error fault) :
    fault.Stands ∧ fault.rest <:+ s := by
  have hspace := skipSpace_suffix s
  have hlength := hspace.length_le
  have hleaves := (leaves_readAll limit (2 * s.length + 1)).1 (skipSpace s) (by omega)
  rw [parse] at h
  cases hread : readValue limit (2 * s.length + 1) (skipSpace s) with
  | error fault' =>
    rw [hread] at h hleaves
    obtain rfl := Except.error.inj h
    exact ⟨hleaves.1, hleaves.2.trans hspace⟩
  | ok r =>
    obtain ⟨value, rest⟩ := r
    rw [hread] at h hleaves
    dsimp only at h
    have hblanks := isSpace_head?_skipSpace rest
    have hrest := (skipSpace_suffix rest).trans (hleaves.1.trans hspace)
    cases hextra : skipSpace rest with
    | nil =>
      rw [hextra] at h
      contradiction
    | cons c more =>
      rw [hextra] at h hblanks hrest
      obtain rfl := Except.error.inj h
      exact ⟨⟨c, more, rfl, hblanks c rfl⟩, hrest⟩

/-- **The fault of a text from outside** stands in the text. -/
theorem stands_of_readRaw (h : readRaw s = .error fault) : fault.Stands ∧ fault.rest <:+ s := by
  rw [readRaw] at h
  split at h
  · next hmark =>
    cases h
    exact ⟨hmark, List.suffix_rfl⟩
  · exact stands_of_parse h

/-! ## where a fault is -/

/-- **The wording of a fault** in a text tells the number of the line, the column in the line and
the number of characters in front, unless an integer is too long. -/
theorem message_eq {above line : List Char} (habove : ∀ c ∈ above.getLast?, c = '\n')
    (hline : '\n' ∉ line) (hlong : ∀ digits limit, fault.mistake ≠ .tooLong digits limit) :
    fault.message (above ++ line ++ fault.rest) =
      fault.mistake.words ++ ": line " ++ toString (above.count '\n' + 1) ++ " column "
        ++ toString (line.length + 1) ++ " (char " ++ toString (above.length + line.length)
        ++ ")" := by
  have hbefore : (above ++ line ++ fault.rest).take
      ((above ++ line ++ fault.rest).length - fault.rest.length) = above ++ line := by
    rw [List.length_append, Nat.add_sub_cancel, List.take_left]
  have hcolumn : (above ++ line).reverse.takeWhile (· ≠ '\n') = line.reverse := by
    rw [List.reverse_append, List.takeWhile_append_of_pos]
    · cases habove' : above.reverse with
      | nil => rw [List.takeWhile_nil, List.append_nil]
      | cons c cs =>
        have hc : c = '\n' := habove c (by rw [← List.head?_reverse, habove']; rfl)
        rw [List.takeWhile_cons_of_neg (by simp [hc]), List.append_nil]
    · intro c hc
      exact decide_eq_true fun h => hline (h ▸ List.mem_reverse.mp hc)
  rw [Fault.message, hbefore]
  rw [hcolumn, List.length_reverse, List.count_append, List.count_eq_zero.mpr hline, Nat.add_zero,
    List.length_append]
  split
  · next digits limit h => exact absurd h (hlong digits limit)
  · rfl

/-- The last line of a text and what is above it. -/
theorem exists_lastLine (s : List Char) :
    ∃ above line, s = above ++ line ∧ (∀ c ∈ above.getLast?, c = '\n') ∧ '\n' ∉ line := by
  induction s using List.reverseRecOn with
  | nil => exact ⟨[], [], rfl, nofun, List.not_mem_nil⟩
  | append_singleton s c ih =>
    by_cases hc : c = '\n'
    · exact ⟨s ++ [c], [], (List.append_nil _).symm, by simp [hc], List.not_mem_nil⟩
    · obtain ⟨above, line, rfl, habove, hline⟩ := ih
      refine ⟨above, line ++ [c], List.append_assoc above line [c], habove, ?_⟩
      simpa [hline] using Ne.symm hc

/-- **What is told of a text that spells no value** is the case at a place of it, and the wording
tells where that is. -/
theorem message_of_readRaw (h : readRaw s = .error fault) :
    fault.Stands ∧ ∃ above line, s = above ++ line ++ fault.rest ∧
      (∀ c ∈ above.getLast?, c = '\n') ∧ '\n' ∉ line ∧
      ((∀ digits limit, fault.mistake ≠ .tooLong digits limit) →
        fault.message s = fault.mistake.words ++ ": line " ++ toString (above.count '\n' + 1)
          ++ " column " ++ toString (line.length + 1) ++ " (char "
          ++ toString (above.length + line.length) ++ ")") := by
  obtain ⟨hstands, before, rfl⟩ := stands_of_readRaw h
  obtain ⟨above, line, rfl, habove, hline⟩ := exists_lastLine before
  exact ⟨hstands, above, line, rfl, habove, hline, message_eq habove hline⟩

example : readRaw "[\n[[".toList = .error ⟨.noValue, []⟩ := by rfl

end RoutePaths.Json
