import RoutePaths.Proofs.Json.NumberText
import RoutePaths.Proofs.Ledger

/-!
# RoutePaths.Proofs.Json.RoundTrip

Printing and reading JSON values.  A printed value is read from the start of a text
wherever the text goes on with something that no number holds (`Reads`).  Items and
fields are printed one behind the other, so a list of them reads if each of them
does (`readItems_printItems`, `readFields_printFields`); by induction every value reads
in which no object has a name twice (`reads_of_wellKeyed`).  Hence printing loses
nothing: the text spells the value that was printed (`parse?_print`), in ASCII
(`isAscii_printAt`).
-/

namespace RoutePaths

open Text.CodePoints (ofString)

/-! ## values -/

namespace JsonOf

variable {τ υ : Type}

/-- No object has a name twice. -/
inductive WellKeyed : JsonOf τ → Prop where
  | null : WellKeyed .null
  | bool (value : Bool) : WellKeyed (.bool value)
  | number (value : JsonNumber) : WellKeyed (.number value)
  | string (value : τ) : WellKeyed (.string value)
  | array {items : List (JsonOf τ)} (children : ∀ item ∈ items, WellKeyed item) :
      WellKeyed (.array items)
  | object {fields : List (τ × JsonOf τ)} (nodup : (Ledger.keys fields).Nodup)
      (children : ∀ field ∈ fields, WellKeyed field.2) : WellKeyed (.object fields)

/-- Mapping the texts of an object maps its keys. -/
theorem keys_mapFields (f : τ → υ) (fields : List (τ × JsonOf τ)) :
    Ledger.keys (mapFields f fields) = (Ledger.keys fields).map f := by
  induction fields with
  | nil => rfl
  | cons field fields ih => exact congrArg (f field.1 :: ·) ih

section Cancel

variable {f : τ → υ} {g : υ → τ}

mutual

/-- Strings that can be taken back are taken back all through a value. -/
theorem mapStrings_cancel (h : Function.LeftInverse g f) :
    ∀ value : JsonOf τ, (value.mapStrings f).mapStrings g = value
  | .null => rfl
  | .bool _ => rfl
  | .number _ => rfl
  | .string s => congrArg JsonOf.string (h s)
  | .array items => congrArg JsonOf.array (mapItems_cancel h items)
  | .object fields => congrArg JsonOf.object (mapFields_cancel h fields)

/-- The same for the values of an array. -/
theorem mapItems_cancel (h : Function.LeftInverse g f) :
    ∀ items : List (JsonOf τ), mapItems g (mapItems f items) = items
  | [] => rfl
  | item :: items => congrArg₂ List.cons (mapStrings_cancel h item) (mapItems_cancel h items)

/-- The same for the fields of an object. -/
theorem mapFields_cancel (h : Function.LeftInverse g f) :
    ∀ fields : List (τ × JsonOf τ), mapFields g (mapFields f fields) = fields
  | [] => rfl
  | (name, value) :: fields =>
    congrArg₂ List.cons (Prod.ext (h name) (mapStrings_cancel h value)) (mapFields_cancel h fields)

end

end Cancel

end JsonOf

namespace Json

open JsonOf (mapStrings mapItems mapFields WellKeyed)

variable {value : Json} {rest : List Char} {limit : Option Nat}

/-- Code points give the text back. -/
theorem leftInverse_ofString :
    Function.LeftInverse (fun codes : Text.CodePoints => String.ofList codes.chars) ofString :=
  fun s => by simp only [ofString, Text.CodePoints.chars_ofChars, String.ofList_toList]

/-- Texts made of strings give the strings back. -/
theorem withTexts_mapStrings (value : Json) : withTexts (value.mapStrings ofString) = value :=
  JsonOf.mapStrings_cancel leftInverse_ofString value

/-! ## blanks -/

/-- Nothing is skipped in front of a character that is no space. -/
theorem skipSpace_cons {c : Char} (h : isSpace c = false) (s : List Char) :
    skipSpace (c :: s) = c :: s :=
  List.dropWhile_cons_of_neg (by simp [h])

theorem skipSpace_blank (s : List Char) : skipSpace (' ' :: s) = skipSpace s := rfl

/-- The line break and the indentation in front of a value are skipped. -/
theorem skipSpace_newline (level : Nat) (s : List Char) :
    skipSpace (newline level ++ s) = skipSpace s :=
  List.dropWhile_append_of_pos fun c hc => by
    rcases List.mem_cons.mp hc with rfl | hc
    · decide
    · rw [List.eq_of_mem_replicate hc]
      decide

/-! ## what values begin with -/

/-- A number begins with a digit, a sign or the first letter of a word. -/
theorem first_printNumber (n : JsonNumber) :
    ∃ c s, printNumber n = c :: s ∧ (c.isDigit = true ∨ c = '-' ∨ c = 'I' ∨ c = 'N') := by
  cases n with
  | integer n =>
    cases n with
    | ofNat n =>
      obtain ⟨d, ds, hdigits, hd⟩ := first_toDigits n
      exact ⟨d, ds, (toList_toString_ofNat n).trans hdigits, .inl hd⟩
    | negSucc n => exact ⟨'-', _, toList_toString_negSucc n, by decide⟩
  | decimal negative k e =>
    obtain ⟨d, ds, hdigits, hd⟩ := first_toDigits k
    rw [printNumber, Nat.toString_eq_repr, Nat.toList_repr, hdigits]
    cases negative with
    | false => exact ⟨d, _, rfl, .inl hd⟩
    | true => exact ⟨'-', _, rfl, by decide⟩
  | infinity negative => cases negative <;> exact ⟨_, _, rfl, by decide⟩
  | undefined => exact ⟨'N', _, rfl, by decide⟩

/-- A value begins with something that is no blank and closes no array. -/
theorem first_printAt (level : Nat) (value : Json) :
    ∃ c s, printAt level value = c :: s ∧ isSpace c = false ∧ c ≠ ']' := by
  cases value with
  | null => exact ⟨'n', _, rfl, by decide⟩
  | bool value => cases value <;> exact ⟨_, _, rfl, by decide⟩
  | number n =>
    obtain ⟨c, s, hprint, hc⟩ := first_printNumber n
    refine ⟨c, s, hprint, ?_⟩
    rcases hc with hd | rfl | rfl | rfl
    · have hne : ∀ b : Char, b.isDigit = false → c ≠ b := fun _ => ne_of_isDigit hd
      simp [isSpace, hne]
    all_goals decide
  | string s => exact ⟨'"', _, rfl, by decide⟩
  | array items => cases items <;> exact ⟨'[', _, rfl, by decide⟩
  | object fields => cases fields <;> exact ⟨'\x7b', _, rfl, by decide⟩

/-- A printed value begins with no space. -/
theorem skipSpace_printAt (level : Nat) (value : Json) (s : List Char) :
    skipSpace (printAt level value ++ s) = printAt level value ++ s := by
  obtain ⟨c, t, hprint, hc, -⟩ := first_printAt level value
  rw [hprint, List.cons_append, skipSpace_cons hc]

/-! ## what stands behind values -/

/-- A number ends in front of a character that cannot go on with it. -/
theorem endsNumber_cons {c : Char} (h : c.isDigit = false ∧ c ≠ '.' ∧ c ≠ 'e' ∧ c ≠ 'E')
    (s : List Char) : EndsNumber (c :: s) := by
  rintro _ ⟨⟩
  exact h

/-- A number ends at the end of its line. -/
theorem endsNumber_newline (level : Nat) (s : List Char) : EndsNumber (newline level ++ s) :=
  endsNumber_cons (by decide) _

/-- A number ends in front of the values behind it. -/
theorem endsNumber_printItems (level : Nat) (items : List Json) {s : List Char}
    (h : EndsNumber s) : EndsNumber (printItems level items ++ s) := by
  cases items with
  | nil => exact h
  | cons item items => exact endsNumber_cons (by decide) _

/-- A number ends in front of the fields behind it. -/
theorem endsNumber_printFields (level : Nat) (fields : List (String × Json)) {s : List Char}
    (h : EndsNumber s) : EndsNumber (printFields level fields ++ s) := by
  cases fields with
  | nil => exact h
  | cons field fields => exact endsNumber_cons (by decide) _

/-! ## reading what was printed -/

/-- A printed value is read, with fuel for its length, wherever no number goes on
behind it. -/
def Reads (value : Json) : Prop :=
  ∀ level fuel rest, (printAt level value).length < fuel → EndsNumber rest →
    readValue none fuel (printAt level value ++ rest) = .ok (value.mapStrings ofString, rest)

/-- What opens no string, array or object is read as a number or a word. -/
theorem readValue_atom {c : Char} (h : c ≠ '"' ∧ c ≠ '[' ∧ c ≠ '{') (fuel : Nat) (s : List Char) :
    readValue limit (fuel + 1) (c :: s) = readAtom limit (c :: s) := by
  unfold readValue
  split
  · next heq => exact absurd (List.cons.inj heq).1 h.1
  · next heq => exact absurd (List.cons.inj heq).1 h.2.1
  · next heq => exact absurd (List.cons.inj heq).1 h.2.2
  · rfl

/-- **Items are read** up to the bracket behind them, if each of them is. -/
theorem readItems_printItems (level outer : Nat) (rest : List Char) {item : Json}
    {items : List Json}
    (hreads : ∀ value ∈ item :: items, Reads value) (fuel : Nat)
    (hfuel : (printAt level item).length + (printItems level items).length + 1 < fuel) :
    readItems none fuel
        (printAt level item ++ (printItems level items ++ (newline outer ++ ']' :: rest))) =
      .ok (mapItems ofString (item :: items), rest) := by
  induction items generalizing item fuel with
  | nil =>
    obtain ⟨fuel, rfl⟩ : ∃ n, fuel = n + 1 := ⟨fuel - 1, by omega⟩
    have hitem := hreads item List.mem_cons_self level fuel (newline outer ++ ']' :: rest)
      (by omega) (endsNumber_newline _ _)
    rw [readItems, printItems, List.nil_append, hitem]
    simp only [skipSpace_newline, skipSpace_cons (show isSpace ']' = false by decide)]
    rfl
  | cons next items ih =>
    obtain ⟨fuel, rfl⟩ : ∃ n, fuel = n + 1 := ⟨fuel - 1, by omega⟩
    have hitem := hreads item List.mem_cons_self level fuel
      (printItems level (next :: items) ++ (newline outer ++ ']' :: rest)) (by omega)
      (endsNumber_printItems _ _ (endsNumber_newline _ _))
    -- The comma and the line end in front of the next item pay for the step to it.
    have hnext := ih (fun value hvalue => hreads value (List.mem_cons_of_mem _ hvalue)) fuel (by
      simp only [printItems, newline, List.length_append, List.length_cons] at hfuel
      omega)
    rw [readItems, hitem]
    simp only [printItems, List.cons_append, List.append_assoc,
      skipSpace_cons (show isSpace ',' = false by decide), skipSpace_newline, skipSpace_printAt,
      hnext]
    rfl

section Fields

variable {name : String} {level fuel : Nat} {s t : List Char}

/-- A field is read, and then the brace behind it. -/
theorem readFields_last
    (hvalue : readValue none fuel (printAt level value ++ s) = .ok (value.mapStrings ofString, s))
    (hs : skipSpace s = '}' :: t) :
    readFields none (fuel + 1) (printString name ++ ':' :: ' ' :: (printAt level value ++ s)) =
      .ok ([(ofString name, value.mapStrings ofString)], t) := by
  have hname := readString_printString name (':' :: ' ' :: (printAt level value ++ s))
  simp only [printString, List.cons_append, List.append_assoc, List.nil_append, readFields, hname,
    skipSpace_cons (show isSpace ':' = false by decide), skipSpace_blank, skipSpace_printAt, hvalue,
    hs]

/-- A field is read, and then the fields behind its comma. -/
theorem readFields_more
    (hvalue : readValue none fuel (printAt level value ++ s) = .ok (value.mapStrings ofString, s))
    (hs : skipSpace s = ',' :: t) :
    readFields none (fuel + 1) (printString name ++ ':' :: ' ' :: (printAt level value ++ s)) =
      (readFields none fuel (skipSpace t)).map fun (fields, rest) =>
        ((ofString name, value.mapStrings ofString) :: fields, rest) := by
  have hname := readString_printString name (':' :: ' ' :: (printAt level value ++ s))
  simp only [printString, List.cons_append, List.append_assoc, List.nil_append, readFields, hname,
    skipSpace_cons (show isSpace ':' = false by decide), skipSpace_blank, skipSpace_printAt, hvalue,
    hs]

end Fields

/-- **Fields are read** up to the brace behind them, if the value of each is. -/
theorem readFields_printFields (level outer : Nat) (rest : List Char) {name : String} {value : Json}
    {fields : List (String × Json)}
    (hreads : ∀ field ∈ (name, value) :: fields, Reads field.2) (fuel : Nat)
    (hfuel : (printAt level value).length + (printFields level fields).length + 1 < fuel) :
    readFields none fuel (printString name ++ ':' :: ' ' :: (printAt level value ++
        (printFields level fields ++ (newline outer ++ '}' :: rest)))) =
      .ok (mapFields ofString ((name, value) :: fields), rest) := by
  induction fields generalizing name value fuel with
  | nil =>
    obtain ⟨fuel, rfl⟩ : ∃ n, fuel = n + 1 := ⟨fuel - 1, by omega⟩
    have hreadsValue : Reads value := hreads _ List.mem_cons_self
    have hvalue := hreadsValue level fuel (newline outer ++ '}' :: rest) (by omega)
      (endsNumber_newline _ _)
    have hbrace : skipSpace (newline outer ++ '}' :: rest) = '}' :: rest :=
      (skipSpace_newline _ _).trans (skipSpace_cons (by decide) _)
    rw [printFields, List.nil_append, readFields_last hvalue hbrace]
    rfl
  | cons next fields ih =>
    obtain ⟨nextName, next⟩ := next
    obtain ⟨fuel, rfl⟩ : ∃ n, fuel = n + 1 := ⟨fuel - 1, by omega⟩
    have hreadsValue : Reads value := hreads _ List.mem_cons_self
    have hvalue := hreadsValue level fuel
      (printFields level ((nextName, next) :: fields) ++ (newline outer ++ '}' :: rest)) (by omega)
      (endsNumber_printFields _ _ (endsNumber_newline _ _))
    have hnext := ih (fun field hfield => hreads field (List.mem_cons_of_mem _ hfield)) fuel (by
      simp only [printFields, newline, List.length_append, List.length_cons] at hfuel
      omega)
    have hquote : ∀ s, skipSpace (printString nextName ++ s) = printString nextName ++ s := fun s =>
      skipSpace_cons (by decide) _
    have hcomma : skipSpace (printFields level ((nextName, next) :: fields) ++
          (newline outer ++ '}' :: rest)) =
        ',' :: (newline level ++ (printString nextName ++ ':' :: ' ' :: (printAt level next ++
          (printFields level fields ++ (newline outer ++ '}' :: rest))))) := by
      simp only [printFields, List.cons_append, List.append_assoc,
        skipSpace_cons (show isSpace ',' = false by decide)]
    rw [readFields_more hvalue hcomma, skipSpace_newline, hquote, hnext]
    rfl

/-- An array that is not closed at once is read as its values. -/
theorem readValue_array {c : Char} {s t : List Char} {fuel : Nat} (hfirst : skipSpace s = c :: t)
    (hc : c ≠ ']') :
    readValue limit (fuel + 1) ('[' :: s) =
      (readItems limit fuel (skipSpace s)).map fun (items, rest) => (.array items, rest) := by
  rw [readValue, hfirst]
  split
  · next heq => exact absurd (List.cons.inj heq).1 hc
  · rfl

/-- An object that is not closed at once is read as its fields, the last of each key. -/
theorem readValue_object {c : Char} {s t : List Char} {fuel : Nat} (hfirst : skipSpace s = c :: t)
    (hc : c ≠ '}') :
    readValue limit (fuel + 1) ('{' :: s) =
      (readFields limit fuel (skipSpace s)).map fun (fields, rest) =>
        (.object (Ledger.ofPairs fields), rest) := by
  rw [readValue, hfirst]
  split
  · next heq => exact absurd (List.cons.inj heq).1 hc
  · rfl

/-- An array is read back if its values are. -/
theorem reads_array {items : List Json} (hreads : ∀ item ∈ items, Reads item) :
    Reads (.array items) := by
  intro level fuel rest hfuel _
  obtain ⟨fuel, rfl⟩ : ∃ n, fuel = n + 1 := ⟨fuel - 1, by omega⟩
  cases items with
  | nil => rfl
  | cons item items =>
    obtain ⟨c, s, hprint, -, hbracket⟩ := first_printAt (level + 1) item
    have hskip : ∀ t, skipSpace (newline (level + 1) ++ (printAt (level + 1) item ++ t)) =
        printAt (level + 1) item ++ t := fun t => by rw [skipSpace_newline, skipSpace_printAt]
    have hitems := readItems_printItems (level + 1) level rest hreads fuel (by
      simp only [printAt, newline, List.length_append, List.length_cons] at hfuel
      omega)
    simp only [printAt, List.cons_append, List.append_assoc, List.nil_append]
    rw [readValue_array ((hskip _).trans (by rw [hprint]; rfl)) hbracket, hskip, hitems]
    rfl

/-- An object is read back if its values are and no key of it comes twice. -/
theorem reads_object {fields : List (String × Json)} (hnodup : (Ledger.keys fields).Nodup)
    (hreads : ∀ field ∈ fields, Reads field.2) : Reads (.object fields) := by
  intro level fuel rest hfuel _
  obtain ⟨fuel, rfl⟩ : ∃ n, fuel = n + 1 := ⟨fuel - 1, by omega⟩
  cases fields with
  | nil => rfl
  | cons field fields =>
    obtain ⟨name, value⟩ := field
    have hskip : ∀ t, skipSpace (newline (level + 1) ++ (printString name ++ t)) =
        printString name ++ t := fun t =>
      (skipSpace_newline _ _).trans (skipSpace_cons (by decide) _)
    have hfields := readFields_printFields (level + 1) level rest hreads fuel (by
      simp only [printAt, newline, List.length_append, List.length_cons] at hfuel
      omega)
    have hdistinct : (Ledger.keys (mapFields ofString ((name, value) :: fields))).Nodup := by
      rw [JsonOf.keys_mapFields]
      exact hnodup.map leftInverse_ofString.injective
    simp only [printAt, List.cons_append, List.append_assoc, List.nil_append]
    rw [readValue_object (c := '"') (hskip _) (by decide), hskip, hfields]
    exact congrArg (fun fields => Except.ok (JsonOf.object fields, rest))
      (Ledger.ofPairs_eq_self hdistinct)

/-- Words and numbers are read as such. -/
theorem reads_atom {c : Char} {s : List Char} (hprint : ∀ level, printAt level value = c :: s)
    (hc : c ≠ '"' ∧ c ≠ '[' ∧ c ≠ '{')
    (hatom : ∀ rest, EndsNumber rest →
      readAtom none (c :: s ++ rest) = .ok (value.mapStrings ofString, rest)) : Reads value := by
  intro level fuel rest hfuel hrest
  obtain ⟨fuel, rfl⟩ : ∃ n, fuel = n + 1 := ⟨fuel - 1, by omega⟩
  rw [hprint, ← hatom rest hrest]
  exact readValue_atom hc fuel (s ++ rest)

theorem reads_number (n : JsonNumber) : Reads (.number n) := by
  obtain ⟨c, s, hprint, hfirst⟩ := first_printNumber n
  have hc : c ≠ '"' ∧ c ≠ '[' ∧ c ≠ '{' := by
    rcases hfirst with hd | rfl | rfl | rfl
    · exact ⟨ne_of_isDigit hd (by decide), ne_of_isDigit hd (by decide),
        ne_of_isDigit hd (by decide)⟩
    all_goals decide
  exact reads_atom (fun _ => hprint) hc fun rest hrest => hprint ▸ readAtom_printNumber n hrest

theorem reads_string (s : String) : Reads (.string s) := by
  intro level fuel rest hfuel _
  obtain ⟨fuel, rfl⟩ : ∃ n, fuel = n + 1 := ⟨fuel - 1, by omega⟩
  have hread := readString_printString s rest
  simp only [printAt, printString, List.cons_append, List.append_assoc, List.nil_append, readValue,
    hread]
  rfl

/-- **A value is read** if no object in it has a name twice. -/
theorem reads_of_wellKeyed (h : WellKeyed value) : Reads value := by
  induction h with
  | null => exact reads_atom (fun _ => rfl) (by decide) fun _ _ => rfl
  | bool value =>
    cases value with
    | true => exact reads_atom (fun _ => rfl) (by decide) fun _ _ => rfl
    | false => exact reads_atom (fun _ => rfl) (by decide) fun _ _ => rfl
  | number n => exact reads_number n
  | string s => exact reads_string s
  | array _ ih => exact reads_array ih
  | object nodup _ ih => exact reads_object nodup ih

/-- **Printing loses nothing**: the text spells the value, and nothing else. -/
theorem parse?_print (h : WellKeyed value) :
    parse? none (print value).toList = some (value.mapStrings ofString) := by
  obtain ⟨c, s, hprint, hc, -⟩ := first_printAt 0 value
  have hread := reads_of_wellKeyed h 0 (2 * (printAt 0 value).length + 1) [] (by omega)
    (fun _ hmem => by contradiction)
  rw [List.append_nil] at hread
  have hskip : skipSpace (printAt 0 value) = printAt 0 value := by
    rw [hprint, skipSpace_cons hc]
  rw [parse?, print, String.toList_ofList, parse, hskip, hread]
  rfl

/-! ## ASCII -/

theorem isAscii_newline (level : Nat) : IsAscii (newline level) :=
  isAscii_cons.mpr ⟨by decide, fun c hc => by rw [List.eq_of_mem_replicate hc]; decide⟩

mutual

/-- **Printed values are ASCII.** -/
theorem isAscii_printAt (level : Nat) : ∀ value : Json, IsAscii (printAt level value)
  | .null => (by decide : IsAscii "null".toList)
  | .bool true => (by decide : IsAscii "true".toList)
  | .bool false => (by decide : IsAscii "false".toList)
  | .number n => isAscii_printNumber n
  | .string s => isAscii_printString s
  | .array [] => (by decide : IsAscii ['[', ']'])
  | .array (item :: items) => by
    have hnewline := isAscii_newline
    have hitem := isAscii_printAt (level + 1) item
    have hitems := isAscii_printItems (level + 1) items
    simp only [printAt, isAscii_append, isAscii_cons, hnewline, hitem, hitems]
    decide
  | .object [] => (by decide : IsAscii ['{', '}'])
  | .object ((name, value) :: fields) => by
    have hnewline := isAscii_newline
    have hname := isAscii_printString name
    have hvalue := isAscii_printAt (level + 1) value
    have hfields := isAscii_printFields (level + 1) fields
    simp only [printAt, isAscii_append, isAscii_cons, hnewline, hname, hvalue, hfields]
    decide

theorem isAscii_printItems (level : Nat) : ∀ items : List Json, IsAscii (printItems level items)
  | [] => List.forall_mem_nil _
  | item :: items => by
    have hnewline := isAscii_newline
    have hitem := isAscii_printAt level item
    have hitems := isAscii_printItems level items
    simp only [printItems, isAscii_append, isAscii_cons, hnewline, hitem, hitems]
    decide

theorem isAscii_printFields (level : Nat) :
    ∀ fields : List (String × Json), IsAscii (printFields level fields)
  | [] => List.forall_mem_nil _
  | (name, value) :: fields => by
    have hnewline := isAscii_newline
    have hname := isAscii_printString name
    have hvalue := isAscii_printAt level value
    have hfields := isAscii_printFields level fields
    simp only [printFields, isAscii_append, isAscii_cons, hnewline, hname, hvalue, hfields]
    decide

end

end Json

end RoutePaths
