import RoutePaths.Proofs.Json.StringText

/-!
# RoutePaths.Proofs.Json.NumberText

Numbers in JSON texts.  The digits of a number begin with a zero for zero alone
(`leading_toDigits`), so the digits that a text begins with are all read, and give
the number back (`whole?_toDigits`).  A number ends where the text goes on with
something that no number holds (`EndsNumber`): there a printed number reads back,
of any size and of every kind (`readAtom_printNumber`).
-/

namespace RoutePaths.Json

variable {rest : List Char} {limit : Option Nat}

/-! ## digits -/

/-- A digit is none of the characters that are no digits. -/
theorem ne_of_isDigit {d c : Char} (hd : d.isDigit = true) (hc : c.isDigit = false) : d ≠ c := by
  rintro rfl
  rw [hd] at hc
  contradiction

theorem isDigit_of_mem_toDigits {n : Nat} {c : Char} (h : c ∈ Nat.toDigits 10 n) :
    c.isDigit = true :=
  Nat.isDigit_of_mem_toDigits (by decide) (by decide) h

/-- The digits of a number have its value. -/
theorem ofDigits_toDigits (n : Nat) : ofDigits (Nat.toDigits 10 n) = n :=
  Nat.ofDigitChars_toDigits (by decide) (by decide)

/-- A zero leads the digits of zero only. -/
theorem leading_toDigits (n : Nat) :
    ∃ d ds, Nat.toDigits 10 n = d :: ds ∧ (d = '0' → ds = []) := by
  induction n using Nat.strongRecOn with
  | ind n ih =>
    rw [Nat.toDigits_eq_if (by decide)]
    split
    · exact ⟨_, [], rfl, fun _ => rfl⟩
    · next hn =>
      obtain ⟨d, ds, hdigits, hzero⟩ := ih (n / 10) (by omega)
      refine ⟨d, ds ++ [(n % 10).digitChar], by rw [hdigits]; rfl, fun hd => ?_⟩
      -- A tenth of the number is not zero, and its digits are read back.
      have hback := ofDigits_toDigits (n / 10)
      rw [hdigits, hzero hd, hd] at hback
      have htenth : 0 = n / 10 := hback
      omega

/-- There is a digit, even for zero. -/
theorem first_toDigits (n : Nat) :
    ∃ d ds, Nat.toDigits 10 n = d :: ds ∧ d.isDigit = true := by
  obtain ⟨d, ds, hdigits, -⟩ := leading_toDigits n
  exact ⟨d, ds, hdigits, isDigit_of_mem_toDigits (hdigits ▸ List.mem_cons_self)⟩

/-- Digits are read up to the first character that is none. -/
theorem digits_append {ds : List Char} (hds : ∀ c ∈ ds, c.isDigit = true)
    (hrest : ∀ c ∈ rest.head?, c.isDigit = false) : digits (ds ++ rest) = (ds, rest) := by
  have hnone : rest.takeWhile Char.isDigit = [] ∧ rest.dropWhile Char.isDigit = rest := by
    cases rest with
    | nil => exact ⟨rfl, rfl⟩
    | cons c rest =>
      have hc : ¬ c.isDigit = true := by simp [hrest c rfl]
      exact ⟨List.takeWhile_cons_of_neg hc, List.dropWhile_cons_of_neg hc⟩
  rw [digits, List.takeWhile_append_of_pos hds, List.dropWhile_append_of_pos hds, hnone.1, hnone.2,
    List.append_nil]

/-- The digits of a printed number are read as a whole. -/
theorem digits_toDigits (n : Nat) (hrest : ∀ c ∈ rest.head?, c.isDigit = false) :
    digits (Nat.toDigits 10 n ++ rest) = (Nat.toDigits 10 n, rest) :=
  digits_append (fun _ => isDigit_of_mem_toDigits) hrest

/-- **All digits of a number are read** before its point. -/
theorem whole?_toDigits (n : Nat) (hrest : ∀ c ∈ rest.head?, c.isDigit = false) :
    whole? (Nat.toDigits 10 n ++ rest) = some (Nat.toDigits 10 n, rest) := by
  obtain ⟨d, ds, hdigits, hzero⟩ := leading_toDigits n
  rw [whole?, digits_toDigits n hrest, hdigits]
  split
  · next heq => simp at heq
  · next heq =>
    obtain ⟨hcons, rfl⟩ := Prod.mk.inj heq
    obtain ⟨rfl, rfl⟩ := List.cons.inj hcons
    rw [hzero rfl]
    rfl
  · rfl

/-! ## signs -/

theorem toList_toString_ofNat (n : Nat) : (toString (Int.ofNat n)).toList = Nat.toDigits 10 n :=
  Nat.toList_repr

/-- A negative number is printed with its sign in front. -/
theorem toList_toString_negSucc (n : Nat) :
    (toString (Int.negSucc n)).toList = '-' :: Nat.toDigits 10 (n + 1) := by
  change ("-" ++ Nat.repr (n + 1)).toList = _
  rw [String.toList_append, Nat.toList_repr]
  rfl

/-- The exponent of a number reads back. -/
theorem exponent?_toString (e : Int) (hrest : ∀ c ∈ rest.head?, c.isDigit = false) :
    exponent? ('e' :: ((toString e).toList ++ rest)) = some (e, rest) := by
  unfold exponent?
  simp only [decide_true, Bool.true_or, if_true]
  cases e with
  | ofNat n =>
    obtain ⟨d, ds, hdigits, hd⟩ := first_toDigits n
    have hread := digits_toDigits n hrest
    have hback := ofDigits_toDigits n
    rw [toList_toString_ofNat]
    rw [hdigits] at hread hback ⊢
    split
    · next heq => exact absurd (List.cons.inj heq).1 (ne_of_isDigit hd (by decide))
    · next heq => exact absurd (List.cons.inj heq).1 (ne_of_isDigit hd (by decide))
    · rw [hread]
      exact congrArg (fun k : Nat => some ((k : Int), rest)) hback
  | negSucc n =>
    obtain ⟨d, ds, hdigits, -⟩ := first_toDigits (n + 1)
    have hread := digits_toDigits (n + 1) hrest
    have hback := ofDigits_toDigits (n + 1)
    rw [toList_toString_negSucc]
    rw [hdigits] at hread hback ⊢
    simp only [List.cons_append] at hread ⊢
    rw [hread]
    exact congrArg (fun k : Nat => some (-(k : Int), rest)) hback

/-! ## numbers -/

/-- The text goes on with nothing that a number holds. -/
def EndsNumber (s : List Char) : Prop :=
  ∀ c ∈ s.head?, c.isDigit = false ∧ c ≠ '.' ∧ c ≠ 'e' ∧ c ≠ 'E'

/-- Where a number ends there is no fraction. -/
theorem EndsNumber.fraction (h : EndsNumber rest) : fraction rest = ([], rest) := by
  unfold Json.fraction
  split
  · next t => exact absurd rfl (h '.' rfl).2.1
  · rfl

/-- Where a number ends there is no exponent. -/
theorem EndsNumber.exponent? (h : EndsNumber rest) : exponent? rest = none := by
  cases rest with
  | nil => rfl
  | cons c rest =>
    obtain ⟨-, -, hsmall, hcapital⟩ := h c rfl
    unfold Json.exponent?
    simp [hsmall, hcapital]

/-- The digits of an integer read back. -/
theorem readNumber_toDigits (negative : Bool) (n : Nat) (start : List Char)
    (h : EndsNumber rest) :
    readNumber none negative start (Nat.toDigits 10 n ++ rest) =
      .ok (.integer (if negative then -(n : Int) else n), rest) := by
  rw [readNumber, whole?_toDigits n fun c hc => (h c hc).1]
  dsimp only
  rw [h.fraction]
  dsimp only
  rw [h.exponent?, ofDigits_toDigits]
  rfl

/-- The digits and the exponent of a decimal fraction read back. -/
theorem readNumber_decimal (limit : Option Nat) (negative : Bool) (n : Nat) (e : Int)
    (start : List Char) (h : EndsNumber rest) :
    readNumber limit negative start
        (Nat.toDigits 10 n ++ 'e' :: ((toString e).toList ++ rest)) =
      .ok (.decimal negative n e, rest) := by
  have hexponent := exponent?_toString e fun c hc => (h c hc).1
  have hfraction : fraction ('e' :: ((toString e).toList ++ rest)) =
      ([], 'e' :: ((toString e).toList ++ rest)) := rfl
  rw [readNumber, whole?_toDigits n (by simp)]
  dsimp only
  rw [hfraction]
  dsimp only
  rw [hexponent]
  dsimp only
  rw [List.append_nil, ofDigits_toDigits]
  exact congrArg (fun e => Except.ok (JsonNumber.decimal negative n e, rest)) (Int.sub_zero e)

/-! ## words and numbers as values -/

/-- A word is told from other text by its first character. -/
theorem word?_of_ne {p c : Char} (h : c ≠ p) (ps s : List Char) :
    word? (p :: ps) (c :: s) = none := by
  rw [word?, if_neg h]

/-- A number without a sign begins with a digit, and no word does. -/
theorem readAtom_digit {d : Char} (hd : d.isDigit = true) (s : List Char) :
    readAtom limit (d :: s) =
      (readNumber limit false (d :: s) (d :: s)).map fun (n, rest) => (.number n, rest) := by
  have hword : ∀ (p : Char) (ps : List Char), p.isDigit = false → word? (p :: ps) (d :: s) = none :=
    fun p ps hp => word?_of_ne (ne_of_isDigit hd hp) ps s
  have hminus : d ≠ '-' := ne_of_isDigit hd (by decide)
  simp [readAtom, readWord?, hword, hminus]

/-- A number with a sign goes on with a digit, and no word does. -/
theorem readAtom_minus {d : Char} (hd : d.isDigit = true) (s : List Char) :
    readAtom limit ('-' :: d :: s) =
      (readNumber limit true ('-' :: d :: s) (d :: s)).map fun (n, rest) => (.number n, rest) := by
  have hinfinity : d ≠ 'I' := ne_of_isDigit hd (by decide)
  simp [readAtom, readWord?, word?, hinfinity]

/-- **A printed number reads back**, of any size and of every kind. -/
theorem readAtom_printNumber (n : JsonNumber) (h : EndsNumber rest) :
    readAtom none (printNumber n ++ rest) = .ok (.number n, rest) := by
  cases n with
  | integer n =>
    cases n with
    | ofNat n =>
      obtain ⟨d, ds, hdigits, hd⟩ := first_toDigits n
      have hread := fun start => readNumber_toDigits false n start h
      rw [printNumber, toList_toString_ofNat]
      rw [hdigits] at hread ⊢
      rw [List.cons_append] at hread ⊢
      rw [readAtom_digit hd, hread]
      rfl
    | negSucc n =>
      obtain ⟨d, ds, hdigits, hd⟩ := first_toDigits (n + 1)
      have hread := fun start => readNumber_toDigits true (n + 1) start h
      rw [printNumber, toList_toString_negSucc]
      rw [hdigits] at hread ⊢
      simp only [List.cons_append] at hread ⊢
      rw [readAtom_minus hd, hread]
      rfl
  | decimal negative k e =>
    obtain ⟨d, ds, hdigits, hd⟩ := first_toDigits k
    have hread := fun start => readNumber_decimal none negative k e start h
    rw [printNumber, Nat.toString_eq_repr, Nat.toList_repr]
    simp only [List.append_assoc, List.cons_append]
    rw [hdigits] at hread ⊢
    simp only [List.cons_append] at hread ⊢
    cases negative with
    | false => exact (readAtom_digit hd _).trans (by rw [hread]; rfl)
    | true => exact (readAtom_minus hd _).trans (by rw [hread]; rfl)
  | infinity negative => cases negative <;> rfl
  | undefined => rfl

/-! ## ASCII -/

theorem isAscii_toDigits (n : Nat) : IsAscii (Nat.toDigits 10 n) := fun c hc => by
  have hdigit := isDigit_of_mem_toDigits hc
  rw [Char.isDigit, Bool.and_eq_true, decide_eq_true_eq, decide_eq_true_eq] at hdigit
  have hle : c.toNat ≤ 57 := hdigit.2
  omega

theorem isAscii_toString (n : Int) : IsAscii (toString n).toList := by
  cases n with
  | ofNat n => exact toList_toString_ofNat n ▸ isAscii_toDigits n
  | negSucc n =>
    rw [toList_toString_negSucc]
    exact isAscii_cons.mpr ⟨by decide, isAscii_toDigits (n + 1)⟩

/-- A printed number is ASCII. -/
theorem isAscii_printNumber (n : JsonNumber) : IsAscii (printNumber n) := by
  cases n with
  | integer n => exact isAscii_toString n
  | decimal negative k e =>
    refine isAscii_append.mpr ⟨isAscii_append.mpr ⟨?_, ?_⟩, isAscii_cons.mpr ⟨by decide, ?_⟩⟩
    · cases negative <;> decide
    · rw [Nat.toString_eq_repr, Nat.toList_repr]
      exact isAscii_toDigits k
    · exact isAscii_toString e
  | infinity negative => cases negative <;> decide
  | undefined => decide

end RoutePaths.Json
