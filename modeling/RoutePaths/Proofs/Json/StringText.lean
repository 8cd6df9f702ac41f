import RoutePaths.Json.Printer
import RoutePaths.Json.Reader

/-!
# RoutePaths.Proofs.Json.StringText

Strings in JSON texts.  A character is written as itself, as an escape, or as the
escapes of its UTF-16 units; reading gives these units back one character at a time
(`readCodes_escapeChar`), and joining pairs of them the characters
(`joinPairs_flatMap_units`), because no character is half of a pair.  So a printed
string reads back whatever it holds (`readString_printString`), and it is ASCII.
-/

namespace RoutePaths

/-! ## pairs -/

namespace Text

/-- The UTF-16 units of a character. -/
def units (c : Char) : List Nat :=
  if c.toNat < 0x10000 then [c.toNat]
  else [0xD800 + (c.toNat - 0x10000) / 0x400, 0xDC00 + (c.toNat - 0x10000) % 0x400]

/-- The first halves of surrogate pairs. -/
theorem isHighHalf_iff {n : Nat} : isHighHalf n = true ↔ 0xD800 ≤ n ∧ n < 0xDC00 := by
  simp [isHighHalf]

/-- The second halves of surrogate pairs. -/
theorem isLowHalf_iff {n : Nat} : isLowHalf n = true ↔ 0xDC00 ≤ n ∧ n < 0xE000 := by
  simp [isLowHalf]

/-- The code points of characters leave out those of halves. -/
theorem toNat_valid (c : Char) : c.toNat < 0xD800 ∨ 0xDFFF < c.toNat ∧ c.toNat < 0x110000 :=
  c.valid

/-- No character is half of a pair. -/
theorem isHalf_toNat (c : Char) : isHalf c.toNat = false := by
  have hvalid := toNat_valid c
  rw [isHalf, Bool.or_eq_false_iff, ← Bool.not_eq_true, ← Bool.not_eq_true, isHighHalf_iff,
    isLowHalf_iff]
  omega

namespace CodePoints

/-- What is no first half is left as it is. -/
theorem joinPairs_cons {n : Nat} (h : isHighHalf n = false) (s : CodePoints) :
    joinPairs (n :: s) = n :: joinPairs s := by
  cases s with
  | nil => rfl
  | cons low s => rw [joinPairs, h]; rfl

/-- Two halves are made one character. -/
theorem joinPairs_pair {high low : Nat} (hhigh : isHighHalf high = true)
    (hlow : isLowHalf low = true) (s : CodePoints) :
    joinPairs (high :: low :: s) = ofPair high low :: joinPairs s := by
  rw [joinPairs, hhigh, hlow]
  rfl

/-- **Pairs are joined to the characters** that they stand for. -/
theorem joinPairs_flatMap_units (s : List Char) : joinPairs (s.flatMap units) = ofChars s := by
  induction s with
  | nil => rfl
  | cons c s ih =>
    have hhalf := isHalf_toNat c
    rw [List.flatMap_cons, units]
    split
    · rw [isHalf, Bool.or_eq_false_iff] at hhalf
      rw [List.singleton_append, joinPairs_cons hhalf.1, ih]
      rfl
    · have hvalid := toNat_valid c
      have hhigh : isHighHalf (0xD800 + (c.toNat - 0x10000) / 0x400) = true := by
        rw [isHighHalf_iff]
        omega
      have hlow : isLowHalf (0xDC00 + (c.toNat - 0x10000) % 0x400) = true := by
        rw [isLowHalf_iff]
        omega
      have hpair : ofPair (0xD800 + (c.toNat - 0x10000) / 0x400)
          (0xDC00 + (c.toNat - 0x10000) % 0x400) = c.toNat := by
        unfold ofPair
        omega
      rw [List.cons_append, List.singleton_append, joinPairs_pair hhigh hlow, ih, hpair]
      rfl

/-- The characters of a text are given back. -/
theorem chars_ofChars (s : List Char) : (ofChars s).chars = s := by
  rw [chars, ofChars, List.map_map]
  refine List.map_id'' (fun c => ?_) s
  simp [isHalf_toNat]

end CodePoints

end Text

namespace Json

open Text (units hex)

variable {s rest : List Char}

/-! ## escapes -/

/-- The value of a digit is the one it was made for. -/
theorem hexValue?_hexDigit : ∀ d < 16, hexValue? (Text.hexDigit d) = some d := by decide

theorem hex_four (n : Nat) :
    hex 4 n = [Text.hexDigit (n / 16 / 16 / 16 % 16), Text.hexDigit (n / 16 / 16 % 16),
      Text.hexDigit (n / 16 % 16), Text.hexDigit (n % 16)] := rfl

/-- Four hexadecimal digits give a unit back. -/
theorem unit?_hex {n : Nat} (h : n < 0x10000) :
    unit? (Text.hexDigit (n / 16 / 16 / 16 % 16)) (Text.hexDigit (n / 16 / 16 % 16))
      (Text.hexDigit (n / 16 % 16)) (Text.hexDigit (n % 16)) = some n := by
  have hvalue : ∀ k, hexValue? (Text.hexDigit (k % 16)) = some (k % 16) := fun k =>
    hexValue?_hexDigit _ (Nat.mod_lt k (by decide))
  simp only [unit?, hvalue]
  change some _ = some n
  congr 1
  omega

/-- A quote ends a string. -/
theorem readCodes_quote (start s : List Char) : readCodes start ('"' :: s) = .ok ([], s) := by
  rw [readCodes]

/-- The escape of a unit reads as the unit, if the text goes on behind it. -/
theorem readCodes_unitEscape {n : Nat} (h : n < 0x10000) (hs : s ≠ []) (start : List Char) :
    readCodes start (unitEscape n ++ s) =
      (readCodes start s).map fun (r, rest) => (n :: r, rest) := by
  rw [unitEscape, hex_four]
  simp only [List.cons_append, List.nil_append, readCodes, unit?_hex h, if_neg hs]

/-- A letter behind a backslash reads as the character that it names. -/
theorem readCodes_escape {e : Char} {c : Char} (he : escaped? e = some c) (start s : List Char) :
    readCodes start ('\\' :: e :: s) =
      (readCodes start s).map fun (r, rest) => (c.toNat :: r, rest) := by
  have hu : e ≠ 'u' := by
    rintro rfl
    simp [escaped?] at he
  rw [readCodes]
  · rw [he]
  · rintro _ _ _ _ _ rfl
    contradiction

/-- Other characters read as themselves. -/
theorem readCodes_plain {c : Char} (hquote : c ≠ '"') (hslash : c ≠ '\\')
    (hcontrol : 0x20 ≤ c.toNat) (start s : List Char) :
    readCodes start (c :: s) = (readCodes start s).map fun (r, rest) => (c.toNat :: r, rest) := by
  rw [readCodes]
  · rw [if_neg (Nat.not_lt.mpr hcontrol)]
  · exact hquote
  · rintro rfl
    contradiction
  · rintro _ _ _ _ _ rfl
    contradiction
  · rintro _ _ rfl
    contradiction

/-- **The escape of a character** reads as its units. -/
theorem readCodes_escapeChar (c : Char) (hs : s ≠ []) (start : List Char) :
    readCodes start (escapeChar c ++ s) =
      (readCodes start s).map fun (r, rest) => (units c ++ r, rest) := by
  have hletter : ∀ n : Nat, c.toNat = n → c = Char.ofNat n := fun n hn => by
    rw [← hn, Char.ofNat_toNat]
  rw [escapeChar]
  split
  · next hc => subst hc; exact readCodes_escape rfl start s
  split
  · next hc => subst hc; exact readCodes_escape rfl start s
  split
  · next hc => subst hc; exact readCodes_escape rfl start s
  split
  · next hc => subst hc; exact readCodes_escape rfl start s
  split
  · next hc => subst hc; exact readCodes_escape rfl start s
  split
  · next hc => obtain rfl := hletter 8 hc; exact readCodes_escape rfl start s
  split
  · next hc => obtain rfl := hletter 12 hc; exact readCodes_escape rfl start s
  rw [units]
  split
  · next hquote hslash _ _ _ _ _ hplain =>
    rw [if_pos (by omega), List.singleton_append, readCodes_plain hquote hslash hplain.1]
    rfl
  split
  · next hsmall => exact readCodes_unitEscape hsmall hs start
  · have hvalid := Text.toNat_valid c
    have hlow : unitEscape (0xDC00 + (c.toNat - 0x10000) % 0x400) ++ s ≠ [] := by simp [hs]
    rw [List.append_assoc, readCodes_unitEscape (by omega) hlow,
      readCodes_unitEscape (by omega) hs]
    cases readCodes start s <;> rfl

/-- **A printed string reads back**, whatever it holds. -/
theorem readString_printString (s : String) (rest : List Char) :
    readString (s.toList.flatMap escapeChar ++ '"' :: rest) =
      .ok (Text.CodePoints.ofString s, rest) := by
  have hcodes : ∀ start cs : List Char, readCodes start (cs.flatMap escapeChar ++ '"' :: rest) =
      .ok (cs.flatMap units, rest) := by
    intro start cs
    induction cs with
    | nil => exact readCodes_quote start rest
    | cons c cs ih =>
      rw [List.flatMap_cons, List.append_assoc, readCodes_escapeChar c (by simp), ih,
        List.flatMap_cons]
      rfl
  rw [readString, hcodes]
  exact congrArg (fun codes => Except.ok (codes, rest))
    (Text.CodePoints.joinPairs_flatMap_units s.toList)

/-! ## ASCII -/

/-- All characters are ASCII. -/
def IsAscii (s : List Char) : Prop := ∀ c ∈ s, c.toNat < 0x80

instance (s : List Char) : Decidable (IsAscii s) :=
  List.decidableBAll (fun c : Char => c.toNat < 0x80) s

theorem isAscii_append {t : List Char} : IsAscii (s ++ t) ↔ IsAscii s ∧ IsAscii t :=
  List.forall_mem_append

theorem isAscii_cons {c : Char} : IsAscii (c :: s) ↔ c.toNat < 0x80 ∧ IsAscii s :=
  List.forall_mem_cons

theorem isAscii_hex (width n : Nat) : IsAscii (hex width n) := by
  have hdigit : ∀ d < 16, IsAscii [Text.hexDigit d] := by decide
  induction width generalizing n with
  | zero => exact List.forall_mem_nil _
  | succ width ih => exact isAscii_append.mpr ⟨ih _, hdigit _ (Nat.mod_lt n (by decide))⟩

theorem isAscii_unitEscape (n : Nat) : IsAscii (unitEscape n) :=
  isAscii_cons.mpr ⟨by decide, isAscii_cons.mpr ⟨by decide, isAscii_hex 4 n⟩⟩

/-- A character that is not ASCII is escaped. -/
theorem isAscii_escapeChar (c : Char) : IsAscii (escapeChar c) := by
  rw [escapeChar]
  split
  · decide
  split
  · decide
  split
  · decide
  split
  · decide
  split
  · decide
  split
  · decide
  split
  · decide
  split
  · next hplain => exact isAscii_cons.mpr ⟨by omega, List.forall_mem_nil _⟩
  split
  · exact isAscii_unitEscape _
  · exact isAscii_append.mpr ⟨isAscii_unitEscape _, isAscii_unitEscape _⟩

/-- A printed string is ASCII, whatever is in it. -/
theorem isAscii_printString (s : String) : IsAscii (printString s) := by
  refine isAscii_append.mpr ⟨isAscii_cons.mpr ⟨by decide, fun c hc => ?_⟩, by decide⟩
  obtain ⟨written, -, hc⟩ := List.mem_flatMap.mp hc
  exact isAscii_escapeChar written c hc

end Json

end RoutePaths
