import RoutePaths.Text.Utf8

/-!
# RoutePaths.Proofs.Text.Utf8

What the bytes of a file say, told without a decoder:

* `Spells` — bytes spell characters one behind the other, each by its encoding; where no
  character stands, the longest run of bytes that could have begun one, or else a single byte,
  stands for the replacement character;
* `Unifies` — a text with a line feed for every line end;
* `ReadsAs` — both together: what a text file is read as.

The decoder gives exactly this (`spells_iff`, `unifies_iff`), so every file is read as one text,
and one that was encoded is read as it was (`decodeLossy_encode`, `readsAs_encode`).
-/

namespace RoutePaths.Text

variable {a b c d : UInt8} {y z w : Nat} {char : Char} {s t run rest bytes : List UInt8}

/-! ## the leaves of the decoder -/

/-- A continuation byte carries six bits over `0x80`. -/
theorem continuation?_eq_some_iff :
    continuation? b = some z ↔ (0x80 ≤ b.toNat ∧ b.toNat ≤ 0xBF) ∧ b.toNat - 0x80 = z := by
  simp [continuation?, UInt8.le_iff_toNat_le]

/-- A second byte is like any further byte, but for four first bytes that narrow its range. -/
theorem second?_eq_some_iff :
    second? a b = some y ↔
      ((0x80 ≤ b.toNat ∧ b.toNat ≤ 0xBF) ∧ (a.toNat = 0xE0 → 0xA0 ≤ b.toNat) ∧
        (a.toNat = 0xED → b.toNat ≤ 0x9F) ∧ (a.toNat = 0xF0 → 0x90 ≤ b.toNat) ∧
        (a.toNat = 0xF4 → b.toNat ≤ 0x8F)) ∧ b.toNat - 0x80 = y := by
  simp only [second?, secondRange, ← UInt8.toNat_inj]
  repeat' split
  all_goals simp_all [UInt8.le_iff_toNat_le]
  all_goals omega

/-- A byte below `0x80` is a character by itself. -/
theorem byteCount_eq_one_iff : byteCount a = 1 ↔ a.toNat < 0x80 := by
  simp only [byteCount, UInt8.le_iff_toNat_le, UInt8.lt_iff_toNat_lt]
  grind

/-- The bytes that open two; `0xC0` and `0xC1` would spell what one byte spells. -/
theorem byteCount_eq_two_iff : byteCount a = 2 ↔ 0xC2 ≤ a.toNat ∧ a.toNat ≤ 0xDF := by
  simp only [byteCount, UInt8.le_iff_toNat_le, UInt8.lt_iff_toNat_lt]
  grind

/-- The bytes that open three. -/
theorem byteCount_eq_three_iff : byteCount a = 3 ↔ 0xE0 ≤ a.toNat ∧ a.toNat ≤ 0xEF := by
  simp only [byteCount, UInt8.le_iff_toNat_le, UInt8.lt_iff_toNat_lt]
  grind

/-- The bytes that open four; those above `0xF4` are beyond the last character. -/
theorem byteCount_eq_four_iff : byteCount a = 4 ↔ 0xF0 ≤ a.toNat ∧ a.toNat ≤ 0xF4 := by
  simp only [byteCount, UInt8.le_iff_toNat_le, UInt8.lt_iff_toNat_lt]
  grind

theorem byteCount_le_four (a : UInt8) : byteCount a ≤ 4 := by
  rw [byteCount]
  repeat' split
  all_goals omega

/-! ## the bytes of a character -/

theorem eq_ofNat_iff {n : Nat} (h : n.isValidChar) :
    char = Char.ofNat n ↔ char.val.toNat = n := by
  constructor
  · rintro rfl
    rw [Char.ofNat, dif_pos h]
    rfl
  · rintro rfl
    exact (Char.ofNat_toNat char).symm

theorem ofNat_eq_iff {n : Nat} : UInt8.ofNat n = a ↔ n % 256 = a.toNat := by
  rw [← UInt8.toNat_inj, UInt8.toNat_ofNat']

/-- The characters of one byte. -/
theorem utf8EncodeChar_eq_single_iff :
    String.utf8EncodeChar char = [a] ↔ byteCount a = 1 ∧ char = Char.ofNat a.toNat := by
  simp only [byteCount_eq_one_iff, String.utf8EncodeChar]
  constructor
  · intro h
    repeat' split at h
    all_goals simp only [List.cons.injEq, ofNat_eq_iff, reduceCtorEq, and_false, and_true] at h
    exact ⟨by omega, (eq_ofNat_iff (.inl (by omega))).mpr (by omega)⟩
  · rintro ⟨hcount, hchar⟩
    rw [eq_ofNat_iff (.inl (by omega))] at hchar
    rw [hchar, if_pos (by omega), UInt8.ofNat_toNat]

/-- The characters of two bytes. -/
theorem utf8EncodeChar_eq_pair_iff :
    String.utf8EncodeChar char = [a, b] ↔
      byteCount a = 2 ∧ ∃ y, second? a b = some y ∧
        char = Char.ofNat ((a.toNat - 0xC0) * 64 + y) := by
  simp only [byteCount_eq_two_iff, second?_eq_some_iff, String.utf8EncodeChar]
  constructor
  · intro h
    repeat' split at h
    all_goals simp only [List.cons.injEq, ofNat_eq_iff, reduceCtorEq, and_false, and_true] at h
    exact ⟨by omega, b.toNat - 0x80, ⟨by omega, rfl⟩,
      (eq_ofNat_iff (.inl (by omega))).mpr (by omega)⟩
  · rintro ⟨hcount, y, ⟨hy, rfl⟩, hchar⟩
    rw [eq_ofNat_iff (.inl (by omega))] at hchar
    rw [hchar, if_neg (by omega), if_pos (by omega)]
    simp only [List.cons.injEq, ofNat_eq_iff]
    refine ⟨?_, ?_, trivial⟩ <;> omega

/-- The characters of three bytes, the halves of surrogate pairs left out. -/
theorem utf8EncodeChar_eq_triple_iff :
    String.utf8EncodeChar char = [a, b, c] ↔
      byteCount a = 3 ∧ ∃ y, second? a b = some y ∧ ∃ z, continuation? c = some z ∧
        char = Char.ofNat (((a.toNat - 0xE0) * 64 + y) * 64 + z) := by
  have hvalid := char.valid
  simp only [byteCount_eq_three_iff, second?_eq_some_iff, continuation?_eq_some_iff,
    String.utf8EncodeChar]
  constructor
  · intro h
    repeat' split at h
    all_goals simp only [List.cons.injEq, ofNat_eq_iff, reduceCtorEq, and_false, and_true] at h
    rw [UInt32.isValidChar] at hvalid
    exact ⟨by omega, b.toNat - 0x80, ⟨by omega, rfl⟩, c.toNat - 0x80, ⟨by omega, rfl⟩,
      (eq_ofNat_iff (by rw [Nat.isValidChar]; omega)).mpr (by omega)⟩
  · rintro ⟨hcount, y, ⟨hy, rfl⟩, z, ⟨hz, rfl⟩, hchar⟩
    rw [eq_ofNat_iff (by rw [Nat.isValidChar]; omega)] at hchar
    rw [hchar, if_neg (by omega), if_neg (by omega), if_pos (by omega)]
    simp only [List.cons.injEq, ofNat_eq_iff]
    refine ⟨?_, ?_, ?_, trivial⟩ <;> omega

/-- The characters of four bytes. -/
theorem utf8EncodeChar_eq_quadruple_iff :
    String.utf8EncodeChar char = [a, b, c, d] ↔
      byteCount a = 4 ∧ ∃ y, second? a b = some y ∧ ∃ z, continuation? c = some z ∧
        ∃ w, continuation? d = some w ∧
          char = Char.ofNat ((((a.toNat - 0xF0) * 64 + y) * 64 + z) * 64 + w) := by
  have hvalid := char.valid
  simp only [byteCount_eq_four_iff, second?_eq_some_iff, continuation?_eq_some_iff,
    String.utf8EncodeChar]
  constructor
  · intro h
    repeat' split at h
    all_goals simp only [List.cons.injEq, ofNat_eq_iff, reduceCtorEq, and_false, and_true] at h
    rw [UInt32.isValidChar] at hvalid
    exact ⟨by omega, b.toNat - 0x80, ⟨by omega, rfl⟩, c.toNat - 0x80, ⟨by omega, rfl⟩,
      d.toNat - 0x80, ⟨by omega, rfl⟩, (eq_ofNat_iff (.inr (by omega))).mpr (by omega)⟩
  · rintro ⟨hcount, y, ⟨hy, rfl⟩, z, ⟨hz, rfl⟩, w, ⟨hw, rfl⟩, hchar⟩
    rw [eq_ofNat_iff (.inr (by omega))] at hchar
    rw [hchar, if_neg (by omega), if_neg (by omega), if_neg (by omega)]
    simp only [List.cons.injEq, ofNat_eq_iff]
    refine ⟨?_, ?_, ?_, ?_, trivial⟩ <;> omega

/-- **The first byte** of a character tells how many bytes it has. -/
theorem byteCount_of_utf8EncodeChar (h : String.utf8EncodeChar char = a :: s) :
    byteCount a = s.length + 1 := by
  have hlength := congrArg List.length h
  rw [String.length_utf8EncodeChar, List.length_cons] at hlength
  have hle := char.utf8Size_le_four
  match s with
  | [] => exact (utf8EncodeChar_eq_single_iff.mp h).1
  | [_] => exact (utf8EncodeChar_eq_pair_iff.mp h).1
  | [_, _] => exact (utf8EncodeChar_eq_triple_iff.mp h).1
  | [_, _, _] => exact (utf8EncodeChar_eq_quadruple_iff.mp h).1
  | _ :: _ :: _ :: _ :: _ =>
    simp only [List.length_cons] at hlength
    omega

/-! ## what bytes spell -/

/-- Bytes that the encoding of a character begins with. -/
def BeginsChar (s : List UInt8) : Prop := ∃ char : Char, s <+: String.utf8EncodeChar char

/-- A run of bytes in front of others where no character stands: a single byte, or the beginning
of a character, which goes no further. -/
structure Broken (run rest : List UInt8) : Prop where
  ne_nil : run ≠ []
  noChar : ∀ char : Char, ¬String.utf8EncodeChar char <+: run ++ rest
  begins : run.length = 1 ∨ BeginsChar run
  longest : ∀ b ∈ rest.head?, ¬BeginsChar (run ++ [b])

/-- The characters that bytes spell. -/
inductive Spells : List UInt8 → List Char → Prop where
  | nil : Spells [] []
  | char (char : Char) {rest : List UInt8} {cs : List Char} : Spells rest cs →
      Spells (String.utf8EncodeChar char ++ rest) (char :: cs)
  | broken (run : List UInt8) {rest : List UInt8} {cs : List Char} : Broken run rest →
      Spells rest cs → Spells (run ++ rest) (Char.ofNat 0xFFFD :: cs)

/-- **The characters of several bytes**: a first byte for as many, a second byte in its range,
and further bytes. -/
theorem exists_utf8EncodeChar_iff :
    (∃ char, String.utf8EncodeChar char = a :: b :: s) ↔
      byteCount a = s.length + 2 ∧ (second? a b).isSome ∧ ∀ c ∈ s, (continuation? c).isSome := by
  match s with
  | [] => cases h : second? a b <;> simp [utf8EncodeChar_eq_pair_iff, h]
  | [c] =>
    cases h : second? a b <;> cases h' : continuation? c <;>
      simp [utf8EncodeChar_eq_triple_iff, h, h']
  | [c, d] =>
    cases h : second? a b <;> cases h' : continuation? c <;> cases h'' : continuation? d <;>
      simp [utf8EncodeChar_eq_quadruple_iff, h, h', h'']
  | c :: d :: e :: s =>
    have hle := byteCount_le_four a
    refine iff_of_false ?_ fun ⟨hcount, _⟩ => ?_
    · rintro ⟨char, h⟩
      have hcount := byteCount_of_utf8EncodeChar h
      simp only [List.length_cons] at hcount
      omega
    · simp only [List.length_cons] at hcount
      omega

/-- Bytes begin a character if nothing is wrong with them and one is missing. -/
theorem beginsChar_cons_cons_iff :
    BeginsChar (a :: b :: s) ↔
      s.length + 2 ≤ byteCount a ∧ (second? a b).isSome ∧ ∀ c ∈ s, (continuation? c).isSome := by
  constructor
  · rintro ⟨char, t, h⟩
    rw [List.cons_append, List.cons_append] at h
    obtain ⟨hcount, hsecond, hrest⟩ := exists_utf8EncodeChar_iff.mp ⟨char, h.symm⟩
    rw [List.length_append] at hcount
    exact ⟨by omega, hsecond, fun c hc => hrest c (List.mem_append_left t hc)⟩
  · rintro ⟨hcount, hsecond, hrest⟩
    -- The bytes that are missing may be the least ones.
    let missing := List.replicate (byteCount a - (s.length + 2)) (0x80 : UInt8)
    have hmissing : ∀ c ∈ s ++ missing, (continuation? c).isSome := by
      refine List.forall_mem_append.mpr ⟨hrest, fun c hc => ?_⟩
      rw [List.eq_of_mem_replicate hc]
      rfl
    obtain ⟨char, h⟩ := exists_utf8EncodeChar_iff.mpr ⟨by simp [missing]; omega, hsecond, hmissing⟩
    exact ⟨char, missing, h.symm⟩

/-- A run is broken if it is shorter than its first byte says, and the next byte does not fit. -/
theorem broken_cons (hcount : byteCount a = 0 ∨ s.length + 1 < byteCount a)
    (hbegins : s = [] ∨ BeginsChar (a :: s))
    (hnext : ∀ b ∈ rest.head?, ¬BeginsChar (a :: s ++ [b])) :
    Broken (a :: s) rest where
  ne_nil := List.cons_ne_nil a s
  noChar char hprefix := by
    obtain ⟨first, more, hchar⟩ :=
      List.exists_cons_of_ne_nil (String.utf8EncodeChar_ne_nil (c := char))
    rw [hchar, List.cons_append, List.cons_prefix_cons] at hprefix
    obtain ⟨rfl, hprefix⟩ := hprefix
    have hlength := byteCount_of_utf8EncodeChar hchar
    obtain ⟨missing, rfl⟩ : s <+: more :=
      List.prefix_of_prefix_length_le (List.prefix_append s rest) hprefix (by omega)
    rw [List.prefix_append_right_inj] at hprefix
    obtain _ | ⟨b, missing⟩ := missing
    · rw [List.append_nil] at hlength
      omega
    · obtain ⟨behind, rfl⟩ := hprefix
      exact hnext b rfl ⟨char, missing, by rw [hchar]; simp⟩
  begins := hbegins.imp_left fun h => by rw [h]; rfl
  longest := hnext

/-- A first byte that no character has, or one whose second byte does not fit, is broken. -/
theorem broken_single (hcount : byteCount a ≠ 1)
    (hnext : ∀ b ∈ rest.head?, 2 ≤ byteCount a → second? a b = none) : Broken [a] rest := by
  refine broken_cons ?_ (.inl rfl) fun b hb hbegins => ?_
  · rw [List.length_nil]
    omega
  · obtain ⟨hle, hsecond, -⟩ := beginsChar_cons_cons_iff.mp hbegins
    rw [hnext b hb hle] at hsecond
    contradiction

/-- Two bytes or more are broken if no further byte follows where one is missing. -/
theorem broken_cons_cons (hcount : s.length + 2 < byteCount a) (hsecond : second? a b = some y)
    (hrest : ∀ c ∈ s, (continuation? c).isSome)
    (hnext : ∀ c ∈ rest.head?, continuation? c = none) : Broken (a :: b :: s) rest := by
  refine broken_cons (.inr hcount) (.inr ?_) fun c hc hbegins => ?_
  · exact beginsChar_cons_cons_iff.mpr ⟨by omega, by rw [hsecond]; rfl, hrest⟩
  · obtain ⟨-, -, hall⟩ := beginsChar_cons_cons_iff.mp hbegins
    have hsome := hall c (List.mem_append_right s (List.mem_singleton_self c))
    rw [hnext c hc] at hsome
    contradiction

variable {cs cs' : List Char}

/-- What stands at the start of bytes: a character, or a broken run. -/
inductive Finds : List UInt8 → Option Char → List UInt8 → Prop where
  | char (char : Char) (rest : List UInt8) :
      Finds (String.utf8EncodeChar char ++ rest) (some char) rest
  | broken (run : List UInt8) {rest : List UInt8} : Broken run rest → Finds (run ++ rest) none rest

/-- A character in front, given by its bytes. -/
theorem Finds.of_eq (h : String.utf8EncodeChar char = s) : Finds (s ++ rest) (some char) rest :=
  h ▸ .char char rest

/-- Behind what was found there is less. -/
theorem Finds.length_lt {entry : Option Char} (h : Finds bytes entry rest) :
    rest.length < bytes.length := by
  cases h with
  | char char =>
    have hpos := List.length_pos_iff.mpr (String.utf8EncodeChar_ne_nil (c := char))
    rw [List.length_append]
    omega
  | broken run hbroken =>
    have hpos := List.length_pos_iff.mpr hbroken.ne_nil
    rw [List.length_append]
    omega

/-- **One step of the decoder**: it finds what stands at the start and goes on behind it. -/
theorem exists_finds (h : bytes ≠ []) :
    ∃ entry rest, Finds bytes entry rest ∧ decode bytes = entry :: decode rest := by
  fun_cases decode bytes with
  | case1 => exact absurd rfl h
  | case2 a s hcount =>
    exact ⟨_, s, .of_eq (s := [a]) (utf8EncodeChar_eq_single_iff.mpr ⟨hcount, rfl⟩), rfl⟩
  | case3 a hcount => exact ⟨_, [], .broken [a] (broken_single (by omega) nofun), rfl⟩
  | case4 a hcount b t hsecond =>
    exact ⟨_, b :: t, .broken [a] (broken_single (by omega) (by simp [hsecond])), rfl⟩
  | case5 a hcount b t y hsecond =>
    exact ⟨_, t, .of_eq (utf8EncodeChar_eq_pair_iff.mpr ⟨hcount, y, hsecond, rfl⟩), rfl⟩
  | case6 a hcount => exact ⟨_, [], .broken [a] (broken_single (by omega) nofun), rfl⟩
  | case7 a hcount b t hsecond =>
    exact ⟨_, b :: t, .broken [a] (broken_single (by omega) (by simp [hsecond])), rfl⟩
  | case8 a hcount b y hsecond =>
    exact ⟨_, [], .broken [a, b]
      (broken_cons_cons (by simp [hcount]) hsecond nofun nofun), rfl⟩
  | case9 a hcount b y hsecond c u hthird =>
    exact ⟨_, c :: u, .broken [a, b]
      (broken_cons_cons (by simp [hcount]) hsecond nofun (by simp [hthird])), rfl⟩
  | case10 a hcount b y hsecond c u z hthird =>
    exact ⟨_, u, .of_eq (utf8EncodeChar_eq_triple_iff.mpr ⟨hcount, y, hsecond, z, hthird, rfl⟩),
      rfl⟩
  | case11 a hcount => exact ⟨_, [], .broken [a] (broken_single (by omega) nofun), rfl⟩
  | case12 a hcount b t hsecond =>
    exact ⟨_, b :: t, .broken [a] (broken_single (by omega) (by simp [hsecond])), rfl⟩
  | case13 a hcount b y hsecond =>
    exact ⟨_, [], .broken [a, b]
      (broken_cons_cons (by simp [hcount]) hsecond nofun nofun), rfl⟩
  | case14 a hcount b y hsecond c u hthird =>
    exact ⟨_, c :: u, .broken [a, b]
      (broken_cons_cons (by simp [hcount]) hsecond nofun (by simp [hthird])), rfl⟩
  | case15 a hcount b y hsecond c z hthird =>
    exact ⟨_, [], .broken [a, b, c]
      (broken_cons_cons (by simp [hcount]) hsecond (by simp [hthird]) nofun), rfl⟩
  | case16 a hcount b y hsecond c z hthird d v hfourth =>
    exact ⟨_, d :: v, .broken [a, b, c]
      (broken_cons_cons (by simp [hcount]) hsecond (by simp [hthird]) (by simp [hfourth])), rfl⟩
  | case17 a hcount b y hsecond c z hthird d v w hfourth =>
    exact ⟨_, v, .of_eq (utf8EncodeChar_eq_quadruple_iff.mpr
      ⟨hcount, y, hsecond, z, hthird, w, hfourth, rfl⟩), rfl⟩
  | case18 a s hone htwo hthree hfour =>
    have hzero : byteCount a < 2 := by
      have hle := byteCount_le_four a
      grind
    exact ⟨_, s, .broken [a]
      (broken_single hone fun b _ hcount => absurd hcount (by omega)), rfl⟩

/-- **The decoder** gives what the bytes spell. -/
theorem spells_decodeLossy (bytes : List UInt8) : Spells bytes (decodeLossy bytes) := by
  by_cases h : bytes = []
  · subst h
    exact .nil
  · obtain ⟨entry, rest, hfinds, hdecode⟩ := exists_finds h
    have hless := hfinds.length_lt
    have ih := spells_decodeLossy rest
    rw [decodeLossy, hdecode]
    cases hfinds with
    | char char => exact .char char ih
    | broken run hbroken => exact .broken run hbroken ih
termination_by bytes.length

/-- No character begins another. -/
theorem eq_of_utf8EncodeChar_append {char' : Char}
    (h : String.utf8EncodeChar char ++ s = String.utf8EncodeChar char' ++ t) :
    char = char' ∧ s = t := by
  have hdecode := ByteArray.utf8DecodeChar?_utf8EncodeChar_append (b := s.toByteArray) (c := char)
  rw [← List.toByteArray_append, h, List.toByteArray_append,
    ByteArray.utf8DecodeChar?_utf8EncodeChar_append] at hdecode
  obtain rfl := Option.some.inj hdecode
  exact ⟨rfl, List.append_cancel_left h⟩

/-- Of two runs in front of the same bytes, none is longer than the other. -/
theorem Broken.length_le {run' rest' : List UInt8} (h : Broken run rest) (h' : Broken run' rest')
    (heq : run ++ rest = run' ++ rest') : run'.length ≤ run.length := by
  rcases List.append_eq_append_iff.mp heq with ⟨more, rfl, hrest⟩ | ⟨more, rfl, -⟩
  · obtain _ | ⟨b, more⟩ := more
    · simp
    · rcases h'.begins with hone | ⟨char, hchar⟩
      · have hpos := List.length_pos_iff.mpr h.ne_nil
        simp only [List.length_append, List.length_cons] at hone
        omega
      · refine absurd ⟨char, .trans ?_ hchar⟩ (h.longest b (by rw [hrest]; rfl))
        simp
  · simp

/-- Bytes have one broken run in front at most. -/
theorem Broken.eq_of_append_eq {run' rest' : List UInt8} (h : Broken run rest)
    (h' : Broken run' rest') (heq : run ++ rest = run' ++ rest') : run = run' ∧ rest = rest' :=
  List.append_inj heq (Nat.le_antisymm (h'.length_le h heq.symm) (h.length_le h' heq))

/-- **Bytes spell one text.** -/
theorem Spells.unique (h : Spells bytes cs) (h' : Spells bytes cs') : cs = cs' := by
  induction h generalizing cs' with
  | nil =>
    generalize hbytes : ([] : List UInt8) = bytes at h'
    cases h' with
    | nil => rfl
    | char char =>
      exact absurd (List.append_eq_nil_iff.mp hbytes.symm).1 String.utf8EncodeChar_ne_nil
    | broken run hbroken => exact absurd (List.append_eq_nil_iff.mp hbytes.symm).1 hbroken.ne_nil
  | @char char rest cs _ ih =>
    generalize hbytes : String.utf8EncodeChar char ++ rest = bytes at h'
    cases h' with
    | nil => exact absurd (List.append_eq_nil_iff.mp hbytes).1 String.utf8EncodeChar_ne_nil
    | char char' hrest' =>
      obtain ⟨rfl, rfl⟩ := eq_of_utf8EncodeChar_append hbytes
      rw [ih hrest']
    | broken run hbroken => exact absurd ⟨rest, hbytes⟩ (hbroken.noChar char)
  | @broken run rest cs hbroken _ ih =>
    generalize hbytes : run ++ rest = bytes at h'
    cases h' with
    | nil => exact absurd (List.append_eq_nil_iff.mp hbytes).1 hbroken.ne_nil
    | @char char' rest' _ _ => exact absurd ⟨rest', hbytes.symm⟩ (hbroken.noChar char')
    | broken run' hbroken' hrest' =>
      obtain ⟨rfl, rfl⟩ := hbroken.eq_of_append_eq hbroken' hbytes
      rw [ih hrest']

/-- **The decoder is the grammar**: bytes spell what they are decoded to and nothing else. -/
theorem spells_iff : Spells bytes cs ↔ cs = decodeLossy bytes :=
  ⟨fun h => h.unique (spells_decodeLossy bytes), fun h => h ▸ spells_decodeLossy bytes⟩

/-! ## texts that were encoded -/

/-- The loop that lists the bytes of an array goes from a place on. -/
theorem toList_loop_eq (bytes : ByteArray) (i : Nat) (read : List UInt8) :
    ByteArray.toList.loop bytes i read = read.reverse ++ bytes.data.toList.drop i := by
  fun_induction ByteArray.toList.loop bytes i read with
  | case1 i read h ih =>
    have hi : i < bytes.data.toList.length := by simpa using h
    rw [ih, List.drop_eq_getElem_cons hi]
    simp [ByteArray.get!, h]
  | case2 i read h =>
    rw [List.drop_eq_nil_of_le (by simpa using Nat.le_of_not_lt h), List.append_nil]

/-- The bytes of a text are those of its characters. -/
theorem encode_eq_flatMap (text : String) :
    encode text = text.toList.flatMap String.utf8EncodeChar := by
  rw [encode, ByteArray.toList, toList_loop_eq, List.reverse_nil, List.nil_append, List.drop_zero,
    String.toUTF8_eq_toByteArray, ← String.utf8Encode_toList, List.utf8Encode,
    List.toList_data_toByteArray]

/-- **A text that was encoded** is spelled by its bytes. -/
theorem spells_encode (text : String) : Spells (encode text) text.toList := by
  rw [encode_eq_flatMap]
  induction text.toList with
  | nil => exact .nil
  | cons char cs ih =>
    rw [List.flatMap_cons]
    exact .char char ih

/-- Encoded text is decoded to itself. -/
theorem decodeLossy_encode (text : String) : decodeLossy (encode text) = text.toList :=
  (spells_iff.mp (spells_encode text)).symm

/-! ## line ends -/

/-- The second text is the first with a line feed for every line end: a carriage return, with the
line feed behind it if there is one. -/
inductive Unifies : List Char → List Char → Prop where
  | nil : Unifies [] []
  | char {c : Char} {s t : List Char} : c ≠ '\r' → Unifies s t → Unifies (c :: s) (c :: t)
  | pair {s t : List Char} : Unifies s t → Unifies ('\r' :: '\n' :: s) ('\n' :: t)
  | single {s t : List Char} : s.head? ≠ some '\n' → Unifies s t →
      Unifies ('\r' :: s) ('\n' :: t)

/-- The newlines of a text are made one kind in one way. -/
theorem unifies_iff {s t : List Char} : Unifies s t ↔ t = plainNewlines s := by
  constructor
  · intro h
    induction h with
    | nil => rfl
    | char hc _ ih =>
      rw [plainNewlines.eq_def]
      dsimp only
      rw [if_neg hc, ih]
    | pair _ ih => simp [plainNewlines, ih]
    | @single s t hnext _ ih =>
      rw [plainNewlines.eq_def]
      dsimp only
      rw [if_pos rfl]
      split
      · exact absurd rfl hnext
      · rw [ih]
  · rintro rfl
    fun_induction plainNewlines s with
    | case1 => exact .nil
    | case2 s ih =>
      cases ih with
      | char _ h => exact .pair h
    | case3 s hnext ih =>
      refine .single (fun hhead => ?_) ih
      obtain ⟨rest, rfl⟩ := List.head?_eq_some_iff.mp hhead
      exact hnext rest rfl
    | case4 c s hc ih => exact .char hc ih

/-- A text without carriage returns stays as it is. -/
theorem unifies_self {s : List Char} (h : '\r' ∉ s) : Unifies s s := by
  induction s with
  | nil => exact .nil
  | cons c s ih =>
    rw [List.mem_cons, not_or] at h
    exact .char (Ne.symm h.1) (ih h.2)

/-! ## files -/

/-- What the bytes of a text file are read as: the characters that they spell, with a line feed
for every line end. -/
def ReadsAs (bytes : List UInt8) (text : String) : Prop :=
  ∃ cs, Spells bytes cs ∧ Unifies cs text.toList

/-- Bytes are read as their decoded text with plain newlines and as no other. -/
theorem readsAs_iff {text : String} :
    ReadsAs bytes text ↔ text = String.ofList (plainNewlines (decodeLossy bytes)) := by
  simp [ReadsAs, spells_iff, unifies_iff, ← String.toList_inj]

/-- **A text that was encoded** is read as itself, if it has no carriage return. -/
theorem readsAs_encode {text : String} (h : '\r' ∉ text.toList) : ReadsAs (encode text) text :=
  ⟨_, spells_encode text, unifies_self h⟩

end RoutePaths.Text
