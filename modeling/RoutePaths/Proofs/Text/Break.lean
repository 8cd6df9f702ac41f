import RoutePaths.Proofs.Text.Utf8

/-!
# RoutePaths.Proofs.Text.Break

What is told of bytes that are no text (`tells_firstBreak`): the characters they
begin with, the run behind them that is none, and why it is none — no character
begins so, or the bytes end with a character that is begun, or go on with something
that does not belong to it.
-/

namespace RoutePaths.Text

variable {bytes s t rest run : List UInt8} {a b : UInt8}

/-! ## how far a character goes -/

/-- Some byte may stand second. -/
theorem secondRange_le (lead : UInt8) : (secondRange lead).1 ≤ (secondRange lead).2 := by
  fun_cases secondRange lead <;> decide

/-- A character begins with every byte that says how many there are. -/
theorem beginsChar_single_iff : BeginsChar [a] ↔ byteCount a ≠ 0 := by
  constructor
  · rintro ⟨char, t, h⟩
    rw [byteCount_of_utf8EncodeChar h.symm]
    exact Nat.succ_ne_zero _
  · intro hcount
    by_cases hone : byteCount a = 1
    · exact ⟨_, [], (utf8EncodeChar_eq_single_iff.mpr ⟨hone, rfl⟩).symm⟩
    · have hsecond : (second? a (secondRange a).1).isSome := by
        simp [second?, secondRange_le]
      obtain ⟨char, hchar⟩ : BeginsChar [a, (secondRange a).1] :=
        beginsChar_cons_cons_iff.mpr
          ⟨by rw [List.length_nil]; omega, hsecond, List.forall_mem_nil _⟩
      exact ⟨char, List.IsPrefix.trans (List.prefix_append [a] _) hchar⟩

/-- What is behind the first items that belong together: unless there are as many as asked for,
the next item does not belong there. -/
theorem exists_rest_takeWhile {α : Type} (p : α → Bool) (xs : List α) (n : Nat) :
    ∃ rest, (xs.take n).takeWhile p ++ rest = xs ∧
      (((xs.take n).takeWhile p).length < n → ∀ x ∈ rest.head?, p x = false) := by
  induction xs generalizing n with
  | nil => exact ⟨[], by simp, nofun⟩
  | cons x xs ih =>
    cases n with
    | zero => exact ⟨x :: xs, rfl, nofun⟩
    | succ n =>
      obtain ⟨rest, hsplit, hnext⟩ := ih n
      rw [List.take_succ_cons]
      cases hx : p x with
      | true =>
        rw [List.takeWhile_cons_of_pos hx]
        exact ⟨rest, congrArg (x :: ·) hsplit, fun hless => hnext (Nat.lt_of_succ_lt_succ hless)⟩
      | false =>
        rw [List.takeWhile_cons_of_neg (by simp [hx])]
        exact ⟨x :: xs, rfl, fun _ _ hmem => Option.some.inj hmem ▸ hx⟩

/-- The bytes that go on with a character are the next ones. -/
theorem exists_broken_fitting (hcount : byteCount a ≠ 0)
    (hno : ∀ char : Char, ¬String.utf8EncodeChar char <+: a :: s) :
    ∃ rest, s = fitting a s ++ rest ∧ Broken (a :: fitting a s) rest ∧
      BeginsChar (a :: fitting a s) := by
  have hone : byteCount a ≠ 1 := by
    intro hone
    refine hno (Char.ofNat a.toNat) ?_
    rw [utf8EncodeChar_eq_single_iff.mpr ⟨hone, rfl⟩]
    exact List.prefix_append [a] s
  have hbegins := beginsChar_single_iff.mpr hcount
  fun_cases fitting a s with
  | case1 => exact ⟨[], rfl, broken_single hone nofun, hbegins⟩
  | case2 b t hsecond =>
    obtain ⟨y, hy⟩ := Option.isSome_iff_exists.mp hsecond
    obtain ⟨rest, hrest, hnext⟩ :=
      exists_rest_takeWhile (fun c => (continuation? c).isSome) t (byteCount a - 2)
    have hlength := Nat.le_trans (List.takeWhile_prefix fun c => (continuation? c).isSome).length_le
      (List.length_take_le (byteCount a - 2) t)
    have hmore : ∀ c ∈ (t.take (byteCount a - 2)).takeWhile fun c => (continuation? c).isSome,
        (continuation? c).isSome := List.all_eq_true.mp List.all_takeWhile
    generalize ((t.take (byteCount a - 2)).takeWhile fun c => (continuation? c).isSome) = more at *
    -- Bytes that go on to the end of the character would be one.
    have hless : more.length + 2 < byteCount a := by
      by_cases heq : byteCount a = more.length + 2
      · obtain ⟨char, hchar⟩ := exists_utf8EncodeChar_iff.mpr ⟨heq, hsecond, hmore⟩
        refine absurd ?_ (hno char)
        rw [hchar, ← hrest]
        exact List.prefix_append (a :: b :: more) rest
      · omega
    refine ⟨rest, by rw [List.cons_append, hrest], broken_cons_cons hless hy hmore ?_,
      beginsChar_cons_cons_iff.mpr ⟨Nat.le_of_lt hless, hsecond, hmore⟩⟩
    simpa using hnext (by omega)
  | case3 b t hsecond =>
    refine ⟨b :: t, rfl, broken_single hone ?_, hbegins⟩
    simpa using fun _ => hsecond

/-! ## breaks -/

/-- What a break tells of bytes: characters in front, as many bytes as its place says, and behind
them its run, which is broken.  The run begins no character, or the bytes end with it, or something
else follows. -/
structure Break.Tells (b : Break) (bytes : List UInt8) (cs : List Char) (rest : List UInt8) :
    Prop where
  bytes_eq : bytes = cs.flatMap String.utf8EncodeChar ++ (b.run ++ rest)
  place : b.place = (cs.flatMap String.utf8EncodeChar).length
  broken : Broken b.run rest
  start : b.cause = .start ↔ ¬BeginsChar b.run
  ended : b.cause = .ended ↔ BeginsChar b.run ∧ rest = []

/-- The break behind characters. -/
theorem tells_breakAt (hbroken : Broken run rest) (cs : List Char) :
    (breakAt (cs.flatMap String.utf8EncodeChar).length (run ++ rest)).Tells
      (cs.flatMap String.utf8EncodeChar ++ (run ++ rest)) cs rest := by
  obtain ⟨a, more, rfl⟩ := List.exists_cons_of_ne_nil hbroken.ne_nil
  rw [List.cons_append, breakAt]
  by_cases hcount : byteCount a = 0
  · have hsingle : Broken [a] (more ++ rest) :=
      broken_single (by omega) fun _ _ htwo => absurd htwo (by omega)
    obtain ⟨hrun, -⟩ := hbroken.eq_of_append_eq hsingle rfl
    obtain rfl : more = [] := (List.cons.inj hrun).2
    have hbegins : ¬BeginsChar [a] := fun h => beginsChar_single_iff.mp h hcount
    rw [if_pos hcount]
    exact ⟨rfl, rfl, hbroken, iff_of_true rfl hbegins, iff_of_false nofun fun h => hbegins h.1⟩
  · obtain ⟨rest', hmore, hbroken', hbegins⟩ :=
      exists_broken_fitting (s := more ++ rest) hcount hbroken.noChar
    obtain ⟨hrun, rfl⟩ := hbroken.eq_of_append_eq hbroken'
      (by rw [List.cons_append, List.cons_append, ← hmore])
    rw [if_neg hcount, ← (List.cons.inj hrun).2]
    rw [← (List.cons.inj hrun).2] at hbegins
    split
    · next hlength =>
      have hrest : rest = [] := by simpa using hlength
      exact ⟨rfl, rfl, hbroken, iff_of_false nofun (not_not_intro hbegins),
        iff_of_true rfl ⟨hbegins, hrest⟩⟩
    · next hlength =>
      have hrest : rest ≠ [] := fun hrest => hlength (by simp [hrest])
      exact ⟨rfl, rfl, hbroken, iff_of_false nofun (not_not_intro hbegins),
        iff_of_false nofun fun h => hrest h.2⟩

/-- Bytes that are no text have a broken run behind the characters at their start. -/
theorem exists_broken_of_decode (bytes : List UInt8) (h : none ∈ decode bytes) :
    ∃ (cs : List Char) (run rest : List UInt8),
      bytes = cs.flatMap String.utf8EncodeChar ++ (run ++ rest) ∧ Broken run rest ∧
      textFront bytes = cs.flatMap String.utf8EncodeChar := by
  have hne : bytes ≠ [] := by
    rintro rfl
    contradiction
  obtain ⟨entry, rest, hfinds, hdecode⟩ := exists_finds hne
  have hless := hfinds.length_lt
  rw [textFront, hdecode]
  cases hfinds with
  | char char =>
    have hrest : none ∈ decode rest := by simpa [hdecode] using h
    obtain ⟨cs, run, behind, hbytes, hbroken, hfront⟩ := exists_broken_of_decode rest hrest
    refine ⟨char :: cs, run, behind, ?_, hbroken, ?_⟩
    · rw [List.flatMap_cons, List.append_assoc, ← hbytes]
    · rw [List.flatMap_cons, ← hfront]
      rfl
  | broken run hbroken => exact ⟨[], run, rest, rfl, hbroken, rfl⟩
termination_by bytes.length

/-- Not all entries are characters if there is no text of them. -/
theorem none_mem_of_mapM {entries : List (Option Char)} (h : entries.mapM id = none) :
    none ∈ entries := by
  induction entries with
  | nil => contradiction
  | cons entry entries ih =>
    cases entry with
    | none => exact List.mem_cons_self
    | some c =>
      rw [List.mapM_cons] at h
      refine List.mem_cons_of_mem _ (ih ?_)
      cases hrest : entries.mapM id with
      | none => rfl
      | some cs => simp [hrest] at h

/-- **The first break** of bytes that are no text. -/
theorem tells_firstBreak (h : decodeStrict bytes = none) :
    ∃ cs rest, (firstBreak bytes).Tells bytes cs rest := by
  obtain ⟨cs, run, rest, hbytes, hbroken, hfront⟩ :=
    exists_broken_of_decode bytes (none_mem_of_mapM h)
  refine ⟨cs, rest, ?_⟩
  rw [firstBreak, hfront, hbytes, List.drop_left]
  exact tells_breakAt hbroken cs

example : (firstBreak [0x61, 0xC3, 0xA9, 0xE2, 0x82]).message =
    "'utf-8' codec can't decode bytes in position 3-4: unexpected end of data" := by
  decide +kernel

end RoutePaths.Text
