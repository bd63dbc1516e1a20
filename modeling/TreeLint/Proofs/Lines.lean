/-
  TreeLint/Proofs/Lines.lean
  ==========================
  **Offsets and positions.**  A position is looked up in the table of line starts, and only the starts
  that are not beyond the offset matter.  These are the starts that the bytes before the offset give
  (`takeWhile_lineStarts`), so a position depends on the bytes before it and on nothing else
  (`position_congr`).

  From this one fact follow the two laws that fixes rest on: the position of an offset leads back to
  the offset (`offset?_position`), and positions are in the order of their offsets
  (`position_mono`).
-/
import TreeLint.Source

namespace TreeLint

/-- Earlier line first, and on one line the smaller column first. -/
instance : LE Position where
  le p q := p.line < q.line ∨ p.line = q.line ∧ p.column ≤ q.column

theorem Position.le_iff {p q : Position} :
    p ≤ q ↔ p.line < q.line ∨ p.line = q.line ∧ p.column ≤ q.column := Iff.rfl

instance (p q : Position) : Decidable (p ≤ q) := decidable_of_iff _ Position.le_iff.symm

/-! ### The table of line starts -/

theorem lineStartsFrom_append (i : Nat) (xs ys : List UInt8) :
    lineStartsFrom i (xs ++ ys) = lineStartsFrom i xs ++ lineStartsFrom (i + xs.length) ys := by
  induction xs generalizing i with
  | nil => rfl
  | cons b xs ih =>
    have hlength : i + 1 + xs.length = i + (b :: xs).length := by
      rw [List.length_cons]; omega
    simp only [List.cons_append, lineStartsFrom]
    split
    · rw [ih, hlength, List.cons_append]
    · rw [ih, hlength]

/-- A line starts after the line feed that ends the line before it. -/
theorem bounds_of_mem_lineStartsFrom {i x : Nat} {bytes : List UInt8}
    (hx : x ∈ lineStartsFrom i bytes) : i < x ∧ x ≤ i + bytes.length := by
  induction bytes generalizing i with
  | nil => cases hx
  | cons b bytes ih =>
    rw [List.length_cons]
    simp only [lineStartsFrom] at hx
    split at hx
    · rcases List.mem_cons.mp hx with rfl | hrest
      · omega
      · have := ih hrest
        omega
    · have := ih hx
      omega

namespace Source

/-- The starts of the lines that begin in the first `o` bytes. -/
def startsUpTo (s : Source) (o : Nat) : List Nat := 0 :: lineStartsFrom 0 (s.bytes.take o)

theorem startsUpTo_ne_nil (s : Source) (o : Nat) : s.startsUpTo o ≠ [] := List.cons_ne_nil _ _

theorem le_of_mem_startsUpTo {s : Source} {o x : Nat} (hx : x ∈ s.startsUpTo o) : x ≤ o := by
  rcases List.mem_cons.mp hx with rfl | hx
  · exact Nat.zero_le o
  · have hbounds := bounds_of_mem_lineStartsFrom hx
    rw [List.length_take] at hbounds
    omega

theorem getLast_startsUpTo_le (s : Source) (o : Nat) :
    (s.startsUpTo o).getLast (s.startsUpTo_ne_nil o) ≤ o :=
  le_of_mem_startsUpTo (List.getLast_mem _)

/-- The table of line starts, cut at an offset. -/
theorem lineStarts_eq (s : Source) {o : Nat} (ho : o ≤ s.size) :
    s.lineStarts = s.startsUpTo o ++ lineStartsFrom o (s.bytes.drop o) := by
  have hlength : 0 + (s.bytes.take o).length = o := by
    rw [Nat.zero_add, List.length_take]
    exact Nat.min_eq_left ho
  have hsplit := lineStartsFrom_append 0 (s.bytes.take o) (s.bytes.drop o)
  rw [List.take_append_drop, hlength] at hsplit
  rw [lineStarts, hsplit, startsUpTo, List.cons_append]

/-- The line starts that are not beyond an offset are those of the bytes before it. -/
theorem takeWhile_lineStarts (s : Source) {o : Nat} (ho : o ≤ s.size) :
    s.lineStarts.takeWhile (· ≤ o) = s.startsUpTo o := by
  have hbefore : ∀ x ∈ s.startsUpTo o, decide (x ≤ o) = true := fun x hx =>
    decide_eq_true (le_of_mem_startsUpTo hx)
  have hafter : (lineStartsFrom o (s.bytes.drop o)).takeWhile (· ≤ o) = [] := by
    cases hstarts : lineStartsFrom o (s.bytes.drop o) with
    | nil => rfl
    | cons x rest =>
      have hx := (bounds_of_mem_lineStartsFrom (hstarts ▸ List.mem_cons_self)).1
      rw [List.takeWhile_cons_of_neg (by simpa using hx)]
  rw [lineStarts_eq s ho, List.takeWhile_append_of_pos hbefore, hafter, List.append_nil]

/-! ### Positions -/

theorem clamp_of_le {s : Source} {o : Nat} (ho : o ≤ s.size) : s.clamp o = o := by
  rw [clamp, Int.min_eq_left (Int.ofNat_le.mpr ho), Int.toNat_natCast]

/-- A position counts the line starts before it, and the bytes since the last of them. -/
theorem position_eq (s : Source) {o : Nat} (ho : o ≤ s.size) :
    s.position o = ⟨(s.startsUpTo o).length,
      o - (s.startsUpTo o).getLast (s.startsUpTo_ne_nil o) + 1⟩ := by
  simp only [position, clamp_of_le ho, takeWhile_lineStarts s ho,
    List.getLast?_eq_some_getLast (s.startsUpTo_ne_nil o), Option.getD_some]

/-- Lines and columns count from one, also for offsets outside the file. -/
theorem one_le_position (s : Source) (offset : Int) :
    1 ≤ (s.position offset).line ∧ 1 ≤ (s.position offset).column := by
  simp [position, lineStarts]

/-- The position of an offset leads back to it. -/
theorem offset?_position (s : Source) {o : Nat} (ho : o ≤ s.size) :
    s.offset? (s.position o) = some o := by
  have hlength : 0 < (s.startsUpTo o).length := List.length_pos_iff.mpr (s.startsUpTo_ne_nil o)
  have hlast : s.lineStarts[(s.startsUpTo o).length - 1]? =
      some ((s.startsUpTo o).getLast (s.startsUpTo_ne_nil o)) := by
    rw [lineStarts_eq s ho, List.getElem?_append_left (by omega), ← List.getLast?_eq_getElem?,
      List.getLast?_eq_some_getLast (s.startsUpTo_ne_nil o)]
  have hle := s.getLast_startsUpTo_le o
  rw [position_eq s ho, offset?, hlast, Option.map_some, Nat.add_sub_cancel,
    Nat.add_sub_cancel' hle]

/-- A position depends on the bytes before it only. -/
theorem position_congr {s t : Source} {o : Nat} (hs : o ≤ s.size) (ht : o ≤ t.size)
    (h : s.bytes.take o = t.bytes.take o) : s.position o = t.position o := by
  have hstarts : s.startsUpTo o = t.startsUpTo o := by rw [startsUpTo, startsUpTo, h]
  simp only [position_eq s hs, position_eq t ht, hstarts]

theorem startsUpTo_append (s : Source) {o o' : Nat} (h : o ≤ o') :
    ∃ starts, s.startsUpTo o' = s.startsUpTo o ++ starts := by
  have htake : s.bytes.take o' = s.bytes.take o ++ (s.bytes.drop o).take (o' - o) := by
    rw [← List.take_add, Nat.add_sub_cancel' h]
  refine ⟨lineStartsFrom (0 + (s.bytes.take o).length) ((s.bytes.drop o).take (o' - o)), ?_⟩
  rw [startsUpTo, htake, lineStartsFrom_append, startsUpTo, List.cons_append]

/-- Positions are in the order of their offsets. -/
theorem position_mono (s : Source) {o o' : Nat} (h : o ≤ o') (ho' : o' ≤ s.size) :
    s.position o ≤ s.position o' := by
  obtain ⟨starts, hstarts⟩ := s.startsUpTo_append h
  rw [position_eq s (Nat.le_trans h ho'), position_eq s ho', Position.le_iff]
  cases starts with
  | nil =>
    -- no line starts in between: same line, and the columns are as far apart as the offsets
    rw [List.append_nil] at hstarts
    simp only [hstarts]
    exact Or.inr ⟨trivial, Nat.succ_le_succ (Nat.sub_le_sub_right h _)⟩
  | cons x starts =>
    left
    simp only [hstarts, List.length_append, List.length_cons]
    omega

end Source

end TreeLint
