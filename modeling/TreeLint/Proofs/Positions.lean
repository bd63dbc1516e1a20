/-
  TreeLint/Proofs/Positions.lean
  ==============================
  **Positions and the lines of a file.**  The table of line starts is one way to cut a file into lines.
  Another is to cut the bytes themselves, after each line feed (`linesOf`): all lines but the last end
  with a line feed, and the last has none (`exists_cut`).

  The two ways are tied together by one statement (`position_of_cut`).  If the bytes before an offset are
  some ended lines and a last one without a line feed, then the position of the offset counts the lines,
  and in the last of them the bytes.  Every prefix of a file can be cut so, and whatever a position is
  asked for can be read off the lines.

  The main statements are `position_reads_lines`, what the position of an offset is and which positions
  there are, and `position_respects_lines`, the order of positions and their agreement with the number of
  lines.
-/
import Mathlib.Data.List.Basic
import TreeLint.Proofs.Lines

namespace TreeLint

/-- Earlier line first, and on one line the smaller column first, not the same twice. -/
instance : LT Position where
  lt p q := p.line < q.line ∨ p.line = q.line ∧ p.column < q.column

theorem Position.lt_iff {p q : Position} :
    p < q ↔ p.line < q.line ∨ p.line = q.line ∧ p.column < q.column := Iff.rfl

theorem Position.lt_of_le_of_ne {p q : Position} (hle : p ≤ q) (hne : p ≠ q) : p < q := by
  obtain ⟨line, column⟩ := p
  obtain ⟨line', column'⟩ := q
  rw [Position.le_iff] at hle
  rw [Position.lt_iff]
  simp only [ne_eq, Position.mk.injEq, not_and] at hle hne ⊢
  omega

/-! ### Lines -/

/-- The lines of some bytes.  Each line has the line feed that ends it; the last line has none, and is
empty where nothing follows the last line feed. -/
def linesOf : List UInt8 → List (List UInt8)
  | [] => [[]]
  | b :: rest =>
    if b = lineFeed then [b] :: linesOf rest else (linesOf rest).modifyHead (b :: ·)

/-- A line that a line feed ends: there it stands and nowhere else. -/
def Ended (line : List UInt8) : Prop := ∃ content, lineFeed ∉ content ∧ line = content ++ [lineFeed]

/-- Bytes as ended lines and a last line without a line feed. -/
structure CutInto (bytes : List UInt8) (ended : List (List UInt8)) (last : List UInt8) : Prop where
  allEnded : ∀ line ∈ ended, Ended line
  unended : lineFeed ∉ last
  together : bytes = ended.flatten ++ last

theorem exists_cut (bytes : List UInt8) :
    ∃ ended last, linesOf bytes = ended ++ [last] ∧ CutInto bytes ended last := by
  induction bytes with
  | nil => exact ⟨[], [], rfl, by simp, by simp, rfl⟩
  | cons b rest ih =>
    obtain ⟨ended, last, hlines, hended, hlast, hrest⟩ := ih
    by_cases hb : b = lineFeed
    · refine ⟨[b] :: ended, last, ?_, ?_, hlast, ?_⟩
      · rw [linesOf, if_pos hb, hlines, List.cons_append]
      · intro line hline
        rcases List.mem_cons.mp hline with rfl | hline
        · exact ⟨[], by simp, by rw [hb, List.nil_append]⟩
        · exact hended line hline
      · rw [List.flatten_cons, List.singleton_append, List.cons_append, ← hrest]
    · -- the byte joins the first line, and that may be the last one
      cases ended with
      | nil =>
        refine ⟨[], b :: last, ?_, by simp, ?_, ?_⟩
        · rw [linesOf, if_neg hb, hlines]
          rfl
        · simpa [Ne.symm hb] using hlast
        · rw [hrest]
          rfl
      | cons first ended =>
        refine ⟨(b :: first) :: ended, last, ?_, ?_, hlast, ?_⟩
        · rw [linesOf, if_neg hb, hlines]
          rfl
        · intro line hline
          rcases List.mem_cons.mp hline with rfl | hline
          · obtain ⟨content, hcontent, rfl⟩ := hended first List.mem_cons_self
            exact ⟨b :: content, by simpa [Ne.symm hb] using hcontent, rfl⟩
          · exact hended line (List.mem_cons_of_mem first hline)
        · rw [hrest]
          rfl

theorem linesOf_append_of_not_mem {xs : List UInt8} (h : lineFeed ∉ xs) (rest : List UInt8) :
    linesOf (xs ++ rest) = (linesOf rest).modifyHead (xs ++ ·) := by
  induction xs with
  | nil =>
    rw [List.nil_append]
    cases linesOf rest <;> rfl
  | cons b xs ih =>
    obtain ⟨hb, hxs⟩ := not_or.mp (List.mem_cons.not.mp h)
    rw [List.cons_append, linesOf, if_neg (Ne.symm hb), ih hxs, List.modifyHead_modifyHead]
    rfl

section Ended

variable {ended : List (List UInt8)} {last : List UInt8}

theorem linesOf_append_ended (hended : ∀ line ∈ ended, Ended line) (rest : List UInt8) :
    linesOf (ended.flatten ++ rest) = ended ++ linesOf rest := by
  induction ended with
  | nil => rfl
  | cons line ended ih =>
    obtain ⟨content, hcontent, rfl⟩ := hended line List.mem_cons_self
    have hrest := ih fun l hl => hended l (List.mem_cons_of_mem _ hl)
    rw [List.flatten_cons, List.append_assoc, List.append_assoc,
      linesOf_append_of_not_mem hcontent, List.singleton_append, linesOf, if_pos rfl, hrest]
    rfl

theorem count_flatten_ended (hended : ∀ line ∈ ended, Ended line) :
    ended.flatten.count lineFeed = ended.length := by
  induction ended with
  | nil => rfl
  | cons line ended ih =>
    obtain ⟨content, hcontent, rfl⟩ := hended line List.mem_cons_self
    have hrest := ih fun l hl => hended l (List.mem_cons_of_mem _ hl)
    simp [List.count_append, List.count_eq_zero.mpr hcontent, hrest]

/-- What follows the last line feed is found by going backward up to a line feed. -/
theorem takeWhile_reverse_lines (hended : ∀ line ∈ ended, Ended line) (hlast : lineFeed ∉ last) :
    (ended.flatten ++ last).reverse.takeWhile (· != lineFeed) = last.reverse := by
  have hall : ∀ b ∈ last.reverse, (b != lineFeed) = true := by
    intro b hb
    rw [bne_iff_ne]
    rintro rfl
    exact hlast (List.mem_reverse.mp hb)
  have hstop : ended.flatten.reverse.takeWhile (· != lineFeed) = [] := by
    rcases List.eq_nil_or_concat ended with rfl | ⟨before, line, rfl⟩
    · rfl
    · obtain ⟨content, -, rfl⟩ := hended line (by simp)
      simp
  rw [List.reverse_append, List.takeWhile_append_of_pos hall, hstop, List.append_nil]

/-! ### The table of line starts -/

theorem lineStartsFrom_of_not_mem (i : Nat) {bytes : List UInt8} (h : lineFeed ∉ bytes) :
    lineStartsFrom i bytes = [] := by
  induction bytes generalizing i with
  | nil => rfl
  | cons b bytes ih =>
    obtain ⟨hb, hbytes⟩ := not_or.mp (List.mem_cons.not.mp h)
    rw [lineStartsFrom, if_neg (Ne.symm hb), ih (i + 1) hbytes]

theorem lineStartsFrom_ended (i : Nat) {line : List UInt8} (h : Ended line) :
    lineStartsFrom i line = [i + line.length] := by
  obtain ⟨content, hcontent, rfl⟩ := h
  rw [lineStartsFrom_append, lineStartsFrom_of_not_mem i hcontent]
  simp [lineStartsFrom, Nat.add_assoc]

/-- Lines give one start each, and the last of these is where the last line begins. -/
theorem starts_lines (hended : ∀ line ∈ ended, Ended line) (hlast : lineFeed ∉ last) (i : Nat) :
    (i :: lineStartsFrom i (ended.flatten ++ last)).length = ended.length + 1 ∧
      (i :: lineStartsFrom i (ended.flatten ++ last)).getLast (List.cons_ne_nil _ _) =
        i + ended.flatten.length := by
  induction ended generalizing i with
  | nil => simp [lineStartsFrom_of_not_mem i hlast]
  | cons line ended ih =>
    obtain ⟨hlength, hgetLast⟩ := ih (fun l hl => hended l (List.mem_cons_of_mem _ hl))
      (i + line.length)
    simp only [List.flatten_cons, List.append_assoc, lineStartsFrom_append i line,
      lineStartsFrom_ended i (hended line List.mem_cons_self), List.singleton_append]
    refine ⟨?_, ?_⟩
    · rw [List.length_cons, hlength, List.length_cons]
    · rw [List.getLast_cons (List.cons_ne_nil _ _), hgetLast, List.length_append, Nat.add_assoc]

end Ended

namespace Source

def lines (s : Source) : List (List UInt8) := linesOf s.bytes

/-- The number of columns of a line: one for each byte, the line feed included, and on the last line one
more for the end of the file. -/
def columnsOf (s : Source) (line : Nat) : Nat :=
  match s.lines[line - 1]? with
  | none => 0
  | some bytes => bytes.length + if line = s.lines.length then 1 else 0

variable {s : Source} {ended : List (List UInt8)} {last : List UInt8}

/-! ### Positions -/

/-- The position after ended lines and the beginning of a line. -/
theorem position_of_cut {o : Nat} (ho : o ≤ s.size) (h : CutInto (s.bytes.take o) ended last) :
    s.position o = ⟨ended.length + 1, last.length + 1⟩ := by
  have hstarts : s.startsUpTo o = 0 :: lineStartsFrom 0 (ended.flatten ++ last) := by
    rw [startsUpTo, h.together]
  have hoffset : o = ended.flatten.length + last.length := by
    rw [← List.length_append, ← h.together, List.length_take]
    exact (Nat.min_eq_left ho).symm
  obtain ⟨hlength, hgetLast⟩ := starts_lines h.allEnded h.unended 0
  simp only [position_eq s ho, hstarts, hlength, hgetLast, Position.mk.injEq, true_and]
  omega

theorem position_clamp (s : Source) (offset : Int) :
    s.position offset = s.position (s.clamp offset) := by
  have hclamp : s.clamp (s.clamp offset : Int) = s.clamp offset := by
    simp only [clamp]
    omega
  simp only [position, hclamp]

theorem clamp_le (s : Source) (offset : Int) : s.clamp offset ≤ s.size := by
  simp only [clamp]
  omega

theorem line_position (s : Source) {o : Nat} (ho : o ≤ s.size) :
    (s.position o).line = 1 + (s.bytes.take o).count lineFeed := by
  obtain ⟨ended, last, -, hcut⟩ := exists_cut (s.bytes.take o)
  rw [position_of_cut ho hcut, hcut.together, List.count_append, count_flatten_ended hcut.allEnded,
    List.count_eq_zero.mpr hcut.unended]
  exact Nat.add_comm _ _

theorem column_position (s : Source) {o : Nat} (ho : o ≤ s.size) :
    (s.position o).column =
      1 + ((s.bytes.take o).reverse.takeWhile (· != lineFeed)).length := by
  obtain ⟨ended, last, -, hcut⟩ := exists_cut (s.bytes.take o)
  rw [position_of_cut ho hcut, hcut.together, takeWhile_reverse_lines hcut.allEnded hcut.unended,
    List.length_reverse]
  exact Nat.add_comm _ _

theorem position_injective {o o' : Nat} (ho : o ≤ s.size) (ho' : o' ≤ s.size)
    (h : s.position o = s.position o') : o = o' := by
  have hback := offset?_position s ho
  rw [h, offset?_position s ho'] at hback
  exact (Option.some.inj hback).symm

/-! ### Which positions there are -/

theorem length_lineStarts_of_cut (h : CutInto s.bytes ended last) :
    s.lineStarts.length = ended.length + 1 := by
  rw [lineStarts, h.together]
  exact (starts_lines h.allEnded h.unended 0).1

theorem length_lineStarts (s : Source) : s.lineStarts.length = s.lines.length := by
  obtain ⟨ended, last, hlines, hcut⟩ := exists_cut s.bytes
  rw [length_lineStarts_of_cut hcut, lines, hlines, List.length_append, List.length_singleton]

/-- A line of a file, with the lines before it and after it.  It begins with its content, which has one
byte less than the line has columns. -/
theorem exists_line (s : Source) {k : Nat} (hk : k < s.lines.length) :
    ∃ (before : List (List UInt8)) (content rest : List UInt8),
      before.length = k ∧ (∀ line ∈ before, Ended line) ∧
      lineFeed ∉ content ∧ s.columnsOf (k + 1) = content.length + 1 ∧
      s.bytes = before.flatten ++ (content ++ rest) := by
  obtain ⟨ended, last, hlines, hended, hlast, hbytes⟩ := exists_cut s.bytes
  have hlength : s.lines.length = ended.length + 1 := by
    rw [lines, hlines, List.length_append, List.length_singleton]
  by_cases hkended : k < ended.length
  · -- an ended line: its content is all but the line feed
    obtain ⟨content, hcontent, hline⟩ := hended _ (List.getElem_mem hkended)
    refine ⟨ended.take k, content, lineFeed :: ((ended.drop (k + 1)).flatten ++ last), ?_, ?_,
      hcontent, ?_, ?_⟩
    · rw [List.length_take, Nat.min_eq_left (by omega)]
    · intro line hmem
      exact hended line (List.mem_of_mem_take hmem)
    · have hget : s.lines[k + 1 - 1]? = some (content ++ [lineFeed]) := by
        rw [Nat.add_sub_cancel, lines, hlines, List.getElem?_append_left hkended,
          List.getElem?_eq_getElem hkended, hline]
      rw [columnsOf, hget]
      simp only [List.length_append, List.length_singleton]
      rw [if_neg (by omega)]
    · have hsplit : ended = ended.take k ++ (content ++ [lineFeed]) :: ended.drop (k + 1) := by
        rw [← hline, List.getElem_cons_drop, List.take_append_drop]
      calc s.bytes = ended.flatten ++ last := hbytes
        _ = (ended.take k ++ (content ++ [lineFeed]) :: ended.drop (k + 1)).flatten ++ last := by
          rw [← hsplit]
        _ = _ := by simp
  · -- the last line is all content
    obtain rfl : k = ended.length := by omega
    refine ⟨ended, last, [], rfl, hended, hlast, ?_, by rw [List.append_nil, hbytes]⟩
    have hget : s.lines[ended.length + 1 - 1]? = some last := by
      rw [Nat.add_sub_cancel, lines, hlines, List.getElem?_append_right (Nat.le_refl _),
        Nat.sub_self]
      rfl
    rw [columnsOf, hget]
    simp only [hlength, if_true]

theorem exists_offset (s : Source) {line column : Nat} (hline : 1 ≤ line)
    (hcount : line ≤ s.lineStarts.length) (hcolumn : 1 ≤ column)
    (hwidth : column ≤ s.columnsOf line) : ∃ o, o ≤ s.size ∧ s.position o = ⟨line, column⟩ := by
  obtain ⟨k, rfl⟩ : ∃ k, line = k + 1 := ⟨line - 1, by omega⟩
  obtain ⟨c, rfl⟩ : ∃ c, column = c + 1 := ⟨column - 1, by omega⟩
  rw [length_lineStarts] at hcount
  obtain ⟨before, content, rest, rfl, hbefore, hcontent, hcolumns, hbytes⟩ := s.exists_line hcount
  have hc : c ≤ content.length := by omega
  have htake : s.bytes.take (before.flatten.length + c) = before.flatten ++ content.take c := by
    rw [hbytes, List.take_append, List.take_of_length_le (by omega), Nat.add_sub_cancel_left,
      List.take_append_of_le_length hc]
  have hcut : CutInto (s.bytes.take (before.flatten.length + c)) before (content.take c) :=
    ⟨hbefore, fun h => hcontent (List.mem_of_mem_take h), htake⟩
  have ho : before.flatten.length + c ≤ s.size := by
    rw [size, hbytes, List.length_append, List.length_append]
    omega
  refine ⟨before.flatten.length + c, ho, ?_⟩
  rw [position_of_cut ho hcut, List.length_take, Nat.min_eq_left hc]

theorem position_within (s : Source) {o : Nat} (ho : o ≤ s.size) :
    (s.position o).line ≤ s.lineStarts.length ∧
      (s.position o).column ≤ s.columnsOf (s.position o).line := by
  obtain ⟨ended, last, -, hcut⟩ := exists_cut (s.bytes.take o)
  obtain ⟨ended', last', hrest, hcut'⟩ := exists_cut (s.bytes.drop o)
  -- what follows the offset goes on with the line that the offset is on
  have hlines : s.lines = ended ++ (ended' ++ [last']).modifyHead (last ++ ·) := by
    rw [lines, ← List.take_append_drop o s.bytes, hcut.together, List.append_assoc,
      linesOf_append_ended hcut.allEnded, linesOf_append_of_not_mem hcut.unended, hrest]
  rw [position_of_cut ho hcut, length_lineStarts, columnsOf]
  simp only [Nat.add_sub_cancel]
  cases ended' with
  | nil =>
    have hlines : s.lines = ended ++ [last ++ last'] := hlines
    simp [hlines]
  | cons first ended' =>
    have hlines : s.lines = ended ++ (last ++ first) :: (ended' ++ [last']) := hlines
    obtain ⟨content, -, rfl⟩ := hcut'.allEnded first List.mem_cons_self
    simp [hlines]

theorem position_iff (s : Source) (line column : Nat) :
    (∃ o, o ≤ s.size ∧ s.position o = ⟨line, column⟩) ↔
      1 ≤ line ∧ line ≤ s.lineStarts.length ∧ 1 ≤ column ∧ column ≤ s.columnsOf line := by
  constructor
  · rintro ⟨o, ho, hposition⟩
    have hwithin := s.position_within ho
    have hone := s.one_le_position o
    rw [hposition] at hwithin hone
    exact ⟨hone.1, hwithin.1, hone.2, hwithin.2⟩
  · rintro ⟨hline, hcount, hcolumn, hwidth⟩
    exact s.exists_offset hline hcount hcolumn hwidth

/-- **What the position of an offset is**, for all files and all offsets.

1. An offset counts as the nearest one inside the file.  Its line is one more than the number of line
   feeds before it, its column one more than the number of bytes since the last of them, and the start of
   the line leads back to the offset.
2. Different offsets inside the file have different positions.
3. A line and a column are the position of an offset inside the file, and of one only, exactly when the
   file has such a line and the line such a column. -/
theorem position_reads_lines (s : Source) :
    (∀ offset : Int,
      (s.clamp offset : Int) = max 0 (min offset s.size) ∧
      (s.position offset).line = 1 + (s.bytes.take (s.clamp offset)).count lineFeed ∧
      (s.position offset).column =
        1 + ((s.bytes.take (s.clamp offset)).reverse.takeWhile (· != lineFeed)).length ∧
      ∃ start, s.lineStarts[(s.position offset).line - 1]? = some start ∧
        start + (s.position offset).column - 1 = s.clamp offset) ∧
    (∀ o o' : Nat, o ≤ s.size → o' ≤ s.size → s.position o = s.position o' → o = o') ∧
    ∀ line column, (∃! o : Nat, o ≤ s.size ∧ s.position o = ⟨line, column⟩) ↔
      1 ≤ line ∧ line ≤ s.lineStarts.length ∧ 1 ≤ column ∧ column ≤ s.columnsOf line := by
  refine ⟨?_, fun o o' => position_injective, ?_⟩
  · intro offset
    have ho := s.clamp_le offset
    have hcolumn := (s.one_le_position offset).2
    rw [position_clamp s offset] at hcolumn ⊢
    refine ⟨by simp only [clamp]; omega, s.line_position ho, s.column_position ho, ?_⟩
    obtain ⟨start, hstart, hback⟩ := Option.map_eq_some_iff.mp (s.offset?_position ho)
    exact ⟨start, hstart, by omega⟩
  · intro line column
    rw [← position_iff]
    constructor
    · rintro ⟨o, ho, -⟩
      exact ⟨o, ho⟩
    · rintro ⟨o, ho, hposition⟩
      refine ⟨o, ⟨ho, hposition⟩, ?_⟩
      rintro o' ⟨ho', hposition'⟩
      exact position_injective ho' ho (hposition'.trans hposition.symm)

/-! ### The number of lines -/

/-- The last line is empty in a file without bytes and after a line feed at the end of a file. -/
theorem last_eq_nil_iff (h : CutInto s.bytes ended last) :
    last = [] ↔ s.bytes = [] ∨ s.bytes.getLast? = some lineFeed := by
  obtain ⟨hended, hlast, hbytes⟩ := h
  rcases List.eq_nil_or_concat last with rfl | ⟨init, b, rfl⟩
  · rcases List.eq_nil_or_concat ended with rfl | ⟨before, line, rfl⟩
    · simp [hbytes]
    · obtain ⟨content, -, rfl⟩ := hended line (by simp)
      simp [hbytes]
  · have hb : b ≠ lineFeed := by
      rintro rfl
      exact hlast (by simp)
    simp [hbytes, hb]

theorem lineCount_eq (h : CutInto s.bytes ended last) :
    s.lineCount = if last = [] then ended.length else ended.length + 1 := by
  simp only [last_eq_nil_iff h]
  by_cases hempty : s.bytes = []
  · have hfeeds := count_flatten_ended h.allEnded
    have hnone : ended.flatten = [] :=
      (List.append_eq_nil_iff.mp (h.together.symm.trans hempty)).1
    rw [hnone, List.count_nil] at hfeeds
    rw [lineCount, if_pos (List.isEmpty_iff.mpr hempty), if_pos (Or.inl hempty), hfeeds]
  · rw [lineCount, if_neg (List.isEmpty_iff.not.mpr hempty)]
    simp only [hempty, false_or, length_lineStarts_of_cut h, Nat.add_sub_cancel]

theorem clamp_mono (s : Source) {a b : Int} (h : a ≤ b) : s.clamp a ≤ s.clamp b := by
  simp only [clamp]
  omega

theorem position_size (h : CutInto s.bytes ended last) :
    s.position s.size = ⟨ended.length + 1, last.length + 1⟩ := by
  apply position_of_cut (Nat.le_refl _)
  rwa [size, List.take_length]

theorem line_position_size (s : Source) :
    (s.position s.size).line =
      if s.bytes ≠ [] ∧ s.bytes.getLast? ≠ some lineFeed then s.lineCount else s.lineCount + 1 := by
  obtain ⟨ended, last, -, hcut⟩ := exists_cut s.bytes
  have hnil := last_eq_nil_iff hcut
  rw [position_size hcut, lineCount_eq hcut]
  by_cases hempty : last = []
  · rw [if_pos hempty, if_neg fun h => not_or.mpr h (hnil.mp hempty)]
  · rw [if_neg hempty, if_pos (not_or.mp fun h => hempty (hnil.mpr h))]

/-- Each line that is counted begins before the end of the file. -/
theorem exists_offset_inside (s : Source) {line : Nat} (hline : 1 ≤ line)
    (hle : line ≤ s.lineCount) : ∃ o, o < s.size ∧ s.position o = ⟨line, 1⟩ := by
  obtain ⟨ended, last, -, hcut⟩ := exists_cut s.bytes
  have hcount := lineCount_eq hcut
  have hstarts : line ≤ s.lineStarts.length := by
    rw [length_lineStarts_of_cut hcut]
    split at hcount <;> omega
  have hcolumns : 1 ≤ s.columnsOf line := by
    obtain ⟨k, rfl⟩ : ∃ k, line = k + 1 := ⟨line - 1, by omega⟩
    obtain ⟨-, content, -, -, -, -, hcolumns, -⟩ := s.exists_line (length_lineStarts s ▸ hstarts)
    omega
  obtain ⟨o, ho, hposition⟩ := s.exists_offset hline hstarts (Nat.le_refl 1) hcolumns
  refine ⟨o, Nat.lt_of_le_of_ne ho ?_, hposition⟩
  -- the end of the file is the first column of a line only if that line is empty
  rintro rfl
  rw [position_size hcut, Position.mk.injEq] at hposition
  have hnil : last = [] := List.eq_nil_of_length_eq_zero (by omega)
  rw [if_pos hnil] at hcount
  omega

theorem position_strictMono (s : Source) {a b : Nat} (h : a < b) (hb : b ≤ s.size) :
    s.position a < s.position b := by
  have ha : a ≤ s.size := Nat.le_trans (Nat.le_of_lt h) hb
  apply Position.lt_of_le_of_ne (s.position_mono (Nat.le_of_lt h) hb)
  intro heq
  exact Nat.ne_of_lt h (position_injective ha hb heq)

/-- **Positions are in the order of their offsets, and agree with the number of lines**, for all files.

1. A greater offset, inside the file or not, never has an earlier position, and inside the file it has a
   later one.
2. No position is more than one line after the last.  The end of the file is on the last line, if the
   file is not empty and has no line feed at its end, and on the line after it otherwise.
3. Each line holds an offset before the end of the file. -/
theorem position_respects_lines (s : Source) :
    (∀ a b : Int, a ≤ b → s.position a ≤ s.position b) ∧
    (∀ a b : Nat, a < b → b ≤ s.size → s.position a < s.position b) ∧
    (∀ offset : Int, (s.position offset).line ≤ s.lineCount + 1) ∧
    (s.position s.size).line =
      (if s.bytes ≠ [] ∧ s.bytes.getLast? ≠ some lineFeed then s.lineCount else s.lineCount + 1) ∧
    ∀ line, 1 ≤ line → line ≤ s.lineCount → ∃ o : Nat, o < s.size ∧ (s.position o).line = line := by
  refine ⟨?_, fun a b => s.position_strictMono, ?_, s.line_position_size, ?_⟩
  · intro a b hab
    rw [position_clamp s a, position_clamp s b]
    exact s.position_mono (s.clamp_mono hab) (s.clamp_le b)
  · intro offset
    have hle := s.position_mono (s.clamp_le offset) (Nat.le_refl _)
    have hend := s.line_position_size
    rw [← position_clamp, Position.le_iff] at hle
    split at hend <;> omega
  · intro line hline hle
    obtain ⟨o, ho, hposition⟩ := s.exists_offset_inside hline hle
    exact ⟨o, ho, by rw [hposition]⟩

example :
    let s : Source := ⟨[97, 98, 10, 10, 99, 10]⟩
    s.lines = [[97, 98, 10], [10], [99, 10], []] ∧ s.lineCount = 3 ∧ s.position 3 = ⟨2, 1⟩ ∧
      s.position 6 = ⟨4, 1⟩ ∧ s.position 9 = ⟨4, 1⟩ ∧ s.position (-1) = ⟨1, 1⟩ := by
  decide +kernel

end Source

end TreeLint
