/-
  TreeLint/Proofs/Edits.lean
  ==========================
  **Editing a source by its fixes.**  A fix names its range by lines and columns.  Applying it reads the
  two positions back as offsets and puts the bytes of the replacement in place of the bytes between
  them (`Source.afterFix?`).  Several fixes are applied from the last to the first, each to the text that
  the later ones have left (`Source.afterFixes?`).

  Two facts about cutting carry everything here.  A source cut at an offset is put together again by
  its parts, also when the parts are given by a span that runs backwards (`take_append_slice`,
  `slice_append_drop`).  And a position before the place of an edit still leads to the same offset
  afterwards, so fixes whose spans follow each other do not get into each other's way
  (`afterFixes?_eq_weave`).

  The last section is about cutting at characters.  An offset is a boundary when the bytes before it are
  whole characters; then so are the bytes between two boundaries, and a boundary can be moved over ASCII
  bytes.
-/
import TreeLint.Diagnostic
import TreeLint.Proofs.Lines
import TreeLint.Proofs.Utf8

namespace TreeLint

open Text

/-! ### Applying fixes -/

/-- The source with the bytes of a span replaced. -/
def Source.edit (s : Source) (span : Span) (bytes : List UInt8) : Source :=
  ⟨s.bytes.take span.start ++ bytes ++ s.bytes.drop span.stop⟩

/-- Where a location starts. -/
def Location.position (l : Location) : Position := ⟨l.line, l.column⟩

/-- The range of a fix as a span: each end is the start of its line and the columns before it. -/
def Fix.span? (s : Source) (fix : Fix) : Option Span := do
  let range ← fix.range
  let start ← s.offset? range.start.position
  let stop ← s.offset? range.stop.position
  pure ⟨start, stop⟩

/-- The bytes that a fix puts in. -/
def Fix.bytes (fix : Fix) : List UInt8 := Utf8.encodeString fix.replacement

/-- A source after a fix. -/
def Source.afterFix? (s : Source) (fix : Fix) : Option Source :=
  (fix.span? s).map fun span => s.edit span fix.bytes

/-- A source after several fixes, of which the last is applied first. -/
def Source.afterFixes? (s : Source) : List Fix → Option Source
  | [] => some s
  | fix :: rest => (s.afterFixes? rest).bind fun text => text.afterFix? fix

/-- The bytes from an offset on, with the bytes of each span replaced by its fix and all others
copied. -/
def Source.weave (s : Source) : Nat → List (Fix × Span) → List UInt8
  | offset, [] => s.bytes.drop offset
  | offset, (fix, span) :: rest =>
    s.slice ⟨offset, span.start⟩ ++ fix.bytes ++ s.weave span.stop rest

/-- A fix whose range was made from a span of the source. -/
structure Fix.IsAt (s : Source) (fix : Fix) (span : Span) : Prop where
  range_eq : fix.range = some (Range.ofSpan s span)
  forward : span.start ≤ span.stop
  inSource : span.stop ≤ s.size

namespace Source

/-! ### Cutting -/

theorem take_append_slice (s : Source) (a b : Nat) :
    s.bytes.take a ++ s.slice ⟨a, b⟩ = s.bytes.take (max a b) := by
  have hmax : max a b = a + (b - a) := by omega
  rw [hmax, List.take_add, slice]

theorem take_eq_append_slice (s : Source) {a b : Nat} (h : a ≤ b) :
    s.bytes.take b = s.bytes.take a ++ s.slice ⟨a, b⟩ := by
  rw [take_append_slice, Nat.max_eq_right h]

theorem slice_append_drop (s : Source) (a b : Nat) :
    s.slice ⟨a, b⟩ ++ s.bytes.drop b = s.bytes.drop (min a b) := by
  by_cases h : a ≤ b
  · have hdrop : s.bytes.drop b = (s.bytes.drop a).drop (b - a) := by
      rw [List.drop_drop, Nat.add_sub_cancel' h]
    rw [slice, hdrop, List.take_append_drop, Nat.min_eq_left h]
  · have hempty : b - a = 0 := by omega
    rw [slice, hempty, List.take_zero, List.nil_append, Nat.min_eq_right (by omega)]

/-- Replacing a span by a text that keeps its two ends replaces what is between them. -/
theorem edit_keeping_ends (s : Source) (outer inner : Span) (bytes : List UInt8) :
    s.edit outer
        (s.slice ⟨outer.start, inner.start⟩ ++ bytes ++ s.slice ⟨inner.stop, outer.stop⟩) =
      s.edit ⟨max inner.start outer.start, min inner.stop outer.stop⟩ bytes := by
  simp only [edit, mk.injEq]
  calc s.bytes.take outer.start ++
        (s.slice ⟨outer.start, inner.start⟩ ++ bytes ++ s.slice ⟨inner.stop, outer.stop⟩) ++
        s.bytes.drop outer.stop
      = (s.bytes.take outer.start ++ s.slice ⟨outer.start, inner.start⟩) ++ bytes ++
        (s.slice ⟨inner.stop, outer.stop⟩ ++ s.bytes.drop outer.stop) := by
        simp only [List.append_assoc]
    _ = s.bytes.take (max inner.start outer.start) ++ bytes ++
        s.bytes.drop (min inner.stop outer.stop) := by
        rw [take_append_slice, slice_append_drop, Nat.max_comm]

/-! ### Fixes that follow each other -/

/-- The range of a fix is read as the span that it was made from, also in another source that has the
same bytes up to the end of the span. -/
theorem span?_of_agree {s t : Source} {fix : Fix} {span : Span} (h : fix.IsAt s span)
    (ht : span.stop ≤ t.size) (hagree : t.bytes.take span.stop = s.bytes.take span.stop) :
    fix.span? t = some span := by
  have hs := h.inSource
  have hread : ∀ o, o ≤ span.stop → t.offset? (Location.ofOffset s o).position = some o := by
    intro o ho
    have htake : t.bytes.take o = s.bytes.take o := by
      have := congrArg (List.take o) hagree
      rwa [List.take_take, List.take_take, Nat.min_eq_left ho] at this
    have hsame : (Location.ofOffset s o).position = t.position o :=
      (position_congr (by omega) (by omega) htake).symm
    rw [hsame, offset?_position t (by omega)]
  simp [Fix.span?, h.range_eq, Range.ofSpan, hread span.start h.forward,
    hread span.stop (Nat.le_refl _)]

theorem span?_of_isAt {s : Source} {fix : Fix} {span : Span} (h : fix.IsAt s span) :
    fix.span? s = some span :=
  span?_of_agree h h.inSource rfl

theorem size_take_append {s : Source} {o : Nat} (ho : o ≤ s.size) (rest : List UInt8) :
    o ≤ size ⟨s.bytes.take o ++ rest⟩ := by
  have hlength : (s.bytes.take o).length = o := List.length_take_of_le ho
  rw [size, List.length_append, hlength]
  omega

/-- Applying fixes whose spans follow each other gives the source with each span's bytes replaced.  The
induction carries an offset before all of them: up to it the text is still that of the source. -/
theorem afterFixes?_from (s : Source) (placed : List (Fix × Span))
    (hplaced : ∀ x ∈ placed, x.1.IsAt s x.2)
    (hordered : placed.Pairwise fun x y => x.2.stop ≤ y.2.start)
    (o : Nat) (ho : o ≤ s.size) (hfirst : ∀ x ∈ placed, o ≤ x.2.start) :
    s.afterFixes? (placed.map Prod.fst) = some ⟨s.bytes.take o ++ s.weave o placed⟩ := by
  induction placed generalizing o with
  | nil => simp only [List.map_nil, afterFixes?, weave, List.take_append_drop]
  | cons x placed ih =>
    obtain ⟨fix, span⟩ := x
    have hat : fix.IsAt s span := hplaced (fix, span) List.mem_cons_self
    obtain ⟨hfollow, hordered⟩ := List.pairwise_cons.mp hordered
    have hlater := ih (fun y hy => hplaced y (List.mem_cons_of_mem _ hy)) hordered span.stop
      hat.inSource hfollow
    have hlength : (s.bytes.take span.stop).length = span.stop :=
      List.length_take_of_le hat.inSource
    -- the later fixes leave the bytes up to the end of this one's span as they are
    have hspan := span?_of_agree hat (size_take_append hat.inSource (s.weave span.stop placed))
      (List.take_left' hlength)
    have hbefore := s.take_eq_append_slice (hfirst (fix, span) List.mem_cons_self)
    rw [List.map_cons, afterFixes?, hlater, Option.bind_some, afterFix?, hspan, Option.map_some]
    simp only [edit, List.drop_left' hlength, weave]
    rw [List.take_append_of_le_length (by rw [hlength]; exact hat.forward), List.take_take,
      Nat.min_eq_left hat.forward, hbefore]
    simp only [List.append_assoc]

theorem afterFixes?_eq_weave {s : Source} {placed : List (Fix × Span)}
    (hplaced : ∀ x ∈ placed, x.1.IsAt s x.2)
    (hordered : placed.Pairwise fun x y => x.2.stop ≤ y.2.start) :
    s.afterFixes? (placed.map Prod.fst) = some ⟨s.weave 0 placed⟩ := by
  have h := s.afterFixes?_from placed hplaced hordered 0 (Nat.zero_le _) fun x _ => Nat.zero_le _
  rwa [List.take_zero, List.nil_append] at h

/-! ### Cutting at characters -/

/-- An offset that cuts no character: the bytes before it are whole characters. -/
def IsBoundary (s : Source) (o : Nat) : Prop := Utf8.IsUtf8 (s.bytes.take o)

instance (s : Source) (o : Nat) : Decidable (s.IsBoundary o) :=
  inferInstanceAs (Decidable (Utf8.IsUtf8 (s.bytes.take o)))

/-- The bytes between two boundaries are whole characters. -/
theorem IsBoundary.isUtf8_slice {s : Source} {a b : Nat} (ha : s.IsBoundary a)
    (hb : s.IsBoundary b) : Utf8.IsUtf8 (s.slice ⟨a, b⟩) := by
  by_cases h : a ≤ b
  · rw [IsBoundary, s.take_eq_append_slice h] at hb
    exact ha.of_append_left hb
  · have hempty : b - a = 0 := by omega
    rw [slice, hempty, List.take_zero]
    exact Utf8.isUtf8_nil

theorem IsBoundary.forward {s : Source} {a b : Nat} (ha : s.IsBoundary a) (h : a ≤ b)
    (hascii : ∀ x ∈ s.slice ⟨a, b⟩, x.toNat < 0x80) : s.IsBoundary b := by
  rw [IsBoundary, s.take_eq_append_slice h]
  exact ha.append (Utf8.isUtf8_of_ascii hascii)

theorem IsBoundary.backward {s : Source} {a b : Nat} (hb : s.IsBoundary b) (h : a ≤ b)
    (hascii : ∀ x ∈ s.slice ⟨a, b⟩, x.toNat < 0x80) : s.IsBoundary a := by
  rw [IsBoundary, s.take_eq_append_slice h] at hb
  exact Utf8.IsUtf8.of_append_right hascii hb

end Source

end TreeLint
