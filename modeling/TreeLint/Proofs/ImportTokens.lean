/-
  TreeLint/Proofs/ImportTokens.lean
  =================================
  **What dropping an attribute does to the tokens around it.**  The fix of a re-exported import leaves out
  the attribute and the separators after it, so the byte before the attribute and the byte after the
  separators become neighbours.  Bytes are read as tokens: words, and every other byte by itself.

  Two texts put together have the tokens of the first and then those of the second, unless a word byte
  stands on both sides of the seam; then the two words there become one (`tokens_append_of_apart`,
  `tokens_append_of_touching`).  For the fixes this gives the whole story (`lint_exported_fix_tokens`):
  the tokens on both sides are kept exactly when the attribute does not stand directly after a word that
  would run into the next one.  It can stand so, and then the fix changes the import
  (`exported_fix_joins_words`).
-/
import Mathlib.Data.List.SplitBy
import TreeLint.Proofs.ImportFixes

namespace TreeLint

open Text

/-! ### Tokens -/

/-- ASCII letters and digits, the underscore, and every byte beyond ASCII. -/
def isWordByte (b : UInt8) : Bool :=
  (0x61 ≤ b && b ≤ 0x7A) || (0x41 ≤ b && b ≤ 0x5A) || (0x30 ≤ b && b ≤ 0x39) || b == 0x5F || 0x80 ≤ b

/-- Two bytes that belong to one word when they are neighbours. -/
def sameWord (x y : UInt8) : Bool := isWordByte x && isWordByte y

/-- Words as long as they go, and every other byte by itself. -/
def tokens (bytes : List UInt8) : List (List UInt8) := bytes.splitBy sameWord

/-- The first text ends with a word and the second begins with one. -/
def Touching (xs ys : List UInt8) : Prop :=
  ∃ x ∈ xs.getLast?, ∃ y ∈ ys.head?, sameWord x y = true

/-- The tokens of a text made of two: those of the first and then those of the second, but the last of
the first and the first of the second are one. -/
def JoinedTokens (xs ys : List UInt8) (bytes : List UInt8) : Prop :=
  ∃ front u v back, tokens xs = front ++ [u] ∧ tokens ys = v :: back ∧
    tokens bytes = front ++ (u ++ v) :: back

theorem tokens_append_of_apart {xs ys : List UInt8} (h : ¬ Touching xs ys) :
    tokens (xs ++ ys) = tokens xs ++ tokens ys := by
  apply List.splitBy_append
  intro x hx y hy
  rw [Bool.eq_false_iff]
  intro hsame
  exact h ⟨x, hx, y, hy, hsame⟩

/-- Where the seam of two lists does not divide, the groups on both sides of it are one.  The library's
`List.splitBy_append` is about seams that divide. -/
theorem splitBy_append_joined {r : UInt8 → UInt8 → Bool} {xs ys u v : List UInt8}
    {front back : List (List UInt8)} (hxs : xs.splitBy r = front ++ [u])
    (hys : ys.splitBy r = v :: back) (hseam : ∀ x ∈ u.getLast?, ∀ y ∈ v.head?, r x y = true) :
    (xs ++ ys).splitBy r = front ++ (u ++ v) :: back := by
  obtain ⟨hxsFlat, hxsNil, hxsGroups, hxsSeams⟩ := List.splitBy_eq_iff.mp hxs
  obtain ⟨hysFlat, hysNil, hysGroups, hysSeams⟩ := List.splitBy_eq_iff.mp hys
  have hu : u ≠ [] := fun hnil => hxsNil (by simp [hnil])
  have hv : v ≠ [] := fun hnil => hysNil (by simp [hnil])
  refine List.splitBy_eq_iff.mpr ⟨?_, ?_, ?_, ?_⟩
  · rw [hxsFlat, hysFlat]
    simp
  · simp only [List.mem_append, List.mem_cons, not_or] at hxsNil hysNil ⊢
    refine ⟨hxsNil.1, ?_, hysNil.2⟩
    simpa using fun hnil => absurd hnil hu
  · intro group hgroup
    rcases List.mem_append.mp hgroup with hgroup | hgroup
    · exact hxsGroups group (List.mem_append_left _ hgroup)
    · rcases List.mem_cons.mp hgroup with rfl | hgroup
      · exact List.isChain_append.mpr ⟨hxsGroups u (by simp), hysGroups v (by simp), hseam⟩
      · exact hysGroups group (List.mem_cons_of_mem v hgroup)
  · obtain ⟨hfront, -, hbefore⟩ := List.isChain_append.mp hxsSeams
    obtain ⟨hafter, hback⟩ := List.isChain_cons.mp hysSeams
    refine List.isChain_append.mpr ⟨hfront, List.isChain_cons.mpr ⟨?_, hback⟩, ?_⟩
    · intro next hnext
      obtain ⟨_, hne, hapart⟩ := hafter next hnext
      exact ⟨by simp [hu], hne, by rwa [List.getLast_append_of_ne_nil]⟩
    · intro previous hprevious joined hjoined
      obtain ⟨hne, _, hapart⟩ := hbefore previous hprevious u (by simp)
      obtain rfl : u ++ v = joined := by simpa using hjoined
      exact ⟨hne, by simp [hu], by rwa [List.head_append_of_ne_nil]⟩

theorem tokens_ne_nil {bytes : List UInt8} (h : bytes ≠ []) : tokens bytes ≠ [] :=
  List.splitBy_ne_nil.mpr h

theorem tokens_append_of_touching {xs ys : List UInt8} (h : Touching xs ys) :
    JoinedTokens xs ys (xs ++ ys) := by
  obtain ⟨x, hx, y, hy, hsame⟩ := h
  have hxs : tokens xs ≠ [] := tokens_ne_nil (List.ne_nil_of_mem (List.mem_of_getLast? hx))
  have hys : tokens ys ≠ [] := tokens_ne_nil (List.ne_nil_of_mem (List.mem_of_head? hy))
  obtain ⟨front, u, hfront⟩ := (List.eq_nil_or_concat (tokens xs)).resolve_left hxs
  obtain ⟨v, back, hback⟩ := List.exists_cons_of_ne_nil hys
  rw [List.concat_eq_append] at hfront
  have hlast : u.getLast? = xs.getLast? := by
    have hu : u ≠ [] := List.ne_nil_of_mem_splitBy (hfront ▸ List.mem_append_right _ (by simp))
    rw [← List.flatten_splitBy sameWord xs, show xs.splitBy sameWord = _ from hfront,
      List.flatten_append, List.flatten_singleton, List.getLast?_append_of_ne_nil _ hu]
  have hhead : v.head? = ys.head? := by
    have hv : v ≠ [] := List.ne_nil_of_mem_splitBy (hback ▸ List.mem_cons_self)
    rw [← List.flatten_splitBy sameWord ys, show ys.splitBy sameWord = _ from hback,
      List.flatten_cons, List.head?_append_of_ne_nil _ hv]
  refine ⟨front, u, v, back, hfront, hback, splitBy_append_joined hfront hback ?_⟩
  intro p hp q hq
  rw [hlast] at hp
  rw [hhead] at hq
  rw [Option.mem_unique hp hx, Option.mem_unique hq hy]
  exact hsame

/-! ### The seam in the source -/

namespace Source

/-- A word byte stands at an offset. -/
def isWordAt (s : Source) (o : Nat) : Bool := s.bytes[o]?.any isWordByte

theorem getLast?_slice {s : Source} {a b : Nat} (hab : a < b) (hb : b ≤ s.size) :
    (s.slice ⟨a, b⟩).getLast? = s.bytes[b - 1]? := by
  have hlength : (s.slice ⟨a, b⟩).length = b - a := length_slice hb
  rw [List.getLast?_eq_getElem?, hlength, slice, List.getElem?_take_of_lt (by simp only; omega),
    List.getElem?_drop]
  congr 1
  simp only
  omega

theorem head?_slice {s : Source} {a b : Nat} (hab : a < b) :
    (s.slice ⟨a, b⟩).head? = s.bytes[a]? := by
  rw [List.head?_eq_getElem?, slice, List.getElem?_take_of_lt (by simp only; omega),
    List.getElem?_drop, Nat.add_zero]

/-- Two parts of a source touch when a word byte ends the first and a word byte begins the second. -/
theorem touching_slices_iff {s : Source} {a b c d : Nat} (hab : a < b) (hb : b ≤ s.size)
    (hcd : c < d) :
    Touching (s.slice ⟨a, b⟩) (s.slice ⟨c, d⟩) ↔ s.isWordAt (b - 1) = true ∧ s.isWordAt c = true := by
  simp only [Touching, getLast?_slice hab hb, head?_slice hcd, isWordAt, sameWord,
    Option.any_eq_true, Option.mem_def, Bool.and_eq_true]
  constructor
  · rintro ⟨x, hx, y, hy, hxword, hyword⟩
    exact ⟨⟨x, hx, hxword⟩, ⟨y, hy, hyword⟩⟩
  · rintro ⟨⟨x, hx, hxword⟩, ⟨y, hy, hyword⟩⟩
    exact ⟨x, hx, y, hy, hxword, hyword⟩

end Source

/-! ### Dropping an attribute -/

namespace PublicImport

/-- What the fix of an import does around an attribute inside it: of the content it keeps what stands
before the attribute and what follows the separators after it.  The tokens of the two parts are kept, or
the two words that come to touch are joined. -/
def DropsAttribute (s : Source) (n : Node) (d : Diagnostic) : Prop :=
  ∀ a content, n.descendants.find? (isReexport s) = some a → s.contentSpan n = .ok content →
    content.start < a.start → skipSeparators s a.stop < content.stop →
    let before := s.slice ⟨content.start, a.start⟩
    let after := s.slice ⟨skipSeparators s a.stop, content.stop⟩
    let touching := s.isWordAt (a.start - 1) = true ∧ s.isWordAt (skipSeparators s a.stop) = true
    ∃ fix, d.fix = some fix ∧ fix.bytes = before ++ after ∧
      (¬ touching → tokens fix.bytes = tokens before ++ tokens after) ∧
      (touching → JoinedTokens before after fix.bytes)

theorem Reports.drops_attribute {severity : Severity} {c : Context} {n : Node} {d : Diagnostic}
    (hformed : c.root.WellFormed c.source) (hcomments : c.root.LeafComments)
    (haligned : c.root.Aligned c.source) (hn : n ∈ c.root.preorder)
    (hd : Reports severity c n d) : DropsAttribute c.source n d := by
  intro a content ha hcontent hbefore hafter before after touching
  have hmem := List.mem_of_find?_eq_some ha
  cases hd with
  | @reexported path content' a' hpath hcontent' ha' =>
    obtain rfl := Except.ok.inj (hcontent.symm.trans hcontent')
    obtain rfl := Option.some.inj (ha.symm.trans ha')
    obtain ⟨⟨-, hreaches⟩, ⟨-, hsize⟩, houter⟩ := content_of_marker hformed hcomments haligned hn
      hcontent hmem (marker_of_isReexport (List.find?_some ha))
    obtain ⟨hstart, hstop⟩ := haligned.boundaries_below hn hmem
    have hbytes : Utf8.encodeString (splice c.source content
        ⟨a.start, skipSeparators c.source a.stop⟩ "") = before ++ after := by
      rw [encodeString_splice "" houter ⟨hstart, isBoundary_skipSeparators hstop⟩]
      exact congrArg (· ++ after) (List.append_nil before)
    have htouching : Touching before after ↔ touching :=
      Source.touching_slices_iff hbefore (hreaches.le.trans hsize) hafter
    refine ⟨_, rfl, hbytes, ?_, ?_⟩
    · intro hapart
      rw [Fix.bytes, hbytes]
      exact tokens_append_of_apart fun h => hapart (htouching.mp h)
    · intro htouch
      rw [Fix.bytes, hbytes]
      exact tokens_append_of_touching (htouching.mpr htouch)
  | visible hpath hcontent' hnone hm =>
    -- reported for its modifier, because there is no attribute
    have hreexport := List.find?_some ha
    rw [hnone a hmem] at hreexport
    cases hreexport

/-- **Dropping an attribute keeps the tokens around it, unless they come to touch.**  For valid source
text and a well-formed tree that cuts it at characters, the fix of each import that is reported for an
attribute inside its content keeps the tokens before the attribute and those after its separators, each
as it was, when the byte before the attribute or the one after the separators is not a word byte.  When
both are, the two words there become one. -/
theorem lint_exported_fix_tokens (settings : Option Settings) (c : Context)
    (hformed : c.root.WellFormed c.source) (hcomments : c.root.LeafComments)
    (haligned : c.root.Aligned c.source) :
    ∃ found, ((definition.create settings).lint c).value = .ok found ∧
      List.Forall₂ (DropsAttribute c.source) (reported c.source c.root) found := by
  apply lint_of_reports settings hformed
  intro n hn d hd
  exact hd.drops_attribute hformed hcomments haligned hn

/-- The attribute after a modifier, once with a blank between them and once without. -/
def modifierContext : Context where
  file := "Sources/Modifier.swift"
  source := Source.ofString "public @_exported import A\npublic@_exported import B\n"
  parse := ⟨⟨"source_file", 0, 53, true,
    [⟨"import_declaration", 0, 26, true,
        [⟨"modifiers", 0, 17, true,
            [⟨"visibility_modifier", 0, 6, true, []⟩, ⟨"attribute", 7, 17, true, []⟩]⟩,
          ⟨"import", 18, 24, false, []⟩, ⟨"identifier", 25, 26, true, []⟩]⟩,
      ⟨"import_declaration", 27, 52, true,
        [⟨"modifiers", 27, 43, true,
            [⟨"visibility_modifier", 27, 33, true, []⟩, ⟨"attribute", 33, 43, true, []⟩]⟩,
          ⟨"import", 44, 50, false, []⟩, ⟨"identifier", 51, 52, true, []⟩]⟩]⟩, false⟩
  settings := {}

theorem lint_exported_fix_tokens_sample :
    modifierContext.root.WellFormed modifierContext.source ∧ modifierContext.root.LeafComments ∧
      modifierContext.root.Aligned modifierContext.source ∧
      ∃ found, ((definition.create none).lint modifierContext).value = .ok found ∧
        List.Forall₂ (DropsAttribute modifierContext.source)
          (reported modifierContext.source modifierContext.root) found :=
  ⟨by decide, by decide, by decide,
    lint_exported_fix_tokens none modifierContext (by decide) (by decide) (by decide)⟩

/-- The bytes on both sides of the dropped attribute of an import do not belong to one word. -/
def SeamApart (s : Source) (n : Node) : Prop :=
  ∀ a content, n.descendants.find? (isReexport s) = some a → s.contentSpan n = .ok content →
    content.start < a.start → skipSeparators s a.stop < content.stop →
    ¬ (s.isWordAt (a.start - 1) = true ∧ s.isWordAt (skipSeparators s a.stop) = true)

/-- The seam is not always apart: in the second import the modifier runs into the keyword. -/
theorem exported_fix_joins_words :
    (¬ ∀ c : Context, c.root.WellFormed c.source → c.root.LeafComments →
        c.root.Aligned c.source → ∀ n ∈ reported c.source c.root, SeamApart c.source n) ∧
      ((definition.create none).lint modifierContext).value.map
          (fun found => found.map fun d => d.fix.map Fix.replacement) =
        .ok [some "public import A", some "publicimport B"] := by
  refine ⟨fun h => ?_, by decide +kernel⟩
  have hreported : reported modifierContext.source modifierContext.root =
      modifierContext.root.children := rfl
  have hapart := h modifierContext (by decide) (by decide) (by decide)
  rw [hreported] at hapart
  have hsecond := hapart _ (List.mem_cons_of_mem _ List.mem_cons_self)
  exact hsecond ⟨"attribute", 33, 43, true, []⟩ ⟨27, 52⟩ rfl (by decide +kernel) (by decide) (by decide)
    (by decide)

end PublicImport

end TreeLint
