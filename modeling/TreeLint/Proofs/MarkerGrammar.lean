/-
  TreeLint/Proofs/MarkerGrammar.lean
  ==================================
  **What counts as a marker of a leak, and which one is found.**  The name of an attribute is read in four
  steps: blanks are trimmed, the signs before it are dropped, the text is cut at the first parenthesis, and
  blanks are trimmed again.  The level of a visibility modifier is read in the same way without the signs.
  All steps together come to a grammar.  A text spells a word when it is the word with blanks around it and,
  after these, nothing or something that begins with a parenthesis (`spelling`); a name may also have signs
  before it, with blanks on both sides of the signs (`signed`).

  The steps accept these languages and nothing more (`beforeArguments_eq_iff`, `attributeName_eq_iff`).
  They look at decoded text, so it does not matter which bytes a node has.

  The marker that is found below an import is the first in document order, by the ways from the import to
  its markers (`finds_find?`).  The main statement is `markers_are_found`.
-/
import Mathlib.Computability.Language
import TreeLint.Proofs.Addresses
import TreeLint.Proofs.TrimmedText
import TreeLint.Rules.PublicImport

namespace TreeLint

/-! ### The first node of a class -/

/-- The first in a list whose order is known: one that nothing else of the class comes before. -/
theorem find?_eq_some_iff_of_pairwise {α : Type} {R : α → α → Prop} {p : α → Bool} {xs : List α}
    {x : α} (hxs : xs.Pairwise R) (hasymm : ∀ x y, R x y → ¬ R y x) :
    xs.find? p = some x ↔ x ∈ xs ∧ p x = true ∧ ∀ y ∈ xs, p y = true → ¬ R y x := by
  constructor
  · intro hfind
    obtain ⟨hx, before, after, rfl, hbefore⟩ := List.find?_eq_some_iff_append.mp hfind
    refine ⟨by simp, hx, ?_⟩
    intro y hy hpy
    rcases List.mem_append.mp hy with hy | hy
    · have hnot := hbefore y hy
      rw [hpy] at hnot
      cases hnot
    · have hlater := (List.pairwise_cons.mp (List.pairwise_append.mp hxs).2.1).1
      rcases List.mem_cons.mp hy with rfl | hy
      · exact fun hself => hasymm y y hself hself
      · exact hasymm x y (hlater y hy)
  · rintro ⟨hmem, hx, hfirst⟩
    obtain ⟨before, after, rfl⟩ := List.append_of_mem hmem
    refine List.find?_eq_some_iff_append.mpr ⟨hx, before, after, rfl, ?_⟩
    intro y hy
    have hR : R y x := (List.pairwise_append.mp hxs).2.2 y hy x List.mem_cons_self
    have hnot : ¬ p y = true := fun hpy => hfirst y (List.mem_append_left _ hy) hpy hR
    simpa using hnot

namespace Node

/-- The first node below another that is of a class: nothing of the class is before it in the document. -/
def IsFirstBelow (n : Node) (P : Node → Prop) (m : Node) : Prop :=
  ∃ x ∈ n.spots [], x.address ≠ [] ∧ x.node = m ∧ P m ∧
    ∀ y ∈ n.spots [], y.address ≠ [] → P y.node → ¬ y.Before x

/-- The answer to a search below a node: the first node of a class, or none if there is none. -/
structure Finds (n : Node) (P : Node → Prop) (found : Option Node) : Prop where
  some_iff : ∀ m, found = some m ↔ n.IsFirstBelow P m
  none_iff : found = none ↔ ∀ m ∈ n.descendants, ¬ P m

/-- The spots below a node. -/
def spotsBelow (n : Node) : List Spot := (⟨[], n⟩ : Spot).children.flatMap Spot.below

theorem mem_spotsBelow {n : Node} {x : Spot} :
    x ∈ n.spotsBelow ↔ x ∈ n.spots [] ∧ x.address ≠ [] := by
  have hspots : n.spots [] = ⟨[], n⟩ :: n.spotsBelow := Spot.below_eq ⟨[], n⟩
  rw [hspots, List.mem_cons]
  constructor
  · intro hx
    refine ⟨Or.inr hx, ?_⟩
    obtain ⟨c, hc, hx⟩ := List.mem_flatMap.mp hx
    have habove := Spot.address_mem_above hc hx
    intro hroot
    rw [hroot] at habove
    cases habove
  · rintro ⟨rfl | hx, haddress⟩
    · exact absurd rfl haddress
    · exact hx

theorem map_node_spotsBelow (n : Node) : n.spotsBelow.map Spot.node = n.descendants := by
  have hnodes := Spot.map_node_below ⟨[], n⟩
  rw [Spot.below_eq, List.map_cons, preorder_eq] at hnodes
  exact (List.cons.inj hnodes).2

theorem pairwise_spotsBelow (n : Node) : n.spotsBelow.Pairwise Spot.Before := by
  have hbefore := Spot.pairwise_before ⟨[], n⟩
  rw [Spot.below_eq] at hbefore
  exact (List.pairwise_cons.mp hbefore).2

theorem finds_find? {p : Node → Bool} {P : Node → Prop} (hp : ∀ m, p m = true ↔ P m) (n : Node) :
    n.Finds P (n.descendants.find? p) := by
  constructor
  · intro m
    have hsome : ∀ x, n.spotsBelow.find? (p ∘ Spot.node) = some x ↔ x ∈ n.spotsBelow ∧
        p x.node = true ∧ ∀ y ∈ n.spotsBelow, p y.node = true → ¬ y.Before x := by
      intro x
      exact find?_eq_some_iff_of_pairwise n.pairwise_spotsBelow fun _ _ => Spot.Before.asymm
    rw [← map_node_spotsBelow, List.find?_map, Option.map_eq_some_iff]
    constructor
    · rintro ⟨x, hx, rfl⟩
      obtain ⟨hmem, hpx, hfirst⟩ := (hsome x).mp hx
      obtain ⟨hspot, haddress⟩ := mem_spotsBelow.mp hmem
      refine ⟨x, hspot, haddress, rfl, (hp x.node).mp hpx, ?_⟩
      intro y hy haddress hPy
      exact hfirst y (mem_spotsBelow.mpr ⟨hy, haddress⟩) ((hp y.node).mpr hPy)
    · rintro ⟨x, hspot, haddress, rfl, hPx, hfirst⟩
      refine ⟨x, (hsome x).mpr ⟨mem_spotsBelow.mpr ⟨hspot, haddress⟩, (hp x.node).mpr hPx, ?_⟩, rfl⟩
      intro y hy hpy
      obtain ⟨hspot, haddress⟩ := mem_spotsBelow.mp hy
      exact hfirst y hspot haddress ((hp y.node).mp hpy)
  · simp only [List.find?_eq_none, hp]

end Node

namespace PublicImport

open Text

/-! ### The languages -/

def blanks : Language Char := {w | ∀ c ∈ w, isBlank c = true}

def signs : Language Char := {w | ∀ c ∈ w, c = '@'}

/-- Nothing, or something that begins with a parenthesis. -/
def arguments : Language Char := {t | t = [] ∨ t.head? = some '('}

/-- The texts that spell a word. -/
def spelling (word : List Char) : Language Char := blanks * {word} * blanks * arguments

/-- The texts that spell a word with signs before it. -/
def signed (word : List Char) : Language Char := blanks * signs * spelling word

/-- A word: something without blanks, parentheses and signs. -/
structure IsWord (word : List Char) : Prop where
  nonempty : word ≠ []
  letters : ∀ c ∈ word, isBlank c = false ∧ c ≠ '(' ∧ c ≠ '@'

theorem isWord_iff {word : List Char} :
    IsWord word ↔ word ≠ [] ∧ word.all fun c => !isBlank c && c != '(' && c != '@' := by
  simp only [List.all_eq_true, Bool.and_eq_true, Bool.not_eq_true', bne_iff_ne, and_assoc]
  exact ⟨fun h => ⟨h.nonempty, h.letters⟩, fun h => ⟨h.1, h.2⟩⟩

instance (word : List Char) : Decidable (IsWord word) := decidable_of_iff' _ isWord_iff

variable {cs w w' word : List Char}

theorem IsWord.bare (hword : IsWord word) : Bare word := by
  constructor
  · intro c hc
    exact (hword.letters c (List.mem_of_head? hc)).1
  · intro c hc
    exact (hword.letters c (List.mem_of_getLast? hc)).1

theorem mem_spelling_iff :
    cs ∈ spelling word ↔
      ∃ w w' t, cs = w ++ (word ++ (w' ++ t)) ∧ AllBlank w ∧ AllBlank w' ∧ t ∈ arguments := by
  simp only [spelling, Language.mem_mul]
  constructor
  · rintro ⟨_, ⟨_, ⟨w, hw, _, rfl, rfl⟩, w', hw', rfl⟩, t, ht, rfl⟩
    exact ⟨w, w', t, by simp only [List.append_assoc], hw, hw', ht⟩
  · rintro ⟨w, w', t, rfl, hw, hw', ht⟩
    exact ⟨_, ⟨_, ⟨w, hw, word, rfl, rfl⟩, w', hw', rfl⟩, t, ht, by simp only [List.append_assoc]⟩

theorem not_opening_of_isBlank {c : Char} (hc : isBlank c = true) : (c != '(') = true := by
  rw [bne_iff_ne]
  rintro rfl
  exact absurd hc (by decide)

theorem not_sign_of_isBlank {c : Char} (hc : isBlank c = true) : (c == '@') = false := by
  rw [beq_eq_false_iff_ne]
  rintro rfl
  exact absurd hc (by decide)

/-! ### Reading up to the arguments -/

theorem beforeArguments_eq_iff (hword : IsWord word) :
    beforeArguments cs = word ↔ cs ∈ spelling word := by
  rw [beforeArguments, trim_eq_iff hword.bare, mem_spelling_iff]
  constructor
  · rintro ⟨w, w', htake, hw, hw'⟩
    refine ⟨w, w', cs.dropWhile (· != '('), ?_, hw, hw', ?_⟩
    · have hsplit : cs.takeWhile (· != '(') ++ cs.dropWhile (· != '(') = cs :=
        List.takeWhile_append_dropWhile
      rw [htake] at hsplit
      simpa using hsplit.symm
    · have hhead := head?_dropWhile_eq_false (p := (· != '(')) cs
      cases hrest : cs.dropWhile (· != '(') with
      | nil => exact Or.inl rfl
      | cons c rest =>
        rw [hrest] at hhead
        have hc : c = '(' := by simpa using hhead c rfl
        exact Or.inr (by rw [hc]; rfl)
  · rintro ⟨w, w', t, rfl, hw, hw', ht⟩
    refine ⟨w, w', ?_, hw, hw'⟩
    have hbefore : ∀ c ∈ w ++ (word ++ w'), (c != '(') = true := by
      intro c hc
      rcases List.mem_append.mp hc with hc | hc
      · exact not_opening_of_isBlank (hw c hc)
      · rcases List.mem_append.mp hc with hc | hc
        · exact bne_iff_ne.mpr (hword.letters c hc).2.1
        · exact not_opening_of_isBlank (hw' c hc)
    have hrest : ∀ c ∈ t.head?, (c != '(') = false := by
      intro c hc
      rcases ht with rfl | ht
      · cases hc
      · obtain rfl := Option.some.inj (ht.symm.trans hc)
        rfl
    have hassoc : w ++ (word ++ (w' ++ t)) = (w ++ (word ++ w')) ++ t := by
      simp only [List.append_assoc]
    rw [hassoc]
    exact (runs_append hbefore hrest).1

/-- Blanks around a text make no difference, wherever its parentheses are. -/
theorem beforeArguments_between (hw : AllBlank w) (hw' : AllBlank w') (cs : List Char) :
    beforeArguments (w ++ (cs ++ w')) = beforeArguments cs := by
  have hlead : ∀ c ∈ w, (c != '(') = true := fun c hc => not_opening_of_isBlank (hw c hc)
  rw [beforeArguments, beforeArguments, List.takeWhile_append_of_pos hlead, List.takeWhile_append]
  split
  · next hlength =>
    have hcs : cs.takeWhile (· != '(') = cs := (List.takeWhile_prefix _).eq_of_length hlength
    have htail : w'.takeWhile (· != '(') = w' :=
      List.takeWhile_eq_self_iff.mpr fun c hc => not_opening_of_isBlank (hw' c hc)
    rw [hcs, htail]
    exact trim_between hw hw' cs
  · have hnone := trim_between hw allBlank_nil (cs.takeWhile (· != '('))
    rwa [List.append_nil] at hnone

theorem beforeArguments_trim (cs : List Char) : beforeArguments (trim cs) = beforeArguments cs := by
  obtain ⟨w, w', hcs, hw, hw'⟩ := exists_trim cs
  rw [← beforeArguments_between hw hw' (trim cs), ← hcs]

theorem visibilityLevel_eq_iff (hword : IsWord word) (s : Source) (n : Node) :
    visibilityLevel s n = word ↔ Utf8.decode (n.bytes s) ∈ spelling word := by
  rw [visibilityLevel, Node.trimmedText, beforeArguments_trim, beforeArguments_eq_iff hword]

/-! ### Reading past the signs -/

theorem head?_of_mem_spelling (hword : IsWord word) (hcs : cs ∈ spelling word) :
    ∀ c ∈ cs.head?, (c == '@') = false := by
  obtain ⟨w, w', t, rfl, hw, -, -⟩ := mem_spelling_iff.mp hcs
  intro c hc
  rw [List.head?_append, Option.mem_def, Option.or_eq_some_iff] at hc
  rcases hc with hc | ⟨-, hc⟩
  · exact not_sign_of_isBlank (hw c (List.mem_of_head? hc))
  · cases word with
    | nil => exact absurd rfl hword.nonempty
    | cons first word =>
      obtain rfl := Option.some.inj hc
      exact beq_eq_false_iff_ne.mpr (hword.letters _ List.mem_cons_self).2.2

theorem dropWhile_mem_spelling (hword : IsWord word) (hcs : cs ∈ spelling word) :
    cs.dropWhile isBlank ∈ spelling word := by
  obtain ⟨w, w', t, rfl, hw, hw', ht⟩ := mem_spelling_iff.mp hcs
  have hhead : ∀ c ∈ (word ++ (w' ++ t)).head?, isBlank c = false := by
    cases word with
    | nil => exact absurd rfl hword.nonempty
    | cons first word => exact hword.bare.begins
  rw [(runs_append hw hhead).2]
  exact mem_spelling_iff.mpr ⟨[], w', t, rfl, allBlank_nil, hw', ht⟩

/-- Trimming the end first or last makes no difference to a name. -/
theorem attributeName_eq (s : Source) (n : Node) :
    attributeName s n =
      beforeArguments (((Utf8.decode (n.bytes s)).dropWhile isBlank).dropWhile (· == '@')) := by
  obtain ⟨tail, hsplit, htail, -⟩ := exists_trimEnd ((Utf8.decode (n.bytes s)).dropWhile isBlank)
  change _ = n.trimmedText s ++ tail at hsplit
  rw [hsplit, dropWhile_append_of_neg fun c hc => not_sign_of_isBlank (htail c hc)]
  exact (beforeArguments_between allBlank_nil htail _).symm

theorem attributeName_eq_iff (hword : IsWord word) (s : Source) (n : Node) :
    attributeName s n = word ↔ Utf8.decode (n.bytes s) ∈ signed word := by
  rw [attributeName_eq, beforeArguments_eq_iff hword, signed, Language.mem_mul]
  simp only [Language.mem_mul]
  generalize Utf8.decode (n.bytes s) = cs
  constructor
  · intro hrest
    refine ⟨_, ⟨cs.takeWhile isBlank, ?_, (cs.dropWhile isBlank).takeWhile (· == '@'), ?_, rfl⟩, _, hrest, ?_⟩
    · exact fun c hc => List.mem_takeWhile_imp hc
    · intro c hc
      simpa using List.mem_takeWhile_imp hc
    · rw [List.append_assoc, List.takeWhile_append_dropWhile, List.takeWhile_append_dropWhile]
  · rintro ⟨_, ⟨w, hw, marks, hmarks, rfl⟩, rest, hrest, rfl⟩
    rw [List.append_assoc, List.dropWhile_append_of_pos hw]
    cases marks with
    | nil =>
      -- without signs, the blanks on both sides of them are one run
      have hmem := dropWhile_mem_spelling hword hrest
      have hsame := (runs_append (w := []) (by simp) (head?_of_mem_spelling hword hmem)).2
      rw [List.nil_append] at hsame
      rwa [List.nil_append, hsame]
    | cons mark marks =>
      have hmark : isBlank mark = false := by
        rw [hmarks mark List.mem_cons_self]
        decide
      have hall : ∀ c ∈ mark :: marks, (c == '@') = true := by
        intro c hc
        simpa using hmarks c hc
      have hstop : (mark :: marks ++ rest).dropWhile isBlank = mark :: marks ++ rest := by
        simp [hmark]
      rwa [hstop, (runs_append hall (head?_of_mem_spelling hword hrest)).2]

/-! ### Markers -/

/-- An attribute that spells `_exported`. -/
def Reexports (s : Source) (m : Node) : Prop :=
  m.kind = "attribute" ∧ Utf8.decode (m.bytes s) ∈ signed "_exported".toList

/-- A visibility modifier that spells `public` or `open`. -/
def Opens (s : Source) (m : Node) : Prop :=
  m.kind = "visibility_modifier" ∧
    (Utf8.decode (m.bytes s) ∈ spelling "public".toList ∨
      Utf8.decode (m.bytes s) ∈ spelling "open".toList)

theorem isWord_reexportAttribute : IsWord reexportAttribute := by decide

theorem isReexport_iff (s : Source) (m : Node) : isReexport s m = true ↔ Reexports s m := by
  rw [isReexport, Bool.and_eq_true, beq_iff_eq, beq_iff_eq,
    attributeName_eq_iff isWord_reexportAttribute]
  rfl

theorem isLeaking_iff (s : Source) (m : Node) : isLeaking s m = true ↔ Opens s m := by
  have hpublic : IsWord "public".toList := by decide
  have hopen : IsWord "open".toList := by decide
  rw [isLeaking, Bool.and_eq_true, beq_iff_eq, List.contains_iff_mem, leakingLevels, List.mem_cons,
    List.mem_singleton, visibilityLevel_eq_iff hpublic, visibilityLevel_eq_iff hopen]
  rfl

/-- **Markers are recognised by their grammar, and the first one is found.**  For all sources, of any
bytes, and all trees:

1. A node has the name `_exported` exactly when its text spells it, with signs before it or without.
2. A visibility modifier leaks exactly when its text spells `public` or `open`.
3. The searches below an import find the first such attribute and the first such modifier in document
   order, and nothing exactly when there is none. -/
theorem markers_are_found (s : Source) (n : Node) :
    (attributeName s n = "_exported".toList ↔
      Utf8.decode (n.bytes s) ∈ signed "_exported".toList) ∧
    (isLeaking s n = true ↔ n.kind = "visibility_modifier" ∧
      (Utf8.decode (n.bytes s) ∈ spelling "public".toList ∨
        Utf8.decode (n.bytes s) ∈ spelling "open".toList)) ∧
    n.Finds (Reexports s) (findReexport s n) ∧
    n.Finds (Opens s) (findLeaking s n) :=
  ⟨attributeName_eq_iff isWord_reexportAttribute s n, isLeaking_iff s n,
    Node.finds_find? (isReexport_iff s) n, Node.finds_find? (isLeaking_iff s) n⟩

-- a sign between two words, a longer name, and the name among the arguments are no spellings
example :
    (["\t@@ _exported (a) ", "@ @_exported", "@_exported2", "@x(_exported)"].map fun text =>
      let s := Source.ofString text
      isReexport s ⟨"attribute", 0, s.size, true, []⟩) = [true, false, false, false] := by
  decide +kernel

end PublicImport

end TreeLint
