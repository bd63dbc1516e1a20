/-
  TreeLint/Proofs/Wrapping.lean
  =============================
  **Wrapping loses blanks only.**  A printed line is broken at words, and words that are too wide are
  folded.  On a console of two cells or more every part that comes of it fits, but for blanks at its end:
  either the words in it were added one by one while they fitted, or it is a piece of a folded word.  So
  what is cut off a part is blank, and the characters that are not stay as they are and in order
  (`draw_line_inked`).

  This is shown for texts in which every character takes cells of its own, so there are no line feeds,
  tabs or marks that combine.
-/
import Mathlib.Data.List.Forall2
import Mathlib.Data.List.SplitBy
import TreeLint.Proofs.Drawing
import TreeLint.Proofs.TrimmedText

namespace TreeLint.Console

open Text

variable {cs ds : List Char} {limit : Nat}

/-! ### Characters that take cells -/

/-- A text in which every character takes cells. -/
def Full (cs : List Char) : Prop := ∀ c ∈ cs, 0 < charWidth c

instance (cs : List Char) : Decidable (Full cs) := List.decidableBAll _ cs

/-- The characters of a text that are not blank. -/
def inked (cs : List Char) : List Char := cs.filter (!isBlank ·)

theorem inked_append (cs ds : List Char) : inked (cs ++ ds) = inked cs ++ inked ds := List.filter_append ..

theorem inked_of_blank (h : ∀ c ∈ cs, isBlank c = true) : inked cs = [] := by
  refine List.filter_eq_nil_iff.mpr fun c hc => ?_
  simp [h c hc]

theorem full_cons {c : Char} : Full (c :: cs) ↔ 0 < charWidth c ∧ Full cs := List.forall_mem_cons

theorem full_append : Full (cs ++ ds) ↔ Full cs ∧ Full ds := List.forall_mem_append

theorem charWidth_le (c : Char) : charWidth c ≤ 2 := by
  unfold charWidth
  repeat' split
  all_goals omega

theorem Full.steady (h : Full cs) : Steady cs := by
  have hjoiner : charWidth joiner = 0 := by decide +kernel
  have hselector : charWidth emojiSelector = 0 := by decide +kernel
  intro c hc
  have hwidth := h c hc
  refine isSteady_iff.mpr ⟨?_, ?_⟩
  · rintro rfl
    omega
  · rintro rfl
    omega

theorem Full.width_eq (h : Full cs) : width cs = cellSum cs := width_of_steady h.steady

theorem Full.eq_nil_of_cellSum (h : Full cs) (hsum : cellSum cs = 0) : cs = [] := by
  cases cs with
  | nil => rfl
  | cons c cs =>
    have hc := (full_cons.mp h).1
    rw [cellSum_cons] at hsum
    omega

/-- A character that is a cluster of its own. -/
def single (c : Char) : Cluster := ⟨[c], charWidth c⟩

theorem clusters_of_full (h : Full cs) : clusters cs = cs.map single := by
  have hfrom : ∀ cs, Full cs → ∀ (open? : Option Cluster) (last : Option Char),
      clustersFrom open? false last cs = open?.toList ++ cs.map single := by
    intro cs h
    induction cs with
    | nil => simp [clustersFrom]
    | cons c cs ih =>
      intro open? last
      obtain ⟨hc, hcs⟩ := full_cons.mp h
      obtain ⟨hjoiner, hselector⟩ := isSteady_iff.mp (h.steady c List.mem_cons_self)
      rw [clustersFrom, if_neg hjoiner, if_neg hselector, if_neg (by omega), ih hcs]
      rfl
  exact hfrom cs h none none

/-! ### Texts that fit but for blanks -/

/-- A text that fits into a number of cells but for blanks at its end. -/
def FitsBut (limit : Nat) (cs : List Char) : Prop :=
  ∃ core tail, cs = core ++ tail ∧ cellSum core ≤ limit ∧ ∀ c ∈ tail, isBlank c = true

theorem fitsBut_of_le (h : cellSum cs ≤ limit) : FitsBut limit cs := ⟨cs, [], by simp, h, by simp⟩

theorem fitsBut_take (h : FitsBut limit cs) (n : Nat) : FitsBut limit (cs.take n) := by
  obtain ⟨core, tail, rfl, hcore, htail⟩ := h
  refine ⟨core.take n, tail.take (n - core.length), List.take_append, ?_, ?_⟩
  · have hsum := cellSum_append (core.take n) (core.drop n)
    rw [List.take_append_drop] at hsum
    omega
  · intro c hc
    exact htail c (List.mem_of_mem_take hc)

theorem inked_take {n : Nat} (h : (trimEnd cs).length ≤ n) : inked (cs.take n) = inked cs := by
  obtain ⟨tail, hcs, htail, -⟩ := exists_trimEnd cs
  have hrest : inked (cs.drop n) = [] := by
    apply inked_of_blank
    intro c hc
    rw [hcs, List.drop_append, List.drop_eq_nil_of_le h, List.nil_append] at hc
    exact htail c (List.mem_of_mem_drop hc)
  conv_rhs => rw [← List.take_append_drop n cs, inked_append, hrest, List.append_nil]

theorem fitsBut_of_trimEnd (h : cellSum (trimEnd cs) ≤ limit) : FitsBut limit cs := by
  obtain ⟨tail, hcs, htail, -⟩ := exists_trimEnd cs
  exact ⟨trimEnd cs, tail, hcs, h, htail⟩

/-! ### Cutting -/

theorem takeCells_append (hcs : Full cs) (n : Nat) (h : cellSum cs ≤ n) :
    takeCells n ((cs ++ ds).map single) = cs ++ takeCells (n - cellSum cs) (ds.map single) := by
  induction cs generalizing n with
  | nil => rfl
  | cons c cs ih =>
    obtain ⟨hc, hcs⟩ := full_cons.mp hcs
    rw [cellSum_cons] at h ⊢
    cases n with
    | zero => omega
    | succ n =>
      have hfits : charWidth c ≤ n + 1 := by omega
      have hrest := ih hcs (n + 1 - charWidth c) (by omega)
      rw [List.cons_append, List.map_cons, takeCells, single, if_pos hfits, hrest, Nat.sub_sub]
      rfl

theorem takeCells_spec (hcs : Full cs) (n : Nat) :
    cellSum (takeCells n (cs.map single)) ≤ n ∧ Full (takeCells n (cs.map single)) ∧
      ∀ c ∈ takeCells n (cs.map single), c = ' ' ∨ c ∈ cs := by
  have hspace : charWidth ' ' = 1 := by decide
  induction cs generalizing n with
  | nil => cases n <;> simp [takeCells, cellSum, totalCells, Full]
  | cons c cs ih =>
    obtain ⟨hc, hcs⟩ := full_cons.mp hcs
    cases n with
    | zero => simp [takeCells, cellSum, totalCells, Full]
    | succ n =>
      rw [List.map_cons, takeCells]
      split
      · next hfits =>
        obtain ⟨hsum, hfull, hmem⟩ := ih hcs (n + 1 - (single c).cells)
        simp only [single, List.singleton_append] at *
        refine ⟨?_, full_cons.mpr ⟨hc, hfull⟩, ?_⟩
        · rw [cellSum_cons]
          omega
        · intro d hd
          rcases List.mem_cons.mp hd with rfl | hd
          · exact .inr List.mem_cons_self
          · exact (hmem d hd).imp_right (List.mem_cons_of_mem _)
      · refine ⟨?_, ?_, by simp⟩
        · simp [cellSum, totalCells, hspace]
        · simp [Full, hspace]

/-- Cutting a text that fits but for blanks takes blanks off. -/
theorem crop_inked (hfull : Full cs) (hfits : FitsBut limit cs) (hlimit : 0 < limit)
    (h : crop limit cs = .ok ds) : inked ds = inked cs ∧ cellSum ds ≤ limit ∧ Full ds := by
  unfold crop at h
  rw [hfull.width_eq] at h
  split at h
  · next hle =>
    obtain rfl := Except.ok.inj h
    exact ⟨rfl, hle, hfull⟩
  · rw [if_neg (by omega)] at h
    simp only [clusters_of_full hfull] at h
    split at h
    · cases h
    · split at h
      · cases h
      · obtain rfl := Except.ok.inj h
        obtain ⟨core, tail, rfl, hcore, htail⟩ := hfits
        obtain ⟨hsum, hfull', -⟩ := takeCells_spec hfull limit
        refine ⟨?_, hsum, hfull'⟩
        obtain ⟨hcoreFull, htailFull⟩ := full_append.mp hfull
        obtain ⟨-, -, hmem⟩ := takeCells_spec htailFull (limit - cellSum core)
        have hblank : inked (takeCells (limit - cellSum core) (tail.map single)) = [] := by
          apply inked_of_blank
          intro c hc
          rcases hmem c hc with rfl | hc
          · decide
          · exact htail c hc
        rw [takeCells_append hcoreFull limit hcore, inked_append, inked_append, inked_of_blank htail,
          hblank]

/-! ### Folded words -/

theorem chopFrom_spec (hcs : Full cs) (hlimit : 2 ≤ limit) {part : List Char} (hpart : Full part)
    (hle : cellSum part ≤ limit) :
    (chopFrom limit part (cellSum part) (cs.map single)).flatten = part ++ cs ∧
      ∀ piece ∈ chopFrom limit part (cellSum part) (cs.map single), cellSum piece ≤ limit := by
  induction cs generalizing part with
  | nil =>
    rw [List.map_nil, chopFrom]
    split
    · next hzero => simp [hpart.eq_nil_of_cellSum hzero]
    · simpa using hle
  | cons c cs ih =>
    obtain ⟨hc, hcs⟩ := full_cons.mp hcs
    have hwidth := charWidth_le c
    have hsingle : cellSum [c] = charWidth c := by simp [cellSum, totalCells]
    have hone : Full [c] := full_cons.mpr ⟨hc, by simp [Full]⟩
    have hstep : chopFrom limit part (cellSum part) ((c :: cs).map single) =
        if limit < cellSum part + charWidth c then part :: chopFrom limit [c] (charWidth c) (cs.map single)
        else chopFrom limit (part ++ [c]) (cellSum part + charWidth c) (cs.map single) := rfl
    rw [hstep]
    by_cases hroom : limit < cellSum part + charWidth c
    · obtain ⟨hflatten, hpieces⟩ := ih hcs hone (by omega)
      rw [hsingle] at hflatten hpieces
      rw [if_pos hroom]
      constructor
      · rw [List.flatten_cons, hflatten, List.singleton_append]
      · exact List.forall_mem_cons.mpr ⟨hle, hpieces⟩
    · rw [if_neg hroom]
      have hsum : cellSum (part ++ [c]) = cellSum part + charWidth c := by
        rw [cellSum_append, hsingle]
      obtain ⟨hflatten, hpieces⟩ := ih hcs (full_append.mpr ⟨hpart, hone⟩) (by omega)
      rw [hsum] at hflatten hpieces
      exact ⟨by rw [hflatten, List.append_assoc, List.singleton_append], hpieces⟩

theorem chop_spec (hcs : Full cs) (hlimit : 2 ≤ limit) :
    (chop limit cs).flatten = cs ∧ ∀ piece ∈ chop limit cs, cellSum piece ≤ limit := by
  rw [chop, clusters_of_full hcs]
  exact chopFrom_spec hcs hlimit (by simp [Full]) (Nat.zero_le _)

/-! ### Breaks -/

/-- Breaks before parts divide a text into these parts, the last of which goes on with what follows. -/
theorem forall_divideAt_breaksBefore {P : List Char → Prop} {later : List Nat} {rest : List Char}
    (parts : List (List Char)) (current : List Char) (start : Nat)
    (hparts : ∀ part ∈ current :: parts, P part)
    (hrest : ∀ last ∈ (current :: parts).getLast?, ∀ place,
      place + last.length = start + current.length + parts.flatten.length →
        ∀ part ∈ divideAt place later (last ++ rest), P part) :
    ∀ part ∈ divideAt start (breaksBefore (start + current.length) parts ++ later)
      (current ++ (parts.flatten ++ rest)), P part := by
  induction parts generalizing current start with
  | nil => exact hrest current (by simp) start (by simp)
  | cons next parts ih =>
    obtain ⟨hcurrent, hnext⟩ := List.forall_mem_cons.mp hparts
    have hgoesOn := ih next (start + current.length) hnext (by
      intro last hlast place hplace
      refine hrest last (by simpa using hlast) place ?_
      rw [hplace, List.flatten_cons, List.length_append]
      omega)
    rw [breaksBefore, List.flatten_cons, List.append_assoc, List.append_assoc]
    by_cases hzero : start + current.length = 0
    · -- Nothing stands before the first part.
      have hstart : start = 0 := by omega
      have hnil : current = [] := List.eq_nil_of_length_eq_zero (by omega)
      subst hstart hnil
      simpa [breakAt] using hgoesOn
    · rw [breakAt, if_neg hzero, List.singleton_append, divideAt]
      have hlength : start + current.length - start = current.length := by omega
      rw [hlength, List.take_left, List.drop_left]
      exact List.forall_mem_cons.mpr ⟨hcurrent, hgoesOn⟩

/-- With words added one by one, every line fits but for blanks. -/
theorem fitsBut_of_breaks (hlimit : 2 ≤ limit) (ws : List (List Char)) (hws : ∀ w ∈ ws, Full w)
    (current : List Char) (start : Nat) (hcurrent : Full current) (hfits : FitsBut limit current) :
    ∀ part ∈ divideAt start (breaks limit .fold (start + current.length) (cellSum current) ws)
      (current ++ ws.flatten), FitsBut limit part := by
  induction ws generalizing current start with
  | nil => simpa [breaks, divideAt] using hfits
  | cons word ws ih =>
    obtain ⟨hword, hrest⟩ := List.forall_mem_cons.mp hws
    obtain ⟨tail, hsplit, htail, -⟩ := exists_trimEnd word
    have hcore : Full (trimEnd word) := (full_append.mp (hsplit ▸ hword)).1
    rw [breaks, hcore.width_eq, hword.width_eq, List.flatten_cons]
    dsimp only
    split
    · next hroom =>
      have hadded := ih hrest (current ++ word) start (full_append.mpr ⟨hcurrent, hword⟩) (by
        refine ⟨current ++ trimEnd word, tail, by rw [List.append_assoc, ← hsplit], ?_, htail⟩
        rw [cellSum_append]
        exact hroom)
      rw [List.length_append, cellSum_append, ← Nat.add_assoc, List.append_assoc] at hadded
      exact hadded
    · split
      · next hwide =>
        obtain ⟨hflatten, hpieces⟩ := chop_spec hword hlimit
        have hpieceFull : ∀ piece ∈ chop limit word, Full piece := by
          intro piece hpiece c hc
          refine hword c ?_
          rw [← hflatten]
          exact List.mem_flatten.mpr ⟨piece, hpiece, hc⟩
        have hne : chop limit word ≠ [] := by
          intro hnil
          rw [hnil, List.flatten_nil] at hflatten
          rw [← hflatten] at hwide
          simp [trimEnd, dropEndWhile, cellSum, totalCells] at hwide
        conv in current ++ (word ++ ws.flatten) => rw [← hflatten]
        apply forall_divideAt_breaksBefore
        · exact List.forall_mem_cons.mpr ⟨hfits, fun piece hpiece => fitsBut_of_le (hpieces piece hpiece)⟩
        · intro last hlast place hplace
          have hlast : (chop limit word).getLast? = some last := by
            rwa [List.getLast?_cons_of_ne_nil hne] at hlast
          have hmem := List.mem_of_getLast? hlast
          rw [hlast, Option.map_some, Option.getD_some, (hpieceFull last hmem).width_eq]
          rw [hflatten] at hplace
          rw [← hplace]
          exact ih hrest last place (hpieceFull last hmem) (fitsBut_of_le (hpieces last hmem))
      · split
        · next hnarrow hempty =>
          exfalso
          rcases hempty with hempty | hempty
          · omega
          · have hnil : current = [] := List.eq_nil_of_length_eq_zero (by omega)
            subst hnil
            simp [cellSum, totalCells] at *
            omega
        · next hnarrow _ =>
          rw [divideAt]
          have hlength : start + current.length - start = current.length := by omega
          rw [hlength, List.take_left, List.drop_left]
          refine List.forall_mem_cons.mpr ⟨hfits, ?_⟩
          exact ih hrest word (start + current.length) hword (fitsBut_of_trimEnd (by omega))

theorem words_cases (cs : List Char) :
    (words cs).flatten = cs ∨ (words cs = [] ∧ ∀ c ∈ cs, isBlank c = true) := by
  have hflatten := List.flatten_splitBy (fun a b => !(isBlank a && !isBlank b)) cs
  unfold words
  split
  · next hnil =>
    rw [hnil] at hflatten
    exact .inl hflatten
  · next only honly =>
    rw [honly, List.flatten_singleton] at hflatten
    subst hflatten
    split
    · next hblank => exact .inr ⟨rfl, by simpa using hblank⟩
    · exact .inl (by simp)
  · next first second rest hmany =>
    rw [hmany] at hflatten
    refine .inl ?_
    split
    · simpa using hflatten
    · exact hflatten

theorem fitsBut_of_mem_broken (hlimit : 2 ≤ limit) (hcs : Full cs) :
    ∀ part ∈ divideAt 0 (breaks limit .fold 0 0 (words cs)) cs, FitsBut limit part := by
  rcases words_cases cs with hflatten | ⟨hnil, hblank⟩
  · have hwords : ∀ w ∈ words cs, Full w := by
      intro w hw c hc
      refine hcs c ?_
      rw [← hflatten]
      exact List.mem_flatten.mpr ⟨w, hw, hc⟩
    have hbroken := fitsBut_of_breaks hlimit (words cs) hwords [] 0 (by simp [Full])
      (fitsBut_of_le (Nat.zero_le _))
    rwa [hflatten] at hbroken
  · rw [hnil, breaks, divideAt]
    exact List.forall_mem_singleton.mpr ⟨[], cs, rfl, Nat.zero_le _, hblank⟩

/-! ### Wrapped lines -/

section Lines

variable {t : Styled} {lines : List Styled}

theorem map_chars_withSpans (spans : List Span) (start : Nat) (parts : List (List Char)) :
    (Styled.withSpans spans start parts).map (·.chars) = parts := by
  induction parts generalizing start with
  | nil => rfl
  | cons part parts ih => simp [Styled.withSpans, ih]

theorem map_chars_divide (offsets : List Nat) (t : Styled) :
    (t.divide offsets).map (·.chars) = divideAt 0 offsets t.chars := by
  unfold Styled.divide
  cases offsets with
  | nil => rfl
  | cons offset offsets => exact map_chars_withSpans _ _ _

theorem offsetsOf_eq_nil {mark : Char} (h : mark ∉ cs) (offset : Nat) :
    Styled.offsetsOf mark offset cs = [] := by
  induction cs generalizing offset with
  | nil => rfl
  | cons c cs ih =>
    obtain ⟨hc, hcs⟩ := not_or.mp (List.mem_cons.not.mp h)
    rw [Styled.offsetsOf, if_neg (Ne.symm hc), ih hcs]

theorem not_mem_of_full (h : Full cs) {c : Char} (hc : charWidth c = 0) : c ∉ cs := by
  intro hmem
  have hwidth := h c hmem
  omega

theorem inked_dropExcessBlanks (limit : Nat) (t : Styled) :
    inked (dropExcessBlanks limit t).chars = inked t.chars := by
  obtain ⟨tail, hsplit, htail, hlength⟩ := exists_trimEnd t.chars
  apply inked_take
  have htotal := congrArg List.length hsplit
  rw [List.length_append] at htotal
  omega

/-- One part of a broken line, as it is printed. -/
theorem truncate_inked {placed : Styled} (hlimit : 2 ≤ limit) (hfull : Full t.chars)
    (hfits : FitsBut limit t.chars)
    (h : truncate limit .fold (dropExcessBlanks limit t) = .ok placed) :
    inked placed.chars = inked t.chars ∧ cellSum placed.chars ≤ limit ∧ Full placed.chars := by
  have hfull' : Full (dropExcessBlanks limit t).chars := fun c hc => hfull c (List.mem_of_mem_take hc)
  have hfits' : FitsBut limit (dropExcessBlanks limit t).chars := fitsBut_take hfits _
  have hinked := inked_dropExcessBlanks limit t
  unfold truncate at h
  rw [hfull'.width_eq] at h
  split at h
  · next hle =>
    obtain rfl := Except.ok.inj h
    exact ⟨hinked, hle, hfull'⟩
  · obtain ⟨cs, hcs, rfl⟩ := map_eq_ok_iff.mp h
    obtain ⟨hcrop, hle, hfull''⟩ := crop_inked hfull' hfits' (by omega) hcs
    exact ⟨hcrop.trans hinked, hle, hfull''⟩

theorem forall₂_of_mapM {ε α β : Type} {f : α → Except ε β} {as : List α} {bs : List β}
    (h : as.mapM f = .ok bs) : List.Forall₂ (fun a b => f a = .ok b) as bs := by
  induction as generalizing bs with
  | nil =>
    obtain rfl := Except.ok.inj h
    exact .nil
  | cons a as ih =>
    rw [List.mapM_cons] at h
    obtain ⟨b, hb, h⟩ := bind_eq_ok_iff.mp h
    obtain ⟨bs', hbs, h⟩ := bind_eq_ok_iff.mp h
    obtain rfl := Except.ok.inj h
    exact .cons hb (ih hbs)

theorem inked_of_forall₂ {P : Styled → Prop} {parts : List Styled}
    (h : List.Forall₂ (fun part line => inked line.chars = inked part.chars ∧ P line) parts lines) :
    inked (lines.flatMap (·.chars)) = inked (parts.flatMap (·.chars)) ∧ ∀ line ∈ lines, P line := by
  induction h with
  | nil => simp
  | cons hline _ ih =>
    constructor
    · rw [List.flatMap_cons, List.flatMap_cons, inked_append, inked_append, hline.1, ih.1]
    · exact List.forall_mem_cons.mpr ⟨hline.2, ih.2⟩

/-- A text of one line in lines that fit. -/
theorem wrap_inked (hlimit : 2 ≤ limit) (hfull : Full t.chars)
    (h : wrap limit .fold .ragged t = .ok lines) :
    inked (lines.flatMap (·.chars)) = inked t.chars ∧
      ∀ line ∈ lines, cellSum line.chars ≤ limit ∧ Full line.chars := by
  have hfeeds : Styled.offsetsOf '\n' 0 t.chars = [] :=
    offsetsOf_eq_nil (not_mem_of_full hfull (by decide +kernel)) 0
  have htabs : Styled.offsetsOf '\t' 0 t.chars = [] :=
    offsetsOf_eq_nil (not_mem_of_full hfull (by decide +kernel)) 0
  have hlines : t.lines = [t] := by simp [Styled.lines, hfeeds]
  have hexpanded : t.expandTabs = t := by simp [Styled.expandTabs, htabs]
  have hwrapped : wrapLine limit .fold .ragged t = .ok lines := by
    obtain ⟨wrapped, hwrapped, h⟩ := bind_eq_ok_iff.mp h
    obtain rfl := Except.ok.inj h
    rw [hlines] at hwrapped
    cases forall₂_of_mapM hwrapped with
    | cons hline hrest =>
      cases hrest
      simpa using hline
  simp only [wrapLine, hexpanded] at hwrapped
  have hparts := map_chars_divide (breaks limit .fold 0 0 (words t.chars)) t
  -- Every part has characters of the text only, and fits but for blanks.
  have hgood : ∀ part ∈ t.divide (breaks limit .fold 0 0 (words t.chars)),
      Full part.chars ∧ FitsBut limit part.chars := by
    intro part hpart
    have hmem : part.chars ∈ divideAt 0 (breaks limit .fold 0 0 (words t.chars)) t.chars := by
      rw [← hparts]
      exact List.mem_map_of_mem hpart
    refine ⟨fun c hc => hfull c ?_, fitsBut_of_mem_broken hlimit hfull _ hmem⟩
    rw [← flatten_divideAt 0 (breaks limit .fold 0 0 (words t.chars)) t.chars]
    exact List.mem_flatten.mpr ⟨_, hmem, hc⟩
  have hprinted := (List.forall₂_and_left _ _).mpr ⟨hgood, forall₂_of_mapM hwrapped⟩
  have hresult := inked_of_forall₂ (hprinted.imp fun part line hline =>
    truncate_inked hlimit hline.1.1 hline.1.2 hline.2)
  have hflat : (t.divide (breaks limit .fold 0 0 (words t.chars))).flatMap (·.chars) = t.chars := by
    rw [List.flatMap_def, hparts, flatten_divideAt]
  rwa [hflat] at hresult

/-! ### Printed lines -/

theorem flatten_runs (t : Styled) : t.runs.flatten = t.chars := by
  simp only [Styled.runs]
  split
  · next hempty => simp [List.isEmpty_iff.mp hempty]
  · exact flatten_divideAt _ _ _

theorem width_of_full {line : Line} (h : Full line.flatten) : line.width = cellSum line.flatten := by
  induction line with
  | nil => rfl
  | cons run line ih =>
    rw [List.flatten_cons] at h ⊢
    obtain ⟨hrun, hline⟩ := full_append.mp h
    rw [cellSum_append, ← ih hline, ← hrun.width_eq]
    rfl

theorem linesIn_inked {console : Nat} {drawn : List Line} (hconsole : 2 ≤ console)
    (hfull : Full t.chars) (h : linesIn console .fold .ragged t = .ok drawn) :
    inked (drawn.flatMap (·.flatten)) = inked t.chars ∧ ∀ line ∈ drawn, line.width ≤ console := by
  rw [linesIn, if_neg (by omega)] at h
  obtain ⟨lines, hlines, h⟩ := bind_eq_ok_iff.mp h
  split at h
  · cases h
  · obtain rfl := Except.ok.inj h
    have hwrapped : wrap console .fold .ragged t = .ok lines := by
      unfold cutting Except.mapError at hlines
      split at hlines
      · cases hlines
      · next hok =>
        obtain rfl := Except.ok.inj hlines
        exact hok
    obtain ⟨hinked, hfits⟩ := wrap_inked hconsole hfull hwrapped
    constructor
    · rw [← hinked, List.flatMap_map]
      simp only [flatten_runs]
    · intro line hline
      obtain ⟨u, hu, rfl⟩ := List.mem_map.mp hline
      obtain ⟨hle, hfull'⟩ := hfits u hu
      rw [width_of_full (by rwa [flatten_runs]), flatten_runs]
      exact hle

end Lines

theorem mapM_crop {console : Nat} {lines : List Line} (h : ∀ line ∈ lines, line.width ≤ console) :
    lines.mapM (·.crop console) = .ok lines := by
  induction lines with
  | nil => rfl
  | cons line lines ih =>
    obtain ⟨hline, hrest⟩ := List.forall_mem_cons.mp h
    have hcrop : line.crop console = .ok line := by rw [Line.crop, if_pos hline]
    rw [List.mapM_cons, hcrop, ih hrest]
    rfl

theorem inked_flatMap_lines (lines : List Line) :
    inked (lines.flatMap fun line => line.flatten ++ ['\n']) = inked (lines.flatMap (·.flatten)) := by
  have hfeed : inked ['\n'] = [] := by decide
  induction lines with
  | nil => rfl
  | cons line lines ih =>
    rw [List.flatMap_cons, List.flatMap_cons, inked_append, inked_append, inked_append, hfeed, ih,
      List.append_nil]

/-- **A printed line loses blanks only**: what the console shows of it has the other characters of its
text, in their order. -/
theorem draw_line_inked {console : Nat} {markup : String} {t : Styled} {text : List Char}
    (hconsole : 2 ≤ console) (hread : Markup.read markup = .ok t) (hfull : Full t.chars)
    (h : (Block.line markup).draw console = .ok text) : inked text = inked t.chars := by
  obtain ⟨lines, hlines, h⟩ := bind_eq_ok_iff.mp h
  have hdrawn : ∃ spans, linesIn console .fold .ragged { t with spans := spans } = .ok lines := by
    rw [Block.lines, drawLine, readMarkup, hread] at hlines
    exact ⟨_, hlines⟩
  obtain ⟨spans, hdrawn⟩ := hdrawn
  have hstyled : Full (Styled.mk t.chars spans).chars := hfull
  obtain ⟨hinked, hfits⟩ := linesIn_inked hconsole hstyled hdrawn
  rw [mapM_crop hfits] at h
  obtain rfl := Except.ok.inj h
  rw [inked_flatMap_lines, hinked]

end TreeLint.Console
