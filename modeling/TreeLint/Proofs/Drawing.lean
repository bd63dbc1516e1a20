/-
  TreeLint/Proofs/Drawing.lean
  ============================
  **Drawing that does not fail.**  Drawing can fail for two reasons: markup that cannot be read or styled,
  and a text that cannot be cut.  The second has to do with two characters only, the joiner and the emoji
  selector, which are measured in one way as part of a text and in another way as part of a cluster.  A
  text without them takes as many cells as its clusters, so it can be cut anywhere (`crop_gives`).

  A text is sound if it has neither of the two characters nor a style that cannot be drawn.  Soundness is
  kept by all that is done to a text on its way to the console: dividing, padding, expanding, wrapping and
  cutting.  So a report whose markup reads as sound texts is drawn to its end on every console
  (`drawAll_error_eq_none`).
-/
import Mathlib.Data.List.Basic
import TreeLint.Console.Layout
import TreeLint.Proofs.MarkupText

namespace TreeLint.Console

/-! ### Results -/

/-- There is a result, and it is as told. -/
def Gives {ε α : Type} (x : Except ε α) (post : α → Prop) : Prop := ∃ a, x = .ok a ∧ post a

section Results

variable {ε ε' α β : Type} {x : Except ε α} {post : α → Prop}

theorem gives_ok {a : α} (h : post a) : Gives (.ok a : Except ε α) post := ⟨a, rfl, h⟩

theorem Gives.bind {f : α → Except ε β} {post' : β → Prop} (hx : Gives x post)
    (hf : ∀ a, post a → Gives (f a) post') : Gives (x >>= f) post' := by
  obtain ⟨a, rfl, ha⟩ := hx
  exact hf a ha

theorem Gives.map {f : α → β} {post' : β → Prop} (hx : Gives x post) (hf : ∀ a, post a → post' (f a)) :
    Gives (x.map f) post' := by
  obtain ⟨a, rfl, ha⟩ := hx
  exact gives_ok (hf a ha)

theorem Gives.mapError {f : ε → ε'} (hx : Gives x post) : Gives (x.mapError f) post := by
  obtain ⟨a, rfl, ha⟩ := hx
  exact gives_ok ha

theorem gives_mapM {f : α → Except ε β} {post : β → Prop} {as : List α}
    (h : ∀ a ∈ as, Gives (f a) post) : Gives (as.mapM f) fun bs => ∀ b ∈ bs, post b := by
  induction as with
  | nil => exact gives_ok (by simp)
  | cons a as ih =>
    rw [List.forall_mem_cons] at h
    rw [List.mapM_cons]
    refine h.1.bind fun b hb => (ih h.2).bind fun bs hbs => gives_ok ?_
    exact List.forall_mem_cons.mpr ⟨hb, hbs⟩

end Results

/-! ### Cells of steady characters -/

/-- Whether a character is measured in one way wherever it stands. -/
def isSteady (c : Char) : Bool := c != joiner && c != emojiSelector

/-- A text of steady characters. -/
def Steady (cs : List Char) : Prop := ∀ c ∈ cs, isSteady c = true

-- Over the members of the list: the instance that enumerates all characters would not finish.
instance (cs : List Char) : Decidable (Steady cs) := List.decidableBAll _ cs

/-- A line of steady characters. -/
def Line.Steady (line : Line) : Prop := ∀ run ∈ line, Console.Steady run

theorem steady_cons {c : Char} {cs : List Char} : Steady (c :: cs) ↔ isSteady c = true ∧ Steady cs :=
  List.forall_mem_cons

theorem Steady.append {cs ds : List Char} (hcs : Steady cs) (hds : Steady ds) : Steady (cs ++ ds) :=
  List.forall_mem_append.mpr ⟨hcs, hds⟩

theorem steady_replicate {c : Char} (h : isSteady c = true) (n : Nat) : Steady (List.replicate n c) := by
  intro d hd
  rwa [List.eq_of_mem_replicate hd]

theorem steady_spaces (n : Nat) : Steady (spaces n) := steady_replicate (by decide) n

theorem isSteady_iff {c : Char} : isSteady c = true ↔ c ≠ joiner ∧ c ≠ emojiSelector := by
  simp [isSteady]

/-- The cells of the single characters of a text. -/
def cellSum (cs : List Char) : Nat := totalCells (cs.map charWidth)

theorem totalCells_append (as bs : List Nat) : totalCells (as ++ bs) = totalCells as + totalCells bs := by
  induction as with
  | nil => simp [totalCells]
  | cons a as ih =>
    simp only [totalCells, List.cons_append, List.foldr_cons] at ih ⊢
    omega

theorem cellSum_append (cs ds : List Char) : cellSum (cs ++ ds) = cellSum cs + cellSum ds := by
  rw [cellSum, List.map_append, totalCells_append]
  rfl

theorem cellSum_cons (c : Char) (cs : List Char) : cellSum (c :: cs) = charWidth c + cellSum cs := rfl

theorem widthFrom_of_steady {cs : List Char} (h : Steady cs) (last : Option Char) :
    widthFrom false last cs = cellSum cs := by
  induction cs generalizing last with
  | nil => simp [widthFrom, cellSum, totalCells]
  | cons c cs ih =>
    obtain ⟨hc, hcs⟩ := steady_cons.mp h
    obtain ⟨hjoiner, hselector⟩ := isSteady_iff.mp hc
    rw [widthFrom, if_neg hjoiner, if_neg hselector, cellSum_cons]
    split
    · next hzero => rw [ih hcs, hzero, Nat.zero_add]
    · rw [ih hcs]

theorem width_of_steady {cs : List Char} (h : Steady cs) : width cs = cellSum cs :=
  widthFrom_of_steady h none

/-- The clusters of steady characters take the cells of those characters. -/
theorem totalCells_clustersFrom {cs : List Char} (h : Steady cs) (open? : Option Cluster)
    (last : Option Char) :
    totalCells ((clustersFrom open? false last cs).map (·.cells)) =
      totalCells (open?.toList.map (·.cells)) + cellSum cs := by
  induction cs generalizing open? last with
  | nil => simp [clustersFrom, cellSum, totalCells]
  | cons c cs ih =>
    obtain ⟨hc, hcs⟩ := steady_cons.mp h
    obtain ⟨hjoiner, hselector⟩ := isSteady_iff.mp hc
    rw [clustersFrom, if_neg hjoiner, if_neg hselector, cellSum_cons]
    split
    · next hzero =>
      have hattach : totalCells ((some (Cluster.attach open? c 0)).toList.map (·.cells)) =
          totalCells (open?.toList.map (·.cells)) := by
        cases open? with
        | none => rfl
        | some k => simp [Cluster.attach, totalCells]
      rw [ih hcs, hattach, hzero, Nat.zero_add]
    · rw [List.map_append, totalCells_append, ih hcs]
      simp [totalCells]

/-- Clusters have the characters of the text. -/
theorem flatMap_clustersFrom (cs : List Char) (open? : Option Cluster) (joined : Bool)
    (last : Option Char) :
    (clustersFrom open? joined last cs).flatMap (·.chars) =
      open?.toList.flatMap (·.chars) ++ cs := by
  have hattach : ∀ (open? : Option Cluster) (c : Char) (n : Nat),
      (some (Cluster.attach open? c n)).toList.flatMap (·.chars) =
        open?.toList.flatMap (·.chars) ++ [c] := by
    intro open? c n
    cases open? with
    | none => rfl
    | some k => simp [Cluster.attach]
  induction cs generalizing open? joined last with
  | nil => simp [clustersFrom]
  | cons c cs ih =>
    cases joined with
    | true => rw [clustersFrom, ih, hattach, List.append_assoc, List.singleton_append]
    | false =>
      rw [clustersFrom]
      split
      · rw [ih, hattach, List.append_assoc, List.singleton_append]
      · split
        · rw [ih, hattach, List.append_assoc, List.singleton_append]
        · split
          · rw [ih, hattach, List.append_assoc, List.singleton_append]
          · rw [List.flatMap_append, ih]
            rfl

theorem flatMap_clusters (cs : List Char) : (clusters cs).flatMap (·.chars) = cs :=
  flatMap_clustersFrom cs none false none

/-! ### Cutting -/

theorem steady_takeCells {n : Nat} {ks : List Cluster} (h : Steady (ks.flatMap (·.chars))) :
    Steady (takeCells n ks) := by
  induction ks generalizing n with
  | nil => cases n <;> simp [takeCells, Steady]
  | cons k ks ih =>
    rw [List.flatMap_cons] at h
    obtain ⟨hk, hks⟩ := List.forall_mem_append.mp h
    cases n with
    | zero => simp [takeCells, Steady]
    | succ n =>
      rw [takeCells]
      split
      · exact Steady.append hk (ih hks)
      · exact steady_spaces 1

/-- A text of steady characters can be cut anywhere. -/
theorem crop_gives {cs : List Char} (h : Steady cs) (n : Nat) : Gives (crop n cs) Steady := by
  unfold crop
  split
  · exact gives_ok h
  · next hwidth =>
    split
    · exact gives_ok (by simp [Steady])
    · have htotal : totalCells ((clusters cs).map (·.cells)) = width cs := by
        rw [clusters, totalCells_clustersFrom h, width_of_steady h]
        simp [totalCells]
      simp only [htotal]
      rw [if_neg (by omega), if_neg (by omega)]
      exact gives_ok (steady_takeCells (by rwa [flatMap_clusters]))

theorem steady_cropFrom {line : Line} (h : line.Steady) (n used : Nat) :
    Gives (Line.cropFrom n used line) Line.Steady := by
  induction line generalizing used with
  | nil => exact gives_ok (by simp [Line.Steady])
  | cons run line ih =>
    obtain ⟨hrun, hline⟩ := List.forall_mem_cons.mp h
    rw [Line.cropFrom]
    split
    · refine (ih hline _).bind fun others hothers => gives_ok ?_
      exact List.forall_mem_cons.mpr ⟨hrun, hothers⟩
    · refine (crop_gives hrun _).bind fun last hlast => gives_ok ?_
      exact List.forall_mem_singleton.mpr hlast

theorem steady_lineCrop {line : Line} (h : line.Steady) (n : Nat) : Gives (line.crop n) Line.Steady := by
  unfold Line.crop
  split
  · exact gives_ok h
  · exact steady_cropFrom h n 0

theorem steady_fill {line : Line} (h : line.Steady) (n : Nat) : Gives (line.fill n) Line.Steady := by
  unfold Line.fill
  split
  · refine gives_ok (List.forall_mem_append.mpr ⟨h, ?_⟩)
    exact List.forall_mem_singleton.mpr (steady_spaces _)
  · exact steady_lineCrop h n

/-! ### Sound texts -/

/-- A text of steady characters with styles that can be drawn. -/
structure Sound (t : Styled) : Prop where
  chars : Steady t.chars
  spans : ∀ span ∈ t.spans, span.fault = none

section Texts

variable {t : Styled} {cs : List Char}

theorem sound_nil : Sound ⟨[], []⟩ := ⟨by simp [Steady], by simp⟩

theorem Steady.subset {ds : List Char} (h : Steady cs) (hsub : ds ⊆ cs) : Steady ds :=
  fun c hc => h c (hsub hc)

theorem Sound.withChars (h : Sound t) (hcs : Steady cs) : Sound { t with chars := cs } := ⟨hcs, h.spans⟩

theorem Sound.setChars (h : Sound t) (hcs : Steady cs) : Sound (t.setChars cs) := by
  refine ⟨hcs, ?_⟩
  intro span hspan
  simp only [Styled.setChars] at hspan
  split at hspan
  · obtain ⟨s, hs, rfl⟩ := List.mem_map.mp hspan
    exact h.spans s (List.mem_of_mem_filter hs)
  · exact h.spans span hspan

theorem fault_shiftSpans {spans : List Span} (h : ∀ span ∈ spans, span.fault = none) (n : Nat) :
    ∀ span ∈ Styled.shiftSpans n spans, span.fault = none := by
  intro span hspan
  obtain ⟨s, hs, rfl⟩ := List.mem_map.mp hspan
  exact h s hs

theorem Sound.extend (h : Sound t) (n : Nat) : Sound (t.extend n) := by
  refine ⟨h.chars.append (steady_spaces n), ?_⟩
  intro span hspan
  obtain ⟨s, hs, rfl⟩ := List.mem_map.mp hspan
  have hfault := h.spans s hs
  split
  · exact hfault
  · exact hfault

theorem Sound.indent (h : Sound t) (n : Nat) : Sound (t.indent n) :=
  ⟨(steady_spaces n).append h.chars, fault_shiftSpans h.spans n⟩

theorem flatten_divideAt (start : Nat) (offsets : List Nat) (cs : List Char) :
    (divideAt start offsets cs).flatten = cs := by
  induction offsets generalizing start cs with
  | nil => simp [divideAt]
  | cons offset offsets ih => rw [divideAt, List.flatten_cons, ih, List.take_append_drop]

theorem steady_of_mem_divideAt (h : Steady cs) {start : Nat} {offsets : List Nat} {part : List Char}
    (hpart : part ∈ divideAt start offsets cs) : Steady part := by
  intro c hc
  refine h c ?_
  rw [← flatten_divideAt start offsets cs]
  exact List.mem_flatten.mpr ⟨part, hpart, hc⟩

theorem sound_of_mem_withSpans {spans : List Span} (hspans : ∀ span ∈ spans, span.fault = none)
    {parts : List (List Char)} (hparts : ∀ part ∈ parts, Steady part) {start : Nat} {part : Styled}
    (hpart : part ∈ Styled.withSpans spans start parts) : Sound part := by
  induction parts generalizing start with
  | nil => cases hpart
  | cons cs parts ih =>
    obtain ⟨hcs, hrest⟩ := List.forall_mem_cons.mp hparts
    rcases List.mem_cons.mp hpart with rfl | hpart
    · refine ⟨hcs, ?_⟩
      intro span hspan
      obtain ⟨s, hs, hclip⟩ := List.mem_filterMap.mp hspan
      simp only [Styled.clip?, Option.ite_none_right_eq_some, Option.some.injEq] at hclip
      rw [← hclip.2]
      exact hspans s hs
    · exact ih hrest hpart

theorem Sound.of_mem_divide (h : Sound t) {offsets : List Nat} {part : Styled}
    (hpart : part ∈ t.divide offsets) : Sound part := by
  unfold Styled.divide at hpart
  split at hpart
  · rwa [List.mem_singleton.mp hpart]
  · exact sound_of_mem_withSpans h.spans (fun _ hp => steady_of_mem_divideAt h.chars hp) hpart

theorem Sound.of_mem_lines (h : Sound t) {line : Styled} (hline : line ∈ t.lines) : Sound line := by
  simp only [Styled.lines] at hline
  split at hline
  · rwa [List.mem_singleton.mp hline]
  · exact h.of_mem_divide (List.mem_of_mem_filter hline)

theorem sound_joinFrom {ts : List Styled} (h : ∀ t ∈ ts, Sound t) (offset : Nat) :
    Sound (Styled.joinFrom offset ts) := by
  induction ts generalizing offset with
  | nil => exact sound_nil
  | cons t ts ih =>
    obtain ⟨ht, hts⟩ := List.forall_mem_cons.mp h
    have hrest := ih hts (offset + t.chars.length)
    exact ⟨ht.chars.append hrest.chars,
      List.forall_mem_append.mpr ⟨fault_shiftSpans ht.spans offset, hrest.spans⟩⟩

theorem sound_expandParts {parts : List Styled} (h : ∀ part ∈ parts, Sound part) (column : Nat) :
    ∀ part ∈ Styled.expandParts column parts, Sound part := by
  induction parts generalizing column with
  | nil => simp [Styled.expandParts]
  | cons part parts ih =>
    obtain ⟨hpart, hparts⟩ := List.forall_mem_cons.mp h
    rw [Styled.expandParts]
    split
    · refine List.forall_mem_cons.mpr ⟨(hpart.setChars ?_).extend _, ih hparts _⟩
      exact (hpart.chars.subset (List.dropLast_subset _)).append (steady_spaces 1)
    · exact List.forall_mem_cons.mpr ⟨hpart, ih hparts _⟩

theorem Sound.expandTabs (h : Sound t) : Sound t.expandTabs := by
  simp only [Styled.expandTabs]
  split
  · exact h
  · exact sound_joinFrom (sound_expandParts (fun _ hpart => h.of_mem_divide hpart) 0) 0

theorem steady_runs (h : Sound t) : Line.Steady t.runs := by
  simp only [Styled.runs]
  split
  · simp [Line.Steady]
  · intro run hrun
    exact steady_of_mem_divideAt h.chars hrun

/-! ### Wrapping -/

theorem Sound.dropExcessBlanks (h : Sound t) (limit : Nat) : Sound (dropExcessBlanks limit t) :=
  h.setChars (h.chars.subset (List.take_subset _ _))

theorem Sound.truncate (h : Sound t) (limit : Nat) (overflow : Overflow) :
    Gives (truncate limit overflow t) Sound := by
  unfold Console.truncate
  split
  · exact gives_ok h
  · cases overflow with
    | fold => exact (crop_gives h.chars limit).map fun cs hcs => h.setChars hcs
    | ellipsis =>
      refine (crop_gives h.chars (limit - 1)).map fun cs hcs => h.setChars (hcs.append ?_)
      exact List.forall_mem_singleton.mpr (by decide)

theorem Sound.trimEnd (h : Sound t) : Sound (t.setChars (Text.trimEnd t.chars)) := by
  refine h.setChars (h.chars.subset ?_)
  intro c hc
  have hmem := List.dropWhile_subset _ (List.mem_reverse.mp hc)
  exact List.mem_reverse.mp hmem

theorem Sound.place (h : Sound t) (limit : Nat) (overflow : Overflow) (justify : Justify) :
    Gives (place limit overflow t justify) Sound := by
  cases justify with
  | ragged => exact gives_ok h
  | left =>
    refine (h.truncate limit overflow).bind fun cut hcut => gives_ok ?_
    exact hcut.withChars (hcut.chars.append (steady_spaces _))
  | right =>
    exact (h.trimEnd.truncate limit overflow).bind fun cut hcut => gives_ok (hcut.indent _)
  | centre =>
    refine (h.trimEnd.truncate limit overflow).bind fun cut hcut => gives_ok ?_
    have hmoved := hcut.indent ((limit - width cut.chars) / 2)
    exact hmoved.withChars (hmoved.chars.append (steady_spaces _))

theorem Sound.wrapLine (h : Sound t) (limit : Nat) (overflow : Overflow) (justify : Justify) :
    Gives (wrapLine limit overflow justify t) fun lines => ∀ line ∈ lines, Sound line := by
  apply gives_mapM
  intro part hpart
  have hsound := (h.expandTabs.of_mem_divide hpart).dropExcessBlanks limit
  exact (hsound.place limit overflow justify).bind fun placed hplaced => hplaced.truncate limit overflow

theorem Sound.wrap (h : Sound t) (limit : Nat) (overflow : Overflow) (justify : Justify) :
    Gives (wrap limit overflow justify t) fun lines => ∀ line ∈ lines, Sound line := by
  have hlines := gives_mapM fun line hline => (h.of_mem_lines hline).wrapLine limit overflow justify
  refine hlines.bind fun wrapped hwrapped => gives_ok ?_
  intro line hline
  obtain ⟨part, hpart, hmem⟩ := List.mem_flatten.mp hline
  exact hwrapped part hpart line hmem

end Texts

/-! ### Blocks -/

/-- Markup that reads as a sound text. -/
def Readable (s : String) : Prop := Gives (Markup.read s) Sound

/-- A cell that reads as a sound text. -/
def Cell.Readable : Cell → Prop
  | .markup s => Console.Readable s
  | .styled s _ => Steady s.toList

/-- A block all of whose markup reads as sound texts. -/
def Block.Readable : Block → Prop
  | .blank => True
  | .line s => Console.Readable s
  | .panel p => Console.Readable p.title ∧ Console.Readable p.body
  | .table t =>
    (∀ s ∈ t.title, Console.Readable s) ∧
      ∀ c ∈ t.columns, Console.Readable c.header ∧ ∀ cell ∈ c.cells, cell.Readable

/-- Lines of steady characters. -/
def SteadyLines (lines : List Line) : Prop := ∀ line ∈ lines, line.Steady

theorem steadyLines_append {as bs : List Line} (has : SteadyLines as) (hbs : SteadyLines bs) :
    SteadyLines (as ++ bs) := List.forall_mem_append.mpr ⟨has, hbs⟩

theorem steadyLines_single {cs : List Char} (h : Steady cs) : SteadyLines [[cs]] := by
  intro line hline
  rw [List.mem_singleton.mp hline]
  exact List.forall_mem_singleton.mpr h

theorem Sound.linesIn {t : Styled} (h : Sound t) (cells : Nat) (overflow : Overflow)
    (justify : Justify) : Gives (linesIn cells overflow justify t) SteadyLines := by
  unfold Console.linesIn
  split
  · exact gives_ok (by simp [SteadyLines])
  · refine (h.wrap cells overflow justify).mapError.bind fun lines hlines => ?_
    have hfaults : (lines.flatMap (·.spans)).findSome? (·.fault) = none := by
      refine List.findSome?_eq_none_iff.mpr fun span hspan => ?_
      obtain ⟨line, hline, hmem⟩ := List.mem_flatMap.mp hspan
      exact (hlines line hline).spans span hmem
    rw [hfaults]
    refine gives_ok fun run hrun => ?_
    obtain ⟨line, hline, rfl⟩ := List.mem_map.mp hrun
    exact steady_runs (hlines line hline)

theorem drawLine_gives {s : String} (h : Readable s) (console : Nat) :
    Gives (drawLine console s) SteadyLines := by
  refine h.mapError.bind fun t ht => Sound.linesIn ?_ console .fold .ragged
  refine ⟨ht.chars, List.forall_mem_append.mpr ⟨?_, ht.spans⟩⟩
  intro span hspan
  obtain ⟨stretch, -, rfl⟩ := List.mem_map.mp hspan
  rfl

/-! ### Frames -/

theorem steady_joined {divider : Char} (hdivider : isSteady divider = true) {cells : List (List Char)}
    (hcells : ∀ cell ∈ cells, Steady cell) : Steady (joined divider cells) := by
  fun_induction joined divider cells with
  | case1 => simp [Steady]
  | case2 cell => exact hcells cell List.mem_cons_self
  | case3 cell rest _ ih =>
    obtain ⟨hcell, hrest⟩ := List.forall_mem_cons.mp hcells
    exact hcell.append (steady_cons.mpr ⟨hdivider, ih hrest⟩)

/-- An edge of steady characters. -/
def Edge.Steady (edge : Edge) : Prop := Console.Steady [edge.left, edge.fill, edge.divider, edge.right]

theorem steady_edge {edge : Edge} (h : edge.Steady) (widths : List Nat) :
    Steady (edge.draw widths) := by
  simp only [Edge.Steady, steady_cons] at h
  obtain ⟨hleft, hfill, hdivider, hright, hnil⟩ := h
  refine steady_cons.mpr ⟨hleft, Steady.append (steady_joined hdivider ?_) (steady_cons.mpr ⟨hright, hnil⟩)⟩
  intro cell hcell
  obtain ⟨w, -, rfl⟩ := List.mem_map.mp hcell
  exact steady_replicate hfill w

theorem steady_strokes (frame : Frame) :
    frame.strokes.top.Steady ∧ frame.strokes.head.Steady ∧ frame.strokes.bottom.Steady ∧
      isSteady frame.strokes.bar = true := by
  cases frame <;> (unfold Edge.Steady; decide)

/-! ### Panels -/

theorem steady_centre {fill : Char} {cs : List Char} (hfill : isSteady fill = true) (h : Steady cs)
    (n : Nat) : Steady (centre fill n cs) :=
  ((steady_replicate hfill _).append h).append (steady_replicate hfill _)

theorem steady_top {title : List Char} (h : Steady title) (console : Nat) (p : Panel) :
    Steady (p.top console title) := by
  have hedge := (steady_strokes p.frame).1
  unfold Panel.top
  split
  · exact steady_edge hedge _
  · simp only [Edge.Steady, steady_cons] at hedge
    obtain ⟨hleft, hfill, -, hright, hnil⟩ := hedge
    have htext : Steady (' ' :: (title ++ [' '])) :=
      steady_cons.mpr ⟨by decide, h.append (steady_spaces 1)⟩
    refine Steady.append (Steady.append ?_ (steady_centre hfill ?_ _)) ?_
    · exact steady_cons.mpr ⟨hleft, steady_cons.mpr ⟨hfill, hnil⟩⟩
    · exact steady_takeCells (by rwa [flatMap_clusters])
    · exact steady_cons.mpr ⟨hfill, steady_cons.mpr ⟨hright, hnil⟩⟩

theorem barredRow_gives {bar : Char} {line : Line} (hbar : isSteady bar = true) (hline : line.Steady)
    (inner : Nat) :
    Gives (do
      let filled ← cutting (line.fill inner)
      pure ([[bar, ' ']] ++ filled ++ [[' ', bar]])) Line.Steady := by
  have hspace : isSteady ' ' = true := by decide
  have hnil : Steady [] := by simp [Steady]
  refine (steady_fill hline inner).mapError.bind fun filled hfilled => gives_ok ?_
  refine List.forall_mem_append.mpr ⟨List.forall_mem_append.mpr ⟨?_, hfilled⟩, ?_⟩
  · exact List.forall_mem_singleton.mpr (steady_cons.mpr ⟨hbar, steady_cons.mpr ⟨hspace, hnil⟩⟩)
  · exact List.forall_mem_singleton.mpr (steady_cons.mpr ⟨hspace, steady_cons.mpr ⟨hbar, hnil⟩⟩)

theorem panelDraw_gives {p : Panel} (htitle : Readable p.title) (hbody : Readable p.body)
    (console : Nat) : Gives (p.draw console) SteadyLines := by
  obtain ⟨-, -, hbottom, hbar⟩ := steady_strokes p.frame
  refine htitle.mapError.bind fun title htitle => ?_
  have hrows : ∀ body : List Line, SteadyLines body → Gives (do
      let rows ← body.mapM fun line => do
        let filled ← cutting (line.fill (console - 4))
        pure ([[p.frame.strokes.bar, ' ']] ++ filled ++ [[' ', p.frame.strokes.bar]])
      pure ([p.top console title.chars] :: (rows ++ [[p.frame.strokes.bottom.draw [console - 2]]])))
      SteadyLines := by
    intro body hlines
    refine (gives_mapM fun line hline => barredRow_gives hbar (hlines line hline) _).bind
      fun rows hrows => gives_ok ?_
    exact steadyLines_append (steadyLines_single (steady_top htitle.chars console p))
      (steadyLines_append hrows (steadyLines_single (steady_edge hbottom _)))
  dsimp only
  split
  · exact hrows [] (by simp [SteadyLines])
  · exact (hbody.mapError.bind fun t ht => ht.linesIn _ _ _).bind hrows

/-! ### Tables -/

/-- Columns whose texts are sound. -/
def SoundColumns (columns : List ReadColumn) : Prop := ∀ c ∈ columns, ∀ t ∈ c.texts, Sound t

theorem cellRead_gives {cell : Cell} (h : cell.Readable) : Gives cell.read Sound := by
  cases cell with
  | markup s => exact h.mapError
  | styled s style => exact gives_ok ⟨h.subset (List.filter_subset_self _), by simp⟩

theorem columnRead_gives {c : Column} (hheader : Readable c.header)
    (hcells : ∀ cell ∈ c.cells, cell.Readable) (limit : Nat) :
    Gives (c.read limit) fun r => ∀ t ∈ r.texts, Sound t := by
  unfold Column.read
  split
  · refine gives_ok fun t ht => ?_
    rw [List.eq_of_mem_replicate ht]
    exact sound_nil
  · refine hheader.mapError.bind fun header hheader => ?_
    refine (gives_mapM fun cell hcell => cellRead_gives (hcells cell hcell)).bind
      fun cells hcells => gives_ok ?_
    exact List.forall_mem_cons.mpr ⟨hheader, hcells⟩

theorem cellLines_gives {t : Styled} (h : Sound t) (width : Nat) (justify : Justify) :
    Gives (cellLines width justify t) SteadyLines := by
  refine (h.linesIn _ .ellipsis justify).bind fun lines hlines => gives_mapM fun line hline => ?_
  refine Gives.mapError ?_
  refine (steady_fill (hlines line hline) _).bind fun filled hfilled => ?_
  refine Gives.bind (steady_fill ?_ width) fun padded hpadded => steady_fill hpadded width
  have hpadding : Line.Steady [spaces cellPadding] := List.forall_mem_singleton.mpr (steady_spaces _)
  exact List.forall_mem_append.mpr ⟨List.forall_mem_append.mpr ⟨hpadding, hfilled⟩, hpadding⟩

theorem steady_barred {bar : Char} (hbar : isSteady bar = true) {lines : List Line}
    (h : SteadyLines lines) : Line.Steady (barred bar lines) := by
  fun_induction barred bar lines with
  | case1 => simp [Line.Steady]
  | case2 last => exact h last List.mem_cons_self
  | case3 line rest _ ih =>
    obtain ⟨hline, hrest⟩ := List.forall_mem_cons.mp h
    have hrun : Steady [bar] := List.forall_mem_singleton.mpr hbar
    exact List.forall_mem_append.mpr ⟨hline, List.forall_mem_cons.mpr ⟨hrun, ih hrest⟩⟩

theorem steady_sideBySide {bar : Char} (hbar : isSteady bar = true) {cells : List (List Line)}
    (h : ∀ lines ∈ cells, SteadyLines lines) (height : Nat) :
    SteadyLines (sideBySide bar height cells) := by
  have hrun : Line.Steady [[bar]] :=
    List.forall_mem_singleton.mpr (List.forall_mem_singleton.mpr hbar)
  intro line hline
  obtain ⟨i, -, rfl⟩ := List.mem_map.mp hline
  refine List.forall_mem_append.mpr ⟨hrun, List.forall_mem_append.mpr ⟨steady_barred hbar ?_, hrun⟩⟩
  intro row hrow
  obtain ⟨lines, hlines, rfl⟩ := List.mem_map.mp hrow
  cases hget : lines[i]? with
  | none => simp [Line.Steady]
  | some row => exact h lines hlines row (List.mem_of_getElem? hget)

theorem steady_fillLines {lines : List Line} (h : SteadyLines lines) (header : Bool)
    (height width : Nat) : SteadyLines (fillLines header height width lines) := by
  have hblank : SteadyLines (List.replicate (height - lines.length) [spaces width]) := by
    intro line hline
    rw [List.eq_of_mem_replicate hline]
    exact List.forall_mem_singleton.mpr (steady_spaces width)
  unfold fillLines
  cases header with
  | true => exact steadyLines_append hblank h
  | false => exact steadyLines_append h hblank

theorem drawRow_gives {bar : Char} (hbar : isSteady bar = true) {texts : List Styled}
    (h : ∀ t ∈ texts, Sound t) (header : Bool) (columns : List (ReadColumn × Nat)) :
    Gives (drawRow bar header columns texts) SteadyLines := by
  have hcells : Gives ((columns.zip texts).mapM fun cell => cellLines cell.1.2 cell.1.1.justify cell.2)
      fun cells => ∀ lines ∈ cells, SteadyLines lines := by
    apply gives_mapM
    rintro ⟨⟨c, w⟩, t⟩ hmem
    exact cellLines_gives (h t (List.of_mem_zip hmem).2) w c.justify
  refine hcells.bind fun cells hcells => gives_ok (steady_sideBySide hbar ?_ _)
  intro lines hlines
  obtain ⟨⟨⟨c, w⟩, drawn⟩, hmem, rfl⟩ := List.mem_map.mp hlines
  exact steady_fillLines (hcells drawn (List.of_mem_zip hmem).2) header _ w

theorem sound_rowsOf {columns : List ReadColumn} (h : SoundColumns columns) :
    ∀ row ∈ rowsOf columns, ∀ t ∈ row, Sound t := by
  intro row hrow t ht
  obtain ⟨i, -, rfl⟩ := List.mem_map.mp hrow
  obtain ⟨c, hc, rfl⟩ := List.mem_map.mp ht
  cases hget : c.texts[i]? with
  | none => exact sound_nil
  | some t => exact h c hc t (List.mem_of_getElem? hget)

theorem drawRows_gives (frame : Frame) (placed : List (ReadColumn × Nat)) {rows : List (List Styled)}
    (h : ∀ row ∈ rows, ∀ t ∈ row, Sound t) :
    Gives (drawRows frame.strokes placed rows) SteadyLines := by
  obtain ⟨-, hhead, -, hbar⟩ := steady_strokes frame
  cases rows with
  | nil => exact gives_ok (by simp [SteadyLines])
  | cons header body =>
    obtain ⟨hheader, hbody⟩ := List.forall_mem_cons.mp h
    refine (drawRow_gives hbar hheader true placed).bind fun first hfirst => ?_
    refine (gives_mapM fun row hrow => drawRow_gives hbar (hbody row hrow) false placed).bind
      fun rest hrest => gives_ok ?_
    refine steadyLines_append (steadyLines_append hfirst (steadyLines_single (steady_edge hhead _))) ?_
    intro line hline
    obtain ⟨lines, hlines, hmem⟩ := List.mem_flatten.mp hline
    exact hrest lines hlines line hmem

theorem tableDraw_gives {t : Table} (h : (Block.table t).Readable) (console : Nat) :
    Gives (t.draw console) SteadyLines := by
  obtain ⟨htitle, hcolumns⟩ := h
  obtain ⟨htop, -, hbottom, -⟩ := steady_strokes t.frame
  refine (gives_mapM fun c hc => columnRead_gives (hcolumns c hc).1 (hcolumns c hc).2 _).bind
    fun columns hcolumns => ?_
  have hdrawn : ∀ title : List Line, SteadyLines title → Gives (do
      let rows ← drawRows t.frame.strokes
        (columns.zip (columnWidths (console - (t.columns.length + 1)) columns)) (rowsOf columns)
      pure (title ++ [[t.frame.strokes.top.draw (columnWidths (console - (t.columns.length + 1)) columns)]]
        ++ rows ++
        [[t.frame.strokes.bottom.draw (columnWidths (console - (t.columns.length + 1)) columns)]]))
      SteadyLines := by
    intro title htitle
    refine (drawRows_gives t.frame _ (sound_rowsOf hcolumns)).bind fun rows hrows => gives_ok ?_
    refine steadyLines_append (steadyLines_append (steadyLines_append htitle ?_) hrows) ?_
    · exact steadyLines_single (steady_edge htop _)
    · exact steadyLines_single (steady_edge hbottom _)
  dsimp only
  split
  · exact hdrawn [] (by simp [SteadyLines])
  · next s hs =>
    have hread : Readable s := htitle s hs
    exact (hread.mapError.bind fun text htext => htext.linesIn _ _ _).bind hdrawn

/-! ### Reports -/

theorem blockLines_gives {block : Block} (h : block.Readable) (console : Nat) :
    Gives (block.lines console) SteadyLines := by
  have hnil : SteadyLines [] := by simp [SteadyLines]
  cases block with
  | blank =>
    refine gives_ok ?_
    split
    · exact hnil
    · simp [SteadyLines, Line.Steady]
  | line s => exact drawLine_gives h console
  | panel p =>
    rw [Block.lines]
    split
    · exact gives_ok hnil
    · exact panelDraw_gives h.1 h.2 console
  | table t =>
    rw [Block.lines]
    split
    · exact gives_ok hnil
    · exact tableDraw_gives h console

theorem blockDraw_gives {block : Block} (h : block.Readable) (console : Nat) :
    Gives (block.draw console) fun _ => True := by
  refine (blockLines_gives h console).bind fun lines hlines => ?_
  have hcropped := gives_mapM fun line hline => steady_lineCrop (hlines line hline) console
  exact hcropped.mapError.bind fun _ _ => gives_ok trivial

/-- **Readable reports are drawn to their end**, on every console. -/
theorem drawAll_error_eq_none {blocks : List Block} (h : ∀ block ∈ blocks, block.Readable)
    (console : Nat) : (drawAll console blocks).error = none := by
  induction blocks with
  | nil => rfl
  | cons block blocks ih =>
    obtain ⟨hblock, hrest⟩ := List.forall_mem_cons.mp h
    obtain ⟨text, htext, -⟩ := blockDraw_gives hblock console
    rw [drawAll, htext]
    exact ih hrest

end TreeLint.Console
