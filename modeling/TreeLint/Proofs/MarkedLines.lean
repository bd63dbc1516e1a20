/-
  TreeLint/Proofs/MarkedLines.lean
  ================================
  **Lines of texts and tags.**  Lines are made of texts and pairs of tags around texts (`source`).  Such a
  line shows the texts, and nothing else, exactly when each of them is inert (`read_source_iff`), and then
  all the styles that it leaves behind can be drawn.

  A line holds no more than its texts, in their order (`held_source`).  So a line that shows them has all
  their colons, which rules out codes, and all their characters, which rules out tags.
-/
import TreeLint.Proofs.MarkupText

namespace TreeLint.Console.Markup

variable {cs rest body : List Char} {ps : List Piece}

/-! ### Pairs of tags -/

/-- A text between an opening and a closing tag, and the text after it. -/
structure Marked where
  style : List Char
  closing : List Char
  text : List Char
  after : List Char

/-- The markup of a text and marked texts after it. -/
def source : List Char → List Marked → List Char
  | lead, [] => lead
  | lead, m :: ms =>
    lead ++ '[' :: (m.style ++ ']' :: (m.text ++ '[' :: (m.closing ++ ']' :: source m.after ms)))

/-- The texts without the tags. -/
def texts : List Char → List Marked → List (List Char)
  | lead, [] => [lead]
  | lead, m :: ms => lead :: m.text :: texts m.after ms

/-- No text before a tag ends with a backslash. -/
def Separate : List Char → List Marked → Prop
  | _, [] => True
  | lead, m :: ms =>
    lead.getLast? ≠ some '\\' ∧ m.text.getLast? ≠ some '\\' ∧ Separate m.after ms

/-- Whether two tags open and close a style that can be drawn. -/
def isPair (style closing : List Char) : Bool :=
  tagBody? (style ++ [']']) == some style && tagBody? (closing ++ [']']) == some closing
    && (style.takeWhile (· != '=')).head? != some '/'
    && match OpenTag.ofBody 0 style, closing.takeWhile (· != '=') with
      | .ok tag, '/' :: name =>
        !tag.isEvent && tag.fault.isNone
          && ((Text.trim name).isEmpty || Style.normalForm name == .ok tag.name)
      | _, _ => false

theorem tagBody?_closing (h : tagBody? (body ++ [']']) = some body) (rest : List Char) :
    tagBody? (body ++ ']' :: rest) = some body := by
  obtain ⟨hstart, hbody, -⟩ := tagBody?_eq_some_iff.mp h
  exact tagBody?_eq_some_iff.mpr ⟨hstart, hbody, rest, rfl⟩

theorem ofBody_start {tag : OpenTag} (h : OpenTag.ofBody 0 body = .ok tag) (offset : Nat) :
    OpenTag.ofBody offset body = .ok { tag with start := offset } := by
  simp only [OpenTag.ofBody] at h ⊢
  split at h
  · cases h
  · next form hform =>
    obtain rfl := Except.ok.inj h
    rfl

theorem isPair_bodies {style closing : List Char} (h : isPair style closing = true) :
    tagBody? (style ++ [']']) = some style ∧ tagBody? (closing ++ [']']) = some closing := by
  simp only [isPair, Bool.and_eq_true, beq_iff_eq] at h
  exact ⟨h.1.1.1, h.1.1.2⟩

/-- A pair of tags leaves a span behind that can be drawn, and no open tag. -/
theorem shown_pair {style closing : List Char} (h : isPair style closing = true)
    (hps : Tagless ps) (offset first second : Nat) (qs : List Piece) :
    shown offset [] (.tag first style :: (ps ++ .tag second closing :: qs)) =
      (shown (offset + (visible ps).length) [] qs).map fun t =>
        ⟨visible ps ++ t.chars, ⟨offset, offset + (visible ps).length, none⟩ :: t.spans⟩ := by
  simp only [isPair, Bool.and_eq_true] at h
  obtain ⟨⟨-, hopening⟩, hpair⟩ := h
  split at hpair
  case h_2 => cases hpair
  case h_1 tag name htag hname =>
    simp only [Bool.and_eq_true, Bool.or_eq_true, Bool.not_eq_true', Option.isNone_iff_eq_none,
      beq_iff_eq] at hpair
    obtain ⟨⟨hevent, hfault⟩, hmatch⟩ := hpair
    have hopened : shown offset [] (.tag first style :: (ps ++ .tag second closing :: qs)) =
        shown offset [{ tag with start := offset }] (ps ++ .tag second closing :: qs) := by
      rw [shown]
      split
      · next slash hslash => simp [hslash] at hopening
      · rw [ofBody_start htag]
        rfl
    have hpopped : popClosed [{ tag with start := offset }] second closing name =
        .ok ({ tag with start := offset }, []) := by
      unfold popClosed
      by_cases hempty : (Text.trim name).isEmpty = true
      · rw [if_pos hempty]
      · have hform := hmatch.resolve_left hempty
        rw [if_neg hempty, hform]
        simp [popNamed?]
    have hclosed : OpenTag.close (offset + (visible ps).length) { tag with start := offset } =
        .ok ⟨offset, offset + (visible ps).length, none⟩ := by
      have hevent' : OpenTag.isEvent { tag with start := offset } = false := hevent
      have hfault' : OpenTag.fault { tag with start := offset } = none := hfault
      simp [OpenTag.close, hevent', OpenTag.span, hfault']
    rw [hopened, shown_tagless hps, shown, hname]
    simp only [hpopped, hclosed, bind, Except.bind]
    cases shown (offset + (visible ps).length) [] qs with
    | error e => rfl
    | ok t => rfl

/-- A text before a tag is read up to the tag. -/
theorem exists_scan_tag (hcs : cs.getLast? ≠ some '\\') (hbody : tagBody? (body ++ [']']) = some body)
    (position : Nat) (rest : List Char) :
    ∃ ps next, Scan 0 cs ps 0 ∧
      joined (pieces 0 position 0 (cs ++ '[' :: (body ++ ']' :: rest))) =
        (joined ps ++ [.escaped []]) ++ .tag (position + cs.length) body
          :: joined (pieces 0 next 0 rest) := by
  obtain ⟨ps, left, hscan, hps⟩ :=
    exists_scan (opens_bracket (body ++ ']' :: rest)) cs position 0
  have hleft : left = 0 := by
    by_contra hne
    exact hcs (hscan.left_pos_iff.mp (by omega))
  subst hleft
  refine ⟨ps, position + cs.length + (body.length + 2), hscan, ?_⟩
  rw [hps, pieces_tag (tagBody?_closing hbody rest), joined_append (by simp), if_neg (by decide),
    joined_cons (by simp), List.append_assoc, List.singleton_append]
  rfl

/-! ### What a line shows -/

section Lines

variable {lead : List Char} {ms : List Marked}

theorem shown_source (hpairs : ∀ m ∈ ms, isPair m.style m.closing = true) (hseparate : Separate lead ms)
    (hinert : ∀ t ∈ texts lead ms, inert t = true) (offset position : Nat) :
    ∃ spans, shown offset [] (joined (pieces 0 position 0 (source lead ms))) =
        .ok ⟨(texts lead ms).flatten, spans⟩ ∧ ∀ span ∈ spans, span.fault = none := by
  induction ms generalizing lead offset position with
  | nil =>
    have hlead : inert lead = true := hinert lead (by simp [texts])
    refine ⟨[], ?_, by simp⟩
    rw [source, joined_pieces_of_unmarked (inert_iff.mp hlead).1, shown_of_ne_tag (by simp), Piece.chars,
      sent_of_inert hlead]
    simp [shown, Except.map, texts]
  | cons m ms ih =>
    obtain ⟨hpair, hpairs'⟩ := List.forall_mem_cons.mp hpairs
    obtain ⟨hlead, htext, hseparate'⟩ := hseparate
    simp only [texts, List.forall_mem_cons] at hinert
    obtain ⟨hinert₁, hinert₂, hinert'⟩ := hinert
    obtain ⟨hstyle, hclosing⟩ := isPair_bodies hpair
    obtain ⟨ps, next, hscan, hps⟩ := exists_scan_tag hlead hstyle position
      (m.text ++ '[' :: (m.closing ++ ']' :: source m.after ms))
    obtain ⟨qs, next', hscan', hqs⟩ := exists_scan_tag htext hclosing next (source m.after ms)
    obtain ⟨htagless, hvisible⟩ := hscan.shows hinert₁
    obtain ⟨htagless', hvisible'⟩ := hscan'.shows hinert₂
    obtain ⟨spans, hspans, hfaults⟩ := ih hpairs' hseparate' hinert'
      (offset + lead.length + m.text.length) next'
    refine ⟨⟨offset + lead.length, offset + lead.length + m.text.length, none⟩ :: spans, ?_, ?_⟩
    · rw [source, hps, hqs, shown_tagless htagless, hvisible, shown_pair hpair htagless', hvisible',
        hspans]
      simp [Except.map, texts]
    · simpa using hfaults

/-- A line holds no more than its texts, and all of it only if they are unmarked. -/
theorem held_source (hpairs : ∀ m ∈ ms, isPair m.style m.closing = true) (hseparate : Separate lead ms)
    (position : Nat) :
    (held (joined (pieces 0 position 0 (source lead ms)))).Sublist (texts lead ms).flatten ∧
      (held (joined (pieces 0 position 0 (source lead ms))) = (texts lead ms).flatten →
        ∀ t ∈ texts lead ms, unmarked t = true) := by
  induction ms generalizing lead position with
  | nil =>
    obtain ⟨ps, left, hscan, hps⟩ := exists_scan opens_nil lead position 0
    have hheld : held (joined (pieces 0 position 0 lead)) = held ps ++ backslashes left := by
      rw [List.append_nil] at hps
      rw [held_joined, hps, held_append, pieces, held_cons, Piece.chars, printable_backslashes, held_nil,
        List.append_nil]
    simp only [source, texts, List.flatten_singleton, List.mem_singleton, forall_eq, hheld]
    refine ⟨hscan.sublist, ?_⟩
    intro heq
    have hlength := congrArg List.length heq
    rw [List.length_append, length_backslashes] at hlength
    exact (hscan.unmarked_of_length_held (by omega)).1
  | cons m ms ih =>
    obtain ⟨hpair, hpairs'⟩ := List.forall_mem_cons.mp hpairs
    obtain ⟨hlead, htext, hseparate'⟩ := hseparate
    obtain ⟨hstyle, hclosing⟩ := isPair_bodies hpair
    obtain ⟨ps, next, hscan, hps⟩ := exists_scan_tag hlead hstyle position
      (m.text ++ '[' :: (m.closing ++ ']' :: source m.after ms))
    obtain ⟨qs, next', hscan', hqs⟩ := exists_scan_tag htext hclosing next (source m.after ms)
    obtain ⟨hsublist, htight⟩ := ih hpairs' hseparate' next'
    have hheld : held (joined (pieces 0 position 0 (source lead (m :: ms)))) =
        held ps ++ (held qs ++ held (joined (pieces 0 next' 0 (source m.after ms)))) := by
      rw [source, hps, hqs]
      simp [held_joined, Piece.chars, printable]
    have hlead' : (held ps).Sublist lead := by simpa [backslashes] using hscan.sublist
    have htext' : (held qs).Sublist m.text := by simpa [backslashes] using hscan'.sublist
    simp only [texts, List.flatten_cons, hheld, List.forall_mem_cons]
    refine ⟨hlead'.append (htext'.append hsublist), ?_⟩
    intro heq
    have hlength := congrArg List.length heq
    have hle₁ := hlead'.length_le
    have hle₂ := htext'.length_le
    have hle₃ := hsublist.length_le
    simp only [List.length_append] at hlength
    refine ⟨?_, ?_, htight (hsublist.eq_of_length (by omega))⟩
    · exact (hscan.unmarked_of_length_held (by omega)).1
    · exact (hscan'.unmarked_of_length_held (by omega)).1

/-- The stretches of a line with unmarked texts are the texts, so codes in them are codes in the line. -/
theorem codeless_source (hpairs : ∀ m ∈ ms, isPair m.style m.closing = true)
    (hseparate : Separate lead ms) (hunmarked : ∀ t ∈ texts lead ms, unmarked t = true) (position : Nat)
    (hcodeless : ∀ p ∈ joined (pieces 0 position 0 (source lead ms)), Emoji.codeless p.chars = true) :
    ∀ t ∈ texts lead ms, Emoji.codeless t = true := by
  induction ms generalizing lead position with
  | nil =>
    simp only [texts, List.mem_singleton, forall_eq] at hunmarked ⊢
    rw [source, joined_pieces_of_unmarked hunmarked] at hcodeless
    exact hcodeless _ List.mem_cons_self
  | cons m ms ih =>
    obtain ⟨hpair, hpairs'⟩ := List.forall_mem_cons.mp hpairs
    obtain ⟨hlead, htext, hseparate'⟩ := hseparate
    obtain ⟨hstyle, hclosing⟩ := isPair_bodies hpair
    obtain ⟨ps, next, hscan, hps⟩ := exists_scan_tag hlead hstyle position
      (m.text ++ '[' :: (m.closing ++ ']' :: source m.after ms))
    obtain ⟨qs, next', hscan', hqs⟩ := exists_scan_tag htext hclosing next (source m.after ms)
    simp only [texts, List.forall_mem_cons] at hunmarked ⊢
    rw [source, hps, hqs] at hcodeless
    simp only [List.forall_mem_append, List.forall_mem_cons] at hcodeless
    obtain ⟨⟨hps', -⟩, -, ⟨hqs', -⟩, -, hrest⟩ := hcodeless
    exact ⟨hscan.codeless hunmarked.1 hps', hscan'.codeless hunmarked.2.1 hqs',
      ih hpairs' hseparate' hunmarked.2.2 next' hrest⟩

theorem read_source (hpairs : ∀ m ∈ ms, isPair m.style m.closing = true) (hseparate : Separate lead ms)
    (hinert : ∀ t ∈ texts lead ms, inert t = true) :
    ∃ spans, read (String.ofList (source lead ms)) = .ok ⟨(texts lead ms).flatten, spans⟩ ∧
      ∀ span ∈ spans, span.fault = none := by
  obtain ⟨spans, hshown, hfaults⟩ := shown_source hpairs hseparate hinert 0 0
  refine ⟨spans.reverse.mergeSort fun a b => a.start ≤ b.start, ?_, ?_⟩
  · rw [read, String.toList_ofList, hshown]
    rfl
  · intro span hspan
    exact hfaults span (by simpa using hspan)

/-- A line shows its texts exactly when they are inert. -/
theorem read_source_iff (hpairs : ∀ m ∈ ms, isPair m.style m.closing = true)
    (hseparate : Separate lead ms) :
    (read (String.ofList (source lead ms))).map (·.chars) = .ok (texts lead ms).flatten ↔
      ∀ t ∈ texts lead ms, inert t = true := by
  constructor
  · intro h
    obtain ⟨t, ht, hchars⟩ := map_eq_ok_iff.mp h
    rw [chars_of_read ht, String.toList_ofList] at hchars
    obtain ⟨hsublist, htight⟩ := held_source hpairs hseparate 0
    -- the colons first: they are all there, so nothing has been replaced
    have hcolons := hsublist.count_le ':'
    rw [← hchars] at hcolons
    obtain ⟨hcodeless, hvisible⟩ := codeless_of_count hcolons
    have hunmarked := htight (hvisible.symm.trans hchars)
    intro t ht
    exact inert_iff.mpr ⟨hunmarked t ht, codeless_source hpairs hseparate hunmarked 0 hcodeless t ht⟩
  · intro h
    obtain ⟨spans, hread, -⟩ := read_source hpairs hseparate h
    rw [hread]
    rfl

end Lines

/-! ### A text at the end of a line -/

section Marked

variable {style closing : List Char}

/-- What a line with one marked text holds.  Backslashes at the end of the text meet the closing tag. -/
theorem held_marked (hpair : isPair style closing = true) (cs : List Char) :
    ∃ ps left, Scan 0 cs ps left ∧
      held (joined (pieces 0 0 0 (source [] [⟨style, closing, cs, []⟩]))) =
        held ps ++ (backslashes (left / 2) ++
          if left % 2 = 1 then printable ('[' :: (closing ++ [']'])) else []) := by
  obtain ⟨hstyle, hclosing⟩ := isPair_bodies hpair
  obtain ⟨ps, left, hscan, hps⟩ :=
    exists_scan (opens_bracket (closing ++ ']' :: [])) cs (0 + (style.length + 2)) 0
  have hnone : printable [] = [] := rfl
  refine ⟨ps, left, hscan, ?_⟩
  rw [held_joined, source, source, List.nil_append, pieces_tag (tagBody?_closing hstyle _), hps,
    pieces_tag (tagBody?_closing hclosing _)]
  by_cases hodd : left % 2 = 1
  · simp [hodd, Piece.chars, printable_backslashes, pieces, hnone]
  · simp [hodd, Piece.chars, printable_backslashes, pieces, hnone]

/-- A backslash at the end of a text makes the closing tag show, or is lost. -/
theorem held_marked_ne (hpair : isPair style closing = true) (hlast : cs.getLast? = some '\\') :
    held (joined (pieces 0 0 0 (source [] [⟨style, closing, cs, []⟩]))) ≠ cs := by
  obtain ⟨ps, left, hscan, hheld⟩ := held_marked hpair cs
  have hleft : 0 < left := hscan.left_pos_iff.mpr hlast
  intro hcs
  rw [hheld] at hcs
  by_cases hodd : left % 2 = 1
  · -- the bracket of the closing tag comes last
    have hend := congrArg List.getLast? hcs
    have hshown : isDropped ']' = false := by decide
    simp [hodd, printable, hlast, hshown, List.getLast?_append] at hend
  · -- half of the backslashes are gone
    have hlength := congrArg List.length hcs
    have hle := hscan.length_held_le
    rw [if_neg hodd, List.append_nil, List.length_append, length_backslashes] at hlength
    omega

/-- The tags of a line bring no colons of their own. -/
theorem count_held_marked_le (hpair : isPair style closing = true) (hcolon : ':' ∉ closing)
    (cs : List Char) :
    (held (joined (pieces 0 0 0 (source [] [⟨style, closing, cs, []⟩])))).count ':' ≤ cs.count ':' := by
  obtain ⟨ps, left, hscan, hheld⟩ := held_marked hpair cs
  have hle := hscan.sublist.count_le ':'
  have hslashes : ∀ n, (backslashes n).count ':' = 0 := by
    intro n
    rw [List.count_eq_zero, backslashes, List.mem_replicate]
    simp
  have hclosing : (printable ('[' :: (closing ++ [']']))).count ':' = 0 := by
    rw [count_printable]
    simp [List.count_eq_zero.mpr hcolon]
  rw [List.count_append, List.count_append, hslashes, hslashes] at hle
  rw [hheld, List.count_append, List.count_append, hslashes]
  split
  · omega
  · simpa using hle

/-- A text between two tags shows exactly when it is inert and no backslash at its end spoils the closing
tag. -/
theorem read_marked_iff (hpair : isPair style closing = true) (hcolon : ':' ∉ closing) :
    (read (String.ofList (source [] [⟨style, closing, cs, []⟩]))).map (·.chars) = .ok cs ↔
      inert cs = true ∧ cs.getLast? ≠ some '\\' := by
  by_cases hlast : cs.getLast? = some '\\'
  · refine iff_of_false ?_ (by simp [hlast])
    intro h
    obtain ⟨t, ht, hchars⟩ := map_eq_ok_iff.mp h
    rw [chars_of_read ht, String.toList_ofList] at hchars
    have hcolons : (held (joined (pieces 0 0 0 (source [] [⟨style, closing, cs, []⟩])))).count ':' ≤
        (visible (joined (pieces 0 0 0 (source [] [⟨style, closing, cs, []⟩])))).count ':' := by
      rw [hchars]
      exact count_held_marked_le hpair hcolon cs
    exact held_marked_ne hpair hlast ((codeless_of_count hcolons).2.symm.trans hchars)
  · have hpairs : ∀ m ∈ [Marked.mk style closing cs []], isPair m.style m.closing = true := by
      simpa using hpair
    have hseparate : Separate [] [⟨style, closing, cs, []⟩] := ⟨by simp, hlast, trivial⟩
    have hiff := read_source_iff hpairs hseparate
    have hempty : inert [] = true := by decide
    simpa [texts, hempty, hlast] using hiff

end Marked

end TreeLint.Console.Markup
