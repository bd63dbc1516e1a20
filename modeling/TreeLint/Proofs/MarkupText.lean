/-
  TreeLint/Proofs/MarkupText.lean
  ===============================
  **What markup makes of text.**  A text that is put into markup as it is may be read as something else:
  tags vanish, backslashes before brackets are dropped, some characters are never sent to a console, and
  emoji take the place of their codes.  A text is inert if none of that happens in it (`inert`).

  Reading a text from left to right is described by a relation (`Scan`), which holds between the
  text, the pieces that are made of it and the backslashes left over at its end.  It is the same whatever
  markup follows, as long as that does not go on with a closing bracket.  By induction on it, the pieces
  hold some of the characters of the text in their order (`Scan.sublist`), and all of them only if nothing
  in it is marked.  Then it is one stretch of text.  Whether codes are replaced in a stretch is told
  afterwards, by its colons (`codeless_of_count`).
-/
import Mathlib.Data.List.TakeWhile
import TreeLint.Console.Markup
import TreeLint.Proofs.EmojiCodes

namespace TreeLint.Console

theorem bind_eq_ok_iff {ε α β : Type} {x : Except ε α} {f : α → Except ε β} {b : β} :
    x >>= f = .ok b ↔ ∃ a, x = .ok a ∧ f a = .ok b := by
  cases x with
  | error e => simp [bind, Except.bind]
  | ok a => simp [bind, Except.bind]

theorem map_eq_ok_iff {ε α β : Type} {x : Except ε α} {f : α → β} {b : β} :
    x.map f = .ok b ↔ ∃ a, x = .ok a ∧ f a = b := by
  cases x with
  | error e => simp [Except.map]
  | ok a => simp [Except.map]

namespace Markup

variable {cs rest body : List Char} {ps : List Piece} {run left position : Nat}

/-! ### Texts that show as they are -/

/-- Whether a text has no character that is dropped, no tag, and no backslash right before an opening
bracket. -/
def unmarked : List Char → Bool
  | [] => true
  | c :: rest =>
    !isDropped c && !(c == '[' && (tagBody? rest).isSome) && !(c == '\\' && rest.head? == some '[')
      && unmarked rest

/-- Whether a text shows as it is. -/
def inert (cs : List Char) : Bool := unmarked cs && Emoji.codeless cs

theorem inert_iff : inert cs = true ↔ unmarked cs = true ∧ Emoji.codeless cs = true := by
  rw [inert, Bool.and_eq_true]

/-- Markup that can stand after a text without making a tag out of its end: before a closing bracket
stands an opening one. -/
def Opens (rest : List Char) : Prop := ∀ front after, rest = front ++ ']' :: after → '[' ∈ front

theorem opens_nil : Opens [] := by
  intro front after h
  simp at h

theorem opens_bracket (rest : List Char) : Opens ('[' :: rest) := by
  intro front after h
  cases front with
  | nil => simp at h
  | cons c front =>
    obtain ⟨rfl, -⟩ := List.cons.inj h
    exact List.mem_cons_self

/-- The body of a tag begins in a certain way, holds no brackets, and is followed by a closing one. -/
theorem tagBody?_eq_some_iff :
    tagBody? cs = some body ↔
      (∃ c, body.head? = some c ∧ isTagStart c = true) ∧
        (∀ c ∈ body, (c != '[' && c != ']') = true) ∧ ∃ after, cs = body ++ ']' :: after := by
  cases cs with
  | nil => simp [tagBody?]
  | cons c cs =>
    simp only [tagBody?, Option.ite_none_right_eq_some, Option.some.injEq]
    refine (and_congr_right fun _ => Text.run_before_iff (by simp)).trans ?_
    constructor
    · rintro ⟨hstart, hbody, after, hcs⟩
      refine ⟨?_, hbody, after, hcs⟩
      cases body with
      | nil =>
        obtain ⟨rfl, -⟩ := List.cons.inj hcs
        exact absurd hstart (by decide)
      | cons d body =>
        obtain ⟨rfl, -⟩ := List.cons.inj hcs
        exact ⟨c, rfl, hstart⟩
    · rintro ⟨⟨d, hhead, hstart⟩, hbody, after, hcs⟩
      refine ⟨?_, hbody, after, hcs⟩
      obtain ⟨tail, rfl⟩ := List.head?_eq_some_iff.mp hhead
      obtain ⟨rfl, -⟩ := List.cons.inj hcs
      exact hstart

theorem tagBody?_append (h : Opens rest) (cs : List Char) : tagBody? (cs ++ rest) = tagBody? cs := by
  have hends : ∀ front after, rest = front ++ ']' :: after →
      ∃ c ∈ front, (c != '[' && c != ']') = false := by
    intro front after hrest
    exact ⟨'[', h front after hrest, by decide⟩
  apply Option.ext
  intro body
  simp only [tagBody?_eq_some_iff]
  exact and_congr_right fun _ => and_congr_right fun hbody => Text.before_append_iff hbody hends

theorem unmarked_append (hopens : Opens rest) (hrest : rest.head? ≠ some '[') (cs : List Char) :
    unmarked (cs ++ rest) = (unmarked cs && unmarked rest) := by
  induction cs with
  | nil => rfl
  | cons c cs ih =>
    have hhead : ((cs ++ rest).head? == some '[') = (cs.head? == some '[') := by
      cases cs with
      | nil => simpa using hrest
      | cons d cs => rfl
    rw [List.cons_append, unmarked, unmarked, ih, tagBody?_append hopens, hhead]
    simp only [Bool.and_assoc]

/-! ### Reading a text -/

def Piece.chars : Piece → List Char
  | .text cs => cs
  | .escaped cs => cs
  | .tag _ _ => []

/-- The characters of pieces that a console can be sent, codes included. -/
def held (ps : List Piece) : List Char := ps.flatMap fun p => printable p.chars

/-- The characters that pieces show. -/
def visible (ps : List Piece) : List Char := ps.flatMap fun p => sent p.chars

@[simp] theorem held_nil : held [] = [] := rfl

@[simp] theorem held_cons (p : Piece) (ps : List Piece) : held (p :: ps) = printable p.chars ++ held ps :=
  List.flatMap_cons

@[simp] theorem held_append (ps qs : List Piece) : held (ps ++ qs) = held ps ++ held qs :=
  List.flatMap_append

@[simp] theorem visible_nil : visible [] = [] := rfl

@[simp] theorem visible_cons (p : Piece) (ps : List Piece) :
    visible (p :: ps) = sent p.chars ++ visible ps := List.flatMap_cons

@[simp] theorem visible_append (ps qs : List Piece) : visible (ps ++ qs) = visible ps ++ visible qs :=
  List.flatMap_append

theorem printable_sublist (cs : List Char) : (printable cs).Sublist cs := List.filter_sublist

@[simp] theorem backslashes_zero : backslashes 0 = [] := rfl

theorem printable_backslashes (n : Nat) : printable (backslashes n) = backslashes n := by
  refine List.filter_eq_self.mpr fun c hc => ?_
  rw [List.eq_of_mem_replicate hc]
  decide

/-- What is made of a text by reading it after `run` backslashes: pieces, and `left` backslashes at the
end that are still to be read.  What a tag becomes depends on how many backslashes stand before it. -/
inductive Scan : Nat → List Char → List Piece → Nat → Prop where
  | done {run : Nat} : Scan run [] [] run
  | backslash {run left : Nat} {cs : List Char} {ps : List Piece} (h : Scan (run + 1) cs ps left) :
    Scan run ('\\' :: cs) ps left
  | tag {run left : Nat} {body cs : List Char} {ps : List Piece} (position : Nat)
    (hbody : tagBody? (body ++ ']' :: cs) = some body) (h : Scan 0 cs ps left) :
    Scan run ('[' :: (body ++ ']' :: cs))
      (.escaped (backslashes (run / 2))
        :: (if run % 2 = 1 then .escaped ('[' :: (body ++ [']'])) else .tag position body) :: ps) left
  | bracket {run left : Nat} {cs : List Char} {ps : List Piece} (htag : tagBody? cs = none)
    (h : Scan 0 cs ps left) : Scan run ('[' :: cs) (.text (backslashes (run - 1) ++ ['[']) :: ps) left
  | char {run left : Nat} {c : Char} {cs : List Char} {ps : List Piece} (hbackslash : c ≠ '\\')
    (hbracket : c ≠ '[') (h : Scan 0 cs ps left) :
    Scan run (c :: cs) (.text (backslashes run ++ [c]) :: ps) left

theorem pieces_skip (skipped rest : List Char) (position run : Nat) :
    pieces skipped.length position run (skipped ++ rest) =
      pieces 0 (position + skipped.length) run rest := by
  induction skipped generalizing position with
  | nil => rfl
  | cons c skipped ih =>
    rw [List.cons_append, List.length_cons, pieces, ih]
    congr 1
    omega

/-- Pieces after a tag that nothing stands before. -/
theorem pieces_tag (hbody : tagBody? (body ++ ']' :: rest) = some body) :
    pieces 0 position run ('[' :: (body ++ ']' :: rest)) =
      .escaped (backslashes (run / 2))
        :: (if run % 2 = 1 then .escaped ('[' :: (body ++ [']'])) else .tag position body)
        :: pieces 0 (position + (body.length + 2)) 0 rest := by
  have hskip := pieces_skip (body ++ [']']) rest (position + 1) 0
  rw [List.append_assoc, List.singleton_append, List.length_append, List.length_singleton] at hskip
  rw [pieces, if_neg (by decide), if_pos rfl, hbody]
  simp only [hskip]
  congr 3
  omega

/-- Every text is read, whatever can follow it. -/
theorem exists_scan (hrest : Opens rest) (cs : List Char) (position run : Nat) :
    ∃ ps left, Scan run cs ps left ∧
      pieces 0 position run (cs ++ rest) = ps ++ pieces 0 (position + cs.length) left rest := by
  -- Reading goes on after a whole tag, so the induction is on the length.
  induction hn : cs.length using Nat.strongRecOn generalizing cs position run with
  | _ n ih =>
    subst hn
    cases cs with
    | nil => exact ⟨[], run, .done, rfl⟩
    | cons c cs =>
      have hnext : position + (c :: cs).length = position + 1 + cs.length := by
        rw [List.length_cons]
        omega
      by_cases hbackslash : c = '\\'
      · subst hbackslash
        obtain ⟨ps, left, hscan, hps⟩ := ih cs.length (by simp) cs (position + 1) (run + 1) rfl
        exact ⟨ps, left, .backslash hscan, by rw [List.cons_append, pieces, if_pos rfl, hps, hnext]⟩
      by_cases hbracket : c = '['
      · subst hbracket
        have hbody := tagBody?_append hrest cs
        cases htag : tagBody? cs with
        | none =>
          obtain ⟨ps, left, hscan, hps⟩ := ih cs.length (by simp) cs (position + 1) 0 rfl
          refine ⟨_, left, .bracket htag hscan, ?_⟩
          rw [List.cons_append, pieces, if_neg hbackslash, if_pos rfl, hbody, htag, hps, hnext,
            List.cons_append]
        | some body =>
          obtain ⟨-, -, after, rfl⟩ := tagBody?_eq_some_iff.mp htag
          obtain ⟨ps, left, hscan, hps⟩ := ih after.length (by simp; omega) after
            (position + (body.length + 2)) 0 rfl
          refine ⟨_, left, .tag position htag hscan, ?_⟩
          rw [htag, List.append_assoc, List.cons_append] at hbody
          rw [List.cons_append, List.append_assoc, List.cons_append, pieces_tag hbody, hps]
          simp only [List.cons_append, List.length_cons, List.length_append]
          congr 4
          omega
      · obtain ⟨ps, left, hscan, hps⟩ := ih cs.length (by simp) cs (position + 1) 0 rfl
        refine ⟨_, left, .char hbackslash hbracket hscan, ?_⟩
        rw [List.cons_append, pieces, if_neg hbackslash, if_neg hbracket, hps, hnext, List.cons_append]

/-! ### What a text keeps -/

@[simp] theorem length_backslashes (n : Nat) : (backslashes n).length = n := List.length_replicate

theorem length_held_cons_le (p : Piece) (ps : List Piece) :
    (held (p :: ps)).length ≤ p.chars.length + (held ps).length := by
  rw [held_cons, List.length_append]
  exact Nat.add_le_add_right (printable_sublist p.chars).length_le _

/-- A tag leaves less than it is, even if backslashes make it text. -/
theorem length_held_tag_lt (run position : Nat) (body : List Char) (ps : List Piece) :
    (held (.escaped (backslashes (run / 2))
      :: (if run % 2 = 1 then .escaped ('[' :: (body ++ [']'])) else .tag position body) :: ps)).length <
      run + (body.length + 2) + (held ps).length := by
  have hslashes := length_held_cons_le (.escaped (backslashes (run / 2)))
  split
  · have htag := length_held_cons_le (.escaped ('[' :: (body ++ [']']))) ps
    have h := hslashes (.escaped ('[' :: (body ++ [']'])) :: ps)
    simp only [Piece.chars, length_backslashes, List.length_cons, List.length_append,
      List.length_nil] at h htag
    omega
  · have htag := length_held_cons_le (.tag position body) ps
    have h := hslashes (.tag position body :: ps)
    simp only [Piece.chars, length_backslashes, List.length_nil] at h htag
    omega

/-- Nothing is kept but characters of the text, in their order. -/
theorem Scan.sublist (h : Scan run cs ps left) :
    (held ps ++ backslashes left).Sublist (backslashes run ++ cs) := by
  induction h with
  | done => simp
  | @backslash run left cs ps _ ih =>
    have hnext : backslashes (run + 1) ++ cs = backslashes run ++ '\\' :: cs := by
      rw [backslashes, List.replicate_succ', List.append_assoc, List.singleton_append]
      rfl
    rwa [hnext] at ih
  | @tag run left body cs ps position _ _ ih =>
    have hslashes : (printable (backslashes (run / 2))).Sublist (backslashes run) := by
      rw [printable_backslashes]
      exact (List.replicate_sublist_replicate _).mpr (Nat.div_le_self run 2)
    have htag : (held ((if run % 2 = 1 then .escaped ('[' :: (body ++ [']'])) else .tag position body)
        :: ps) ++ backslashes left).Sublist ('[' :: (body ++ ']' :: cs)) := by
      have hall : '[' :: (body ++ ']' :: cs) = '[' :: (body ++ [']']) ++ cs := by simp
      rw [hall, held_cons, List.append_assoc]
      refine List.Sublist.append ?_ ih
      split
      · exact printable_sublist _
      · exact List.nil_sublist _
    rw [held_cons, List.append_assoc]
    exact hslashes.append htag
  | @bracket run left cs ps _ _ ih =>
    have hbracket : (printable (backslashes (run - 1) ++ ['['])).Sublist (backslashes run ++ ['[']) := by
      refine (printable_sublist _).trans (List.Sublist.append_right ?_ _)
      exact (List.replicate_sublist_replicate _).mpr (Nat.sub_le run 1)
    have hall : backslashes run ++ '[' :: cs = (backslashes run ++ ['[']) ++ cs := by simp
    rw [held_cons, List.append_assoc, hall]
    exact hbracket.append ih
  | @char run left c cs ps _ _ _ ih =>
    have hall : backslashes run ++ c :: cs = (backslashes run ++ [c]) ++ cs := by simp
    rw [held_cons, List.append_assoc, hall]
    exact (printable_sublist _).append ih

theorem Scan.length_held_le (h : Scan run cs ps left) :
    (held ps).length + left ≤ run + cs.length := by
  simpa using h.sublist.length_le

/-- Only an unmarked text is kept as a whole. -/
theorem Scan.unmarked_of_length_held (h : Scan run cs ps left)
    (heq : (held ps).length + left = run + cs.length) :
    unmarked cs = true ∧ (0 < run → cs.head? ≠ some '[') := by
  induction h with
  | done => simp [unmarked]
  | backslash _ ih =>
    rw [List.length_cons] at heq
    obtain ⟨hunmarked, hhead⟩ := ih (by omega)
    have hdropped : isDropped '\\' = false := by decide
    exact ⟨by simp [unmarked, hdropped, hunmarked, hhead], by simp⟩
  | @tag run left body cs ps position _ hscan _ =>
    have hlt := length_held_tag_lt run position body ps
    have hle := hscan.length_held_le
    rw [List.length_cons, List.length_append, List.length_cons] at heq
    omega
  | @bracket run left cs ps htag hscan ih =>
    have htext := length_held_cons_le (.text (backslashes (run - 1) ++ ['['])) ps
    have hle := hscan.length_held_le
    rw [Piece.chars, List.length_append, length_backslashes, List.length_singleton] at htext
    rw [List.length_cons] at heq
    have hdropped : isDropped '[' = false := by decide
    exact ⟨by simp [unmarked, hdropped, htag, (ih (by omega)).1], by omega⟩
  | @char run left c cs ps hbackslash hbracket hscan ih =>
    have hle := hscan.length_held_le
    by_cases hdropped : isDropped c = true
    · have htext : printable (backslashes run ++ [c]) = backslashes run := by
        rw [printable, List.filter_append, ← printable, printable_backslashes]
        simp [hdropped]
      rw [held_cons, Piece.chars, htext, List.length_append, length_backslashes, List.length_cons] at heq
      omega
    · have htext := length_held_cons_le (.text (backslashes run ++ [c])) ps
      rw [Piece.chars, List.length_append, length_backslashes, List.length_singleton] at htext
      rw [List.length_cons] at heq
      have hrest := (ih (by omega)).1
      exact ⟨by simp [unmarked, hdropped, hbackslash, hbracket, hrest], by simp [hbracket]⟩

/-- An unmarked text is one stretch of text. -/
theorem Scan.texts_of_unmarked (h : Scan run cs ps left) (hunmarked : unmarked cs = true)
    (hrun : 0 < run → cs.head? ≠ some '[') :
    (∀ p ∈ ps, ∃ t, p = .text t) ∧
      ps.flatMap Piece.chars ++ backslashes left = backslashes run ++ cs := by
  induction h with
  | done => simp
  | @backslash run left cs ps _ ih =>
    simp only [unmarked, Bool.and_eq_true] at hunmarked
    obtain ⟨htexts, hchars⟩ := ih hunmarked.2 (by simpa using hunmarked.1.2)
    refine ⟨htexts, ?_⟩
    rw [hchars, backslashes, List.replicate_succ', List.append_assoc, List.singleton_append]
    rfl
  | @tag run left body cs ps position hbody _ _ =>
    simp [unmarked, hbody] at hunmarked
  | @bracket run left cs ps _ _ ih =>
    have hzero : run = 0 := by
      by_contra hne
      exact hrun (by omega) rfl
    simp only [unmarked, Bool.and_eq_true] at hunmarked
    obtain ⟨htexts, hchars⟩ := ih hunmarked.2 (by simp)
    subst hzero
    refine ⟨by simpa using htexts, ?_⟩
    rw [List.flatMap_cons, List.append_assoc, hchars]
    simp [Piece.chars, backslashes]
  | @char run left c cs ps _ _ _ ih =>
    simp only [unmarked, Bool.and_eq_true] at hunmarked
    obtain ⟨htexts, hchars⟩ := ih hunmarked.2 (by simp)
    refine ⟨by simpa using htexts, ?_⟩
    rw [List.flatMap_cons, List.append_assoc, hchars]
    simp [Piece.chars, backslashes]

theorem printable_of_unmarked (h : unmarked cs = true) : printable cs = cs := by
  induction cs with
  | nil => rfl
  | cons c cs ih =>
    simp only [unmarked, Bool.and_eq_true] at h
    rw [printable, List.filter_cons, if_pos h.1.1.1, ← printable, ih h.2]

theorem sent_of_inert (h : inert cs = true) : sent cs = cs := by
  obtain ⟨hunmarked, hcodeless⟩ := inert_iff.mp h
  rw [sent, Emoji.replaced_of_codeless hcodeless, printable_of_unmarked hunmarked]

theorem getLast?_eq_backslash_iff {c : Char} (hc : c ≠ '\\') (front : List Char) :
    (front ++ c :: cs).getLast? = some '\\' ↔ cs.getLast? = some '\\' := by
  rw [List.getLast?_append, List.getLast?_cons, Option.some_or, Option.some.injEq]
  cases cs.getLast? with
  | none => simp [hc]
  | some d => simp

/-- Backslashes are left over exactly if the text ends with one. -/
theorem Scan.left_pos_iff (h : Scan run cs ps left) :
    0 < left ↔ (backslashes run ++ cs).getLast? = some '\\' := by
  induction h with
  | @done run =>
    rw [List.append_nil, backslashes, List.getLast?_replicate]
    by_cases hrun : run = 0
    · simp [hrun]
    · simp [hrun, Nat.pos_of_ne_zero]
  | @backslash run left cs ps _ ih =>
    rw [ih, backslashes, List.replicate_succ', List.append_assoc, List.singleton_append]
    rfl
  | @tag run left body cs ps _ _ _ ih =>
    rw [ih, ← List.cons_append, ← List.append_assoc, getLast?_eq_backslash_iff (by decide)]
    rfl
  | @bracket run left cs ps _ _ ih =>
    rw [ih, getLast?_eq_backslash_iff (by decide)]
    rfl
  | @char run left c cs ps hbackslash _ _ ih =>
    rw [ih, getLast?_eq_backslash_iff hbackslash]
    rfl

/-! ### Stretches of text -/

/-- Pieces other than tags. -/
def Tagless (ps : List Piece) : Prop := ∀ p ∈ ps, ∀ position body, p ≠ .tag position body

theorem joined_cons {q : Piece} (hq : ∀ t, q ≠ .text t) (qs : List Piece) :
    joined (q :: qs) = q :: joined qs := joined.eq_3 q qs hq

/-- What is no text parts two stretches. -/
theorem joined_append {q : Piece} (hq : ∀ t, q ≠ .text t) (ps qs : List Piece) :
    joined (ps ++ q :: qs) = joined ps ++ q :: joined qs := by
  induction ps with
  | nil => exact joined_cons hq qs
  | cons p ps ih =>
    by_cases hp : ∃ t, p = .text t
    · obtain ⟨t, rfl⟩ := hp
      rw [List.cons_append, joined, joined, ih]
      cases joined ps with
      | nil =>
        cases q with
        | text more => exact absurd rfl (hq more)
        | escaped more => rfl
        | tag position body => rfl
      | cons r rs => cases r <;> rfl
    · rw [not_exists] at hp
      rw [List.cons_append, joined_cons hp, joined_cons hp, ih, List.cons_append]

theorem joined_texts {ps : List Piece} (htexts : ∀ p ∈ ps, ∃ t, p = .text t) (hps : ps ≠ []) :
    joined ps = [.text (ps.flatMap Piece.chars)] := by
  induction ps with
  | nil => exact absurd rfl hps
  | cons p ps ih =>
    obtain ⟨⟨t, rfl⟩, hrest⟩ := List.forall_mem_cons.mp htexts
    cases ps with
    | nil => simp [joined, Piece.chars]
    | cons q ps =>
      rw [joined, ih hrest (by simp), List.flatMap_cons]
      rfl

theorem held_joined (ps : List Piece) : held (joined ps) = held ps := by
  induction ps with
  | nil => rfl
  | cons p ps ih =>
    by_cases hp : ∃ t, p = .text t
    · obtain ⟨t, rfl⟩ := hp
      rw [joined, held_cons, ← ih]
      cases joined ps with
      | nil => rfl
      | cons q qs =>
        cases q with
        | text more => simp [Piece.chars, printable]
        | escaped more => rfl
        | tag position body => rfl
    · rw [not_exists] at hp
      rw [joined_cons hp, held_cons, held_cons, ih]

/-- An unmarked text before a tag is one piece, if it is anything. -/
theorem Scan.joined_of_unmarked (h : Scan 0 cs ps 0) (hunmarked : unmarked cs = true) :
    (cs = [] ∧ joined ps = []) ∨ joined ps = [.text cs] := by
  obtain ⟨htexts, hchars⟩ := h.texts_of_unmarked hunmarked (by omega)
  rw [backslashes_zero, List.append_nil, List.nil_append] at hchars
  by_cases hps : ps = []
  · subst hps
    exact Or.inl ⟨hchars.symm, rfl⟩
  · exact Or.inr (by rw [joined_texts htexts hps, hchars])

/-- A text before a tag that is inert shows as it is. -/
theorem Scan.shows (h : Scan 0 cs ps 0) (hinert : inert cs = true) :
    Tagless (joined ps ++ [.escaped []]) ∧ visible (joined ps ++ [.escaped []]) = cs := by
  have hnone : sent [] = [] := by decide
  rcases h.joined_of_unmarked (inert_iff.mp hinert).1 with ⟨rfl, hjoined⟩ | hjoined
  · rw [hjoined]
    simp [Tagless, Piece.chars, hnone]
  · rw [hjoined]
    simp [Tagless, Piece.chars, hnone, sent_of_inert hinert]

theorem Scan.codeless (h : Scan 0 cs ps 0) (hunmarked : unmarked cs = true)
    (hcodeless : ∀ p ∈ joined ps, Emoji.codeless p.chars = true) : Emoji.codeless cs = true := by
  rcases h.joined_of_unmarked hunmarked with ⟨rfl, -⟩ | hjoined
  · rfl
  · rw [hjoined] at hcodeless
    exact hcodeless _ List.mem_cons_self

/-- An unmarked text with nothing after it is one piece. -/
theorem joined_pieces_of_unmarked (h : unmarked cs = true) (position : Nat) :
    joined (pieces 0 position 0 cs) = [.text cs] := by
  obtain ⟨ps, left, hscan, hps⟩ := exists_scan opens_nil cs position 0
  rw [List.append_nil, pieces] at hps
  obtain ⟨htexts, hchars⟩ := hscan.texts_of_unmarked h (by omega)
  have hall : ∀ p ∈ ps ++ [.text (backslashes left)], ∃ t, p = .text t := by
    intro p hp
    rcases List.mem_append.mp hp with hp | hp
    · exact htexts p hp
    · exact ⟨_, List.mem_singleton.mp hp⟩
  rw [hps, joined_texts hall (by simp), List.flatMap_append, List.flatMap_singleton, Piece.chars, hchars]
  rfl

/-! ### Reading pieces -/

theorem chars_of_shown {offset : Nat} {opened : List OpenTag} {t : Styled}
    (h : shown offset opened ps = .ok t) : t.chars = visible ps := by
  induction ps generalizing offset opened t with
  | nil =>
    obtain rfl := Except.ok.inj h
    rfl
  | cons p ps ih =>
    cases p with
    | text cs =>
      obtain ⟨u, hu, ht⟩ := bind_eq_ok_iff.mp h
      obtain rfl := Except.ok.inj ht
      rw [visible_cons, ← ih hu]
      rfl
    | escaped cs =>
      obtain ⟨u, hu, ht⟩ := bind_eq_ok_iff.mp h
      obtain rfl := Except.ok.inj ht
      rw [visible_cons, ← ih hu]
      rfl
    | tag position body =>
      have hnone : sent (Piece.tag position body).chars = [] := by
        simp [Piece.chars, sent, Emoji.replaced, Emoji.marks, printable]
      rw [visible_cons, hnone, List.nil_append]
      unfold shown at h
      split at h
      · obtain ⟨⟨tag, still⟩, -, h⟩ := bind_eq_ok_iff.mp h
        obtain ⟨span, -, h⟩ := bind_eq_ok_iff.mp h
        obtain ⟨u, hu, ht⟩ := bind_eq_ok_iff.mp h
        obtain rfl := Except.ok.inj ht
        have hchars := ih hu
        exact hchars
      · obtain ⟨tag, -, h⟩ := bind_eq_ok_iff.mp h
        exact ih h

theorem chars_of_read {s : String} {t : Styled} (h : read s = .ok t) :
    t.chars = visible (joined (pieces 0 0 0 s.toList)) := by
  obtain ⟨u, hu, ht⟩ := bind_eq_ok_iff.mp h
  obtain rfl := Except.ok.inj ht
  have hchars := chars_of_shown hu
  exact hchars

theorem shown_of_ne_tag {p : Piece} (hp : ∀ position body, p ≠ .tag position body) (offset : Nat)
    (opened : List OpenTag) (ps : List Piece) :
    shown offset opened (p :: ps) =
      (shown (offset + (sent p.chars).length) opened ps).map fun t =>
        { t with chars := sent p.chars ++ t.chars } := by
  cases p with
  | tag position body => exact absurd rfl (hp position body)
  | text cs =>
    rw [shown, Piece.chars]
    cases shown (offset + (sent cs).length) opened ps <;> rfl
  | escaped cs =>
    rw [shown, Piece.chars]
    cases shown (offset + (sent cs).length) opened ps <;> rfl

/-- Texts only move what comes after them. -/
theorem shown_tagless (hps : Tagless ps) (offset : Nat) (opened : List OpenTag) (qs : List Piece) :
    shown offset opened (ps ++ qs) =
      (shown (offset + (visible ps).length) opened qs).map fun t =>
        { t with chars := visible ps ++ t.chars } := by
  induction ps generalizing offset with
  | nil =>
    cases hqs : shown offset opened qs with
    | error e => simp [hqs, Except.map]
    | ok t => simp [hqs, Except.map]
  | cons p ps ih =>
    obtain ⟨hp, hrest⟩ := List.forall_mem_cons.mp hps
    rw [List.cons_append, shown_of_ne_tag hp, ih hrest, visible_cons, List.length_append, Nat.add_assoc]
    cases shown (offset + ((sent p.chars).length + (visible ps).length)) opened qs with
    | error e => rfl
    | ok t => simp only [Except.map, List.append_assoc]

/-! ### Codes in pieces -/

theorem count_printable (cs : List Char) : (printable cs).count ':' = cs.count ':' :=
  List.count_filter (by decide)

theorem count_sent_le (cs : List Char) : (sent cs).count ':' ≤ (printable cs).count ':' := by
  rw [sent, count_printable, count_printable]
  exact Emoji.count_replaced_le cs

theorem count_visible_le (ps : List Piece) : (visible ps).count ':' ≤ (held ps).count ':' := by
  induction ps with
  | nil => simp
  | cons p ps ih =>
    have hp := count_sent_le p.chars
    simp only [visible_cons, held_cons, List.count_append]
    omega

/-- Pieces that keep their colons have no known codes, so they show all that they hold. -/
theorem codeless_of_count (h : (held ps).count ':' ≤ (visible ps).count ':') :
    (∀ p ∈ ps, Emoji.codeless p.chars = true) ∧ visible ps = held ps := by
  induction ps with
  | nil => simp
  | cons p ps ih =>
    have hle := count_visible_le ps
    have hsent := count_sent_le p.chars
    simp only [visible_cons, held_cons, List.count_append] at h
    obtain ⟨hrest, hvisible⟩ := ih (by omega)
    have hcodeless : Emoji.codeless p.chars = true := by
      apply Emoji.codeless_of_count_replaced
      rw [← count_printable p.chars, ← count_printable (Emoji.replaced p.chars), ← sent]
      omega
    refine ⟨List.forall_mem_cons.mpr ⟨hcodeless, hrest⟩, ?_⟩
    rw [visible_cons, held_cons, hvisible, sent, Emoji.replaced_of_codeless hcodeless]

end Markup

end TreeLint.Console
