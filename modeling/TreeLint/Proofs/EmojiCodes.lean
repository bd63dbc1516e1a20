/-
  TreeLint/Proofs/EmojiCodes.lean
  ===============================
  **Texts without emoji codes.**  A text is parted into codes and single characters, and put together again
  these are the text (`flatMap_source_marks`).  Where no code is known, nothing is replaced.

  The converse cannot be told by lengths, since an emoji may have as many characters as its code.  It can be
  told by colons.  A code has two, and no emoji has one, since colons divide the tables.  So each known code
  makes a text poorer in colons, and a text that keeps its colons has no known code
  (`codeless_of_count_replaced`).
-/
import Mathlib.Data.List.Basic
import Mathlib.Data.List.TakeWhile
import TreeLint.Console.Emoji
import TreeLint.Proofs.TrimmedText

namespace TreeLint

theorem Text.eq_false_of_mem_divideWhere {isMark : Char → Bool} {cs part : List Char}
    (hpart : part ∈ Text.divideWhere isMark cs) : ∀ c ∈ part, isMark c = false := by
  induction cs generalizing part with
  | nil =>
    rw [Text.divideWhere, List.mem_singleton] at hpart
    simp [hpart]
  | cons c cs ih =>
    rw [Text.divideWhere] at hpart
    split at hpart
    · rcases List.mem_cons.mp hpart with rfl | hpart
      · simp
      · exact ih hpart
    · next hc =>
      have hc : isMark c = false := by simpa using hc
      split at hpart
      · rw [List.mem_singleton] at hpart
        simp [hpart, hc]
      · next first parts hparts =>
        rcases List.mem_cons.mp hpart with rfl | hpart
        · have hmem : first ∈ Text.divideWhere isMark cs := by
            rw [hparts]
            exact List.mem_cons_self
          exact List.forall_mem_cons.mpr ⟨hc, ih hmem⟩
        · exact ih (by rw [hparts]; exact List.mem_cons_of_mem _ hpart)

namespace Console.Emoji

variable {cs rest body emoji : List Char}

/-! ### Emoji have no colons -/

theorem mem_of_emojiAfter? {name : List Char} {fields : List (List Char)}
    (h : emojiAfter? name fields = some emoji) : emoji ∈ fields := by
  fun_induction emojiAfter? name fields with
  | case1 emoji rest =>
    obtain rfl := Option.some.inj h
    simp
  | case2 key emoji rest hkey ih => simp [ih h]
  | case3 => cases h

theorem colon_not_mem_named? {name : List Char} (h : named? name = some emoji) : ':' ∉ emoji := by
  unfold named? at h
  split at h
  · cases h
  · obtain ⟨line, -, hline⟩ := List.exists_of_findSome?_eq_some h
    intro hcolon
    have hpart := Text.eq_false_of_mem_divideWhere (mem_of_emojiAfter? hline) ':' hcolon
    simp at hpart

theorem colon_not_mem_emoji? (h : emoji? body = some emoji) : ':' ∉ emoji := by
  unfold emoji? at h
  split at h
  · next ending selector hfind =>
    obtain ⟨named, hnamed, rfl⟩ := Option.map_eq_some_iff.mp h
    have hselector : ∀ p ∈ presentations, p.2 ≠ ':' := by decide
    have hne := hselector _ (List.mem_of_find?_eq_some hfind)
    simpa using ⟨colon_not_mem_named? hnamed, hne.symm⟩
  · exact colon_not_mem_named? h

/-! ### Parting a text -/

theorem codeBody?_eq_some_iff :
    codeBody? cs = some body ↔
      (∀ c ∈ body, (c != ':' && !Text.isBlank c) = true) ∧ ∃ after, cs = body ++ ':' :: after := by
  simp only [codeBody?, Option.ite_none_right_eq_some, Option.some.injEq]
  exact Text.run_before_iff (by simp)

/-- A blank ends what can be a code. -/
theorem codeBody?_append {blank : Char} (hblank : Text.isBlank blank = true) (cs : List Char) :
    codeBody? (cs ++ blank :: rest) = codeBody? cs := by
  have hends : ∀ front after, blank :: rest = front ++ ':' :: after →
      ∃ c ∈ front, (c != ':' && !Text.isBlank c) = false := by
    intro front after h
    cases front with
    | nil =>
      obtain ⟨rfl, -⟩ := List.cons.inj h
      exact absurd hblank (by decide)
    | cons c front =>
      obtain ⟨rfl, -⟩ := List.cons.inj h
      exact ⟨_, List.mem_cons_self, by simp [hblank]⟩
  apply Option.ext
  intro body
  simp only [codeBody?_eq_some_iff]
  exact and_congr_right fun hbody => Text.before_append_iff hbody hends

theorem flatMap_source_marks_drop (skip : Nat) (cs : List Char) :
    (marks skip cs).flatMap Mark.source = cs.drop skip := by
  fun_induction marks skip cs with
  | case1 => simp
  | case2 skip _ rest ih => rw [ih, List.drop_succ_cons]
  | case3 rest body hbody ih =>
    obtain ⟨-, after, rfl⟩ := codeBody?_eq_some_iff.mp hbody
    rw [List.flatMap_cons, ih]
    simp [Mark.source, List.drop_append]
  | case4 rest _ ih => simp [ih, Mark.source]
  | case5 c rest _ ih => simp [ih, Mark.source]

theorem flatMap_source_marks (cs : List Char) : (marks 0 cs).flatMap Mark.source = cs :=
  flatMap_source_marks_drop 0 cs

theorem marks_append {blank : Char} (hblank : Text.isBlank blank = true) {skip : Nat}
    (hskip : skip ≤ cs.length) :
    marks skip (cs ++ blank :: rest) = marks skip cs ++ marks 0 (blank :: rest) := by
  fun_induction marks skip cs with
  | case1 skip =>
    obtain rfl : skip = 0 := by simpa using hskip
    rfl
  | case2 skip _ cs ih =>
    rw [List.cons_append, marks, ih (by simpa using hskip)]
  | case3 cs body hbody ih =>
    obtain ⟨-, after, rfl⟩ := codeBody?_eq_some_iff.mp hbody
    rw [List.cons_append, marks, if_pos rfl, codeBody?_append hblank, hbody]
    simp only [ih (by simp), List.cons_append]
  | case4 cs hbody ih =>
    rw [List.cons_append, marks, if_pos rfl, codeBody?_append hblank, hbody]
    simp only [ih (by omega), List.cons_append]
  | case5 c cs hc ih =>
    rw [List.cons_append, marks, if_neg hc, ih (by omega), List.cons_append]

/-! ### Known codes -/

def Mark.isKnown : Mark → Bool
  | .char _ => false
  | .code body => (emoji? body).isSome

/-- Whether a text has no code that is known. -/
def codeless (cs : List Char) : Bool := (marks 0 cs).all (!·.isKnown)

theorem Mark.shown_of_unknown {m : Mark} (h : m.isKnown = false) : m.shown = m.source := by
  cases m with
  | char c => rfl
  | code body =>
    have hnone : emoji? body = none := by simpa [isKnown] using h
    rw [shown, hnone]
    rfl

theorem replaced_of_codeless (h : codeless cs = true) : replaced cs = cs := by
  have hmarks : ∀ m ∈ marks 0 cs, m.shown = m.source := by
    intro m hm
    exact Mark.shown_of_unknown (by simpa using List.all_eq_true.mp h m hm)
  rw [replaced, List.flatMap_congr hmarks, flatMap_source_marks]

theorem Mark.count_shown_lt {m : Mark} (h : m.isKnown = true) :
    m.shown.count ':' < m.source.count ':' := by
  cases m with
  | char c => cases h
  | code body =>
    obtain ⟨emoji, hemoji⟩ := Option.isSome_iff_exists.mp h
    have hnone : emoji.count ':' = 0 := List.count_eq_zero.mpr (colon_not_mem_emoji? hemoji)
    rw [shown, hemoji, Option.getD_some, hnone]
    simp [source]

theorem Mark.count_shown_le (m : Mark) : m.shown.count ':' ≤ m.source.count ':' := by
  cases hm : m.isKnown with
  | true => exact Nat.le_of_lt (m.count_shown_lt hm)
  | false => rw [m.shown_of_unknown hm]

theorem count_flatMap_shown_le (ms : List Mark) :
    (ms.flatMap Mark.shown).count ':' ≤ (ms.flatMap Mark.source).count ':' := by
  induction ms with
  | nil => simp
  | cons m ms ih =>
    have hm := m.count_shown_le
    simp only [List.flatMap_cons, List.count_append]
    omega

theorem count_replaced_le (cs : List Char) : (replaced cs).count ':' ≤ cs.count ':' := by
  have hle := count_flatMap_shown_le (marks 0 cs)
  rwa [flatMap_source_marks] at hle

theorem unknown_of_count {ms : List Mark}
    (h : (ms.flatMap Mark.source).count ':' ≤ (ms.flatMap Mark.shown).count ':') :
    ∀ m ∈ ms, m.isKnown = false := by
  induction ms with
  | nil => simp
  | cons m ms ih =>
    have hm := m.count_shown_le
    have hms := count_flatMap_shown_le ms
    simp only [List.flatMap_cons, List.count_append] at h
    refine List.forall_mem_cons.mpr ⟨?_, ih (by omega)⟩
    by_contra hknown
    have hlt := m.count_shown_lt (by simpa using hknown)
    omega

/-- A text that keeps its colons has no known code. -/
theorem codeless_of_count_replaced (h : cs.count ':' ≤ (replaced cs).count ':') : codeless cs = true := by
  have hcount : ((marks 0 cs).flatMap Mark.source).count ':' ≤
      ((marks 0 cs).flatMap Mark.shown).count ':' := by rwa [flatMap_source_marks]
  rw [codeless, List.all_eq_true]
  intro m hm
  simp [unknown_of_count hcount m hm]

/-! ### Texts that cannot have codes -/

/-- One colon makes no code. -/
theorem codeless_of_count_lt (h : cs.count ':' < 2) : codeless cs = true := by
  rw [codeless, List.all_eq_true]
  intro m hm
  cases m with
  | char c => rfl
  | code body =>
    obtain ⟨before, after, hmarks⟩ := List.append_of_mem hm
    have hcs := flatMap_source_marks cs
    rw [hmarks, List.flatMap_append, List.flatMap_cons] at hcs
    rw [← hcs] at h
    simp only [Mark.source, List.count_append, List.count_cons_self] at h
    omega

theorem codeless_of_not_mem (h : ':' ∉ cs) : codeless cs = true :=
  codeless_of_count_lt (by rw [List.count_eq_zero.mpr h]; omega)

theorem codeless_append {blank : Char} (hblank : Text.isBlank blank = true) (cs rest : List Char) :
    codeless (cs ++ blank :: rest) = (codeless cs && codeless (blank :: rest)) := by
  rw [codeless, marks_append hblank (Nat.zero_le _), List.all_append]
  rfl

end Console.Emoji

end TreeLint
