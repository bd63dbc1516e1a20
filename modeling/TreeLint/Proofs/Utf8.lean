/-
  TreeLint/Proofs/Utf8.lean
  =========================
  **Decoding undoes encoding.**  The decoder is a machine that never fails, so what it does to valid
  UTF-8 has to be told apart from what it does to everything else.  Valid UTF-8 is what encoding a list
  of characters gives (`IsUtf8`).  On such bytes the machine gives the characters back
  (`decode_encode`), and it is back in its idle state after each of them, so a valid beginning never
  changes how the rest is read (`decode_encode_append`).

  From this follows what cutting needs: the rest after a valid beginning of valid bytes is valid
  (`IsUtf8.of_append_left`), and ASCII bytes can be cut off at either end.  Of bytes that are not valid
  one thing is kept all the same: the ASCII byte that they begin with, if they do (`head?_encode_decode`).
-/
import TreeLint.Text.Utf8

namespace TreeLint.Text.Utf8

/-! ### One byte of a sequence -/

theorem decodeFrom_ascii {b : UInt8} (hb : b.toNat < 0x80) (rest : List UInt8) :
    decodeFrom none (b :: rest) = Char.ofNat b.toNat :: decodeFrom none rest := by
  simp only [decodeFrom, fresh, if_pos hb, List.singleton_append]

theorem decodeFrom_lead {b : UInt8} {p : Pending} (hb : 0x80 ≤ b.toNat)
    (hp : Pending.ofLead? b.toNat = some p) (rest : List UInt8) :
    decodeFrom none (b :: rest) = decodeFrom (some p) rest := by
  have hascii : ¬ b.toNat < 0x80 := by omega
  simp only [decodeFrom, fresh, if_neg hascii, hp, List.nil_append]

/-- A byte inside the bounds that is not the last one of its sequence. -/
theorem decodeFrom_more {missing value low high : Nat} {b : UInt8}
    (hb : low ≤ b.toNat ∧ b.toNat ≤ high) (rest : List UInt8) :
    decodeFrom (some ⟨missing + 2, value, low, high⟩) (b :: rest) =
      decodeFrom (some ⟨missing + 1, value * 0x40 + (b.toNat - 0x80), 0x80, 0xBF⟩) rest := by
  have hmissing : ¬ missing + 2 ≤ 1 := by omega
  simp only [decodeFrom, Pending.extend, if_pos hb, if_neg hmissing, List.nil_append]
  rfl

/-- A byte inside the bounds that completes its sequence. -/
theorem decodeFrom_last {value low high : Nat} {b : UInt8}
    (hb : low ≤ b.toNat ∧ b.toNat ≤ high) (rest : List UInt8) :
    decodeFrom (some ⟨1, value, low, high⟩) (b :: rest) =
      Char.ofNat (value * 0x40 + (b.toNat - 0x80)) :: decodeFrom none rest := by
  simp only [decodeFrom, Pending.extend, if_pos hb, Nat.le_refl, if_true, List.singleton_append]

/-- A byte outside the bounds: what was begun is replaced, and the byte is read afresh. -/
theorem decodeFrom_broken {p : Pending} {b : UInt8} (hb : ¬ (p.low ≤ b.toNat ∧ b.toNat ≤ p.high))
    (rest : List UInt8) :
    decodeFrom (some p) (b :: rest) = replacement :: decodeFrom none (b :: rest) := by
  simp only [decodeFrom, Pending.extend, if_neg hb, List.cons_append]

/-! ### One character

The bounds of the second byte depend on the lead byte: they shut out overlong forms, surrogates and
values that are too large.  A character is none of these, so its second byte lies inside. -/

theorem ofLead?_two {v : Nat} (hlow : 0x7F < v) (hhigh : v ≤ 0x7FF) :
    Pending.ofLead? (v / 64 % 0x20 + 0xC0) = some ⟨1, v / 64, 0x80, 0xBF⟩ := by
  have hlead : 0xC2 ≤ v / 64 % 0x20 + 0xC0 ∧ v / 64 % 0x20 + 0xC0 ≤ 0xDF := by omega
  have hvalue : v / 64 % 0x20 + 0xC0 - 0xC0 = v / 64 := by omega
  rw [Pending.ofLead?, if_pos hlead, hvalue]

theorem ofLead?_three {v : Nat} (hlow : 0x7FF < v) (hhigh : v ≤ 0xFFFF)
    (hscalar : v < 0xD800 ∨ 0xDFFF < v) :
    ∃ low high, Pending.ofLead? (v / 4096 % 0x10 + 0xE0) = some ⟨2, v / 4096, low, high⟩ ∧
      low ≤ v / 64 % 0x40 + 0x80 ∧ v / 64 % 0x40 + 0x80 ≤ high := by
  have htwo : ¬ (0xC2 ≤ v / 4096 % 0x10 + 0xE0 ∧ v / 4096 % 0x10 + 0xE0 ≤ 0xDF) := by omega
  by_cases hfirst : v / 4096 = 0
  · -- nothing below 800 in three bytes
    refine ⟨0xA0, 0xBF, ?_, by omega, by omega⟩
    simp [Pending.ofLead?, hfirst]
  · by_cases hsurrogate : v / 4096 = 0xD
    · -- nothing from D800 to DFFF
      refine ⟨0x80, 0x9F, ?_, by omega, by omega⟩
      simp [Pending.ofLead?, hsurrogate]
    · refine ⟨0x80, 0xBF, ?_, by omega, by omega⟩
      have hE0 : ¬ v / 4096 % 0x10 + 0xE0 = 0xE0 := by omega
      have hED : ¬ v / 4096 % 0x10 + 0xE0 = 0xED := by omega
      have hlead : 0xE1 ≤ v / 4096 % 0x10 + 0xE0 ∧ v / 4096 % 0x10 + 0xE0 ≤ 0xEF := by omega
      have hvalue : v / 4096 % 0x10 + 0xE0 - 0xE0 = v / 4096 := by omega
      rw [Pending.ofLead?, if_neg htwo, if_neg hE0, if_neg hED, if_pos hlead, hvalue]

theorem ofLead?_four {v : Nat} (hlow : 0xFFFF < v) (hhigh : v < 0x110000) :
    ∃ low high, Pending.ofLead? (v / 262144 % 0x08 + 0xF0) = some ⟨3, v / 262144, low, high⟩ ∧
      low ≤ v / 4096 % 0x40 + 0x80 ∧ v / 4096 % 0x40 + 0x80 ≤ high := by
  have hquotient : v / 262144 < 5 := by omega
  by_cases hfirst : v / 262144 = 0
  · -- nothing below 10000 in four bytes
    refine ⟨0x90, 0xBF, ?_, by omega, by omega⟩
    simp [Pending.ofLead?, hfirst]
  · by_cases hlast : v / 262144 = 4
    · -- nothing beyond 10FFFF
      refine ⟨0x80, 0x8F, ?_, by omega, by omega⟩
      simp [Pending.ofLead?, hlast]
    · refine ⟨0x80, 0xBF, ?_, by omega, by omega⟩
      have hmiddle : v / 262144 = 1 ∨ v / 262144 = 2 ∨ v / 262144 = 3 := by omega
      rcases hmiddle with h | h | h <;> simp [Pending.ofLead?, h]

/-- The library's lemma with a bound that arithmetic can see. -/
theorem toNat_ofNat_byte {n : Nat} (hn : n < 0x100) : (UInt8.ofNat n).toNat = n :=
  UInt8.toNat_ofNat_of_lt' hn

/-- The machine reads the bytes of a character as that character and is idle again. -/
theorem decodeFrom_encodeChar (c : Char) (rest : List UInt8) :
    decodeFrom none (String.utf8EncodeChar c ++ rest) = c :: decodeFrom none rest := by
  have hchar : Char.ofNat c.val.toNat = c := Char.ofNat_toNat c
  have hscalar : c.val.toNat < 0xD800 ∨ (0xDFFF < c.val.toNat ∧ c.val.toNat < 0x110000) := c.valid
  unfold String.utf8EncodeChar
  generalize hv : c.val.toNat = v at hchar hscalar
  simp only
  split
  · next hone =>
    have hbyte : (UInt8.ofNat v).toNat = v := toNat_ofNat_byte (by omega)
    rw [List.singleton_append, decodeFrom_ascii (by omega), hbyte, hchar]
  · next hone =>
    split
    · next htwo =>
      have hlead := toNat_ofNat_byte (n := v / 64 % 0x20 + 0xC0) (by omega)
      have hsecond := toNat_ofNat_byte (n := v % 0x40 + 0x80) (by omega)
      simp only [List.cons_append, List.nil_append]
      rw [decodeFrom_lead (by omega) (by rw [hlead]; exact ofLead?_two (by omega) htwo),
        decodeFrom_last (by omega), hsecond]
      have hvalue : v / 64 * 0x40 + (v % 0x40 + 0x80 - 0x80) = v := by omega
      rw [hvalue, hchar]
    · next htwo =>
      split
      · next hthree =>
        obtain ⟨low, high, hpending, hlow, hhigh⟩ :=
          ofLead?_three (v := v) (by omega) hthree (by omega)
        have hlead := toNat_ofNat_byte (n := v / 4096 % 0x10 + 0xE0) (by omega)
        have hsecond := toNat_ofNat_byte (n := v / 64 % 0x40 + 0x80) (by omega)
        have hthird := toNat_ofNat_byte (n := v % 0x40 + 0x80) (by omega)
        simp only [List.cons_append, List.nil_append]
        rw [decodeFrom_lead (by omega) (by rw [hlead]; exact hpending),
          decodeFrom_more (by omega), decodeFrom_last (by omega), hsecond, hthird]
        have hvalue : (v / 4096 * 0x40 + (v / 64 % 0x40 + 0x80 - 0x80)) * 0x40 +
            (v % 0x40 + 0x80 - 0x80) = v := by omega
        rw [hvalue, hchar]
      · next hthree =>
        obtain ⟨low, high, hpending, hlow, hhigh⟩ :=
          ofLead?_four (v := v) (by omega) (by omega)
        have hlead := toNat_ofNat_byte (n := v / 262144 % 0x08 + 0xF0) (by omega)
        have hsecond := toNat_ofNat_byte (n := v / 4096 % 0x40 + 0x80) (by omega)
        have hthird := toNat_ofNat_byte (n := v / 64 % 0x40 + 0x80) (by omega)
        have hfourth := toNat_ofNat_byte (n := v % 0x40 + 0x80) (by omega)
        simp only [List.cons_append, List.nil_append]
        rw [decodeFrom_lead (by omega) (by rw [hlead]; exact hpending),
          decodeFrom_more (by omega), decodeFrom_more (by omega), decodeFrom_last (by omega),
          hsecond, hthird, hfourth]
        have hvalue : ((v / 262144 * 0x40 + (v / 4096 % 0x40 + 0x80 - 0x80)) * 0x40 +
            (v / 64 % 0x40 + 0x80 - 0x80)) * 0x40 + (v % 0x40 + 0x80 - 0x80) = v := by omega
        rw [hvalue, hchar]

/-! ### Valid UTF-8 -/

/-- The bytes of some characters. -/
def IsUtf8 (bytes : List UInt8) : Prop := ∃ cs, bytes = encode cs

theorem encode_append (cs ds : List Char) : encode (cs ++ ds) = encode cs ++ encode ds :=
  List.flatMap_append

/-- A valid beginning is read as its characters, whatever follows. -/
theorem decode_encode_append (cs : List Char) (rest : List UInt8) :
    decode (encode cs ++ rest) = cs ++ decode rest := by
  induction cs with
  | nil => rfl
  | cons c cs ih =>
    have hstep := decodeFrom_encodeChar c (encode cs ++ rest)
    rw [← List.append_assoc] at hstep
    exact hstep.trans (congrArg (c :: ·) ih)

theorem decode_encode (cs : List Char) : decode (encode cs) = cs := by
  have h := decode_encode_append cs []
  simpa [decode, decodeFrom] using h

theorem IsUtf8.encode_decode {bytes : List UInt8} (h : IsUtf8 bytes) :
    encode (decode bytes) = bytes := by
  obtain ⟨cs, rfl⟩ := h
  rw [decode_encode]

instance (bytes : List UInt8) : Decidable (IsUtf8 bytes) :=
  decidable_of_iff (encode (decode bytes) = bytes)
    ⟨fun h => ⟨decode bytes, h.symm⟩, IsUtf8.encode_decode⟩

/-- Writing out the text of valid bytes gives the bytes back. -/
theorem IsUtf8.encodeString_decodeString {bytes : List UInt8} (h : IsUtf8 bytes) :
    encodeString (decodeString bytes) = bytes := by
  rw [encodeString, decodeString, String.toList_ofList, h.encode_decode]

theorem isUtf8_nil : IsUtf8 [] := ⟨[], rfl⟩

theorem isUtf8_encodeString (s : String) : IsUtf8 (encodeString s) := ⟨s.toList, rfl⟩

theorem IsUtf8.append {xs ys : List UInt8} (hx : IsUtf8 xs) (hy : IsUtf8 ys) :
    IsUtf8 (xs ++ ys) := by
  obtain ⟨cs, rfl⟩ := hx
  obtain ⟨ds, rfl⟩ := hy
  exact ⟨cs ++ ds, (encode_append cs ds).symm⟩

/-- What follows a valid beginning of valid bytes is valid: the machine is idle where it starts. -/
theorem IsUtf8.of_append_left {xs ys : List UInt8} (hx : IsUtf8 xs) (h : IsUtf8 (xs ++ ys)) :
    IsUtf8 ys := by
  obtain ⟨cs, rfl⟩ := hx
  have hwhole := h.encode_decode
  rw [decode_encode_append, encode_append, List.append_cancel_left_eq] at hwhole
  exact ⟨decode ys, hwhole.symm⟩

/-! ### ASCII -/

theorem val_ofNat {v : Nat} (hv : v < 0xD800 ∨ (0xDFFF < v ∧ v < 0x110000)) :
    (Char.ofNat v).val.toNat = v := by
  rw [Char.ofNat, dif_pos hv]
  rfl

theorem encodeChar_ascii {b : UInt8} (hb : b.toNat < 0x80) :
    String.utf8EncodeChar (Char.ofNat b.toNat) = [b] := by
  simp only [String.utf8EncodeChar, val_ofNat (v := b.toNat) (Or.inl (by omega))]
  rw [if_pos (by omega), UInt8.ofNat_toNat]

theorem isUtf8_of_ascii {bytes : List UInt8} (h : ∀ b ∈ bytes, b.toNat < 0x80) :
    IsUtf8 bytes := by
  refine ⟨bytes.map fun b => Char.ofNat b.toNat, ?_⟩
  induction bytes with
  | nil => rfl
  | cons b bytes ih =>
    have hchar := encodeChar_ascii (h b List.mem_cons_self)
    have hrest := ih (fun x hx => h x (List.mem_cons_of_mem b hx))
    simp only [encode, List.map_cons, List.flatMap_cons, hchar, List.singleton_append] at hrest ⊢
    rw [← hrest]

theorem decode_of_ascii {bytes : List UInt8} (h : ∀ b ∈ bytes, b.toNat < 0x80) :
    decode bytes = bytes.map fun b => Char.ofNat b.toNat := by
  unfold decode
  induction bytes with
  | nil => rfl
  | cons b bytes ih =>
    rw [decodeFrom_ascii (h b List.mem_cons_self),
      ih (fun x hx => h x (List.mem_cons_of_mem b hx)), List.map_cons]

/-- A character is one byte, or it ends with a byte that continues a sequence. -/
theorem encodeChar_end (c : Char) :
    (∃ b, String.utf8EncodeChar c = [b]) ∨
      ∃ xs, String.utf8EncodeChar c = xs ++ [UInt8.ofNat (c.val.toNat % 0x40 + 0x80)] := by
  unfold String.utf8EncodeChar
  simp only
  split
  · exact Or.inl ⟨_, rfl⟩
  · split
    · exact Or.inr ⟨[_], rfl⟩
    · split
      · exact Or.inr ⟨[_, _], rfl⟩
      · exact Or.inr ⟨[_, _, _], rfl⟩

/-- An ASCII byte at the end of valid bytes is a character of its own. -/
theorem IsUtf8.of_append_byte {xs : List UInt8} {b : UInt8} (hb : b.toNat < 0x80)
    (h : IsUtf8 (xs ++ [b])) : IsUtf8 xs := by
  obtain ⟨cs, hcs⟩ := h
  rcases List.eq_nil_or_concat cs with rfl | ⟨front, c, rfl⟩
  · exact absurd hcs (by simp [encode])
  · rw [List.concat_eq_append, encode_append, show encode [c] = String.utf8EncodeChar c from
      List.flatMap_singleton _ _] at hcs
    rcases encodeChar_end c with ⟨d, hd⟩ | ⟨ys, hys⟩
    · rw [hd] at hcs
      exact ⟨front, (List.append_inj' hcs rfl).1⟩
    · -- the last byte of a longer character is not ASCII
      rw [hys, ← List.append_assoc] at hcs
      have hbyte := (List.append_inj' hcs rfl).2
      rw [List.cons.injEq] at hbyte
      rw [hbyte.1, toNat_ofNat_byte (by omega)] at hb
      omega

/-- What stands before ASCII bytes in valid bytes is valid. -/
theorem IsUtf8.of_append_right {xs ys : List UInt8} (hy : ∀ b ∈ ys, b.toNat < 0x80)
    (h : IsUtf8 (xs ++ ys)) : IsUtf8 xs := by
  induction ys generalizing xs with
  | nil => rwa [List.append_nil] at h
  | cons b ys ih =>
    have hfront : IsUtf8 (xs ++ [b]) := by
      apply ih (fun x hx => hy x (List.mem_cons_of_mem b hx))
      rwa [List.append_assoc, List.singleton_append]
    exact hfront.of_append_byte (hy b List.mem_cons_self)

/-! ### The first byte

What is decoded and written out again need not be the bytes that were read.  But an ASCII byte is only
ever read by itself: a sequence that was begun gives a character beyond ASCII, whether it is completed or
broken off. -/

namespace Pending

/-- The least value that a sequence can still get. -/
def least (p : Pending) : Nat := (p.value * 0x40 + (p.low - 0x80)) <<< (6 * (p.missing - 1))

/-- A bound on the values that a sequence can still get. -/
def bound (p : Pending) : Nat :=
  (p.value * 0x40 + (p.high - 0x80) + 1) <<< (6 * (p.missing - 1))

/-- A sequence that is not complete, and can only be completed to characters beyond ASCII. -/
structure Proper (p : Pending) : Prop where
  incomplete : 1 ≤ p.missing
  continued : 0x80 ≤ p.low
  beyond : 0x80 ≤ p.least
  scalar : p.bound ≤ 0xD800 ∨ (0xE000 ≤ p.least ∧ p.bound ≤ 0x110000)

theorem proper_ofLead? {b : Nat} {p : Pending} (h : ofLead? b = some p) : p.Proper := by
  unfold ofLead? at h
  repeat' split at h
  all_goals cases h
  all_goals constructor <;> simp only [least, bound] <;> omega

theorem shiftLeft_six_succ (v k : Nat) : v <<< (6 * (k + 1)) = (v * 0x40) <<< (6 * k) := by
  rw [Nat.mul_succ, Nat.add_comm, Nat.shiftLeft_add, Nat.shiftLeft_eq v 6]

theorem shiftLeft_mono {v w : Nat} (h : v ≤ w) (k : Nat) : v <<< k ≤ w <<< k := by
  rw [Nat.shiftLeft_eq, Nat.shiftLeft_eq]
  exact Nat.mul_le_mul_right _ h

/-- A byte inside the bounds keeps the values between the same ends. -/
theorem Proper.extend {missing value low high b : Nat}
    (h : Proper ⟨missing + 2, value, low, high⟩) (hb : low ≤ b ∧ b ≤ high) :
    Proper ⟨missing + 1, value * 0x40 + (b - 0x80), 0x80, 0xBF⟩ := by
  have hleast : least ⟨missing + 2, value, low, high⟩ ≤
      least ⟨missing + 1, value * 0x40 + (b - 0x80), 0x80, 0xBF⟩ := by
    simp only [least, Nat.add_sub_cancel, Nat.reduceSubDiff]
    rw [shiftLeft_six_succ]
    exact shiftLeft_mono (by omega) _
  have hbound : bound ⟨missing + 1, value * 0x40 + (b - 0x80), 0x80, 0xBF⟩ ≤
      bound ⟨missing + 2, value, low, high⟩ := by
    simp only [bound, Nat.add_sub_cancel, Nat.reduceSubDiff]
    rw [shiftLeft_six_succ]
    exact shiftLeft_mono (by omega) _
  constructor
  · exact Nat.le_add_left 1 missing
  · exact Nat.le_refl 0x80
  · exact Nat.le_trans h.beyond hleast
  · rcases h.scalar with hbelow | ⟨habove, hbelow⟩
    · exact Or.inl (Nat.le_trans hbound hbelow)
    · exact Or.inr ⟨Nat.le_trans habove hleast, Nat.le_trans hbound hbelow⟩

/-- The value of a completed sequence. -/
theorem Proper.complete {value low high : Nat} {b : Nat} (h : Proper ⟨1, value, low, high⟩)
    (hb : low ≤ b ∧ b ≤ high) : 0x80 ≤ (Char.ofNat (value * 0x40 + (b - 0x80))).val.toNat := by
  have hlow := h.continued
  have hbeyond := h.beyond
  have hscalar := h.scalar
  simp only [least, bound, Nat.sub_self, Nat.mul_zero, Nat.shiftLeft_zero] at hlow hbeyond hscalar
  rw [val_ofNat (by omega)]
  omega

end Pending

theorem decodeFrom_proper {p : Pending} (hp : p.Proper) (bytes : List UInt8) :
    ∃ c cs, decodeFrom (some p) bytes = c :: cs ∧ 0x80 ≤ c.val.toNat := by
  induction bytes generalizing p with
  | nil => exact ⟨replacement, [], rfl, by decide⟩
  | cons b rest ih =>
    obtain ⟨missing, value, low, high⟩ := p
    by_cases hb : low ≤ b.toNat ∧ b.toNat ≤ high
    · match missing, hp with
      | 1, hp => exact ⟨_, _, decodeFrom_last hb rest, hp.complete hb⟩
      | missing + 2, hp =>
        rw [decodeFrom_more hb]
        exact ih (hp.extend hb)
    · exact ⟨replacement, _, decodeFrom_broken hb rest, by decide⟩

theorem decode_beyond {b : UInt8} (hb : 0x80 ≤ b.toNat) (rest : List UInt8) :
    ∃ c cs, decode (b :: rest) = c :: cs ∧ 0x80 ≤ c.val.toNat := by
  cases hlead : Pending.ofLead? b.toNat with
  | some p =>
    rw [decode, decodeFrom_lead hb hlead]
    exact decodeFrom_proper (Pending.proper_ofLead? hlead) rest
  | none =>
    have hascii : ¬ b.toNat < 0x80 := by omega
    refine ⟨replacement, decode rest, ?_, by decide⟩
    simp only [decode, decodeFrom, fresh, if_neg hascii, hlead, List.singleton_append]

theorem encodeChar_beyond {c : Char} (hc : 0x80 ≤ c.val.toNat) :
    ∃ b bs, String.utf8EncodeChar c = b :: bs ∧ 0x80 ≤ b.toNat := by
  unfold String.utf8EncodeChar
  generalize c.val.toNat = v at hc
  simp only
  rw [if_neg (by omega)]
  split
  · exact ⟨_, _, rfl, by rw [toNat_ofNat_byte (by omega)]; omega⟩
  · split
    · exact ⟨_, _, rfl, by rw [toNat_ofNat_byte (by omega)]; omega⟩
    · exact ⟨_, _, rfl, by rw [toNat_ofNat_byte (by omega)]; omega⟩

/-- Decoding and encoding keep an ASCII byte at the beginning, and bring none there. -/
theorem head?_encode_decode {b : UInt8} (hb : b.toNat < 0x80) (bytes : List UInt8) :
    (encode (decode bytes)).head? = some b ↔ bytes.head? = some b := by
  cases bytes with
  | nil => simp [decode, decodeFrom, encode]
  | cons x rest =>
    by_cases hx : x.toNat < 0x80
    · rw [decode, decodeFrom_ascii hx, encode, List.flatMap_cons, encodeChar_ascii hx]
      simp
    · obtain ⟨c, cs, hdecode, hc⟩ := decode_beyond (b := x) (by omega) rest
      obtain ⟨y, ys, hencode, hy⟩ := encodeChar_beyond hc
      rw [hdecode, encode, List.flatMap_cons, hencode]
      -- neither of the two first bytes is ASCII
      constructor
      · intro h
        obtain rfl := Option.some.inj h
        omega
      · intro h
        obtain rfl := Option.some.inj h
        omega

end TreeLint.Text.Utf8
