import ShaderInterface.Proofs.TextReading

/-! Only the bytes of a text read as that text: a character has one spelling, and reading refuses
the longer ones, surrogates, and numbers past the last character. -/
namespace ShaderInterface.Text.Utf8

private theorem toNat_scalar {n : Nat} (scalar : n < 0xd800 ∨ 0xdfff < n ∧ n < 0x110000) :
    (Char.ofNat n).toNat = n := by
  have valid : n.isValidChar := scalar
  rw [Char.ofNat, dif_pos valid]
  rfl

private theorem between_iff {b least bound : UInt8} :
    (decide (least ≤ b) && decide (b < bound)) = true ↔
      least.toNat ≤ b.toNat ∧ b.toNat < bound.toNat := by
  simp [UInt8.le_iff_toNat_le, UInt8.lt_iff_toNat_lt]

private theorem continues_bounds {b : UInt8} (h : continues b) :
    0x80 ≤ b.toNat ∧ b.toNat < 0xc0 :=
  between_iff.mp h

private theorem secondOfThree_bounds {a b : UInt8} (h : secondOfThree a b) :
    0x80 ≤ b.toNat ∧ b.toNat < 0xc0 ∧ (a.toNat = 0xe0 → 0xa0 ≤ b.toNat) ∧
      (a.toNat = 0xed → b.toNat < 0xa0) := by
  simp only [secondOfThree, ← UInt8.toNat_inj, UInt8.reduceToNat] at h
  split at h
  · have bounds : 0xa0 ≤ b.toNat ∧ b.toNat < 0xc0 := between_iff.mp h
    omega
  · split at h
    · have bounds : 0x80 ≤ b.toNat ∧ b.toNat < 0xa0 := between_iff.mp h
      omega
    · have bounds := continues_bounds h
      omega

private theorem secondOfFour_bounds {a b : UInt8} (h : secondOfFour a b) :
    0x80 ≤ b.toNat ∧ b.toNat < 0xc0 ∧ (a.toNat = 0xf0 → 0x90 ≤ b.toNat) ∧
      (a.toNat = 0xf4 → b.toNat < 0x90) := by
  simp only [secondOfFour, ← UInt8.toNat_inj, UInt8.reduceToNat] at h
  split at h
  · have bounds : 0x90 ≤ b.toNat ∧ b.toNat < 0xc0 := between_iff.mp h
    omega
  · split at h
    · have bounds : 0x80 ≤ b.toNat ∧ b.toNat < 0x90 := between_iff.mp h
      omega
    · have bounds := continues_bounds h
      omega

private theorem encodeChar_one {a : UInt8} (ha : a < 0x80) :
    encodeChar (Char.ofNat a.toNat) = [a] := by
  have below : a.toNat < 0x80 := ha
  rw [encodeChar, toNat_scalar (by omega), if_pos below, UInt8.ofNat_toNat]

private theorem encodeChar_two {a b : UInt8} (low_end : ¬ a < 0xc2) (high_end : a < 0xe0)
    (hb : continues b) : encodeChar (Char.ofNat (a.toNat % 0x20 * 0x40 + low b)) = [a, b] := by
  have least : ¬ a.toNat < 0xc2 := low_end
  have most : a.toNat < 0xe0 := high_end
  have second := continues_bounds hb
  rw [encodeChar, low, toNat_scalar (by omega), if_neg (by omega), if_pos (by omega)]
  simp only [List.cons.injEq, UInt8.ofNat_eq_iff_mod_eq_toNat, and_true]
  omega

private theorem encodeChar_three {a b c : UInt8} (low_end : ¬ a < 0xe0) (high_end : a < 0xf0)
    (hb : secondOfThree a b) (hc : continues c) :
    encodeChar (Char.ofNat (a.toNat % 0x10 * 0x1000 + low b * 0x40 + low c)) = [a, b, c] := by
  have least : ¬ a.toNat < 0xe0 := low_end
  have most : a.toNat < 0xf0 := high_end
  have second := secondOfThree_bounds hb
  have third := continues_bounds hc
  rw [encodeChar, low, low, toNat_scalar (by omega), if_neg (by omega), if_neg (by omega),
    if_pos (by omega)]
  simp only [List.cons.injEq, UInt8.ofNat_eq_iff_mod_eq_toNat, and_true]
  omega

private theorem encodeChar_four {a b c d : UInt8} (low_end : ¬ a < 0xf0) (high_end : a < 0xf5)
    (hb : secondOfFour a b) (hc : continues c) (hd : continues d) :
    encodeChar (Char.ofNat (a.toNat % 0x08 * 0x40000 + low b * 0x1000 + low c * 0x40 + low d)) =
      [a, b, c, d] := by
  have least : ¬ a.toNat < 0xf0 := low_end
  have most : a.toNat < 0xf5 := high_end
  have second := secondOfFour_bounds hb
  have third := continues_bounds hc
  have fourth := continues_bounds hd
  rw [encodeChar, low, low, low, toNat_scalar (by omega), if_neg (by omega), if_neg (by omega),
    if_neg (by omega)]
  simp only [List.cons.injEq, UInt8.ofNat_eq_iff_mod_eq_toNat, and_true]
  omega

/-- One character and what is read behind it. -/
private theorem eq_encodeChars_cons {front rest : List UInt8} {c : Char} {chars : List Char}
    {read : Except Flaw (List Char)} (spelled : encodeChar c = front)
    (behind : ∀ {chars}, read = .ok chars → rest = encodeChars chars)
    (h : read.map (c :: ·) = .ok chars) : front ++ rest = encodeChars chars := by
  cases read with
  | error flaw => cases h
  | ok tail =>
    cases h
    rw [behind rfl, ← spelled]
    rfl

theorem eq_encodeChars_of_decodeFrom {index : Nat} {bytes : List UInt8} {chars : List Char}
    (h : decodeFrom index bytes = .ok chars) : bytes = encodeChars chars := by
  -- Of the cases of reading only the empty input and the four widths end without a flaw.
  fun_induction decodeFrom index bytes generalizing chars
  case case1 =>
    cases h
    rfl
  case case2 one behind => exact eq_encodeChars_cons (encodeChar_one one) behind h
  case case5 not_stray two _ _ hb behind =>
    exact eq_encodeChars_cons (encodeChar_two not_stray two hb) behind h
  case case10 not_two three _ _ _ hb hc behind =>
    exact eq_encodeChars_cons (encodeChar_three not_two three hb hc) behind h
  case case19 not_three four _ _ _ _ hb hc hd behind =>
    exact eq_encodeChars_cons (encodeChar_four not_three four hb hc hd) behind h
  all_goals cases h

/-- Exactly the bytes of a text read as that text. -/
theorem decode_eq_ok_iff {bytes : List UInt8} {text : String} :
    decode bytes = .ok text ↔ bytes = encode text := by
  constructor
  · intro h
    cases read : decodeFrom 0 bytes with
    | error flaw =>
      rw [decode, read] at h
      cases h
    | ok chars =>
      rw [decode, read] at h
      cases h
      rw [encode, String.toList_ofList]
      exact eq_encodeChars_of_decodeFrom read
  · rintro rfl
    exact decode_encode text

private theorem zero_eq_byte_iff {n : Nat} : 0 = UInt8.ofNat n ↔ n % 0x100 = 0 :=
  eq_comm.trans (UInt8.ofNat_eq_iff_mod_eq_toNat n 0)

private theorem zero_mem_encodeChar {c : Char} : 0 ∈ encodeChar c ↔ c = '\x00' := by
  constructor
  · intro h
    have number : c.toNat = 0 := by
      have scalar : c.toNat < 0xd800 ∨ 0xdfff < c.toNat ∧ c.toNat < 0x110000 := c.valid
      unfold encodeChar at h
      generalize c.toNat = n at *
      dsimp only at h
      -- Every byte but the first has its highest bit set, and so has a first byte past ASCII.
      split at h
      · simp only [List.mem_singleton, zero_eq_byte_iff] at h
        omega
      · split at h
        · simp only [List.mem_cons, List.not_mem_nil, or_false, zero_eq_byte_iff] at h
          omega
        · split at h <;>
            simp only [List.mem_cons, List.not_mem_nil, or_false, zero_eq_byte_iff] at h <;> omega
    rw [← Char.ofNat_toNat c, number]
  · rintro rfl
    decide

theorem zero_mem_encode {text : String} : 0 ∈ encode text ↔ '\x00' ∈ text.toList := by
  simp [encode, encodeChars, zero_mem_encodeChar]

end ShaderInterface.Text.Utf8
