import ShaderInterface.Text.Utf8

/-! Reading undoes writing: the bytes of a text decode to that text, character by character. -/
namespace ShaderInterface.Text.Utf8

private theorem toNat_byte {n : Nat} (h : n < 0x100) : (UInt8.ofNat n).toNat = n :=
  UInt8.toNat_ofNat_of_lt' h

private theorem byte_lt {n : Nat} {b : UInt8} (h : n < 0x100) (hb : n < b.toNat) :
    UInt8.ofNat n < b := by
  rw [UInt8.lt_iff_toNat_lt, toNat_byte h]
  exact hb

private theorem le_byte {n : Nat} {b : UInt8} (h : n < 0x100) (hb : b.toNat ≤ n) :
    b ≤ UInt8.ofNat n := by
  rw [UInt8.le_iff_toNat_le, toNat_byte h]
  exact hb

private theorem not_below {a : UInt8} (low_end bound : UInt8) (h : low_end ≤ a)
    (hb : bound ≤ low_end) : ¬ a < bound :=
  UInt8.not_lt.mpr (UInt8.le_trans hb h)

theorem decodeFrom_one {a : UInt8} (ha : a < 0x80) (index : Nat) (rest : List UInt8) :
    decodeFrom index (a :: rest) =
      (decodeFrom (index + 1) rest).map (Char.ofNat a.toNat :: ·) := by
  rw [decodeFrom.eq_def]
  simp only [ha, if_true]

theorem decodeFrom_two {a b : UInt8} (low_end : 0xc2 ≤ a) (high_end : a < 0xe0)
    (hb : continues b) (index : Nat) (rest : List UInt8) :
    decodeFrom index (a :: b :: rest) =
      (decodeFrom (index + 2) rest).map
        (Char.ofNat (a.toNat % 0x20 * 0x40 + low b) :: ·) := by
  have not_one := not_below 0xc2 0x80 low_end (by decide)
  have not_stray := not_below 0xc2 0xc2 low_end (by decide)
  rw [decodeFrom.eq_def]
  simp only [not_one, not_stray, high_end, hb, if_true, if_false]

theorem decodeFrom_three {a b c : UInt8} (low_end : 0xe0 ≤ a) (high_end : a < 0xf0)
    (hb : secondOfThree a b) (hc : continues c) (index : Nat) (rest : List UInt8) :
    decodeFrom index (a :: b :: c :: rest) =
      (decodeFrom (index + 3) rest).map
        (Char.ofNat (a.toNat % 0x10 * 0x1000 + low b * 0x40 + low c) :: ·) := by
  have not_one := not_below 0xe0 0x80 low_end (by decide)
  have not_stray := not_below 0xe0 0xc2 low_end (by decide)
  have not_two := not_below 0xe0 0xe0 low_end (by decide)
  rw [decodeFrom.eq_def]
  simp only [not_one, not_stray, not_two, high_end, hb, hc, if_true, if_false]

theorem decodeFrom_four {a b c d : UInt8} (low_end : 0xf0 ≤ a) (high_end : a < 0xf5)
    (hb : secondOfFour a b) (hc : continues c) (hd : continues d) (index : Nat)
    (rest : List UInt8) :
    decodeFrom index (a :: b :: c :: d :: rest) =
      (decodeFrom (index + 4) rest).map
        (Char.ofNat (a.toNat % 0x08 * 0x40000 + low b * 0x1000 + low c * 0x40 + low d) :: ·) := by
  have not_one := not_below 0xf0 0x80 low_end (by decide)
  have not_stray := not_below 0xf0 0xc2 low_end (by decide)
  have not_two := not_below 0xf0 0xe0 low_end (by decide)
  have not_three := not_below 0xf0 0xf0 low_end (by decide)
  rw [decodeFrom.eq_def]
  simp only [not_one, not_stray, not_two, not_three, high_end, hb, hc, hd, if_true, if_false]

private theorem byte_between {n : Nat} {low_end high_end : UInt8} (h : n < 0x100)
    (least : low_end.toNat ≤ n) (below : n < high_end.toNat) :
    (decide (low_end ≤ UInt8.ofNat n) && decide (UInt8.ofNat n < high_end)) = true := by
  rw [Bool.and_eq_true, decide_eq_true_iff, decide_eq_true_iff]
  exact ⟨le_byte h least, byte_lt h below⟩

private theorem continues_tail (n : Nat) : continues (.ofNat (0x80 + n % 0x40)) :=
  byte_between (by omega) (show 0x80 ≤ 0x80 + n % 0x40 by omega)
    (show 0x80 + n % 0x40 < 0xc0 by omega)

private theorem low_tail (n : Nat) : low (.ofNat (0x80 + n % 0x40)) = n % 0x40 := by
  rw [low, toNat_byte (by omega)]
  omega

/-- No character of three bytes takes fewer, and none is a surrogate. -/
private theorem secondOfThree_written {n : Nat} (low_end : 0x800 ≤ n) (high_end : n < 0x10000)
    (scalar : n < 0xd800 ∨ 0xdfff < n) :
    secondOfThree (.ofNat (0xe0 + n / 0x1000)) (.ofNat (0x80 + n / 0x40 % 0x40)) := by
  have lead := toNat_byte (n := 0xe0 + n / 0x1000) (by omega)
  unfold secondOfThree
  split
  · rename_i shortest
    have first : 0xe0 + n / 0x1000 = 0xe0 := lead.symm.trans (congrArg UInt8.toNat shortest)
    exact byte_between (by omega) (show 0xa0 ≤ 0x80 + n / 0x40 % 0x40 by omega)
      (show 0x80 + n / 0x40 % 0x40 < 0xc0 by omega)
  · split
    · rename_i surrogates
      have first : 0xe0 + n / 0x1000 = 0xed := lead.symm.trans (congrArg UInt8.toNat surrogates)
      exact byte_between (by omega) (show 0x80 ≤ 0x80 + n / 0x40 % 0x40 by omega)
        (show 0x80 + n / 0x40 % 0x40 < 0xa0 by omega)
    · exact continues_tail _

private theorem secondOfFour_written {n : Nat} (low_end : 0x10000 ≤ n) (high_end : n < 0x110000) :
    secondOfFour (.ofNat (0xf0 + n / 0x40000)) (.ofNat (0x80 + n / 0x1000 % 0x40)) := by
  have lead := toNat_byte (n := 0xf0 + n / 0x40000) (by omega)
  unfold secondOfFour
  split
  · rename_i shortest
    have first : 0xf0 + n / 0x40000 = 0xf0 := lead.symm.trans (congrArg UInt8.toNat shortest)
    exact byte_between (by omega) (show 0x90 ≤ 0x80 + n / 0x1000 % 0x40 by omega)
      (show 0x80 + n / 0x1000 % 0x40 < 0xc0 by omega)
  · split
    · rename_i last
      have first : 0xf0 + n / 0x40000 = 0xf4 := lead.symm.trans (congrArg UInt8.toNat last)
      exact byte_between (by omega) (show 0x80 ≤ 0x80 + n / 0x1000 % 0x40 by omega)
        (show 0x80 + n / 0x1000 % 0x40 < 0x90 by omega)
    · exact continues_tail _

/-- The bytes of a character read as that character, and the rest is read behind it. -/
theorem decodeFrom_encodeChar (c : Char) (index : Nat) (rest : List UInt8) :
    decodeFrom index (encodeChar c ++ rest) =
      (decodeFrom (index + (encodeChar c).length) rest).map (c :: ·) := by
  have scalar : c.toNat < 0xd800 ∨ 0xdfff < c.toNat ∧ c.toNat < 0x110000 := c.valid
  have back := Char.ofNat_toNat c
  -- One case for each number of bytes; their digits to the base 64 add up to the number again.
  unfold encodeChar
  generalize c.toNat = n at *
  dsimp only
  split
  · rename_i one
    rw [List.cons_append, List.nil_append, decodeFrom_one (byte_lt (by omega) one),
      toNat_byte (by omega), back]
    rfl
  · split
    · rename_i not_one two
      have value : (0xc0 + n / 0x40) % 0x20 * 0x40 + n % 0x40 = n := by omega
      rw [List.cons_append, List.cons_append, List.nil_append,
        decodeFrom_two (le_byte (by omega) (show 0xc2 ≤ 0xc0 + n / 0x40 by omega))
          (byte_lt (by omega) (show 0xc0 + n / 0x40 < 0xe0 by omega)) (continues_tail n),
        toNat_byte (by omega), low_tail, value, back]
      rfl
    · split
      · rename_i not_two three
        have value : (0xe0 + n / 0x1000) % 0x10 * 0x1000 + n / 0x40 % 0x40 * 0x40 +
            n % 0x40 = n := by
          omega
        rw [List.cons_append, List.cons_append, List.cons_append, List.nil_append,
          decodeFrom_three (le_byte (by omega) (show 0xe0 ≤ 0xe0 + n / 0x1000 by omega))
            (byte_lt (by omega) (show 0xe0 + n / 0x1000 < 0xf0 by omega))
            (secondOfThree_written (by omega) three (by omega)) (continues_tail n),
          toNat_byte (by omega), low_tail, low_tail, value, back]
        rfl
      · rename_i not_three
        have value : (0xf0 + n / 0x40000) % 0x08 * 0x40000 + n / 0x1000 % 0x40 * 0x1000 +
            n / 0x40 % 0x40 * 0x40 + n % 0x40 = n := by
          omega
        rw [List.cons_append, List.cons_append, List.cons_append, List.cons_append, List.nil_append,
          decodeFrom_four (le_byte (by omega) (show 0xf0 ≤ 0xf0 + n / 0x40000 by omega))
            (byte_lt (by omega) (show 0xf0 + n / 0x40000 < 0xf5 by omega))
            (secondOfFour_written (by omega) (by omega)) (continues_tail _) (continues_tail n),
          toNat_byte (by omega), low_tail, low_tail, low_tail, value, back]
        rfl

theorem decodeFrom_encodeChars (chars : List Char) (index : Nat) :
    decodeFrom index (encodeChars chars) = .ok chars := by
  induction chars generalizing index with
  | nil => rfl
  | cons c chars ih =>
    have split : encodeChars (c :: chars) = encodeChar c ++ encodeChars chars := rfl
    rw [split, decodeFrom_encodeChar, ih]
    rfl

theorem decode_encode (text : String) : decode (encode text) = .ok text := by
  rw [decode, encode, decodeFrom_encodeChars]
  exact congrArg Except.ok (String.ofList_toList)

end ShaderInterface.Text.Utf8
