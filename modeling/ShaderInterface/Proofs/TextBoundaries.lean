import ShaderInterface.Proofs.TextSpelling

/-! Where the characters of a text begin in its bytes. A byte that continues no character begins
one, so that a range of the bytes of a text reads as text only if it holds nothing, or begins and
ends between characters; it then reads as the characters between its ends. -/
namespace ShaderInterface.Text.Utf8

/-- A position in the bytes of a text in front of a character or behind the last one. -/
def Boundary (text : String) (index : Nat) : Prop :=
  ∃ front back, text = front ++ back ∧ size front = index

theorem encode_injective : Function.Injective encode := by
  intro text other same
  have read := decode_encode text
  rw [same, decode_encode] at read
  exact (Except.ok.inj read).symm

theorem encodeChars_append (front back : List Char) :
    encodeChars (front ++ back) = encodeChars front ++ encodeChars back :=
  List.flatMap_append

theorem encode_append (front back : String) :
    encode (front ++ back) = encode front ++ encode back := by
  rw [encode, String.toList_append, encodeChars_append]
  rfl

theorem size_append (front back : String) : size (front ++ back) = size front + size back := by
  rw [size, encode_append, List.length_append]
  rfl

private theorem continues_ofNat {n : Nat} (h : n < 0x100) :
    continues (.ofNat n) = true ↔ 0x80 ≤ n ∧ n < 0xc0 := by
  simp [continues, UInt8.le_iff_toNat_le, UInt8.lt_iff_toNat_lt, UInt8.toNat_ofNat_of_lt' h]

private theorem continues_ofNat_eq_false {n : Nat} (h : n < 0x100) (apart : n < 0x80 ∨ 0xc0 ≤ n) :
    continues (.ofNat n) = false := by
  rw [Bool.eq_false_iff, ne_eq, continues_ofNat h]
  omega

private theorem all_continue (tail : List Nat) :
    ∀ byte ∈ tail.map fun n => UInt8.ofNat (0x80 + n % 0x40), continues byte = true := by
  intro byte mem
  obtain ⟨n, _, rfl⟩ := List.mem_map.mp mem
  exact (continues_ofNat (by omega)).mpr (by omega)

/-- A character is spelled by a byte that continues none and by bytes that continue it. -/
theorem exists_lead (c : Char) : ∃ lead tail, encodeChar c = lead :: tail ∧
    continues lead = false ∧ ∀ byte ∈ tail, continues byte = true := by
  have scalar : c.toNat < 0xd800 ∨ 0xdfff < c.toNat ∧ c.toNat < 0x110000 := c.valid
  unfold encodeChar
  generalize c.toNat = n at *
  dsimp only
  -- One case for each width, with what the bytes behind the first are made of.
  split
  · exact ⟨_, _, rfl, continues_ofNat_eq_false (by omega) (by omega), all_continue []⟩
  · split
    · exact ⟨_, _, rfl, continues_ofNat_eq_false (by omega) (by omega),
        all_continue [n]⟩
    · split
      · exact ⟨_, _, rfl, continues_ofNat_eq_false (by omega) (by omega),
          all_continue [n / 0x40, n]⟩
      · exact ⟨_, _, rfl, continues_ofNat_eq_false (by omega) (by omega),
          all_continue [n / 0x1000, n / 0x40, n]⟩

theorem exists_split_of_lead {chars : List Char} {index : Nat} {lead : UInt8}
    (here : (encodeChars chars)[index]? = some lead) (first : continues lead = false) :
    ∃ front back, chars = front ++ back ∧ (encodeChars front).length = index := by
  induction chars generalizing index with
  | nil => cases here
  | cons c chars ih =>
    have spelled : encodeChars (c :: chars) = encodeChar c ++ encodeChars chars := rfl
    rw [spelled] at here
    by_cases inside : index < (encodeChar c).length
    · -- Of the bytes of the first character only its own first byte continues none.
      rw [List.getElem?_append_left inside] at here
      obtain ⟨own, tail, bytes, _, further⟩ := exists_lead c
      rw [bytes] at here
      cases index with
      | zero => exact ⟨[], c :: chars, rfl, rfl⟩
      | succ index =>
        rw [List.getElem?_cons_succ] at here
        rw [further lead (List.mem_of_getElem? here)] at first
        cases first
    · rw [List.getElem?_append_right (Nat.le_of_not_lt inside)] at here
      obtain ⟨front, back, rfl, length⟩ := ih here
      refine ⟨c :: front, back, rfl, ?_⟩
      have longer : encodeChars (c :: front) = encodeChar c ++ encodeChars front := rfl
      rw [longer, List.length_append, length]
      omega

theorem eq_append_of_encodeChars_append {chars front : List Char} {tail : List UInt8}
    (h : encodeChars front ++ tail = encodeChars chars) :
    ∃ back, chars = front ++ back ∧ tail = encodeChars back := by
  induction front generalizing chars with
  | nil => exact ⟨chars, rfl, h⟩
  | cons c front ih =>
    have spelled : encodeChars (c :: front) = encodeChar c ++ encodeChars front := rfl
    rw [spelled, List.append_assoc] at h
    have read := decodeFrom_encodeChars chars 0
    rw [← h, decodeFrom_encodeChar] at read
    cases behind : decodeFrom (0 + (encodeChar c).length) (encodeChars front ++ tail) with
    | error flaw =>
      rw [behind] at read
      cases read
    | ok others =>
      rw [behind] at read
      cases read
      obtain ⟨back, rfl, rest⟩ := ih (eq_encodeChars_of_decodeFrom behind)
      exact ⟨back, rfl, rest⟩

/-- A range of the bytes of a text that reads as something begins and ends between characters. -/
theorem eq_append_of_slice {text piece : String} {start length : Nat}
    (h : ((encode text).drop start).take length = encode piece) (something : piece ≠ "") :
    ∃ front back, text = front ++ piece ++ back ∧ size front = start := by
  obtain ⟨c, chars, same⟩ : ∃ c chars, piece.toList = c :: chars := by
    cases same : piece.toList with
    | nil => exact absurd (String.toList_eq_nil_iff.mp same) something
    | cons c chars => exact ⟨c, chars, rfl⟩
  obtain ⟨lead, tail, bytes, first, _⟩ := exists_lead c
  have spelled : encode piece = lead :: (tail ++ encodeChars chars) := by
    rw [encode, same]
    show encodeChar c ++ encodeChars chars = _
    rw [bytes, List.cons_append]
  -- The first byte of the range is the first of a character.
  have here : (encodeChars text.toList)[start]? = some lead := by
    have head := congrArg List.head? (h.trans spelled)
    rw [List.head?_take] at head
    split at head
    · cases head
    · rwa [List.head?_drop] at head
  obtain ⟨front, behind, split, atStart⟩ := exists_split_of_lead here first
  have rest : (encode text).drop start = encodeChars behind := by
    rw [encode, split, encodeChars_append, ← atStart, List.drop_left]
  rw [rest] at h
  have whole : encode piece ++ (encodeChars behind).drop length = encodeChars behind := by
    rw [← h, List.take_append_drop]
  obtain ⟨back, rfl, _⟩ := eq_append_of_encodeChars_append whole
  refine ⟨String.ofList front, String.ofList back, ?_, ?_⟩
  · rw [← String.toList_inj, split, String.toList_append, String.toList_append,
      String.toList_ofList, String.toList_ofList, List.append_assoc]
  · rw [size, encode, String.toList_ofList, atStart]

theorem slice_append (front piece back : String) :
    ((encode (front ++ piece ++ back)).drop (size front)).take (size piece) = encode piece := by
  rw [encode_append, encode_append, List.append_assoc, size, size, List.drop_left, List.take_left]

private theorem append_cases {front behind longer back : String}
    (h : front ++ behind = longer ++ back) :
    (∃ piece, longer = front ++ piece ∧ behind = piece ++ back) ∨
      ∃ piece, front = longer ++ piece := by
  have chars := congrArg String.toList h
  rw [String.toList_append, String.toList_append, List.append_eq_append_iff] at chars
  rcases chars with ⟨piece, first, second⟩ | ⟨piece, first, _⟩
  · refine .inl ⟨String.ofList piece, ?_, ?_⟩
    · rw [← String.toList_inj, first, String.toList_append, String.toList_ofList]
    · rw [← String.toList_inj, second, String.toList_append, String.toList_ofList]
  · refine .inr ⟨String.ofList piece, ?_⟩
    rw [← String.toList_inj, first, String.toList_append, String.toList_ofList]

theorem Boundary.exists_piece {text : String} {start stop : Nat} (first : Boundary text start)
    (last : Boundary text stop) (ordered : start ≤ stop) :
    ∃ front piece back, text = front ++ piece ++ back ∧ size front = start ∧
      size (front ++ piece) = stop := by
  obtain ⟨front, behind, rfl, rfl⟩ := first
  obtain ⟨longer, back, split, rfl⟩ := last
  rcases append_cases split with ⟨piece, rfl, rfl⟩ | ⟨piece, rfl⟩
  · exact ⟨front, piece, back, String.append_assoc.symm, rfl, rfl⟩
  · refine ⟨longer ++ piece, "", behind, by rw [String.append_empty], rfl, ?_⟩
    rw [String.append_empty]
    rw [size_append] at ordered ⊢
    omega

/-- Inside a character there is no boundary. -/
theorem not_boundary_of_inside {front back : String} {c : Char} {index : Nat}
    (behind : size front < index) (before : index < size (front ++ String.singleton c)) :
    ¬ Boundary (front ++ String.singleton c ++ back) index := by
  rintro ⟨other, rest, split, rfl⟩
  rw [String.append_assoc] at split
  rcases append_cases split with ⟨piece, rfl, own⟩ | ⟨piece, rfl⟩
  · rw [size_append] at behind
    rw [size_append, size_append] at before
    -- What stands between holds the character, so it is at least as long.
    have chars := congrArg String.toList own
    rw [String.toList_append, String.toList_append, String.toList_singleton] at chars
    cases same : piece.toList with
    | nil =>
      have empty : size piece = 0 := by
        rw [size, encode, same]
        rfl
      omega
    | cons first others =>
      rw [same] at chars
      obtain ⟨rfl, _⟩ := List.cons.inj chars
      have longer : size piece = size (String.singleton c) + (encodeChars others).length := by
        rw [size, encode, same, size, encode, String.toList_singleton, ← List.length_append,
          ← encodeChars_append, List.singleton_append]
      omega
  · rw [size_append] at behind
    omega

end ShaderInterface.Text.Utf8
