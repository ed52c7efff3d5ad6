import ShaderInterface.Proofs.SizeAgreement
import ShaderInterface.Proofs.TextBoundaries

/-! References that a reflection did not make. The pool of a reflection is one text, so that any
range of its bytes reads as what stands there between characters, and as nothing where it leaves the
pool or cuts a character. -/
namespace ShaderInterface

open Text.Utf8 (Boundary)

namespace NamePool

def pooledText : List String → String
  | [] => ""
  | name :: names => name ++ "\x00" ++ pooledText names

theorem spelling_eq_encode (names : List String) :
    spelling names = Text.Utf8.encode (pooledText names) := by
  induction names with
  | nil => rfl
  | cons name names ih =>
    rw [spelling_cons, pooledText, Text.Utf8.encode_append, Text.Utf8.encode_append, ih]
    rfl

section Text

variable {pool : NamePool} {ref : NameRef}

private theorem name_of_inside (inside : ref.stop ≤ pool.size) : pool.name ref =
    (Text.Utf8.decode ((pool.bytes.drop ref.start).take (ref.stop - ref.start))).toOption.getD
      "" := by
  rw [name, slice?, if_pos inside]

/-- A range that a piece of the pool's text takes reads as that piece. -/
theorem name_eq_of_piece {front piece back : String}
    (spelled : pool.bytes = Text.Utf8.encode (front ++ piece ++ back))
    (start : Text.Utf8.size front = ref.start) (stop : Text.Utf8.size (front ++ piece) = ref.stop) :
    pool.name ref = piece := by
  have inside : ref.stop ≤ pool.size := by
    have whole : pool.size = Text.Utf8.size (front ++ piece ++ back) :=
      congrArg List.length spelled
    rw [whole, Text.Utf8.size_append, stop]
    exact Nat.le_add_right _ _
  have length : ref.stop - ref.start = Text.Utf8.size piece := by
    rw [Text.Utf8.size_append] at stop
    omega
  rw [name_of_inside inside, length, spelled, ← start, Text.Utf8.slice_append,
    Text.Utf8.decode_encode]
  rfl

theorem exists_piece_of_name_ne {text : String} (spelled : pool.bytes = Text.Utf8.encode text)
    (something : pool.name ref ≠ "") :
    ref.stop ≤ pool.size ∧ ∃ front back, text = front ++ pool.name ref ++ back ∧
      Text.Utf8.size front = ref.start ∧ Text.Utf8.size (front ++ pool.name ref) = ref.stop := by
  have inside : ref.stop ≤ pool.size := by
    refine Classical.byContradiction fun outside => something ?_
    rw [name, slice?, if_neg outside]
  refine ⟨inside, ?_⟩
  rw [name_of_inside inside] at something ⊢
  cases read : Text.Utf8.decode ((pool.bytes.drop ref.start).take (ref.stop - ref.start)) with
  | error flaw =>
    rw [read] at something
    exact absurd rfl something
  | ok piece =>
    rw [read] at something
    -- Bytes that read as a piece are the bytes of that piece, so the range is where it stands.
    have bytes := Text.Utf8.decode_eq_ok_iff.mp read
    have length := congrArg List.length bytes
    rw [spelled] at bytes
    obtain ⟨front, back, split, start⟩ := Text.Utf8.eq_append_of_slice bytes something
    refine ⟨front, back, split, start, ?_⟩
    have ordered : ref.start ≤ ref.stop := Nat.le_add_right _ _
    rw [List.length_take, List.length_drop] at length
    show Text.Utf8.size (front ++ piece) = ref.stop
    rw [Text.Utf8.size_append, start, Text.Utf8.size, ← length]
    rw [size] at inside
    omega

end Text

end NamePool

namespace Reflection

/-- How a reflection whose pool spells a text reads a reference: as the piece of the text that
stands there, if it ends in the pool, and begins and ends between characters, and as nothing
otherwise. -/
structure ReadsWithin (reflection : Reflection) (text : String) (ref : NameRef) : Prop where
  between : ref.stop ≤ reflection.pool.size → Boundary text ref.start → Boundary text ref.stop →
    ∃ front back, text = front ++ reflection.name ref ++ back ∧
      Text.Utf8.size front = ref.start ∧ Text.Utf8.size (front ++ reflection.name ref) = ref.stop
  elsewhere : ¬ (ref.stop ≤ reflection.pool.size ∧ Boundary text ref.start ∧
    Boundary text ref.stop) → reflection.name ref = ""
  cut : ∀ front c back, text = front ++ String.singleton c ++ back →
    ∀ index, index = ref.start ∨ index = ref.stop → Text.Utf8.size front < index →
      index < Text.Utf8.size (front ++ String.singleton c) → reflection.name ref = ""

theorem readsWithin {reflection : Reflection} {text : String}
    (spelled : reflection.pool.bytes = Text.Utf8.encode text) (ref : NameRef) :
    reflection.ReadsWithin text ref := by
  have elsewhere : ¬ (ref.stop ≤ reflection.pool.size ∧ Boundary text ref.start ∧
      Boundary text ref.stop) → reflection.name ref = "" := by
    intro outside
    refine Classical.byContradiction fun something => outside ?_
    obtain ⟨inside, front, back, split, start, stop⟩ :=
      NamePool.exists_piece_of_name_ne spelled something
    refine ⟨inside, ⟨front, reflection.name ref ++ back, ?_, start⟩, ⟨_, back, split, stop⟩⟩
    rw [← String.append_assoc]
    exact split
  refine ⟨?_, elsewhere, ?_⟩
  · intro inside first last
    obtain ⟨front, piece, back, rfl, start, stop⟩ :=
      first.exists_piece last (Nat.le_add_right _ _)
    have read : reflection.name ref = piece := NamePool.name_eq_of_piece spelled start stop
    exact ⟨front, back, by rw [read], start, by rw [read, stop]⟩
  · rintro front c back rfl index here behind before
    have apart : ¬ Boundary (front ++ String.singleton c ++ back) index :=
      Text.Utf8.not_boundary_of_inside behind before
    refine elsewhere fun ⟨_, first, last⟩ => apart ?_
    rcases here with rfl | rfl
    · exact first
    · exact last

end Reflection

namespace Compaction

/-- The pool of a reflection spells a text, and every reference there can be, whether the reflection
made it or not, reads within that text. -/
theorem compact_name {stage : Stage} {reader : Reader} {reflection : Reflection}
    (done : (compact stage reader).outcome = .ok reflection) :
    ∃ text, reflection.pool.bytes = Text.Utf8.encode text ∧
      ∀ ref, reflection.ReadsWithin text ref := by
  obtain ⟨listing, _, _, _, _, _, _, rfl⟩ := compact_eq_ok_iff.mp done
  have spelled : (Packing.layout stage listing).pool.bytes =
      Text.Utf8.encode (NamePool.pooledText (listing.keptNames stage)) :=
    NamePool.spelling_eq_encode _
  exact ⟨_, spelled, Reflection.readsWithin spelled⟩

def samplePoolText : String :=
  "main\x00position\x00camera\x00émail\x00view\x00\x00a\x00b\x00"

theorem compact_name_sample :
    (compact .vertex sampleReader).outcome = .ok sampleReflection ∧
      sampleReflection.name ⟨19, 4⟩ = "a\x00é" ∧ sampleReflection.name ⟨22, 5⟩ = "" ∧
        sampleReflection.name ⟨37, 2⟩ = "" := by
  obtain ⟨text, bytes, reads⟩ := compact_name compact_sample
  have same : text = samplePoolText := by
    have spelled : sampleReflection.pool.bytes = Text.Utf8.encode samplePoolText := by decide
    exact Text.Utf8.encode_injective (bytes.symm.trans spelled)
  subst same
  have last : samplePoolText = "main\x00position\x00camera\x00" ++ String.singleton 'é' ++
      "mail\x00view\x00\x00a\x00b\x00" := by decide
  refine ⟨compact_sample, ?_, ?_, ?_⟩
  · obtain ⟨front, back, split, start, stop⟩ := (reads ⟨19, 4⟩).between (by decide)
      ⟨"main\x00position\x00camer", "a\x00émail\x00view\x00\x00a\x00b\x00", by decide, by decide⟩
      ⟨"main\x00position\x00camera\x00é", "mail\x00view\x00\x00a\x00b\x00", by decide, by decide⟩
    have length : Text.Utf8.size (sampleReflection.name ⟨19, 4⟩) = 4 := by
      rw [Text.Utf8.size_append, start] at stop
      exact Nat.add_left_cancel stop
    have piece := Text.Utf8.slice_append front (sampleReflection.name ⟨19, 4⟩) back
    rw [← split, start, length] at piece
    have bytes : ((Text.Utf8.encode samplePoolText).drop (NameRef.start ⟨19, 4⟩)).take 4 =
      Text.Utf8.encode "a\x00é" := by decide
    exact Text.Utf8.encode_injective (piece.symm.trans bytes)
  · exact (reads ⟨22, 5⟩).cut _ _ _ last 22 (.inl rfl) (by decide) (by decide)
  · exact (reads ⟨37, 2⟩).elsewhere fun inside => absurd inside.1 (by decide)

end Compaction

end ShaderInterface
