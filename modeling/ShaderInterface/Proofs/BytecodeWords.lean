import ShaderInterface.Proofs.FailureOrder
import ShaderInterface.Proofs.TextOperands

/-! Bytes for words. Words spelled lowest byte first are read back from their bytes, in place or
gathered, and every run of whole words is the spelling of one list of words. So a reflection of
bytes is the reflection of the words they spell, wherever in memory the bytes lie. -/
namespace ShaderInterface

theorem Word.ofBytes_toUInt8 (word : UInt32) : Word.ofBytes word.toUInt8 (word >>> 8).toUInt8
    (word >>> 16).toUInt8 (word >>> 24).toUInt8 = word := by
  have small := word.toNat_lt
  simp only [← UInt32.toNat_inj, toNat_ofBytes, UInt32.toNat_toUInt8, UInt32.toNat_shiftRight,
    UInt32.reduceToNat, Nat.reduceMod, Nat.shiftRight_eq_div_pow]
  omega

namespace Bytecode

variable {bytes : List UInt8} {words : List UInt32}

theorem length_flatMap_toBytes (words : List UInt32) :
    (words.flatMap Word.toBytes).length = 4 * words.length := by
  induction words with
  | nil => rfl
  | cons word words ih =>
    rw [List.flatMap_cons, List.length_append, ih, List.length_cons, Nat.mul_succ, Nat.add_comm]
    rfl

theorem gatherWords_flatMap (words : List UInt32) :
    gatherWords (words.flatMap Word.toBytes) = words := by
  induction words with
  | nil => rfl
  | cons word words ih =>
    rw [List.flatMap_cons, Word.toBytes, List.cons_append, List.cons_append, List.cons_append,
      List.cons_append, List.nil_append, gatherWords, Word.ofBytes_toUInt8, ih]

private theorem length_lt_four (short : ∀ a b c d rest, bytes = a :: b :: c :: d :: rest → False) :
    bytes.length < 4 := by
  match bytes, short with
  | [], _ | [_], _ | [_, _], _ | [_, _, _], _ => simp
  | a :: b :: c :: d :: rest, short => exact (short a b c d rest rfl).elim

theorem flatMap_gatherWords (whole : bytes.length % 4 = 0) :
    (gatherWords bytes).flatMap Word.toBytes = bytes := by
  fun_induction gatherWords bytes with
  | case1 a b c d rest ih =>
    have behind : rest.length % 4 = 0 := by
      rw [← Nat.add_mod_right rest.length 4]
      exact whole
    rw [List.flatMap_cons, Word.toBytes_ofBytes, ih behind]
    rfl
  | case2 bytes short =>
    have few := length_lt_four short
    have none : bytes = [] := List.eq_nil_of_length_eq_zero (by omega)
    rw [none]
    rfl

/-- Bytes spell words exactly when they are whole words and these are the words gathered. -/
theorem flatMap_toBytes_eq_iff :
    words.flatMap Word.toBytes = bytes ↔ bytes.length % 4 = 0 ∧ gatherWords bytes = words := by
  constructor
  · rintro rfl
    exact ⟨by rw [length_flatMap_toBytes, Nat.mul_mod_right], gatherWords_flatMap words⟩
  · rintro ⟨whole, rfl⟩
    exact flatMap_gatherWords whole

private theorem wordsInPlace_cons (a b c d : UInt8) (rest : List UInt8) (misalignment : Nat) :
    wordsInPlace ⟨a :: b :: c :: d :: rest, misalignment⟩ =
      Word.ofBytes a b c d :: wordsInPlace ⟨rest, misalignment⟩ := by
  have count : (a :: b :: c :: d :: rest).length / 4 = rest.length / 4 + 1 := by
    rw [← Nat.add_div_right rest.length (by decide : 0 < 4)]
    rfl
  rw [wordsInPlace, count, List.range_succ_eq_map, List.map_cons, List.map_map]
  refine congrArg _ (List.map_congr_left fun k _ => ?_)
  -- Each later word stands four bytes further on than in the rest.
  simp only [Function.comp_apply, List.getElem?_toArray, Nat.mul_succ, List.getElem?_cons_succ]

/-- The words seen in place are the words gathered. -/
theorem wordsInPlace_eq_gatherWords (bytes : List UInt8) (misalignment : Nat) :
    wordsInPlace ⟨bytes, misalignment⟩ = gatherWords bytes := by
  fun_induction gatherWords bytes with
  | case1 a b c d rest ih => rw [wordsInPlace_cons, ih]
  | case2 bytes short =>
    rw [wordsInPlace, Nat.div_eq_of_lt (length_lt_four short)]
    rfl

theorem words_eq_gatherWords (code : Bytecode) : code.words = gatherWords code.bytes := by
  rw [Bytecode.words, wordsInPlace_eq_gatherWords code.bytes code.misalignment, ite_self]

end Bytecode

section reflectBytes

variable (backend : Backend) (stage : Stage) {code : Bytecode}

theorem reflectBytes_of_empty (empty : code.bytes = []) :
    reflectBytes backend code stage = .fail BytecodeFlaw.empty.fault := by
  rw [reflectBytes, if_pos (List.isEmpty_iff.mpr empty)]

theorem reflectBytes_of_ragged (ragged : code.bytes.length % 4 ≠ 0) :
    reflectBytes backend code stage = .fail (BytecodeFlaw.ragged code.bytes.length).fault := by
  have given : ¬ code.bytes.isEmpty = true := by
    intro empty
    rw [List.isEmpty_iff.mp empty] at ragged
    exact ragged rfl
  rw [reflectBytes, if_neg given, if_pos ragged]

theorem reflectBytes_of_whole (whole : code.bytes.length % 4 = 0) :
    reflectBytes backend code stage =
      reflectShader backend (Bytecode.gatherWords code.bytes) stage := by
  by_cases empty : code.bytes = []
  · rw [reflectBytes_of_empty backend stage empty, empty]
    rfl
  · rw [reflectBytes, if_neg (mt List.isEmpty_iff.mp empty), if_neg (not_not_intro whole),
      Bytecode.words_eq_gatherWords]

theorem reflectBytes_misalignment (bytes : List UInt8) (one other : Nat) :
    reflectBytes backend ⟨bytes, one⟩ stage = reflectBytes backend ⟨bytes, other⟩ stage := by
  by_cases whole : bytes.length % 4 = 0
  · rw [reflectBytes_of_whole backend stage whole, reflectBytes_of_whole backend stage whole]
  · rw [reflectBytes_of_ragged backend stage whole, reflectBytes_of_ragged backend stage whole]

/-- Bytes that are no words are refused, whatever the backend, and it is not asked. All others are
reflected as the only words that they spell. The two ways of reading them agree, so that it does not
matter where they lie, and every list of words is reflected as its bytes are, the empty one
included. -/
theorem reflectBytes_eq_reflectShader :
    (∀ code : Bytecode, code.bytes = [] →
      reflectBytes backend code stage = .fail ⟨.invalidInput, "Shader bytecode is empty"⟩) ∧
    (∀ code : Bytecode, code.bytes.length % 4 ≠ 0 →
      reflectBytes backend code stage = .fail ⟨.invalidInput,
        "Shader bytecode length " ++ toString code.bytes.length ++ " is not a multiple of 4"⟩) ∧
    (∀ code : Bytecode, code.bytes ≠ [] → code.bytes.length % 4 = 0 →
      ∃ words, words.flatMap Word.toBytes = code.bytes ∧
        (∀ others, others.flatMap Word.toBytes = code.bytes → others = words) ∧
        reflectBytes backend code stage = reflectShader backend words stage) ∧
    (∀ code : Bytecode, code.wordsInPlace = Bytecode.gatherWords code.bytes) ∧
    (∀ bytes one other,
      reflectBytes backend ⟨bytes, one⟩ stage = reflectBytes backend ⟨bytes, other⟩ stage) ∧
    ∀ words misalignment,
      reflectBytes backend ⟨words.flatMap Word.toBytes, misalignment⟩ stage =
        reflectShader backend words stage := by
  refine ⟨fun code => reflectBytes_of_empty backend stage,
    fun code => reflectBytes_of_ragged backend stage, ?_,
    fun code => Bytecode.wordsInPlace_eq_gatherWords code.bytes code.misalignment,
    reflectBytes_misalignment backend stage, ?_⟩
  · intro code _ whole
    refine ⟨_, Bytecode.flatMap_gatherWords whole, ?_, reflectBytes_of_whole backend stage whole⟩
    intro others spelled
    exact (Bytecode.flatMap_toBytes_eq_iff.mp spelled).2.symm
  · intro words misalignment
    obtain ⟨whole, gathered⟩ := Bytecode.flatMap_toBytes_eq_iff.mp
      (rfl : words.flatMap Word.toBytes = words.flatMap Word.toBytes)
    rw [reflectBytes_of_whole backend stage whole, gathered]

end reflectBytes

def markedBackend : Backend := fun words =>
  if words.head? = some 0x07230203 then .pure Compaction.sampleReader
  else .fail ⟨.reflectorError, "no magic number"⟩

/-- The mark is found with its lowest byte first, at a word boundary and behind one, and not the
other way round; too few and too many bytes do not come so far. -/
theorem reflectBytes_eq_reflectShader_marked :
    reflectBytes markedBackend ⟨[], 1⟩ .vertex =
      .fail ⟨.invalidInput, "Shader bytecode is empty"⟩ ∧
    reflectBytes markedBackend ⟨[3, 2, 0x23, 7, 0], 0⟩ .vertex =
      .fail ⟨.invalidInput, "Shader bytecode length 5 is not a multiple of 4"⟩ ∧
    (∃ words, words.flatMap Word.toBytes = [3, 2, 0x23, 7] ∧
      reflectBytes markedBackend ⟨[3, 2, 0x23, 7], 3⟩ .vertex =
        reflectShader markedBackend words .vertex) ∧
    (reflectBytes markedBackend ⟨[3, 2, 0x23, 7], 3⟩ .vertex).outcome =
      .ok Compaction.sampleReflection ∧
    (reflectBytes markedBackend ⟨[3, 2, 0x23, 7], 0⟩ .vertex).outcome =
      .ok Compaction.sampleReflection ∧
    reflectBytes markedBackend ⟨[7, 0x23, 2, 3], 0⟩ .vertex =
      .fail ⟨.reflectorError, "no magic number"⟩ := by
  obtain ⟨empty, ragged, whole, -, anywhere, spelled⟩ :=
    reflectBytes_eq_reflectShader markedBackend .vertex
  obtain ⟨words, same, _, reflected⟩ := whole ⟨[3, 2, 0x23, 7], 3⟩ (by decide) (by decide)
  have found : (reflectBytes markedBackend ⟨[3, 2, 0x23, 7], 0⟩ .vertex).outcome =
      .ok Compaction.sampleReflection := by
    refine (congrArg Logged.outcome (spelled [0x07230203] 0)).trans ?_
    rw [reflectShader_of_ne_nil _ (by decide), markedBackend, List.head?_cons, if_pos rfl,
      Logged.andThen_outcome_ok rfl]
    exact Compaction.compact_sample
  refine ⟨empty _ rfl, ragged _ (by decide), ⟨words, same, reflected⟩, ?_, found,
    spelled [0x03022307] 0⟩
  rw [anywhere _ 3 0]
  exact found

end ShaderInterface
