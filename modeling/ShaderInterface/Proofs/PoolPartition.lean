import ShaderInterface.Proofs.SizeAgreement

/-! The name pool of a reflection is cut up by the references stored in its records: every byte
belongs to one name or ends one. Zero bytes inside names do no harm, since no reader scans for
them. -/
namespace ShaderInterface
open NamePool (refsFrom spelling)

/-- Every reference that a reflection stores: the entry point's, then those of vertex inputs,
resources and members. -/
def Reflection.references (reflection : Reflection) : List NameRef :=
  reflection.entryPoint :: (reflection.vertexInputs.map (·.name) ++
    reflection.resources.map (·.name) ++ reflection.members.map (·.name))

namespace Compaction

private theorem map_zipWith_refsFrom {α β : Type} (nameOf : α → String) (record : α → NameRef → β)
    (ref : β → NameRef) (h : ∀ item name, ref (record item name) = name) (start : Nat)
    (items : List α) :
    (items.zipWith record (refsFrom start (items.map nameOf))).map ref =
      refsFrom start (items.map nameOf) := by
  induction items generalizing start with
  | nil => rfl
  | cons item items ih =>
    rw [List.map_cons, refsFrom, List.zipWith_cons_cons, List.map_cons, h, ih]

theorem assemble_references (stage : Stage) (listing : Declared.Listing)
    (workgroupSize : WorkgroupSize) (controlPoints : UInt32) :
    (assemble stage (Packing.layout stage listing) workgroupSize controlPoints).references =
      refsFrom 0 (listing.keptNames stage) := by
  have inputs : 0 + NamePool.cost listing.entryPoint = Packing.inputStart listing :=
    Nat.zero_add _
  rw [Declared.Listing.keptNames, refsFrom, NamePool.refsFrom_append, NamePool.refsFrom_append,
    NamePool.totalCost_append, ← Nat.add_assoc, inputs, Reflection.references]
  simp only [assemble, Packing.layout, Packing.inputRecords, Packing.resourceRecords,
    Packing.memberRecords]
  rw [map_zipWith_refsFrom _ _ _ (fun _ _ => rfl), map_zipWith_refsFrom _ _ _ (fun _ _ => rfl),
    map_zipWith_refsFrom _ _ _ (fun _ _ => rfl)]
  rfl

/-- The pool spells the kept names one after another, each followed by a zero byte, and the stored
references cut it up without a gap or an overlap. Each keeps the full offset and length of its name
and reads as exactly that name. -/
theorem compact_pool {stage : Stage} {reader : Reader} {reflection : Reflection}
    (done : (compact stage reader).outcome = .ok reflection) :
    ∃ listing, reader.listing = .ok listing ∧
      reflection.pool.bytes = spelling (listing.keptNames stage) ∧
      NameRef.Tiles 0 reflection.references reflection.pool.size ∧
      reflection.references.map reflection.name = listing.keptNames stage ∧
      ∀ before name after, listing.keptNames stage = before ++ name :: after →
        ∃ ref, reflection.references[before.length]? = some ref ∧
          ref.offset.toNat = (spelling before).length ∧
          ref.len.toNat = (Text.Utf8.encode name).length ∧
          reflection.name ref = name := by
  obtain ⟨listing, listed, fits, workgroupSize, controlPoints, _, _, rfl⟩ :=
    compact_eq_ok_iff.mp done
  have holds := Packing.layout_holds stage listing
  refine ⟨listing, listed, rfl, ?_, ?_, ?_⟩
  · have tiles := holds.tiles fits
    rw [Nat.zero_add, ← Packing.layout_pool_size] at tiles
    rw [assemble_references]
    exact tiles
  · rw [assemble_references]
    exact holds.map_name fits
  · intro before name after split
    rw [split] at holds
    have own := holds.append_right.head
    obtain ⟨offset, len⟩ := own.refAt_bounds fits
    refine ⟨NamePool.refAt (0 + NamePool.totalCost before) name, ?_, ?_, len, own.name_refAt fits⟩
    · rw [assemble_references, split, NamePool.refsFrom_append,
        List.getElem?_append_right (Nat.le_of_eq (NamePool.length_refsFrom 0 before)),
        NamePool.length_refsFrom, Nat.sub_self, refsFrom]
      rfl
    · rw [offset, NamePool.length_spelling, Nat.zero_add]

theorem compact_pool_sample :
    (compact .vertex sampleReader).outcome = .ok sampleReflection ∧
      sampleReflection.pool.bytes = spelling (sampleListing.keptNames .vertex) ∧
      NameRef.Tiles 0 sampleReflection.references sampleReflection.pool.size ∧
      sampleReflection.references.map sampleReflection.name =
        ["main", "position", "camera", "émail", "view", "", "a\x00b"] := by
  obtain ⟨listing, listed, bytes, tiles, names, _⟩ := compact_pool compact_sample
  cases listed
  exact ⟨compact_sample, bytes, tiles, names⟩

end Compaction

end ShaderInterface
