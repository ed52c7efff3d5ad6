import ShaderInterface.Proofs.InterfaceListing
import ShaderInterface.Proofs.LoggedRuns

/-! Which listed resources are used. A reading goes through the outline, the choice of an entry
point and the interface that is resolved for it. A resource is used if the resolved variable behind
it shares its key with one that the entry point refers to; only where keys tell the variables apart
is that the variable itself. -/
namespace ShaderInterface.Spirv

private theorem readOutline_eq_ok_iff {words : List UInt32} {outline : Outline} :
    (readOutline words).outcome = .ok outline ↔ scan words = .ok outline := by
  unfold readOutline
  cases scan words <;> simp [Logged.pure, refuse, Logged.report]

private theorem readOutlined_eq_ok_iff {resolver : Resolver} {config : Config}
    {words : List UInt32} {outline : Outline} {reading : Reading} :
    (readOutlined resolver config words outline).outcome = .ok reading ↔
      ∃ declared entry, chooseEntry config outline = .ok declared ∧
        resolveChosen resolver config words declared.name = .ok entry ∧
          (readEntry outline declared entry).outcome = .ok reading := by
  unfold readOutlined
  cases chooseEntry config outline with
  | error fault => simp [refuse, Logged.report]
  | ok declared =>
    cases chosen : resolveChosen resolver config words declared.name <;>
      simp [chosen, refuse, Logged.report, Logged.after]

/-- What a reading goes through: the outline of the words, an entry point of it, and the interface
that is resolved for the entry point. -/
theorem readWith_eq_ok_iff {resolver : Resolver} {config : Config} {words : List UInt32}
    {reading : Reading} :
    (readWith resolver config words).outcome = .ok reading ↔
      ∃ outline declared entry, scan words = .ok outline ∧
        chooseEntry config outline = .ok declared ∧
          resolveChosen resolver config words declared.name = .ok entry ∧
            (readEntry outline declared entry).outcome = .ok reading := by
  simp only [readWith, Logged.andThen_eq_ok_iff, readOutline_eq_ok_iff, readOutlined_eq_ok_iff]
  constructor
  · rintro ⟨outline, scanned, declared, entry, rest⟩
    exact ⟨outline, declared, entry, scanned, rest⟩
  · rintro ⟨outline, declared, entry, scanned, rest⟩
    exact ⟨outline, scanned, declared, entry, rest⟩

/-- Two resolved variables with one key. -/
def Resolved.SharesKey (one other : Resolved) : Prop :=
  ∃ key, one.key? = some key ∧ other.key? = some key

namespace Listing

variable {outline : Outline} {standing : Option Global} {used : Bool} {resolved : Resolved}
  {resource : Declared.Resource}

private theorem exists_key_of_resource?
    (h : resource? outline standing used resolved = some resource) :
    ∃ key, resolved.key? = some key := by
  cases resolved with
  | specConstant => cases h
  | _ => exact ⟨_, rfl⟩

theorem hasKeyIn_usedKeys_iff {entry : Resolution.Entry} :
    hasKeyIn (usedKeys entry) resolved = true ↔
      ∃ other ∈ entry.referenced, resolved.SharesKey other := by
  unfold hasKeyIn Resolved.SharesKey
  cases resolved.key? with
  | none => simp
  | some key => simp [usedKeys]

theorem exists_of_mem_list {entry : EntryPoint} {keys : List InterfaceKey} {found : List Resolved}
    (mem : resource ∈ (list outline entry keys found).resources) :
    ∃ resolved ∈ found,
      resource? outline (findGlobal? outline entry resolved) resource.used resolved =
          some resource ∧
        resource.used = hasKeyIn keys resolved := by
  rw [list_resources] at mem
  obtain ⟨item, traced, own⟩ := exists_of_mem_yields mem
  obtain ⟨resolved, declared, rfl⟩ :=
    List.mem_map.mp ((trace_perm outline entry found).mem_iff.mp traced)
  have used := resource?_used own
  exact ⟨resolved, declared, used ▸ own, used⟩

theorem used_iff_sharesKey {declared : EntryPoint} {entry : Resolution.Entry}
    (mem : resource ∈ (list outline declared (usedKeys entry) entry.declared).resources) :
    ∃ resolved ∈ entry.declared,
      resource? outline (findGlobal? outline declared resolved) resource.used resolved =
          some resource ∧
        (resource.used = true ↔ ∃ other ∈ entry.referenced, resolved.SharesKey other) := by
  obtain ⟨resolved, found, made, used⟩ := exists_of_mem_list mem
  exact ⟨resolved, found, made, by rw [used, hasKeyIn_usedKeys_iff]⟩

theorem used_iff_referenced {declared : EntryPoint} {entry : Resolution.Entry}
    (known : ∀ other ∈ entry.referenced, other ∈ entry.declared)
    (distinct : ∀ one ∈ entry.declared, ∀ other ∈ entry.declared,
      one.SharesKey other → one = other)
    (mem : resource ∈ (list outline declared (usedKeys entry) entry.declared).resources) :
    ∃ resolved ∈ entry.declared,
      resource? outline (findGlobal? outline declared resolved) resource.used resolved =
          some resource ∧
        (resource.used = true ↔ resolved ∈ entry.referenced) := by
  obtain ⟨resolved, found, made, used⟩ := used_iff_sharesKey mem
  refine ⟨resolved, found, made, used.trans ⟨?_, ?_⟩⟩
  · rintro ⟨other, referenced, shared⟩
    exact distinct resolved found other (known other referenced) shared ▸ referenced
  · intro referenced
    obtain ⟨key, keyed⟩ := exists_key_of_resource? made
    exact ⟨resolved, referenced, key, keyed, keyed⟩

end Listing

/-- A resource of a reading is used if the variable that it was made of shares its key with one that
the entry point refers to. -/
theorem read_used_iff {resolver : Resolver} {config : Config} {words : List UInt32}
    {reading : Reading} (h : (readWith resolver config words).outcome = .ok reading) :
    ∃ outline declared entry, scan words = .ok outline ∧
      chooseEntry config outline = .ok declared ∧
        resolveChosen resolver config words declared.name = .ok entry ∧
          ∀ resource ∈ reading.resources, ∃ resolved ∈ entry.declared,
            Listing.resource? outline (Listing.findGlobal? outline declared resolved)
                resource.used resolved = some resource ∧
              (resource.used = true ↔ ∃ other ∈ entry.referenced, resolved.SharesKey other) := by
  obtain ⟨outline, declared, entry, scanned, chosen, resolved, read⟩ := readWith_eq_ok_iff.mp h
  refine ⟨outline, declared, entry, scanned, chosen, resolved, fun resource mem => ?_⟩
  cases read
  exact Listing.used_iff_sharesKey mem

/-- The words of a module with a texture 10 and a sampler 11, both at binding 0 of set 0. Its entry
point refers to the texture only. -/
def samplerBeside : List UInt32 :=
  [119734787, 66304, 0, 20, 0, 131089, 1, 196622, 0, 1, 327695, 5, 1, 1852399981, 0, 393232, 1, 17,
   1, 1, 1, 196613, 10, 7890292, 262149, 11, 1886216563, 0, 262215, 10, 34, 0, 262215, 10, 33, 0,
   262215, 11, 34, 0, 262215, 11, 33, 0, 196630, 2, 32, 589849, 5, 2, 1, 0, 0, 0, 1, 0, 262176, 7,
   0, 5, 131098, 8, 262176, 9, 0, 8, 262203, 7, 10, 0, 262203, 9, 11, 0, 131091, 13, 196641, 14, 13,
   327734, 13, 1, 0, 14, 131320, 15, 262205, 5, 16, 10, 65789, 65592]

def samplerBesideReading : Reading :=
  ⟨"main",
   [⟨"tex", ⟨10, 5, 5⟩, .texture, .texture2D, .readWrite, .unknown, 0, 0, 1, true⟩,
    ⟨"samp", ⟨11, 8, 8⟩, .sampler, .undefined, .readWrite, .unknown, 0, 0, 1, true⟩],
   [], ⟨1, 1, 1⟩, 0⟩

theorem read_used_iff_samplerBeside :
    (readWith resolveModule .standard samplerBeside).outcome = .ok samplerBesideReading ∧
      ∃ outline declared entry, scan samplerBeside = .ok outline ∧
        chooseEntry .standard outline = .ok declared ∧
          resolveChosen resolveModule .standard samplerBeside declared.name = .ok entry ∧
            ∀ resource ∈ samplerBesideReading.resources, ∃ resolved ∈ entry.declared,
              Listing.resource? outline (Listing.findGlobal? outline declared resolved)
                  resource.used resolved = some resource ∧
                (resource.used = true ↔ ∃ other ∈ entry.referenced, resolved.SharesKey other) := by
  have read :
      (readWith resolveModule .standard samplerBeside).outcome = .ok samplerBesideReading := by
    rfl
  exact ⟨read, read_used_iff read⟩

/-- The sampler that nothing refers to is used, as it lies beside a texture that is. -/
theorem read_samplerBeside :
    (resolveChosen resolveModule .standard samplerBeside "main").toOption.map
        (·.referenced.map Resolved.name?) = some [some "tex"] ∧
      (read .standard samplerBeside).outcome.toOption.map
          (·.resources.map fun resource => (resource.name, resource.used)) =
        some [("tex", true), ("samp", true)] := by
  decide +kernel

end ShaderInterface.Spirv
