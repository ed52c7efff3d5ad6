import ShaderInterface.Proofs.TextReading
import ShaderInterface.Reflection.NamePool
import Mathlib.Data.List.Forall2

/-! Runs of names in a pool: the bytes that they take, the references that point at them, and what
those references read as. A reference outlives every later append. -/
namespace ShaderInterface

/-- References that lie end to end from one position to another, with one byte behind each. -/
def NameRef.Tiles (start : Nat) : List NameRef → Nat → Prop
  | [], stop => start = stop
  | ref :: rest, stop => ref.start = start ∧ Tiles (ref.stop + 1) rest stop

namespace NamePool

def spelling (names : List String) : List UInt8 :=
  names.flatMap fun name => Text.Utf8.encode name ++ [0]

def extend (pool : NamePool) (names : List String) : NamePool := ⟨pool.bytes ++ spelling names⟩

def refAt (start : Nat) (name : String) : NameRef :=
  ⟨.ofNat start, .ofNat (Text.Utf8.size name)⟩

def refsFrom (start : Nat) : List String → List NameRef
  | [] => []
  | name :: rest => refAt start name :: refsFrom (start + cost name) rest

/-- The pool holds a run of names from a position on. -/
def Holds (pool : NamePool) (start : Nat) (names : List String) : Prop :=
  ∃ before after, pool.bytes = before ++ spelling names ++ after ∧ before.length = start

theorem spelling_cons (name : String) (names : List String) :
    spelling (name :: names) = Text.Utf8.encode name ++ [0] ++ spelling names := rfl

theorem spelling_append (front back : List String) :
    spelling (front ++ back) = spelling front ++ spelling back := List.flatMap_append

theorem length_spelling (names : List String) : (spelling names).length = totalCost names := by
  induction names with
  | nil => rfl
  | cons name names ih =>
    rw [spelling_cons, List.length_append, ih, List.length_append]
    rfl

theorem totalCost_append (front back : List String) :
    totalCost (front ++ back) = totalCost front + totalCost back := by
  rw [← length_spelling, spelling_append, List.length_append, length_spelling, length_spelling]

theorem totalCost_perm {names others : List String} (h : names.Perm others) :
    totalCost names = totalCost others := by
  rw [← length_spelling, ← length_spelling]
  exact (h.flatMap_right _).length_eq

theorem extend_nil (pool : NamePool) : pool.extend [] = pool := by
  rw [extend, spelling, List.flatMap_nil, List.append_nil]

theorem extend_extend (pool : NamePool) (front back : List String) :
    (pool.extend front).extend back = pool.extend (front ++ back) := by
  rw [extend, extend, extend, spelling_append, List.append_assoc]

theorem size_extend (pool : NamePool) (names : List String) :
    (pool.extend names).size = pool.size + totalCost names := by
  rw [extend, size, List.length_append, length_spelling]
  rfl

/-- Writing one name extends the pool by it and refers to its old end. -/
theorem push_eq (pool : NamePool) (name : String) :
    pool.push name = (pool.extend [name], refAt pool.size name) := by
  rw [push, extend, spelling_cons, spelling, List.flatMap_nil, List.append_nil, List.append_assoc]
  rfl

theorem length_refsFrom (start : Nat) (names : List String) :
    (refsFrom start names).length = names.length := by
  induction names generalizing start with
  | nil => rfl
  | cons name names ih => rw [refsFrom, List.length_cons, ih, List.length_cons]

theorem refsFrom_append (start : Nat) (front back : List String) :
    refsFrom start (front ++ back) =
      refsFrom start front ++ refsFrom (start + totalCost front) back := by
  induction front generalizing start with
  | nil => rfl
  | cons name front ih =>
    rw [List.cons_append, refsFrom, ih, refsFrom, List.cons_append, totalCost, Nat.add_assoc]

theorem Holds.of_extend (pool : NamePool) (names : List String) :
    (pool.extend names).Holds pool.size names :=
  ⟨pool.bytes, [], (List.append_nil _).symm, rfl⟩

theorem Holds.append_left {pool : NamePool} {start : Nat} {front back : List String}
    (h : pool.Holds start (front ++ back)) : pool.Holds start front := by
  obtain ⟨before, after, bytes, length⟩ := h
  refine ⟨before, spelling back ++ after, ?_, length⟩
  rw [bytes, spelling_append, List.append_assoc, List.append_assoc, List.append_assoc]

theorem Holds.append_right {pool : NamePool} {start : Nat} {front back : List String}
    (h : pool.Holds start (front ++ back)) : pool.Holds (start + totalCost front) back := by
  obtain ⟨before, after, bytes, length⟩ := h
  refine ⟨before ++ spelling front, after, ?_, ?_⟩
  · rw [bytes, spelling_append, List.append_assoc, List.append_assoc, List.append_assoc,
      List.append_assoc]
  · rw [List.length_append, length_spelling, length]

theorem Holds.head {pool : NamePool} {start : Nat} {name : String} {names : List String}
    (h : pool.Holds start (name :: names)) : pool.Holds start [name] := by
  rw [← List.singleton_append] at h
  exact h.append_left

theorem Holds.tail {pool : NamePool} {start : Nat} {name : String} {names : List String}
    (h : pool.Holds start (name :: names)) : pool.Holds (start + cost name) names := by
  rw [← List.singleton_append] at h
  exact h.append_right

theorem Holds.stop_le {pool : NamePool} {start : Nat} {names : List String}
    (h : pool.Holds start names) : start + totalCost names ≤ pool.size := by
  obtain ⟨before, after, bytes, length⟩ := h
  rw [size, bytes, List.length_append, List.length_append, length_spelling]
  omega

theorem Holds.refAt_bounds {pool : NamePool} {start : Nat} {name : String}
    (h : pool.Holds start [name]) (fits : pool.size < UInt32.size) :
    (refAt start name).offset.toNat = start ∧
      (refAt start name).len.toNat = Text.Utf8.size name := by
  have bound : start + (cost name + 0) ≤ pool.size := h.stop_le
  rw [cost] at bound
  exact ⟨UInt32.toNat_ofNat_of_lt' (show start < UInt32.size by omega),
    UInt32.toNat_ofNat_of_lt' (show Text.Utf8.size name < UInt32.size by omega)⟩

/-- The reference to a name reads as that name, whatever stands before or behind it. -/
theorem Holds.name_refAt {pool : NamePool} {start : Nat} {name : String}
    (h : pool.Holds start [name]) (fits : pool.size < UInt32.size) :
    pool.name (refAt start name) = name := by
  obtain ⟨offset, len⟩ := h.refAt_bounds fits
  have bound : start + (cost name + 0) ≤ pool.size := h.stop_le
  rw [cost] at bound
  obtain ⟨before, after, bytes, length⟩ := h
  have slice : pool.slice? start (start + Text.Utf8.size name) = some (Text.Utf8.encode name) := by
    rw [slice?, if_pos (by omega), bytes, spelling_cons, ← length, List.append_assoc,
      List.drop_left, List.append_assoc, List.append_assoc, Nat.add_sub_cancel_left]
    exact congrArg some List.take_left
  rw [NamePool.name, NameRef.start, NameRef.stop, offset, len, slice]
  dsimp only
  rw [Text.Utf8.decode_encode]
  rfl

theorem Holds.map_name {pool : NamePool} {start : Nat} {names : List String}
    (h : pool.Holds start names) (fits : pool.size < UInt32.size) :
    (refsFrom start names).map pool.name = names := by
  induction names generalizing start with
  | nil => rfl
  | cons name names ih =>
    rw [refsFrom, List.map_cons, h.head.name_refAt fits, ih h.tail]

/-- Records made of items and the references of their names point at those names. -/
theorem Holds.forall₂_zipWith {α β : Type} {nameOf : α → String} {record : α → NameRef → β}
    {pool : NamePool} {start : Nat} {items : List α} (h : pool.Holds start (items.map nameOf))
    (fits : pool.size < UInt32.size) :
    List.Forall₂ (fun item made => ∃ ref, made = record item ref ∧ pool.name ref = nameOf item)
      items (items.zipWith record (refsFrom start (items.map nameOf))) := by
  induction items generalizing start with
  | nil => exact .nil
  | cons item items ih =>
    exact .cons ⟨_, rfl, h.head.name_refAt fits⟩ (ih h.tail)

theorem Holds.tiles {pool : NamePool} {start : Nat} {names : List String}
    (h : pool.Holds start names) (fits : pool.size < UInt32.size) :
    NameRef.Tiles start (refsFrom start names) (start + totalCost names) := by
  induction names generalizing start with
  | nil => rfl
  | cons name names ih =>
    obtain ⟨offset, len⟩ := h.head.refAt_bounds fits
    have next : (refAt start name).stop + 1 = start + cost name := by
      rw [NameRef.stop, offset, len, cost, Nat.add_assoc]
    refine ⟨offset, ?_⟩
    rw [next, totalCost, ← Nat.add_assoc]
    exact ih h.tail

end NamePool

end ShaderInterface
