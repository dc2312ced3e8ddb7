import Mathlib.Data.Finmap
import Mathlib.Data.Finset.Card

namespace Simvoip.Data

universe u v

/-! # Extensional finite maps with the operations of `std::map`

Two maps are equal when their lookups are.  Insertion keeps a value that is
already present, and indexing with `operator[]` may itself grow the map.
-/

abbrev StdMap (κ : Type u) (β : Type v) := Finmap fun _ : κ => β

namespace StdMap

variable {κ : Type u} {β : Type v} {map : StdMap κ β} {key other : κ} {value fallback : β}

def size (map : StdMap κ β) : Nat := map.keys.card

theorem size_empty : size (∅ : StdMap κ β) = 0 := by
  simp [size]

variable [DecidableEq κ]

/-- Decided on the keys that are present, also where the type of keys is finite. -/
instance decidableForallKeys (map : StdMap κ β) (p : κ → Prop) [DecidablePred p] :
    Decidable (∀ key ∈ map.keys, p key) :=
  Finset.decidableDforallFinset

/-- `std::map::insert`: a key that is already present keeps its value. -/
def emplace (map : StdMap κ β) (key : κ) (value : β) : StdMap κ β :=
  if key ∈ map then map else map.insert key value

/-- `std::map::operator[]` as a read: a missing key is first created with the
default value of the mapped type. -/
def index (map : StdMap κ β) (key : κ) (fallback : β) : β × StdMap κ β :=
  match map.lookup key with
  | some value => (value, map)
  | none => (fallback, map.insert key fallback)

theorem emplace_of_mem (value : β) (present : key ∈ map) : emplace map key value = map :=
  if_pos present

theorem emplace_of_notMem (value : β) (absent : key ∉ map) :
    emplace map key value = map.insert key value :=
  if_neg absent

theorem mem_emplace : key ∈ emplace map key value := by
  unfold emplace
  split
  · assumption
  · exact Finmap.mem_insert.mpr (.inl rfl)

theorem mem_of_mem_emplace (member : other ∈ emplace map key value) (different : other ≠ key) :
    other ∈ map := by
  unfold emplace at member
  split at member
  · exact member
  · exact (Finmap.mem_insert.mp member).resolve_left different

theorem index_of_lookup (fallback : β) (found : map.lookup key = some value) :
    index map key fallback = (value, map) := by
  simp only [index, found]

/-- Reading an entry that is there leaves the map as it was. -/
theorem index_of_mem (fallback : β) (present : key ∈ map) : (index map key fallback).2 = map := by
  obtain ⟨value, found⟩ := Finmap.mem_iff.mp present
  rw [index_of_lookup fallback found]

theorem index_fst (map : StdMap κ β) (key : κ) (fallback : β) :
    (index map key fallback).1 = (map.lookup key).getD fallback := by
  unfold index
  cases map.lookup key with
  | some value => rfl
  | none => rfl

/-- The entry that indexing creates reads as the default value it already read as. -/
theorem getD_lookup_index (map : StdMap κ β) (key : κ) (fallback : β) :
    ((index map key fallback).2.lookup other).getD fallback =
      (map.lookup other).getD fallback := by
  unfold index
  cases found : map.lookup key with
  | some value => rfl
  | none =>
      by_cases same : other = key
      · subst same
        simp [Finmap.lookup_insert, found]
      · simp [Finmap.lookup_insert_of_ne _ same]

theorem keys_insert (map : StdMap κ β) (key : κ) (value : β) :
    (map.insert key value).keys = insert key map.keys := by
  ext candidate
  simp only [Finmap.mem_keys, Finmap.mem_insert, Finset.mem_insert]

theorem size_insert_of_notMem (value : β) (absent : key ∉ map) :
    size (map.insert key value) = size map + 1 := by
  rw [size, keys_insert, Finset.card_insert_of_notMem (Finmap.mem_keys.not.mpr absent), size]

theorem size_insert_of_mem (value : β) (present : key ∈ map) :
    size (map.insert key value) = size map := by
  rw [size, keys_insert, Finset.insert_eq_of_mem (Finmap.mem_keys.mpr present), size]

/-- A map that was indexed is not empty. -/
theorem size_index_pos (map : StdMap κ β) (key : κ) (fallback : β) :
    0 < size (index map key fallback).2 := by
  unfold index
  cases found : map.lookup key with
  | some value =>
      exact Finset.card_pos.mpr ⟨key, Finmap.mem_keys.mpr (Finmap.mem_of_lookup_eq_some found)⟩
  | none =>
      rw [size_insert_of_notMem _ (Finmap.lookup_eq_none.mp found)]
      exact Nat.succ_pos _

theorem size_erase_of_mem (present : key ∈ map) :
    size (map.erase key) + 1 = size map := by
  rw [size, Finmap.keys_erase]
  exact Finset.card_erase_add_one (Finmap.mem_keys.mpr present)

theorem lookup_erase_iff :
    (map.erase key).lookup other = some value ↔ other ≠ key ∧ map.lookup other = some value := by
  by_cases same : other = key
  · subst same
    simp [Finmap.lookup_erase]
  · simp [Finmap.lookup_erase_ne same, same]

theorem erase_insert_of_ne (different : key ≠ other) :
    (map.insert key value).erase other = (map.erase other).insert key value := by
  refine Finmap.ext_lookup fun candidate => ?_
  by_cases one : candidate = other
  · subst one
    rw [Finmap.lookup_erase, Finmap.lookup_insert_of_ne _ (Ne.symm different), Finmap.lookup_erase]
  · rw [Finmap.lookup_erase_ne one]
    by_cases two : candidate = key
    · subst two
      rw [Finmap.lookup_insert, Finmap.lookup_insert]
    · rw [Finmap.lookup_insert_of_ne _ two, Finmap.lookup_insert_of_ne _ two,
        Finmap.lookup_erase_ne one]

theorem lookup_insert_iff {result : β} :
    (map.insert key value).lookup other = some result ↔
      (other = key ∧ value = result) ∨ (other ≠ key ∧ map.lookup other = some result) := by
  by_cases same : other = key
  · subst same
    simp [Finmap.lookup_insert]
  · simp [Finmap.lookup_insert_of_ne _ same, same]

end StdMap

end Simvoip.Data
