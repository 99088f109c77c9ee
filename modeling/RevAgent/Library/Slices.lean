import Mathlib.Data.List.Forall2
import Mathlib.Data.Nat.Basic
import Mathlib.Order.Basic

/-!
# Cutting a list into slices

`slices size items` is what a loop that steps through `items` by `size` sees: the slice at each offset,
all of them full except perhaps the last. Put together again they are the list, and appending an item
changes the last slice only.
-/

namespace RevAgent.Library

open List

variable {α : Type*} {size : Nat} {items : List α}

def sliceCount (size length : Nat) : Nat := (length + (size - 1)) / size

def slices (size : Nat) (items : List α) : List (List α) :=
  (List.range (sliceCount size items.length)).map fun index =>
    (items.drop (index * size)).take size

theorem lt_sliceCount_iff (hsize : 0 < size) (index length : Nat) :
    index < sliceCount size length ↔ index * size < length := by
  rw [sliceCount, Nat.lt_div_iff_mul_lt hsize]
  omega

theorem sliceCount_pos_iff (hsize : 0 < size) {length : Nat} :
    0 < sliceCount size length ↔ 0 < length := by
  simpa using lt_sliceCount_iff hsize 0 length

theorem length_slices : (slices size items).length = sliceCount size items.length := by
  simp [slices]

theorem mem_slices_iff {slice : List α} :
    slice ∈ slices size items ↔
      ∃ index < sliceCount size items.length, (items.drop (index * size)).take size = slice := by
  simp [slices]

theorem ne_nil_of_mem_slices (hsize : 0 < size) {slice : List α} (h : slice ∈ slices size items) :
    slice ≠ [] := by
  obtain ⟨index, hindex, rfl⟩ := mem_slices_iff.mp h
  have hlt : index * size < items.length := (lt_sliceCount_iff hsize _ _).mp hindex
  apply ne_nil_of_length_pos
  rw [length_take, length_drop]
  omega

theorem length_le_of_mem_slices {slice : List α} (h : slice ∈ slices size items) :
    slice.length ≤ size := by
  obtain ⟨index, -, rfl⟩ := mem_slices_iff.mp h
  exact length_take_le _ _

theorem mem_of_mem_slices {slice : List α} {item : α} (h : slice ∈ slices size items)
    (hitem : item ∈ slice) : item ∈ items := by
  obtain ⟨index, -, rfl⟩ := mem_slices_iff.mp h
  exact mem_of_mem_drop (mem_of_mem_take hitem)

theorem flatten_first_slices (count : Nat) :
    ((range count).map fun index => (items.drop (index * size)).take size).flatten =
      items.take (count * size) := by
  induction count with
  | zero => simp
  | succ count ih =>
    rw [range_succ, map_append, flatten_append, ih, Nat.succ_mul, take_add]
    simp

theorem length_le_sliceCount_mul (hsize : 0 < size) (length : Nat) :
    length ≤ sliceCount size length * size := by
  by_contra hlt
  exact absurd ((lt_sliceCount_iff hsize _ _).mpr (Nat.not_le.mp hlt)) (Nat.lt_irrefl _)

theorem flatten_slices (hsize : 0 < size) : (slices size items).flatten = items := by
  rw [slices, flatten_first_slices, take_of_length_le (length_le_sliceCount_mul hsize _)]

theorem sliceCount_sliceCount {size' : Nat} (hsize : 0 < size) (hsize' : 0 < size') (length : Nat) :
    sliceCount size' (sliceCount size length) = sliceCount (size * size') length := by
  apply eq_of_forall_lt_iff
  intro index
  rw [lt_sliceCount_iff hsize', lt_sliceCount_iff hsize, lt_sliceCount_iff (Nat.mul_pos hsize hsize'),
    Nat.mul_assoc, Nat.mul_comm size']

theorem zipIdx_slices : (slices size items).zipIdx =
    (range (sliceCount size items.length)).map fun index =>
      ((items.drop (index * size)).take size, index) := by
  apply ext_getElem
  · simp [length_slices]
  · intro index hleft hright
    simp [slices]

theorem head?_slice (hsize : 0 < size) (start : Nat) :
    ((items.drop start).take size).head? = items[start]? := by
  rw [head?_take, if_neg (by omega), head?_drop]

theorem getLast?_slice {start : Nat} (hsize : 0 < size) (hstart : start < items.length) :
    ((items.drop start).take size).getLast? = items[min (start + size) items.length - 1]? := by
  have hlength : ((items.drop start).take size).length = min (start + size) items.length - start := by
    rw [length_take, length_drop]
    omega
  rw [getLast?_eq_getElem?, hlength, getElem?_take_of_lt (by omega), getElem?_drop]
  congr 1
  omega

theorem slices_eq_singleton (hpos : 0 < items.length) (hlength : items.length ≤ size) :
    slices size items = [items] := by
  have hcount : sliceCount size items.length = 1 := by
    rw [sliceCount, Nat.div_eq_iff (by omega)]
    omega
  rw [slices, hcount]
  simp [take_of_length_le hlength]

end RevAgent.Library
