import FieldSearch.Json.Value

/-!
# Words in JSON

A word is written as an integer, and an integer is read as a word just if it is what some word is
written as.
-/

namespace FieldSearch.Json

theorem int64?_eq_some {j : Json} {w : Int64} : j.int64? = some w ↔ j = .int w.toInt := by
  cases j with
  | int n =>
    rw [int64?]
    constructor
    · intro h
      split at h
      next range =>
        cases h
        rw [Int64.toInt_ofInt_of_le range.1 (by have := Int64.toInt_maxValue; omega)]
      next => cases h
    · intro h
      cases h
      rw [if_pos ⟨Int64.minValue_le_toInt w, Int64.toInt_le w⟩, Int64.ofInt_toInt]
  | _ => simp [int64?]

theorem uint64?_eq_some {j : Json} {w : UInt64} : j.uint64? = some w ↔ j = ofNat w.toNat := by
  cases j with
  | int n =>
    rw [uint64?, ofNat]
    constructor
    · intro h
      split at h
      next range =>
        cases h
        rw [UInt64.toNat_ofNat_of_lt' (by omega), Int.toNat_of_nonneg range.1]
      next => cases h
    · intro h
      cases h
      have hlt := w.toNat_lt_size
      rw [if_pos ⟨Int.natCast_nonneg _, by omega⟩, Int.toNat_natCast, UInt64.ofNat_toNat]
  | _ => simp [uint64?, ofNat]

theorem uint32?_eq_some {j : Json} {w : UInt32} : j.uint32? = some w ↔ j = ofNat w.toNat := by
  cases j with
  | int n =>
    rw [uint32?, ofNat]
    constructor
    · intro h
      split at h
      next range =>
        cases h
        rw [UInt32.toNat_ofNat_of_lt' (by omega), Int.toNat_of_nonneg range.1]
      next => cases h
    · intro h
      cases h
      have hlt := w.toNat_lt_size
      rw [if_pos ⟨Int.natCast_nonneg _, by omega⟩, Int.toNat_natCast, UInt32.ofNat_toNat]
  | _ => simp [uint32?, ofNat]

end FieldSearch.Json
