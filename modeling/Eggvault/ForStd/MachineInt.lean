import Mathlib.Data.Int.Init

/-!
# Counting with machine integers

Counting up and down by one in `Int8` and `Int16`, as integers: away from the ends of the
type nothing wraps.  The operations of `Int32` give the exact result wherever that fits, and a
difference of `UInt32` is the time between two readings of a clock, even of one that has wrapped.
-/

theorem Int8.toInt_sub_one {v : Int8} (h : -128 < v.toInt) : (v - 1).toInt = v.toInt - 1 := by
  have hone : (1 : Int8).toInt = 1 := rfl
  have hlt := Int8.toInt_lt v
  rw [Int8.toInt_sub, hone, Int.bmod_eq_of_le] <;> omega

theorem Int8.toInt_add_one {v : Int8} (h : v.toInt < 127) : (v + 1).toInt = v.toInt + 1 := by
  have hone : (1 : Int8).toInt = 1 := rfl
  have hle := Int8.le_toInt v
  rw [Int8.toInt_add, hone, Int.bmod_eq_of_le] <;> omega

theorem Int16.toInt_sub_one {v : Int16} (h : -32768 < v.toInt) : (v - 1).toInt = v.toInt - 1 := by
  have hone : (1 : Int16).toInt = 1 := rfl
  have hlt := Int16.toInt_lt v
  rw [Int16.toInt_sub, hone, Int.bmod_eq_of_le] <;> omega

theorem Int16.toInt_add_one {v : Int16} (h : v.toInt < 32767) : (v + 1).toInt = v.toInt + 1 := by
  have hone : (1 : Int16).toInt = 1 := rfl
  have hle := Int16.le_toInt v
  rw [Int16.toInt_add, hone, Int.bmod_eq_of_le] <;> omega

/-! ## Operations of `Int32` whose exact result fits -/

theorem Int32.toInt_add_of_fits {a b : Int32} (h₁ : -2147483648 ≤ a.toInt + b.toInt)
    (h₂ : a.toInt + b.toInt < 2147483648) : (a + b).toInt = a.toInt + b.toInt := by
  rw [Int32.toInt_add, Int.bmod_eq_of_le] <;> omega

theorem Int32.toInt_sub_of_fits {a b : Int32} (h₁ : -2147483648 ≤ a.toInt - b.toInt)
    (h₂ : a.toInt - b.toInt < 2147483648) : (a - b).toInt = a.toInt - b.toInt := by
  rw [Int32.toInt_sub, Int.bmod_eq_of_le] <;> omega

theorem Int32.toInt_mul_of_fits {a b : Int32} (h₁ : -2147483648 ≤ a.toInt * b.toInt)
    (h₂ : a.toInt * b.toInt < 2147483648) : (a * b).toInt = a.toInt * b.toInt := by
  rw [Int32.toInt_mul, Int.bmod_eq_of_le] <;> omega

/-! ## Between signed and unsigned numbers -/

theorem UInt8.toInt_toInt8_of_lt {v : UInt8} (h : v.toNat < 128) : v.toInt8.toInt = v.toNat := by
  have hv : v.toInt8.toInt = v.toBitVec.toInt := rfl
  have hn : v.toBitVec.toNat = v.toNat := rfl
  rw [hv, BitVec.toInt_eq_toNat_of_lt (by omega), hn]

theorem UInt16.toInt_toInt16_of_lt {v : UInt16} (h : v.toNat < 32768) :
    v.toInt16.toInt = v.toNat := by
  have hv : v.toInt16.toInt = v.toBitVec.toInt := rfl
  have hn : v.toBitVec.toNat = v.toNat := rfl
  rw [hv, BitVec.toInt_eq_toNat_of_lt (by omega), hn]

theorem Int8.toNat_toUInt8_of_nonneg {v : Int8} (h : 0 ≤ v.toInt) :
    v.toUInt8.toNat = v.toInt.toNat :=
  Int8.toNat_toUInt8_of_le (Int8.le_iff_toInt_le.mpr h)

theorem Int16.toNat_toUInt16_of_nonneg {v : Int16} (h : 0 ≤ v.toInt) :
    v.toUInt16.toNat = v.toInt.toNat :=
  Int16.toNat_toUInt16_of_le (Int16.le_iff_toInt_le.mpr h)

/-- The unsigned reading of a negative number is larger by `2^32`. -/
theorem Int32.toNat_toUInt32_cases (v : Int32) :
    (0 ≤ v.toInt ∧ (v.toUInt32.toNat : Int) = v.toInt) ∨
      (v.toInt < 0 ∧ (v.toUInt32.toNat : Int) = v.toInt + 4294967296) := by
  have hv : v.toInt = v.toBitVec.toInt := rfl
  have hn : v.toUInt32.toNat = v.toBitVec.toNat := rfl
  have hlt := v.toBitVec.isLt
  rw [hv, hn, BitVec.toInt_eq_toNat_cond]
  split <;> omega

/-! ## Differences of `UInt32` -/

theorem UInt32.toNat_add_le_of_le_sub {a b t : UInt32} (hab : a ≤ b) (h : t ≤ b - a) :
    a.toNat + t.toNat ≤ b.toNat := by
  have hle := UInt32.le_iff_toNat_le.mp hab
  rw [UInt32.le_iff_toNat_le, UInt32.toNat_sub_of_le _ _ hab] at h
  omega

theorem UInt32.toNat_add_lt_of_lt_sub {a b t : UInt32} (hab : a ≤ b) (h : t < b - a) :
    a.toNat + t.toNat < b.toNat := by
  have hle := UInt32.le_iff_toNat_le.mp hab
  rw [UInt32.lt_iff_toNat_lt, UInt32.toNat_sub_of_le _ _ hab] at h
  omega

/-- The time between two readings of a counter of 32 bits that has gone round less than once. -/
theorem UInt32.toNat_ofNat_sub_ofNat {a b : Nat} (hab : a ≤ b) (h : b < a + 4294967296) :
    (UInt32.ofNat b - UInt32.ofNat a).toNat = b - a := by
  rw [UInt32.toNat_sub, UInt32.toNat_ofNat', UInt32.toNat_ofNat']
  omega
