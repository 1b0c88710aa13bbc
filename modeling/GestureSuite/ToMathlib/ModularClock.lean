import Mathlib.Tactic

/-! # A clock kept in 32 bits

The difference of two readings of a clock that wraps around is the elapsed time modulo the period.
It never exceeds the elapsed time, so a minimum distance measured on the readings is one in true
time, across any number of wraps. The intended home is beside the `UInt32` lemmas of the core library.
-/

namespace UInt32

variable {earlier later : ℕ}

/-- The difference of two readings is the elapsed time modulo the period of the clock. -/
theorem toNat_ofNat_sub_ofNat (order : earlier ≤ later) :
    (UInt32.ofNat later - UInt32.ofNat earlier).toNat = (later - earlier) % 2 ^ 32 := by
  rw [UInt32.toNat_sub, UInt32.toNat_ofNat', UInt32.toNat_ofNat']
  omega

/-- What the readings are apart, the true times are apart at least. -/
theorem toNat_le_sub_of_le {distance : UInt32} (order : earlier ≤ later)
    (apart : distance ≤ UInt32.ofNat later - UInt32.ofNat earlier) : distance.toNat ≤ later - earlier := by
  have readings : distance.toNat ≤ (later - earlier) % 2 ^ 32 := by
    rw [← toNat_ofNat_sub_ofNat order]
    exact UInt32.le_iff_toNat_le.mp apart
  exact readings.trans (Nat.mod_le _ _)

end UInt32
