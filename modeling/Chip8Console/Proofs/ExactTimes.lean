import Chip8Console.Numeric.Binary64

/-!
# Exact times

A difference of two times is rounded.  It is exact if it has no more than 53
significant bits, and whole milliseconds below `2^52` have exact differences.

A number that was not rounded is a multiple of its last bit.  So if it is below
`2^64` it is not above the greatest count, and counting it up to a whole number
is not cut short.

* `Binary64.Exact`: times whose differences are exact and can be counted.
* `Binary64.exact_of_whole`: whole milliseconds are such times.
* `Binary64.ceilCount_of_exact`: what the count of an exact difference is.
-/

namespace Chip8Console

namespace Binary64

theorem pow_two_pos (exponent : Nat) : 0 < Nat.pow 2 exponent := Nat.pow_pos (by decide)

theorem unitsPerOne_pos : 0 < unitsPerOne := by decide +kernel

/-! ## Numbers that need no rounding -/

/-- What need not be rounded is a multiple of its last bit. -/
theorem lastBit_dvd_of_ofRatio {negative : Bool} {num : Nat} {units : Int}
    (exact : ofRatio negative num 1 = .finite units) (same : units.natAbs = num) :
    lastBit num ∣ num := by
  have whole : num / 1 = num := Nat.div_one num
  simp only [ofRatio, whole, Nat.one_mul] at exact
  split at exact
  · cases exact
  · injection exact with exact
    have kept : roundDiv num (lastBit num) * lastBit num = num := by
      rw [← exact] at same
      cases negative with
      | true => simpa only [if_true, Int.natAbs_neg, Int.natAbs_natCast] using same
      | false => simpa only [Bool.false_eq_true, if_false, Int.natAbs_natCast] using same
    have multiple := Nat.dvd_mul_left (lastBit num) (roundDiv num (lastBit num))
    rwa [kept] at multiple

/-- A multiple of its last bit need not be rounded. -/
theorem ofRatio_of_dvd {num : Nat} (negative : Bool) (multiple : lastBit num ∣ num)
    (below : num < overflowUnits) :
    ofRatio negative num 1 = .finite (if negative then -num else num) := by
  have whole : num / 1 = num := Nat.div_one num
  have kept : roundDiv num (lastBit num) * lastBit num = num := by
    have rest : num % lastBit num = 0 := Nat.mod_eq_zero_of_dvd multiple
    have some_bit : 0 < lastBit num := pow_two_pos _
    rw [roundDiv]
    simp only [rest, Nat.mul_zero, if_pos some_bit]
    exact Nat.div_mul_cancel multiple
  simp only [ofRatio, whole, Nat.one_mul, kept, if_neg (Nat.not_le.2 below)]

/-- The last bit of a large number is large. -/
theorem pow_dvd_lastBit {num exponent : Nat} (large : Nat.pow 2 (exponent + 52) ≤ num) :
    Nat.pow 2 exponent ∣ lastBit num := by
  have some_num : num ≠ 0 := by
    have := pow_two_pos (exponent + 52)
    omega
  have bits := (Nat.le_log2 some_num).2 large
  exact Nat.pow_dvd_pow 2 (by omega)

/-- The last bit of a small number is small. -/
theorem lastBit_dvd_pow {num exponent : Nat} (small : num < Nat.pow 2 (exponent + 53)) :
    lastBit num ∣ Nat.pow 2 exponent := by
  refine Nat.pow_dvd_pow 2 ?_
  by_cases zero : num = 0
  · rw [zero, Nat.log2_zero]
    omega
  · have bits := (Nat.log2_lt zero).2 small
    omega

/-- What need not be rounded and is below `2^64`, in a unit that is a power of
two, is not above the greatest count. -/
theorem le_maxCount_mul {num unit exponent : Nat} (power : unit = Nat.pow 2 exponent)
    (multiple : lastBit num ∣ num) (below : num < (maxCount + 1) * unit) :
    num ≤ maxCount * unit := by
  rw [← Nat.not_lt]
  intro above
  -- between the two the last bit is 2048 units at least
  have half : Nat.pow 2 (11 + exponent + 52) = 0x8000000000000000 * unit := by
    rw [Nat.add_right_comm, power]
    exact Nat.pow_add 2 63 exponent
  have bit : Nat.pow 2 (11 + exponent) = 2048 * unit := by
    rw [power]
    exact Nat.pow_add 2 11 exponent
  have large : Nat.pow 2 (11 + exponent + 52) ≤ num := by
    rw [half]
    exact Nat.le_trans (Nat.mul_le_mul_right unit (by decide)) (Nat.le_of_lt above)
  obtain ⟨count, same⟩ := Nat.dvd_trans (pow_dvd_lastBit large) multiple
  rw [bit] at same
  have counted : 2048 * count < maxCount + 1 := by
    refine Nat.lt_of_mul_lt_mul_right (a := unit) ?_
    rw [Nat.mul_right_comm, ← same]
    exact below
  have short : 2048 * count ≤ maxCount := by
    unfold maxCount at counted ⊢
    omega
  refine absurd above (Nat.not_lt.2 ?_)
  rw [same, Nat.mul_right_comm]
  exact Nat.mul_le_mul_right unit short

theorem unitsPerOne_eq_pow : ∃ exponent, unitsPerOne = Nat.pow 2 exponent :=
  ⟨1074, by decide +kernel⟩

theorem le_maxCount_of_dvd {num : Nat} (multiple : lastBit num ∣ num)
    (below : num < (maxCount + 1) * unitsPerOne) : num ≤ maxCount * unitsPerOne := by
  obtain ⟨exponent, power⟩ := unitsPerOne_eq_pow
  exact le_maxCount_mul power multiple below

/-! ## Counting -/

/-- The number of units that so many make, counted up. -/
theorem ceil_bounds (units : Int) {unit : Int} (one : 0 < unit) :
    units ≤ -(-units / unit) * unit ∧ -(-units / unit) * unit < units + unit
      ∧ (unit ∣ units → -(-units / unit) * unit = units) := by
  have split := Int.mul_ediv_add_emod (-units) unit
  have low := Int.emod_nonneg (-units) (Int.ne_of_gt one)
  have high := Int.emod_lt_of_pos (-units) one
  rw [Int.neg_mul, Int.mul_comm]
  refine ⟨by omega, by omega, ?_⟩
  intro whole
  have rest := Int.emod_eq_zero_of_dvd (Int.dvd_neg.2 whole)
  omega

/-- A number of milliseconds up to the greatest count is counted up to a whole
one. -/
theorem ceilCount_eq {units : Int} (positive : 0 < units)
    (short : units ≤ maxCount * unitsPerOne) :
    ((finite units).ceilCount : Int) = -(-units / unitsPerOne) := by
  have one : 0 < (unitsPerOne : Int) := Int.natCast_pos.2 unitsPerOne_pos
  obtain ⟨low, high, _⟩ := ceil_bounds units one
  rw [ceilCount]
  generalize (unitsPerOne : Int) = unit at *
  generalize -(-units / unit) = count at *
  have some_count : 0 < count := by
    refine Int.pos_of_mul_pos_left ?_ one
    omega
  have counted : count < maxCount + 1 := by
    refine Int.lt_of_mul_lt_mul_right (a := unit) ?_ (Int.le_of_lt one)
    rw [Int.add_mul, Int.one_mul]
    omega
  omega

/-! ## Times -/

/-- All differences of the times are exact, and below `2^64` milliseconds. -/
def Exact (times : List Binary64) : Prop :=
  ∀ s t, finite s ∈ times → finite t ∈ times →
    (finite t).sub (finite s) = finite (t - s)
      ∧ t - s < ((maxCount + 1) * unitsPerOne : Nat)

theorem Exact.subset {some_times times : List Binary64} (exact : Exact times)
    (among : some_times ⊆ times) : Exact some_times := fun s t source target =>
  exact s t (among source) (among target)

theorem Exact.cons_of_improper {time : Binary64} {times : List Binary64}
    (improper : time.isFinite = false) (exact : Exact times) : Exact (time :: times) := by
  have proper : ∀ s, finite s ∈ time :: times → finite s ∈ times := by
    intro s listed
    rcases List.mem_cons.1 listed with rfl | later
    · cases improper
    · exact later
  exact fun s t source target => exact s t (proper s source) (proper t target)

theorem sub_eq_ofRatio (s t : Int) :
    (finite t).sub (finite s) = ofRatio (t - s < 0) (t - s).natAbs 1 := by
  rw [Int.sub_eq_add_neg]
  rfl

/-- An exact difference is counted up to a whole millisecond. -/
theorem ceilCount_of_exact {times : List Binary64} (exact : Exact times) {s t : Int}
    (source : finite s ∈ times) (target : finite t ∈ times) (later : s < t) :
    (((finite t).sub (finite s)).ceilCount : Int) = -(-(t - s) / unitsPerOne) := by
  obtain ⟨same, below⟩ := exact s t source target
  have multiple : lastBit (t - s).natAbs ∣ (t - s).natAbs := by
    rw [sub_eq_ofRatio] at same
    exact lastBit_dvd_of_ofRatio same rfl
  have short := le_maxCount_of_dvd multiple (by omega)
  rw [same]
  refine ceilCount_eq (by omega) ?_
  rw [← Int.natCast_mul]
  omega

/-- A whole number of milliseconds with no more than 53 bits is not rounded. -/
theorem ofRatio_whole {whole : Int} (small : whole.natAbs < 0x20000000000000) :
    ofRatio (whole < 0) (whole.natAbs * unitsPerOne) 1 = finite (whole * unitsPerOne) := by
  have multiple : lastBit (whole.natAbs * unitsPerOne) ∣ whole.natAbs * unitsPerOne := by
    obtain ⟨exponent, power⟩ := unitsPerOne_eq_pow
    have within : whole.natAbs * unitsPerOne < Nat.pow 2 (exponent + 53) := by
      rw [power, Nat.add_comm]
      refine Nat.lt_of_lt_of_eq ?_ (Nat.pow_add 2 53 exponent).symm
      exact Nat.mul_lt_mul_of_pos_right small (pow_two_pos exponent)
    have bit := lastBit_dvd_pow within
    rw [← power] at bit
    exact Nat.dvd_trans bit (Nat.dvd_mul_left _ _)
  have below : whole.natAbs * unitsPerOne < overflowUnits :=
    Nat.lt_of_lt_of_le (Nat.mul_lt_mul_of_pos_right small unitsPerOne_pos) (by decide +kernel)
  rw [ofRatio_of_dvd _ multiple below]
  by_cases negative : whole < 0
  · rw [decide_eq_true negative, if_pos rfl, Int.natCast_mul, ← Int.neg_mul]
    congr 2
    omega
  · rw [decide_eq_false negative, Int.natCast_mul]
    simp only [Bool.false_eq_true, if_false]
    congr 2
    omega

theorem ofInt_whole {whole : Int} (small : whole.natAbs < 0x10000000000000) :
    ofInt whole = finite (whole * unitsPerOne) :=
  ofRatio_whole (Nat.lt_trans small (by decide))

/-- Whole milliseconds below `2^52` have exact differences. -/
theorem exact_of_whole {whole : List Int} (small : ∀ n ∈ whole, n.natAbs < 0x10000000000000) :
    Exact (whole.map ofInt) := by
  have times : ∀ n ∈ whole, ofInt n = finite (n * unitsPerOne) := fun n listed =>
    ofInt_whole (small n listed)
  intro s t source target
  obtain ⟨m, from_m, first⟩ := List.mem_map.1 source
  obtain ⟨n, from_n, second⟩ := List.mem_map.1 target
  rw [times m from_m] at first
  rw [times n from_n] at second
  cases first
  cases second
  have near : (n - m).natAbs < 0x20000000000000 := by
    have := small m from_m
    have := small n from_n
    omega
  have one : 0 < (unitsPerOne : Int) := Int.natCast_pos.2 unitsPerOne_pos
  have sign : (n - m) * (unitsPerOne : Int) < 0 ↔ n - m < 0 := by
    constructor
    · intro negative
      refine Int.not_le.1 fun nonneg => ?_
      exact Int.not_le.2 negative (Int.mul_nonneg nonneg (Int.le_of_lt one))
    · intro negative
      exact Int.mul_neg_of_neg_of_pos negative one
  have counted : n - m < ((maxCount + 1 : Nat) : Int) := by
    have : maxCount = 0xffffffffffffffff := rfl
    omega
  rw [sub_eq_ofRatio, ← Int.sub_mul, Int.natAbs_mul, Int.natAbs_natCast, Int.natCast_mul]
  simp only [sign]
  refine ⟨ofRatio_whole near, ?_⟩
  generalize (unitsPerOne : Int) = unit at *
  exact Int.mul_lt_mul_of_pos_right counted one

end Binary64

end Chip8Console
