import EthercatSimulator.Profile.Codec
import Mathlib.Data.Rat.Floor

/-! The numbers that fit a 32-bit object. -/

namespace EthercatSimulator.Profile

open Base ExtRat

/-- A number that `int()` cuts to a 32-bit one. -/
def InRange (v : Value ExtRat) : Prop := ∃ q : ℚ, v.toFloat = num q ∧ -2 ^ 31 - 1 < q ∧ q < 2 ^ 31

theorem tdiv_of_nonneg {q : ℚ} (h : 0 ≤ q) : q.num.tdiv q.den = ⌊q⌋ := by
  rw [Int.tdiv_eq_ediv_of_nonneg (Rat.num_nonneg.mpr h)]
  exact (Rat.floor_def q).symm

theorem tdiv_of_neg {q : ℚ} (h : q < 0) : q.num.tdiv q.den = -⌊-q⌋ := by
  rw [← tdiv_of_nonneg (neg_nonneg.mpr h.le), Rat.num_neg_eq_neg_num, Rat.den_neg_eq_den, Int.neg_tdiv, neg_neg]

theorem tdiv_range (q : ℚ) : (DataType.low .int32 ≤ q.num.tdiv q.den ∧ q.num.tdiv q.den ≤ DataType.high .int32) ↔
    -2 ^ 31 - 1 < q ∧ q < 2 ^ 31 := by
  have hlow : DataType.low .int32 = -2 ^ 31 := by decide
  have hhigh : DataType.high .int32 = 2 ^ 31 - 1 := by decide
  rw [hlow, hhigh]
  rcases le_or_gt 0 q with hq | hq
  · have hfloor : 0 ≤ ⌊q⌋ := Int.floor_nonneg.mpr hq
    have hlt : ⌊q⌋ < 2 ^ 31 ↔ q < 2 ^ 31 := by rw [Int.floor_lt]; norm_num
    rw [tdiv_of_nonneg hq, ← hlt]
    constructor
    · exact fun h => ⟨by linarith, by omega⟩
    · exact fun h => ⟨by omega, by omega⟩
  · have hfloor : 0 ≤ ⌊-q⌋ := Int.floor_nonneg.mpr (by linarith)
    have hlt : ⌊-q⌋ < 2 ^ 31 + 1 ↔ -q < 2 ^ 31 + 1 := by rw [Int.floor_lt]; norm_num
    rw [tdiv_of_neg hq]
    constructor
    · exact fun h => ⟨by have := hlt.mp (by omega); linarith, by linarith⟩
    · intro h
      have := hlt.mpr (by linarith [h.1])
      omega

theorem packInt_iff (t : DataType) (n : Int) : (∃ raw, packInt t n = .ok raw) ↔ t.low ≤ n ∧ n ≤ t.high := by
  constructor
  · rintro ⟨raw, hraw⟩
    exact ⟨(packInt_ok hraw).1, (packInt_ok hraw).2.1⟩
  · exact fun h => ⟨_, by rw [packInt, if_pos h]⟩

/-- What `int()` refuses does not fit. -/
theorem unpacked_of_error {x : ExtRat} (herror : ∃ e, floatToInt x = .error e) :
    ¬ ∃ raw, floatToInt x >>= packInt .int32 = .ok raw := by
  obtain ⟨e, he⟩ := herror
  rintro ⟨raw, hraw⟩
  rw [he] at hraw
  cases hraw

theorem packFloat_iff (x : ExtRat) : (∃ raw, floatToInt x >>= packInt .int32 = .ok raw) ↔
    ∃ q : ℚ, x = num q ∧ -2 ^ 31 - 1 < q ∧ q < 2 ^ 31 := by
  cases x with
  | num q =>
    change (∃ raw, packInt .int32 (q.num.tdiv q.den) = .ok raw) ↔ _
    rw [packInt_iff, tdiv_range]
    constructor
    · exact fun h => ⟨q, rfl, h⟩
    · rintro ⟨_, ⟨⟩, h⟩
      exact h
  | nan => exact iff_of_false (unpacked_of_error ⟨_, rfl⟩) (by simp)
  | posInf => exact iff_of_false (unpacked_of_error ⟨_, rfl⟩) (by simp)
  | negInf => exact iff_of_false (unpacked_of_error ⟨_, rfl⟩) (by simp)

theorem encodable_iff (v : Value ExtRat) : Encodable .int32 v ↔ InRange v := by
  unfold Encodable InRange
  simp only [encodeOdValue_int (t := .int32) (by decide)]
  cases v with
  | int n =>
    have hrange := tdiv_range n
    rw [Rat.num_intCast, Rat.den_intCast] at hrange
    simp only [Nat.cast_one, Int.tdiv_one] at hrange
    change (∃ raw, packInt .int32 n = .ok raw) ↔ _
    rw [packInt_iff, hrange]
    constructor
    · exact fun h => ⟨n, rfl, h⟩
    · rintro ⟨_, ⟨⟩, h⟩
      exact h
  | float x => exact packFloat_iff x
  | float32 bits => exact packFloat_iff _

end EthercatSimulator.Profile
