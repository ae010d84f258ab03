import Mathlib.Algebra.Order.Field.Power
import Mathlib.Data.Nat.Log
import Mathlib.Data.Rat.Floor
import Mathlib.Tactic.Linarith
import Mathlib.Tactic.NormNum
import Mathlib.Tactic.Ring

/-! Floating point numbers as an interface.  Programs are written over any `PyFloat`, whose
operations need not obey the laws of a field; `ExtRat` is the exact instance, rational
arithmetic with the two infinities and the not-a-number of IEEE 754. -/

namespace EthercatSimulator.Base

/-- Why a float has no integer part. -/
inductive IntError
  | nan | infinite
  deriving DecidableEq

class PyFloat (F : Type) extends Zero F, Add F, Sub F, Mul F, Div F, Neg F, LT F, LE F where
  decLT : DecidableRel (α := F) (· < ·)
  decLE : DecidableRel (α := F) (· ≤ ·)
  ofInt : Int → F
  /-- The float a decimal literal denotes. -/
  ofRat : ℚ → F
  /-- `10.0 ** e` -/
  pow10 : Int → F
  /-- `x ** 2`; none where the result overflows. -/
  square : F → Option F
  /-- `int(x)`: truncation toward zero. -/
  toInt : F → Except IntError Int
  /-- The float of a binary32 pattern, and the pattern a float is packed to; a finite float
  beyond the binary32 range has none. -/
  unpack32 : BitVec 32 → F
  pack32 : F → Option (BitVec 32)
  toInt_zero : toInt 0 = .ok 0
  ofRat_intCast : ∀ n : Int, ofRat n = ofInt n
  /-- A decimal of moderate size packs. -/
  pack32_ofRat : ∀ q : ℚ, |q| ≤ 1000 → ∃ bits, pack32 (ofRat q) = some bits

namespace PyFloat

variable {F : Type} [PyFloat F]

instance : DecidableRel (α := F) (· < ·) := decLT
instance : DecidableRel (α := F) (· ≤ ·) := decLE

/-- A float literal. -/
abbrev lit (q : ℚ) : F := ofRat q

/-- `x == y`; false on a not-a-number. -/
def same (x y : F) : Bool := decide (x ≤ y) && decide (y ≤ x)

def abs (x : F) : F := if x < 0 then -x else x

/-- Python's `min` and `max` keep their first argument unless the second one beats it. -/
def min (x y : F) : F := if y < x then y else x
def max (x y : F) : F := if x < y then y else x

end PyFloat

/-- The exponent field of a binary32 pattern is not all ones. -/
def finite32 (bits : BitVec 32) : Bool := bits.toNat / 2 ^ 23 % 256 ≠ 255

inductive ExtRat
  | num (q : ℚ)
  | posInf
  | negInf
  | nan
  deriving DecidableEq

namespace ExtRat

def neg : ExtRat → ExtRat
  | num q => num (-q)
  | posInf => negInf
  | negInf => posInf
  | nan => nan

def add : ExtRat → ExtRat → ExtRat
  | num p, num q => num (p + q)
  | nan, _ | _, nan => nan
  | posInf, negInf | negInf, posInf => nan
  | posInf, _ | _, posInf => posInf
  | negInf, _ | _, negInf => negInf

def scaleInf (q : ℚ) : ExtRat := if 0 < q then posInf else if q < 0 then negInf else nan

def mul : ExtRat → ExtRat → ExtRat
  | num p, num q => num (p * q)
  | nan, _ | _, nan => nan
  | posInf, num q | num q, posInf => scaleInf q
  | negInf, num q | num q, negInf => scaleInf (-q)
  | posInf, posInf | negInf, negInf => posInf
  | posInf, negInf | negInf, posInf => negInf

/-- Division by zero is not reached: the source raises before it divides. -/
def div : ExtRat → ExtRat → ExtRat
  | num p, num q => num (p / q)
  | num _, posInf | num _, negInf => num 0
  | posInf, num q => scaleInf q
  | negInf, num q => scaleInf (-q)
  | _, _ => nan

def lt : ExtRat → ExtRat → Bool
  | num p, num q => p < q
  | num _, posInf | negInf, num _ | negInf, posInf => true
  | _, _ => false

def le : ExtRat → ExtRat → Bool
  | num p, num q => p ≤ q
  | num _, posInf | negInf, num _ | negInf, posInf | posInf, posInf | negInf, negInf => true
  | _, _ => false

def toInt : ExtRat → Except IntError Int
  | num q => .ok (q.num.tdiv q.den)
  | nan => .error .nan
  | _ => .error .infinite

/-- The exponent `e` with `2 ^ e ≤ q < 2 ^ (e + 1)`, for `0 < q`. -/
def binaryExponent (q : ℚ) : Int :=
  let e : Int := (Nat.log2 q.num.natAbs : Int) - Nat.log2 q.den
  if q < (2 : ℚ) ^ e then e - 1 else e

def roundHalfEven (q : ℚ) : Int :=
  let n := q.floor
  if q - n < 1 / 2 then n
  else if 1 / 2 < q - n then n + 1
  else if n % 2 = 0 then n else n + 1

/-- Round to nearest binary32, ties to even.  Adding the significand to the shifted exponent
lets a carry out of the significand raise the exponent. -/
def pack32 : ExtRat → Option (BitVec 32)
  | num q =>
    if q = 0 then some 0#32
    else
      let a := |q|
      let e := max (binaryExponent a) (-126)
      let m := roundHalfEven (a / (2 : ℚ) ^ (e - 23))
      let bits := (e + 126) * 2 ^ 23 + m
      if bits < 0x7F800000 then
        some (BitVec.ofInt 32 (if q < 0 then bits + 2 ^ 31 else bits))
      else none
  | posInf => some 0x7F800000#32
  | negInf => some 0xFF800000#32
  | nan => some 0x7FC00000#32

def unpack32 (bits : BitVec 32) : ExtRat :=
  let n := bits.toNat
  let negative := n / 2 ^ 31 = 1
  let exponent : Nat := n / 2 ^ 23 % 256
  let fraction : Nat := n % 2 ^ 23
  if exponent = 255 then
    if fraction ≠ 0 then nan else if negative then negInf else posInf
  else
    let a : ℚ :=
      if exponent = 0 then fraction * (2 : ℚ) ^ (-149 : Int)
      else (2 ^ 23 + fraction) * (2 : ℚ) ^ ((exponent : Int) - 150)
    num (if negative then -a else a)

/-! Numbers of moderate size pack. -/

theorem ratio_bounds {n d : ℕ} (hn : n ≠ 0) (hd : d ≠ 0) :
    (2 : ℚ) ^ ((n.log2 : Int) - d.log2 - 1) < n / d ∧
      (n / d : ℚ) < 2 ^ ((n.log2 : Int) - d.log2 + 1) := by
  have hlow : ∀ {k : ℕ}, k ≠ 0 → (2 : ℚ) ^ (k.log2 : Int) ≤ k := by
    intro k hk
    rw [zpow_natCast]
    exact_mod_cast Nat.log2_self_le hk
  have hhigh : ∀ k : ℕ, (k : ℚ) < 2 ^ ((k.log2 : Int) + 1) := by
    intro k
    exact_mod_cast Nat.lt_log2_self (n := k)
  have hpow : ∀ k : Int, (0 : ℚ) < 2 ^ k := fun k => zpow_pos (by norm_num) k
  have hn' : (0 : ℚ) < n := by exact_mod_cast Nat.pos_of_ne_zero hn
  have hd' : (0 : ℚ) < d := by exact_mod_cast Nat.pos_of_ne_zero hd
  constructor
  · have heq : (2 : ℚ) ^ ((n.log2 : Int) - d.log2 - 1) = 2 ^ (n.log2 : Int) / 2 ^ ((d.log2 : Int) + 1) := by
      rw [← zpow_sub₀ (by norm_num), sub_sub]
    rw [heq, div_lt_div_iff₀ (hpow _) hd']
    calc (2 : ℚ) ^ (n.log2 : Int) * d ≤ n * d := mul_le_mul_of_nonneg_right (hlow hn) hd'.le
      _ < n * 2 ^ ((d.log2 : Int) + 1) := mul_lt_mul_of_pos_left (hhigh d) hn'
  · have heq : (2 : ℚ) ^ ((n.log2 : Int) - d.log2 + 1) = 2 ^ ((n.log2 : Int) + 1) / 2 ^ (d.log2 : Int) := by
      rw [← zpow_sub₀ (by norm_num), sub_add_eq_add_sub]
    rw [heq, div_lt_div_iff₀ hd' (hpow _)]
    calc (n : ℚ) * 2 ^ (d.log2 : Int) ≤ n * d := mul_le_mul_of_nonneg_left (hlow hd) hn'.le
      _ < 2 ^ ((n.log2 : Int) + 1) * d := mul_lt_mul_of_pos_right (hhigh n) hd'

theorem binaryExponent_bounds {q : ℚ} (hq : 0 < q) :
    (2 : ℚ) ^ binaryExponent q ≤ q ∧ q < (2 : ℚ) ^ (binaryExponent q + 2) := by
  have hnum : q.num.natAbs ≠ 0 := by simpa using hq.ne'
  have hratio : (q.num.natAbs : ℚ) / q.den = q := by
    have habs : ((q.num.natAbs : Int) : ℚ) = q.num := by
      rw [Int.natAbs_of_nonneg (Rat.num_pos.mpr hq).le]
    rw [← Int.cast_natCast, habs, Rat.num_div_den]
  obtain ⟨hlow, hhigh⟩ := ratio_bounds hnum q.den_nz
  rw [hratio] at hlow hhigh
  unfold binaryExponent
  dsimp only
  split
  · refine ⟨hlow.le, hhigh.trans_le (le_of_eq ?_)⟩
    congr 1
    omega
  · rename_i h
    refine ⟨not_lt.mp h, hhigh.trans_le ?_⟩
    exact zpow_le_zpow_right₀ (by norm_num) (by omega)

theorem roundHalfEven_le (q : ℚ) : (roundHalfEven q : ℚ) ≤ q + 1 := by
  have h := Int.floor_le q
  have h' : q.floor = ⌊q⌋ := rfl
  unfold roundHalfEven
  rw [h']
  dsimp only
  split_ifs <;> push_cast <;> linarith

theorem pack32_small {q : ℚ} (hq : |q| ≤ 1000) : ∃ bits, pack32 (num q) = some bits := by
  unfold pack32
  dsimp only
  split
  · exact ⟨_, rfl⟩
  · rename_i hne
    have hpos : 0 < |q| := abs_pos.mpr hne
    obtain ⟨hlow, hhigh⟩ := binaryExponent_bounds hpos
    set b := binaryExponent |q|
    have hb : b < 10 := by
      by_contra hb
      have : (2 : ℚ) ^ (10 : Int) ≤ 2 ^ b := zpow_le_zpow_right₀ (by norm_num) (by omega)
      norm_num at this
      linarith
    set e := max b (-126)
    have he : |q| / 2 ^ (e - 23) < 2 ^ 25 := by
      rw [div_lt_iff₀ (zpow_pos (by norm_num) _)]
      calc |q| < 2 ^ (b + 2) := hhigh
        _ ≤ (2 : ℚ) ^ (e + 2) := zpow_le_zpow_right₀ (by norm_num) (by omega)
        _ = 2 ^ 25 * 2 ^ (e - 23) := by
          rw [← zpow_natCast (2 : ℚ) 25, ← zpow_add₀ (by norm_num)]
          congr 1
          push_cast
          ring
    have hm := roundHalfEven_le (|q| / 2 ^ (e - 23))
    have hm' : roundHalfEven (|q| / 2 ^ (e - 23)) ≤ 2 ^ 25 + 1 := by
      have : (roundHalfEven (|q| / 2 ^ (e - 23)) : ℚ) ≤ 2 ^ 25 + 1 := by linarith
      exact_mod_cast this
    rw [if_pos (by omega)]
    exact ⟨_, rfl⟩

instance : PyFloat ExtRat where
  zero := num 0
  add := add
  sub x y := add x (neg y)
  mul := mul
  div := div
  neg := neg
  lt x y := lt x y
  le x y := le x y
  decLT x y := inferInstanceAs (Decidable (lt x y = true))
  decLE x y := inferInstanceAs (Decidable (le x y = true))
  ofInt n := num n
  ofRat := num
  pow10 e := num ((10 : ℚ) ^ e)
  square x := some (mul x x)
  toInt := toInt
  unpack32 := unpack32
  pack32 := pack32
  toInt_zero := rfl
  ofRat_intCast _ := rfl
  pack32_ofRat _ := pack32_small

example : pack32 (num (-1 / 5)) = some 0xBE4CCCCD#32 := by decide +kernel
example : unpack32 0x3FC00000#32 = num (3 / 2) := by decide +kernel

variable (p q : ℚ)

theorem zero_def : (0 : ExtRat) = num 0 := rfl

@[simp] theorem num_add : num p + num q = num (p + q) := rfl
@[simp] theorem num_mul : num p * num q = num (p * q) := rfl
@[simp] theorem num_div : num p / num q = num (p / q) := rfl
@[simp] theorem neg_num : -num p = num (-p) := rfl

@[simp] theorem num_sub : num p - num q = num (p - q) := by
  change num (p + -q) = _
  rw [sub_eq_add_neg]

@[simp] theorem num_lt : num p < num q ↔ p < q := by
  change lt (num p) (num q) = true ↔ _
  simp [lt]

@[simp] theorem num_le : num p ≤ num q ↔ p ≤ q := by
  change le (num p) (num q) = true ↔ _
  simp [le]

@[simp] theorem ofInt_eq (n : Int) : (PyFloat.ofInt n : ExtRat) = num n := rfl
@[simp] theorem ofRat_eq : (PyFloat.ofRat q : ExtRat) = num q := rfl
@[simp] theorem pow10_eq (e : Int) : (PyFloat.pow10 e : ExtRat) = num ((10 : ℚ) ^ e) := rfl
@[simp] theorem toInt_num : PyFloat.toInt (num q) = .ok (q.num.tdiv q.den) := rfl

@[simp] theorem abs_num : PyFloat.abs (num q) = num |q| := by
  simp only [PyFloat.abs, zero_def, num_lt, neg_num]
  split
  · rename_i h; rw [abs_of_neg h]
  · rename_i h; rw [abs_of_nonneg (not_lt.mp h)]

@[simp] theorem max_num : PyFloat.max (num p) (num q) = num (max p q) := by
  simp only [PyFloat.max, num_lt]
  split
  · rename_i h; rw [max_eq_right h.le]
  · rename_i h; rw [max_eq_left (not_lt.mp h)]

@[simp] theorem min_num : PyFloat.min (num p) (num q) = num (min p q) := by
  simp only [PyFloat.min, num_lt]
  split
  · rename_i h; rw [min_eq_right h.le]
  · rename_i h; rw [min_eq_left (not_lt.mp h)]

@[simp] theorem same_num : PyFloat.same (num p) (num q) = decide (p = q) := by
  simp [PyFloat.same, le_antisymm_iff]

/-- The smaller of two positive bounds is positive and within both. -/
theorem min_pos {x y : ExtRat} (hx : 0 < x) (hy : 0 < y) :
    0 < PyFloat.min x y ∧ ∀ q, x ≤ num q ∨ y ≤ num q → PyFloat.min x y ≤ num q := by
  cases x with
  | num p =>
    cases y with
    | num q =>
      rw [zero_def, num_lt] at hx hy
      rw [min_num, zero_def, num_lt]
      refine ⟨lt_min hx hy, fun r hr => ?_⟩
      rw [num_le, num_le] at hr
      rw [num_le]
      exact min_le_iff.mpr hr
    | posInf => exact ⟨hx, fun r hr => hr.resolve_right nofun⟩
    | negInf | nan => cases hy
  | posInf =>
    cases y with
    | num q => exact ⟨hy, fun r hr => hr.resolve_left nofun⟩
    | posInf => exact ⟨rfl, fun r hr => hr.elim id id⟩
    | negInf | nan => cases hy
  | negInf | nan => cases hx

theorem foldl_min_pos {x : ExtRat} (hx : 0 < x) {xs : List ExtRat} (hxs : ∀ y ∈ xs, 0 < y) :
    0 < xs.foldl PyFloat.min x ∧
      ∀ q, (∃ y ∈ x :: xs, y ≤ num q) → xs.foldl PyFloat.min x ≤ num q := by
  induction xs generalizing x with
  | nil => exact ⟨hx, fun q ⟨y, hy, hle⟩ => List.mem_singleton.mp hy ▸ hle⟩
  | cons y ys ih =>
    have hmin := min_pos hx (hxs y List.mem_cons_self)
    have hrest := ih hmin.1 fun z hz => hxs z (List.mem_cons_of_mem _ hz)
    refine ⟨hrest.1, fun q ⟨z, hz, hle⟩ => hrest.2 q ?_⟩
    rcases List.mem_cons.mp hz with rfl | hz
    · exact ⟨_, List.mem_cons_self, hmin.2 q (.inl hle)⟩
    · rcases List.mem_cons.mp hz with rfl | hz
      · exact ⟨_, List.mem_cons_self, hmin.2 q (.inr hle)⟩
      · exact ⟨z, List.mem_cons_of_mem _ hz, hle⟩

/-- Adding an exact zero changes no number, the infinities and not-a-number included. -/
@[simp] theorem add_zero_num (x : ExtRat) : x + num 0 = x := by
  cases x with
  | num q => simp
  | posInf => rfl
  | negInf => rfl
  | nan => rfl

end ExtRat

end EthercatSimulator.Base
