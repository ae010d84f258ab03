import Mathlib.Tactic.Ring
import Mathlib.Tactic.Linarith

/-! Byte strings: little-endian integers of a fixed width and hexadecimal text. -/

namespace EthercatSimulator.Base

abbrev Bytes := List UInt8

def leNat : Bytes → Nat
  | [] => 0
  | b :: bs => b.toNat + 256 * leNat bs

def leBytes : Nat → Nat → Bytes
  | 0, _ => []
  | k + 1, n => UInt8.ofNat (n % 256) :: leBytes k (n / 256)

@[simp] theorem length_leBytes (k n : Nat) : (leBytes k n).length = k := by
  induction k generalizing n with
  | zero => rfl
  | succ k ih => simp [leBytes, ih]

theorem leNat_lt (bs : Bytes) : leNat bs < 256 ^ bs.length := by
  induction bs with
  | nil => simp [leNat]
  | cons b bs ih =>
    have hb := b.toNat_lt
    simp only [leNat, List.length_cons, pow_succ]
    omega

@[simp] theorem leNat_leBytes (k n : Nat) : leNat (leBytes k n) = n % 256 ^ k := by
  induction k generalizing n with
  | zero => simp [leBytes, leNat, Nat.mod_one]
  | succ k ih =>
    have hb : (UInt8.ofNat (n % 256)).toNat = n % 256 := by
      simp [UInt8.toNat_ofNat']
    simp only [leBytes, leNat, ih, hb]
    rw [pow_succ', Nat.mod_mul]

theorem leNat_leBytes_of_lt {k n : Nat} (h : n < 256 ^ k) : leNat (leBytes k n) = n := by
  rw [leNat_leBytes, Nat.mod_eq_of_lt h]

theorem leBytes_leNat (bs : Bytes) : leBytes bs.length (leNat bs) = bs := by
  induction bs with
  | nil => rfl
  | cons b bs ih =>
    have hb := b.toNat_lt
    have hlow : (b.toNat + 256 * leNat bs) % 256 = b.toNat := by omega
    have hhigh : (b.toNat + 256 * leNat bs) / 256 = leNat bs := by omega
    simp only [leNat, List.length_cons, leBytes, hlow, hhigh, ih]
    simp

/-- The two's complement reading of a little-endian byte string. -/
def leInt (bs : Bytes) : Int :=
  if 2 * leNat bs < 256 ^ bs.length then leNat bs else leNat bs - 256 ^ bs.length

def leBytesInt (k : Nat) (z : Int) : Bytes := leBytes k (z % 256 ^ k).toNat

@[simp] theorem length_leBytesInt (k : Nat) (z : Int) : (leBytesInt k z).length = k :=
  length_leBytes _ _

theorem leInt_bounds (bs : Bytes) :
    -(256 ^ bs.length : Int) ≤ 2 * leInt bs ∧ 2 * leInt bs < (256 ^ bs.length : Int) := by
  have h := leNat_lt bs
  have hz : (leNat bs : Int) < (256 ^ bs.length : Int) := by exact_mod_cast h
  unfold leInt
  split
  · rename_i hs
    have hs' : 2 * (leNat bs : Int) < (256 ^ bs.length : Int) := by exact_mod_cast hs
    constructor <;> omega
  · rename_i hs
    have hs' : (256 ^ bs.length : Int) ≤ 2 * (leNat bs : Int) := by
      exact_mod_cast Nat.le_of_not_lt hs
    constructor <;> omega

theorem leInt_mod (bs : Bytes) : leInt bs % 256 ^ bs.length = leNat bs := by
  have h := leNat_lt bs
  have hz : (leNat bs : Int) < (256 ^ bs.length : Int) := by exact_mod_cast h
  have hn : (0 : Int) ≤ leNat bs := Int.natCast_nonneg _
  unfold leInt
  split
  · exact Int.emod_eq_of_lt hn hz
  · rw [Int.sub_emod_right]
    exact Int.emod_eq_of_lt hn hz

theorem leBytesInt_leInt (bs : Bytes) : leBytesInt bs.length (leInt bs) = bs := by
  rw [leBytesInt, leInt_mod, Int.toNat_natCast, leBytes_leNat]

theorem leBytesInt_natCast_leNat (bs : Bytes) : leBytesInt bs.length (leNat bs : Int) = bs := by
  have h := leNat_lt bs
  have hz : (leNat bs : Int) < (256 ^ bs.length : Int) := by exact_mod_cast h
  rw [leBytesInt, Int.emod_eq_of_lt (Int.natCast_nonneg _) hz, Int.toNat_natCast, leBytes_leNat]

theorem leNat_leBytesInt {k : Nat} {z : Int} (h0 : 0 ≤ z) (h1 : z < 256 ^ k) :
    (leNat (leBytesInt k z) : Int) = z := by
  have hlt : z.toNat < 256 ^ k := by
    have : (z.toNat : Int) < ((256 ^ k : Nat) : Int) := by
      rw [Int.toNat_of_nonneg h0]; exact_mod_cast h1
    exact_mod_cast this
  rw [leBytesInt, Int.emod_eq_of_lt h0 h1, leNat_leBytes_of_lt hlt, Int.toNat_of_nonneg h0]

theorem leInt_leBytesInt {k : Nat} {z : Int} (h0 : -(256 ^ k : Int) ≤ 2 * z)
    (h1 : 2 * z < (256 ^ k : Int)) : leInt (leBytesInt k z) = z := by
  have hpos : (0 : Int) < 256 ^ k := by positivity
  have hm0 := Int.emod_nonneg z hpos.ne'
  have hm1 := Int.emod_lt_of_pos z hpos
  have hN : ((z % 256 ^ k).toNat : Int) = z % 256 ^ k := Int.toNat_of_nonneg hm0
  have hlt : (z % 256 ^ k).toNat < 256 ^ k := by
    have : ((z % 256 ^ k).toNat : Int) < ((256 ^ k : Nat) : Int) := by
      rw [hN]; exact_mod_cast hm1
    exact_mod_cast this
  have hval : leNat (leBytesInt k z) = (z % 256 ^ k).toNat := leNat_leBytes_of_lt hlt
  have hmod : z % 256 ^ k = z ∨ z % 256 ^ k = z + 256 ^ k := by
    by_cases hz : 0 ≤ z
    · left; exact Int.emod_eq_of_lt hz (by omega)
    · right
      rw [← Int.add_emod_right]
      exact Int.emod_eq_of_lt (by omega) (by omega)
  unfold leInt
  rw [hval, length_leBytesInt]
  split
  · rename_i hs
    have hs' : 2 * ((z % 256 ^ k).toNat : Int) < (256 ^ k : Int) := by exact_mod_cast hs
    rcases hmod with h | h <;> omega
  · rename_i hs
    have hs' : (256 ^ k : Int) ≤ 2 * ((z % 256 ^ k).toNat : Int) := by
      exact_mod_cast Nat.le_of_not_lt hs
    rcases hmod with h | h <;> omega

/-! Hexadecimal text, in the lower case `bytes.hex` writes. -/

def hexPair (b : UInt8) : List Char :=
  [Nat.digitChar (b.toNat / 16), Nat.digitChar (b.toNat % 16)]

def hexText (bs : Bytes) : String := String.ofList (bs.flatMap hexPair)

/-- `'%04x'` and `'%02x'` -/
def hexDigits (width n : Nat) : List Char :=
  let digits := Nat.toDigits 16 n
  List.replicate (width - digits.length) '0' ++ digits

def hexValue (c : Char) : Option Nat :=
  if '0' ≤ c ∧ c ≤ '9' then some (c.toNat - '0'.toNat)
  else if 'a' ≤ c ∧ c ≤ 'f' then some (c.toNat - 'a'.toNat + 10)
  else if 'A' ≤ c ∧ c ≤ 'F' then some (c.toNat - 'A'.toNat + 10)
  else none

def isAsciiSpace (c : Char) : Bool :=
  c = ' ' || c = '\t' || c = '\n' || c = '\r' || c = '\x0b' || c = '\x0c'

/-- `bytes.fromhex`: white space may stand between the bytes, not inside one. -/
def hexBytes : List Char → Option Bytes
  | [] => some []
  | c :: cs =>
    if isAsciiSpace c then hexBytes cs
    else match cs with
      | [] => none
      | d :: ds =>
        match hexValue c, hexValue d with
        | some x, some y => (hexBytes ds).map (UInt8.ofNat (16 * x + y) :: ·)
        | _, _ => none

def fromHex (text : String) : Option Bytes := hexBytes text.toList

theorem hexValue_digitChar {n : Nat} (h : n < 16) :
    hexValue (Nat.digitChar n) = some n ∧ isAsciiSpace (Nat.digitChar n) = false := by
  revert n
  decide

theorem hexBytes_flatMap (bs : Bytes) : hexBytes (bs.flatMap hexPair) = some bs := by
  induction bs with
  | nil => rfl
  | cons b bs ih =>
    have hb := b.toNat_lt
    have ⟨hhigh, hspace⟩ := hexValue_digitChar (show b.toNat / 16 < 16 by omega)
    have ⟨hlow, _⟩ := hexValue_digitChar (show b.toNat % 16 < 16 by omega)
    have hsplit : 16 * (b.toNat / 16) + b.toNat % 16 = b.toNat := by omega
    simp only [List.flatMap_cons, hexPair, List.cons_append, List.nil_append, hexBytes, hspace,
      Bool.false_eq_true, ↓reduceIte, hhigh, hlow, hsplit]
    rw [ih]
    simp

@[simp] theorem fromHex_hexText (bs : Bytes) : fromHex (hexText bs) = some bs := by
  rw [fromHex, hexText, String.toList_ofList, hexBytes_flatMap]

theorem length_hexText (bs : Bytes) : (hexText bs).length = 2 * bs.length := by
  unfold hexText
  rw [String.length_ofList]
  induction bs with
  | nil => rfl
  | cons b bs ih =>
    rw [List.flatMap_cons, List.length_append, ih, List.length_cons]
    change 2 + _ = _
    omega

/-- Every byte takes two digits. -/
theorem length_fromHex {text : String} {bs : Bytes} (h : fromHex text = some bs) :
    2 * bs.length ≤ text.length := by
  rw [← String.length_toList]
  unfold fromHex at h
  generalize text.toList = chars at h ⊢
  fun_induction hexBytes chars generalizing bs with
  | case1 => cases h; exact Nat.zero_le _
  | case2 c cs hspace ih =>
    have hrest := ih h
    rw [List.length_cons]
    omega
  | case3 c hspace => cases h
  | case4 c hspace d ds x y hx hy ih =>
    obtain ⟨rest, hrest, rfl⟩ := Option.map_eq_some_iff.mp h
    have hlength := ih hrest
    rw [List.length_cons, List.length_cons, List.length_cons]
    omega
  | case5 => cases h

theorem hexText_injective : Function.Injective hexText := by
  intro a b h
  have := congrArg fromHex h
  simpa using this

end EthercatSimulator.Base
