import EthercatSimulator.Base.Bytes

/-! Hexadecimal data as the slave process writes and reads it: lower case only. -/

namespace EthercatSimulator.Ipc

open Base

/-- The bytes of a `std::string`. -/
def utf8 (text : String) : Bytes := text.toUTF8.data.toList

def digit (c : UInt8) : Option UInt8 :=
  if 0x30 ≤ c ∧ c ≤ 0x39 then some (c - 0x30)
  else if 0x61 ≤ c ∧ c ≤ 0x66 then some (c - 0x61 + 10)
  else none

def hexPairs : Bytes → Option Bytes
  | [] => some []
  | [_] => none
  | high :: low :: rest => do
    let high ← digit high
    let low ← digit low
    let rest ← hexPairs rest
    return (high <<< 4 ||| low) :: rest

/-- The data of a payload of `size` bytes, with the texts of the two errors. -/
def decodeHex (mismatch invalid : String) (text : String) (size : Nat) : Except String Bytes :=
  if (utf8 text).length ≠ 2 * size then .error mismatch
  else match hexPairs (utf8 text) with
    | some data => .ok data
    | none => .error invalid

theorem length_hexPairs {text data : Bytes} (h : hexPairs text = some data) :
    text.length = 2 * data.length := by
  fun_induction hexPairs text generalizing data with
  | case1 => cases h; rfl
  | case2 => cases h
  | case3 high low rest ih =>
    simp only [Option.bind_eq_bind, Option.bind_eq_some_iff, Option.pure_def, Option.some.injEq] at h
    obtain ⟨_, _, _, _, data', hrest, rfl⟩ := h
    rw [List.length_cons, List.length_cons, List.length_cons, ih hrest]
    omega

theorem length_decodeHex {mismatch invalid text : String} {size : Nat} {data : Bytes}
    (h : decodeHex mismatch invalid text size = .ok data) : data.length = size := by
  unfold decodeHex at h
  split at h
  · cases h
  · split at h
    · rename_i hsize _ hpairs
      cases h
      have := length_hexPairs hpairs
      omega
    · cases h

/-! What is read is what `hexText` writes. -/

def hexByte (n : Nat) : UInt8 := UInt8.ofNat (Nat.digitChar n).toNat

theorem digit_hexByte {n : Nat} (h : n < 16) : digit (hexByte n) = some (UInt8.ofNat n) := by
  revert n
  decide

theorem eq_hexByte {c d : UInt8} (h : digit c = some d) : d.toNat < 16 ∧ c = hexByte d.toNat := by
  have hall : ∀ n < 256, ∀ d ∈ digit (UInt8.ofNat n), d.toNat < 16 ∧ UInt8.ofNat n = hexByte d.toNat := by
    decide +kernel
  have hc := hall c.toNat c.toNat_lt d
  rw [UInt8.ofNat_toNat] at hc
  exact hc h

def bytePair (b : UInt8) : Bytes := [hexByte (b.toNat / 16), hexByte (b.toNat % 16)]

theorem nibbles : ∀ a < 16, ∀ b < 16, (UInt8.ofNat a <<< 4 ||| UInt8.ofNat b).toNat = 16 * a + b := by
  decide

theorem hexPairs_flatMap (data : Bytes) : hexPairs (data.flatMap bytePair) = some data := by
  induction data with
  | nil => rfl
  | cons b data ih =>
    have hb := b.toNat_lt
    have hhigh := digit_hexByte (show b.toNat / 16 < 16 by omega)
    have hlow := digit_hexByte (show b.toNat % 16 < 16 by omega)
    have hbyte : UInt8.ofNat (b.toNat / 16) <<< 4 ||| UInt8.ofNat (b.toNat % 16) = b := by
      apply UInt8.toNat.inj
      rw [nibbles _ (by omega) _ (by omega)]
      omega
    rw [List.flatMap_cons]
    unfold bytePair hexPairs
    rw [List.cons_append, List.cons_append, List.nil_append]
    dsimp only
    unfold bytePair at ih
    simp only [hhigh, hlow, ih, Option.bind_eq_bind, Option.bind_some, Option.pure_def, hbyte]

theorem eq_flatMap {text data : Bytes} (h : hexPairs text = some data) : text = data.flatMap bytePair := by
  fun_induction hexPairs text generalizing data with
  | case1 => cases h; rfl
  | case2 => cases h
  | case3 high low rest ih =>
    simp only [Option.bind_eq_bind, Option.bind_eq_some_iff, Option.pure_def, Option.some.injEq] at h
    obtain ⟨x, hx, y, hy, data', hrest, rfl⟩ := h
    obtain ⟨hx16, hhigh⟩ := eq_hexByte hx
    obtain ⟨hy16, hlow⟩ := eq_hexByte hy
    have hpair := nibbles _ hx16 _ hy16
    rw [UInt8.ofNat_toNat, UInt8.ofNat_toNat] at hpair
    rw [List.flatMap_cons, bytePair, hpair, ← ih hrest, hhigh, hlow]
    congr 3 <;> omega

theorem utf8_hexText (data : Bytes) : utf8 (hexText data) = data.flatMap bytePair := by
  have hdigit : ∀ n < 16, String.utf8EncodeChar (Nat.digitChar n) = [hexByte n] := by decide
  have hencoded : ∀ chars : List Char, utf8 (String.ofList chars) = chars.flatMap String.utf8EncodeChar :=
    fun chars => by
      show (String.ofList chars).toByteArray.data.toList = _
      rw [String.toByteArray_ofList]
      simp [List.utf8Encode]
  rw [hexText, hencoded, List.flatMap_assoc]
  congr 1
  funext b
  have hb := b.toNat_lt
  unfold hexPair bytePair
  rw [List.flatMap_cons, List.flatMap_cons, List.flatMap_nil, hdigit _ (by omega), hdigit _ (by omega)]
  rfl

theorem utf8_injective : Function.Injective utf8 := fun a b h => by
  apply String.toByteArray_inj.mp
  apply ByteArray.ext
  exact Array.toList_inj.mp h

theorem decodeHex_eq_ok {mismatch invalid text : String} {size : Nat} {data : Bytes} :
    decodeHex mismatch invalid text size = .ok data ↔ text = hexText data ∧ data.length = size := by
  constructor
  · intro h
    refine ⟨?_, length_decodeHex h⟩
    unfold decodeHex at h
    split at h
    · cases h
    · split at h
      · rename_i hpairs
        cases h
        exact utf8_injective ((eq_flatMap hpairs).trans (utf8_hexText data).symm)
      · cases h
  · rintro ⟨rfl, rfl⟩
    have hpairs := hexPairs_flatMap data
    have hlength := length_hexPairs hpairs
    unfold decodeHex
    rw [utf8_hexText, if_neg (by omega), hpairs]

end EthercatSimulator.Ipc
