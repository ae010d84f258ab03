import EthercatSimulator.Adapter.Errors
import EthercatSimulator.Base.Bytes
import EthercatSimulator.Base.Float

/-! Object dictionary values and their wire format. -/

namespace EthercatSimulator.Profile

open Base

/-- The numeric rows of `DATA_TYPE_FORMATS`, `bool` left out. -/
inductive DataType
  | uint8 | int8 | uint16 | int16 | uint32 | int32 | uint64 | int64 | float32
  deriving DecidableEq

namespace DataType

def size : DataType → Nat
  | uint8 | int8 => 1
  | uint16 | int16 => 2
  | uint32 | int32 | float32 => 4
  | uint64 | int64 => 8

def signed : DataType → Bool
  | int8 | int16 | int32 | int64 => true
  | _ => false

def low (t : DataType) : Int := if t.signed then -(256 ^ t.size / 2) else 0
def high (t : DataType) : Int := (if t.signed then 256 ^ t.size / 2 else 256 ^ t.size) - 1

end DataType

/-- A dictionary value: a Python `int`, a `float` a model computed, or the `float` decoded
from a binary32 pattern, which packs back to that pattern. -/
inductive Value (F : Type)
  | int (n : Int)
  | float (x : F)
  | float32 (bits : BitVec 32)
  deriving DecidableEq

variable {F : Type} [PyFloat F]

/-- `float(value)` -/
def Value.toFloat : Value F → F
  | .int n => PyFloat.ofInt n
  | .float x => x
  | .float32 bits => PyFloat.unpack32 bits

def floatToInt (x : F) : Except Exc Int :=
  match PyFloat.toInt x with
  | .ok n => .ok n
  | .error .nan => .error ⟨.valueError, "cannot convert float NaN to integer"⟩
  | .error .infinite => .error ⟨.overflowError, "cannot convert float infinity to integer"⟩

/-- `int(value)` -/
def Value.toInt : Value F → Except Exc Int
  | .int n => .ok n
  | .float x => floatToInt x
  | .float32 bits => floatToInt (PyFloat.unpack32 bits : F)

/-- `left == right` between two dictionary values. -/
def Value.same : Value F → Value F → Bool
  | .int m, .int n => m = n
  | v, w => PyFloat.same v.toFloat w.toFloat

def packInt (t : DataType) (n : Int) : Except Exc Bytes :=
  if t.low ≤ n ∧ n ≤ t.high then .ok (leBytesInt t.size n)
  else .error ⟨.structError, "argument out of range"⟩

def packFloat (x : F) : Except Exc Bytes :=
  match PyFloat.pack32 x with
  | some bits => .ok (leBytes 4 bits.toNat)
  | none => .error ⟨.overflowError, "float too large to pack with f format"⟩

/-- A numeric format fixes the size; the size argument of the source is not used. -/
def encodeOdValue (t : DataType) (v : Value F) : Except Exc Bytes :=
  match t, v with
  | .float32, .float32 bits => .ok (leBytes 4 bits.toNat)
  | .float32, .float x => packFloat x
  | .float32, .int n => packFloat (PyFloat.ofInt n : F)
  | t, v => v.toInt >>= packInt t

def decodeOdValue (t : DataType) (payload : Bytes) : Except Exc (Value F) :=
  let raw := payload.take t.size
  if raw.length = t.size then
    match t with
    | .float32 => .ok (.float32 (BitVec.ofNat 32 (leNat raw)))
    | _ => .ok (.int (if t.signed then leInt raw else leNat raw))
  else .error ⟨.structError, "unpack requires a buffer of the format's size"⟩

/-- `v` has a wire form of type `t`. -/
def Encodable (t : DataType) (v : Value F) : Prop := ∃ raw, encodeOdValue t v = .ok raw

theorem DataType.size_pos (t : DataType) : 0 < t.size := by cases t <;> decide

theorem low_le_leInt {t : DataType} {raw : Bytes} (hs : t.signed = true)
    (hlen : raw.length = t.size) : t.low ≤ leInt raw ∧ leInt raw ≤ t.high := by
  have h := leInt_bounds raw
  rw [hlen] at h
  cases t <;> simp_all [DataType.low, DataType.high, DataType.signed, DataType.size] <;> omega

theorem low_le_leNat {t : DataType} {raw : Bytes} (hs : t.signed = false)
    (hlen : raw.length = t.size) : t.low ≤ (leNat raw : Int) ∧ (leNat raw : Int) ≤ t.high := by
  have h := leNat_lt raw
  have hz : (leNat raw : Int) < (256 ^ raw.length : Int) := by exact_mod_cast h
  rw [hlen] at hz
  cases t <;> simp_all [DataType.low, DataType.high, DataType.signed, DataType.size] <;> omega

theorem packInt_ok {t : DataType} {n : Int} {raw : Bytes} (h : packInt t n = .ok raw) :
    t.low ≤ n ∧ n ≤ t.high ∧ raw = leBytesInt t.size n := by
  unfold packInt at h
  split at h
  · rename_i hr
    cases h
    exact ⟨hr.1, hr.2, rfl⟩
  · cases h

theorem encodeOdValue_int {t : DataType} (ht : t ≠ .float32) (v : Value F) :
    encodeOdValue t v = v.toInt >>= packInt t := by
  cases t <;> first | contradiction | (cases v <;> rfl)

omit [PyFloat F] in
/-- Any payload of the format's size decodes. -/
theorem decodeOdValue_ok {t : DataType} {raw : Bytes} (hlen : raw.length = t.size) :
    ∃ v : Value F, decodeOdValue t raw = .ok v := by
  unfold decodeOdValue
  rw [List.take_of_length_le (by omega), if_pos hlen]
  cases t <;> exact ⟨_, rfl⟩

omit [PyFloat F] in
theorem size_le_of_decode {t : DataType} {raw : Bytes} {v : Value F} (h : decodeOdValue t raw = .ok v) :
    t.size ≤ raw.length := by
  unfold decodeOdValue at h
  dsimp only at h
  split at h
  · rename_i hlen
    rw [List.length_take] at hlen
    omega
  · cases h

omit [PyFloat F] in
theorem decodeOdValue_int {t : DataType} (ht : t ≠ .float32) {raw : Bytes} (hlen : raw.length = t.size) :
    decodeOdValue t raw = .ok (.int (if t.signed then leInt raw else leNat raw) : Value F) := by
  unfold decodeOdValue
  rw [List.take_of_length_le hlen.le, if_pos hlen]
  cases t <;> first | contradiction | rfl

/-- What a payload decodes to encodes back to the payload. -/
theorem encode_of_decode {t : DataType} {raw : Bytes} {v : Value F} (hlen : raw.length = t.size)
    (h : decodeOdValue t raw = .ok v) : encodeOdValue t v = .ok raw := by
  unfold decodeOdValue at h
  rw [List.take_of_length_le (by omega), if_pos hlen] at h
  by_cases ht : t = .float32
  · subst ht
    cases h
    have hlt := leNat_lt raw
    have hlen' : raw.length = 4 := hlen
    simp only [encodeOdValue, BitVec.toNat_ofNat]
    rw [hlen'] at hlt
    rw [Nat.mod_eq_of_lt (by simpa using hlt), ← hlen', leBytes_leNat]
  · have hv : v = .int (if t.signed then leInt raw else leNat raw) := by
      cases t <;> first | contradiction | (cases h; rfl)
    subst hv
    rw [encodeOdValue_int ht]
    change packInt t _ = _
    by_cases hs : t.signed = true
    · rw [if_pos hs, packInt, if_pos (low_le_leInt hs hlen), ← hlen, leBytesInt_leInt]
    · have hs' : t.signed = false := by simpa using hs
      rw [if_neg hs, packInt, if_pos (low_le_leNat hs' hlen), ← hlen, leBytesInt_natCast_leNat]

theorem length_of_encode {t : DataType} {raw : Bytes} {v : Value F}
    (h : encodeOdValue t v = .ok raw) : raw.length = t.size := by
  by_cases ht : t = .float32
  · subst ht
    have hpack : ∀ x : F, packFloat x = .ok raw → raw.length = 4 := by
      intro x hx
      unfold packFloat at hx
      split at hx
      · cases hx; simp
      · cases hx
    cases v with
    | int n => exact hpack _ h
    | float x => exact hpack _ h
    | float32 bits => cases h; simp [DataType.size]
  · rw [encodeOdValue_int ht] at h
    match hv : v.toInt with
    | .ok n =>
      rw [hv] at h
      obtain ⟨-, -, rfl⟩ := packInt_ok h
      simp
    | .error e => rw [hv] at h; cases h

/-- An integer that encodes is decoded from what it encodes to. -/
theorem decode_of_encode {t : DataType} (ht : t ≠ .float32) {n : Int} {raw : Bytes}
    (h : encodeOdValue t (.int n : Value F) = .ok raw) : decodeOdValue t raw = .ok (.int n : Value F) := by
  have hlen := length_of_encode h
  rw [encodeOdValue_int ht] at h
  obtain ⟨hlow, hhigh, rfl⟩ := packInt_ok (show packInt t n = .ok raw from h)
  rw [decodeOdValue_int ht hlen]
  cases hs : t.signed with
  | true =>
    rw [if_pos rfl, leInt_leBytesInt]
    · cases t <;> simp_all [DataType.low, DataType.signed, DataType.size] <;> omega
    · cases t <;> simp_all [DataType.high, DataType.signed, DataType.size] <;> omega
  | false =>
    rw [if_neg (by decide), leNat_leBytesInt]
    · cases t <;> simp_all [DataType.low, DataType.signed]
    · cases t <;> simp_all [DataType.high, DataType.signed, DataType.size] <;> omega

theorem encodable_of_decode {t : DataType} {raw : Bytes} {v : Value F}
    (hlen : raw.length = t.size) (h : decodeOdValue t raw = .ok v) : Encodable t v :=
  ⟨raw, encode_of_decode hlen h⟩

end EthercatSimulator.Profile
