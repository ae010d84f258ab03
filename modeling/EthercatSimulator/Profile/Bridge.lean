import EthercatSimulator.Profile.Objects

/-! The object dictionary of one virtual device, and the bridge that gives SDO and process data
access to it. -/

namespace EthercatSimulator.Profile

open Base

/-- The runtime values.  Definitions are fixed, so only values are state. -/
def Od (F : Type) := Key → Value F

namespace Od

variable {F : Type} [PyFloat F]

def read (od : Od F) (key : Key) : Value F := od key

def write (od : Od F) (key : Key) (v : Value F) : Od F := Function.update od key v

/-- The integer objects hold integers whoever writes them, so `int(od.read(key))` is the value. -/
def int (od : Od F) (key : Key) : Int :=
  match od key with
  | .int n => n
  | .float _ | .float32 _ => 0

/-- `float(od.read(key))` -/
def real (od : Od F) (key : Key) : F := (od key).toFloat

def writeAll (od : Od F) (values : List (Key × Value F)) : Od F :=
  values.foldl (fun od kv => od.write kv.1 kv.2) od

omit [PyFloat F] in
@[simp] theorem write_same (od : Od F) (key : Key) (v : Value F) : od.write key v key = v :=
  Function.update_self ..

omit [PyFloat F] in
theorem write_of_ne (od : Od F) {key key' : Key} (v : Value F) (h : key' ≠ key) :
    od.write key v key' = od key' := Function.update_of_ne h ..

omit [PyFloat F] in
theorem writeAll_of_ne (od : Od F) {values : List (Key × Value F)} {key : Key}
    (h : ∀ kv ∈ values, key ≠ kv.1) : od.writeAll values key = od key := by
  induction values generalizing od with
  | nil => rfl
  | cons kv values ih =>
    have hrest := ih (od.write kv.1 kv.2) fun kv' hkv' => h kv' (List.mem_cons_of_mem _ hkv')
    exact hrest.trans (od.write_of_ne kv.2 (h kv List.mem_cons_self))

omit [PyFloat F] in
theorem writeAll_mem (od : Od F) {values : List (Key × Value F)} (h : (values.map Prod.fst).Nodup)
    {kv : Key × Value F} (hkv : kv ∈ values) : od.writeAll values kv.1 = kv.2 := by
  induction values generalizing od with
  | nil => cases hkv
  | cons kv' values ih =>
    rw [List.map_cons, List.nodup_cons] at h
    rcases List.mem_cons.mp hkv with rfl | hkv
    · have hlast : (od.write kv.1 kv.2).writeAll values kv.1 = od.write kv.1 kv.2 kv.1 := writeAll_of_ne _
        fun kv' hkv' hsame => h.1 (List.mem_map.mpr ⟨kv', hkv', hsame.symm⟩)
      exact hlast.trans (od.write_same kv.1 kv.2)
    · exact ih _ h.2 hkv

omit [PyFloat F] in
/-- The same writes end alike where the dictionaries were alike. -/
theorem writeAll_congr {od od' : Od F} {key : Key} (h : od' key = od key) (values : List (Key × Value F)) :
    od'.writeAll values key = od.writeAll values key := by
  induction values generalizing od od' with
  | nil => exact h
  | cons kv values ih =>
    have hwritten : (od'.write kv.1 kv.2) key = (od.write kv.1 kv.2) key := by
      by_cases hkey : key = kv.1
      · subst hkey
        rw [write_same, write_same]
      · rw [write_of_ne _ _ hkey, write_of_ne _ _ hkey, h]
    exact ih hwritten

end Od

variable {F : Type} [PyFloat F]

def PresetValue.value : PresetValue → Value F
  | .int n => .int n
  | .decimal q => .float (PyFloat.ofRat q)

/-- `_apply_non_pdo_configuration`, which a device reset repeats. -/
def Od.resetNonPdoConfiguration (od : Od F) (mode : AxisMode) : Od F :=
  od.writeAll ((presets mode).map fun kv => (kv.1, kv.2.value))

def Od.resetPdoValues (od : Od F) : Od F := fun key =>
  match definition key with
  | some d => if d.pdo then .int d.default else od key
  | none => od key

/-- `ConfiguredObjectDictionary.__init__`: catalog defaults are zero. -/
def Od.configured (mode : AxisMode) : Od F :=
  Od.resetPdoValues (Od.resetNonPdoConfiguration (fun _ => .int 0) mode)

/-! `VirtualOdBridge` -/

def objectNotFound : Exc := ⟨.sdoObjectNotFound, "SDO object not found"⟩

def deviceRejected (message : String) : Exc := ⟨.deviceRejected, message⟩

def bridgeReadSdo (od : Od F) (key : Key) : Except Exc Bytes :=
  match definition key with
  | none => .error objectNotFound
  | some d => encodeOdValue d.dataType (od.read key)

def bridgeWriteSdo (od : Od F) (key : Key) (payload : Bytes) : Except Exc (Od F) :=
  match definition key with
  | none => .error objectNotFound
  | some d =>
    if d.access = .ro then .error (deviceRejected "sdo_write")
    else do
      let v ← decodeOdValue d.dataType payload
      return od.write key v

/-- A read encodes the object. -/
theorem bridgeReadSdo_ok {od : Od F} {key : Key} {raw : Bytes} : bridgeReadSdo od key = .ok raw ↔
    ∃ d, definition key = some d ∧ encodeOdValue d.dataType (od.read key) = .ok raw := by
  unfold bridgeReadSdo
  cases hd : definition key with
  | none => exact iff_of_false nofun fun ⟨d, h, _⟩ => nomatch h
  | some d => exact ⟨fun h => ⟨d, rfl, h⟩, fun ⟨d', h, hread⟩ => Option.some.inj h ▸ hread⟩

omit [PyFloat F] in
/-- An accepted write decodes the payload into an object that is not read-only. -/
theorem bridgeWriteSdo_ok {od od' : Od F} {key : Key} {payload : Bytes}
    (h : bridgeWriteSdo od key payload = .ok od') : ∃ d v, definition key = some d ∧ d.access ≠ .ro ∧
      decodeOdValue d.dataType payload = .ok v ∧ od' = od.write key v := by
  unfold bridgeWriteSdo at h
  cases hd : definition key with
  | none => rw [hd] at h; cases h
  | some d =>
    simp only [hd] at h
    split at h
    · cases h
    · rename_i haccess
      cases hv : (decodeOdValue d.dataType payload : Except Exc (Value F)) with
      | error e => rw [hv] at h; cases h
      | ok v =>
        rw [hv] at h
        cases h
        exact ⟨d, v, rfl, haccess, hv, rfl⟩

def payloadTooSmall (expected got : Nat) : Exc :=
  ⟨.valueError, "RxPDO payload is too small for configured OD mapping. Expected at least " ++
    toString expected ++ " bytes, got " ++ toString got ++ " bytes."⟩

def rxpdoObject (o : PdoObject) (raw : Bytes) : PyM (Od F) Unit :=
  match o with
  | .padding _ => pure ()
  | .mapped key t _ => do
    let v ← Exec.ofExcept (decodeOdValue t raw)
    Exec.modify (·.write key v)

/-- The objects from `offset` on, written one after the other. -/
def rxpdoFrom (payload : Bytes) : List PdoObject → Nat → PyM (Od F) Unit
  | [], _ => pure ()
  | o :: rest, offset => do
    let stop := offset + o.byteLength
    Exec.require (stop ≤ payload.length) (payloadTooSmall stop payload.length)
    rxpdoObject o ((payload.drop offset).take o.byteLength)
    rxpdoFrom payload rest stop

def rxpdoPayloadToOd (payload : Bytes) : PyM (Od F) Unit := rxpdoFrom payload rxpdoObjects 0

omit [PyFloat F] in
/-- Process data reaches the mapped objects only. -/
theorem rxpdoFrom_fixes (payload : Bytes) {objects : List PdoObject} {key : Key}
    (hkey : ∀ o ∈ objects, ∀ t default, o ≠ .mapped key t default) (offset : Nat) :
    (rxpdoFrom payload objects offset : PyM (Od F) Unit).Keeps (Exec.Fixes fun od => od key) := by
  induction objects generalizing offset with
  | nil => exact Exec.keeps_pure ()
  | cons o rest ih =>
    refine .bind (Exec.keeps_require _ _) fun _ => .bind ?_ fun _ =>
      ih (fun o ho => hkey o (List.mem_cons_of_mem _ ho)) _
    cases o with
    | padding n => exact Exec.keeps_pure ()
    | mapped key' t default =>
      refine .bind (R := Exec.Fixes fun od : Od F => od key) (Exec.keeps_ofExcept _) fun v od => ?_
      refine od.write_of_ne v ?_
      rintro rfl
      exact hkey _ List.mem_cons_self t default rfl

def encodePdoObject (od : Od F) : PdoObject → Except Exc Bytes
  | .padding n => .ok (List.replicate n 0)
  | .mapped key t _ => encodeOdValue t (od.read key)

/-- The objects in order; the first one that does not fit its type raises. -/
def encodePdoObjects (od : Od F) : List PdoObject → Except Exc Bytes
  | [] => .ok []
  | o :: rest => do
    let raw ← encodePdoObject od o
    let tail ← encodePdoObjects od rest
    return raw ++ tail

def odToTxpdoPayload (od : Od F) : Except Exc Bytes := encodePdoObjects od txpdoObjects

end EthercatSimulator.Profile
