import EthercatSimulator.Base.AtomicReplace
import EthercatSimulator.Ipc.Json
import EthercatSimulator.Runtime.Axis

/-! Versioned, atomically replaced parameter snapshots. -/

namespace EthercatSimulator.Storage

open Base Profile Ipc EthercatSimulator.Runtime

/-- The files below the root of the store, and the steps taken on them so far. -/
structure Volume where
  files : Files String UInt8
  steps : List (FileStep String UInt8) := []

/-- The calls of `save` on the file system. -/
inductive FileCall
  | mkstemp | fdopen | write | flush | fsync | close | replace | openDirectory | fsyncDirectory
  | closeDirectory | unlink
  deriving DecidableEq

/-- What the file system does during one `save`: the random end of the temporary name, the calls
that raise, and how much of the text reaches the file before the stream is flushed. -/
structure Disk where
  suffix : String
  raises : FileCall → Option Exc
  written : Nat

namespace Volume

def perform (step : FileStep String UInt8) : PyM Volume Unit :=
  Exec.modify fun v => { files := step.apply v.files, steps := v.steps ++ [step] }

def performAll : List (FileStep String UInt8) → PyM Volume Unit
  | [] => pure ()
  | step :: rest => do
    perform step
    performAll rest

end Volume

namespace Disk

variable (d : Disk)

def call (c : FileCall) : PyM Volume Unit :=
  match d.raises c with
  | none => pure ()
  | some e => Exec.raise e

def fileExists : Exc := ⟨.osError, "File exists"⟩

/-- `tempfile.mkstemp`: a new file, opened exclusively. -/
def mkstemp (stem : String) : PyM Volume String := do
  d.call .mkstemp
  let name := stem ++ d.suffix
  let v ← Exec.get
  Exec.require (v.files name = none) fileExists
  Volume.perform (.create name)
  return name

/-- `json.dump` to the stream, `flush` and `fsync` -/
def writeText (name : String) (text : Bytes) : PyM Volume Unit := do
  Volume.performAll ((text.take d.written).map (.append name))
  d.call .write
  d.call .flush
  Volume.performAll ((text.drop d.written).map (.append name))
  d.call .fsync

def writeStream (name : String) (text : Bytes) : PyM Volume Unit := do
  d.call .fdopen
  (d.writeText name text).ensuring (d.call .close)

def replaceFile (source target : String) : PyM Volume Unit := do
  d.call .replace
  Volume.perform (.replace source target)

def syncDirectory : PyM Volume Unit := do
  d.call .openDirectory
  (d.call .fsyncDirectory).ensuring (d.call .closeDirectory)

def unlink (name : String) : PyM Volume Unit := do
  d.call .unlink
  Volume.perform (.unlink name)

end Disk

/-- `json` and `hashlib`: the text of a document, the document of a text, and the digest. -/
structure Format where
  dump : Json → Bytes
  parse : Bytes → Except Exc Json
  checksum : Json → String

inductive ModelType
  | fKrCmmt | copleyDriveSim
  deriving DecidableEq

def ModelType.text : ModelType → String
  | fKrCmmt => "f_kr_cmmt"
  | copleyDriveSim => "copley_drive_sim"

def modeText : AxisMode → String
  | .linear => "linear"
  | .rotary => "rotary"

/-- An entry of `devices` in the configuration. -/
structure Device where
  type : String
  modelType : ModelType
  mode : AxisMode
  parameterSet : String

/-- `configuration.name` -/
def isAsciiAlnum (c : Char) : Bool :=
  ('A' ≤ c ∧ c ≤ 'Z') ∨ ('a' ≤ c ∧ c ≤ 'z') ∨ ('0' ≤ c ∧ c ≤ '9')

def isName (value : String) : Bool :=
  match value.toList with
  | [] => false
  | c :: cs => isAsciiAlnum c && cs.length ≤ 63 && cs.all fun c => isAsciiAlnum c || c = '_' || c = '-'

/-- Whether the store is owned, and whether directories can be synchronised. -/
structure ParameterStore where
  locked : Bool
  posix : Bool

def fileName (parameterSet : String) : String := parameterSet ++ ".json"

def Device.path (device : Device) : String := fileName device.parameterSet

def Device.schemaVersion (device : Device) : Int := if device.modelType = .fKrCmmt then 2 else 1

def Device.identity (device : Device) : Json :=
  .object [("type", .string device.type),
    ("model", .object [("type", .string device.modelType.text), ("mode", .string (modeText device.mode))])]

def keyText (key : Key) : String := String.ofList (hexDigits 4 key.1 ++ ':' :: hexDigits 2 key.2)

/-! `save` -/

def runtimeError (message : String) : Exc := ⟨.runtimeError, message⟩

def snapshotValues (values : List (Key × Bytes)) : Json :=
  .object (values.map fun kv => (keyText kv.1, .string (hexText kv.2)))

def snapshotBody (device : Device) (values : List (Key × Bytes)) : List (String × Json) :=
  [("schema_version", .int device.schemaVersion), ("identity", device.identity),
    ("values", snapshotValues values)]

def snapshot (format : Format) (device : Device) (values : List (Key × Bytes)) : Json :=
  .object (snapshotBody device values ++
    [("checksum", .string (format.checksum (.object (snapshotBody device values))))])

namespace ParameterStore

variable (store : ParameterStore) (format : Format) (device : Device) (d : Disk)

def replaceSnapshot (temporary target : String) (text : Bytes) : PyM Volume Unit := do
  d.writeStream temporary text
  d.replaceFile temporary target
  Exec.when store.posix d.syncDirectory

def writeSnapshot (target : String) (text : Bytes) : PyM Volume Unit := do
  let temporary ← d.mkstemp ("." ++ target)
  (store.replaceSnapshot d temporary target text).ensuring (d.unlink temporary)

/-- `save`, once it is known whether the values are valid. -/
def saveValues (values : Except Exc (List (Key × Bytes))) : PyM Volume Unit := do
  Exec.require store.locked (runtimeError "Parameter storage lock is required")
  let values ← Exec.ofExcept values
  store.writeSnapshot d device.path (format.dump (snapshot format device values))

end ParameterStore

variable {F σ : Type}

/-- The values to save, once they are valid. -/
def savedValues (A : DriveAdapter F σ) : PyM σ (List (Key × Bytes)) := do
  A.validateParameters
  parameterValues A

def ParameterStore.save (store : ParameterStore) (format : Format) (device : Device) (d : Disk)
    (A : DriveAdapter F σ) (model : σ) : PyM Volume Unit :=
  store.saveValues format device d (savedValues A model).1

/-! `load` -/

/-- `adapter.od.write`, and `adapter.validate_parameters` where the adapter has one. -/
structure ParameterAccess (F σ : Type) where
  write : Key → Value F → σ → σ
  validate : List (Key × Value F) → Except Exc Unit

/-- `configuration.fields` -/
def hasFields (keys : List String) : Json → Bool
  | .object members => keys.all (fun key => members.any fun m => m.1 = key) &&
      members.all fun m => keys.contains m.1
  | _ => false

def text? (key : String) (data : Json) : Option String := (data.get? key).bind Json.string?

/-- `data['identity'] == self.identity(model)` -/
def isIdentity (device : Device) (data : Json) : Bool :=
  hasFields ["type", "model"] data && text? "type" data = some device.type &&
    (data.get? "model").any fun model =>
      hasFields ["type", "mode"] model && text? "type" model = some device.modelType.text &&
        text? "mode" model = some (modeText device.mode)

def isVersion (device : Device) : Option Json → Bool
  | some (.int n) => n = device.schemaVersion
  | _ => false

def without (key : String) : Json → Json
  | .object members => .object (members.filter fun m => m.1 ≠ key)
  | data => data

/-- The checks of the document; they leave the values. -/
def checkDocument (format : Format) (device : Device) (data : Json) : Except Exc Json := do
  let path := device.path
  if ¬ hasFields ["schema_version", "identity", "values", "checksum"] data then
    throw (valueError (path ++ ": required fields exactly "
      ++ "['checksum', 'identity', 'schema_version', 'values']"))
  if text? "checksum" data ≠ some (format.checksum (without "checksum" data)) then
    throw (valueError (path ++ ": checksum mismatch"))
  if ¬ (isVersion device (data.get? "schema_version") && (data.get? "identity").any (isIdentity device)) then
    throw (valueError (path ++ ": incompatible parameter schema/type/model/mode"))
  match data.get? "values" with
  | some values => return values
  | none => throw (keyError "values")

/-- `not isinstance(value, float) or math.isfinite(value)`, of a decoded value -/
def isFinite : Value F → Bool
  | .float32 bits => finite32 bits
  | _ => true

variable [PyFloat F]

def decodeParameter (path : String) (values : Json) (key : Key) (original : Bytes) :
    Except Exc (Key × Value F) :=
  match definition key with
  | none => .error (keyError "")
  | some d => do
    let some raw := text? (keyText key) values
      | throw (valueError (path ++ ": invalid parameter length " ++ keyText key))
    if raw.length ≠ (hexText original).length then
      throw (valueError (path ++ ": invalid parameter length " ++ keyText key))
    let some payload := fromHex raw
      | throw (valueError "non-hexadecimal number found in fromhex() arg")
    let value ← decodeOdValue d.dataType payload
    if ¬ isFinite value then throw (valueError (path ++ ": nonfinite parameter " ++ keyText key))
    let _ ← encodeOdValue d.dataType value
    -- Read-only units must still match this model's defaults.
    if d.access = .ro ∧ raw ≠ hexText original then
      throw (valueError (path ++ ": incompatible unit/scale " ++ keyText key))
    return (key, value)

/-- What a snapshot leads to; everything is decoded and validated before the model changes. -/
def restore (format : Format) (device : Device) (A : DriveAdapter F σ) (P : ParameterAccess F σ)
    (text : Bytes) : PyM σ Unit := do
  let data ← Exec.ofExcept (format.parse text)
  let values ← Exec.ofExcept (checkDocument format device data)
  let expected ← parameterValues A
  Exec.require (hasFields (expected.map fun kv => keyText kv.1) values = true)
    (valueError (device.path ++ ": parameter catalog mismatch"))
  let decoded ← Exec.ofExcept (expected.mapM fun kv => decodeParameter device.path values kv.1 kv.2)
  Exec.ofExcept (P.validate decoded)
  Exec.modify fun model => decoded.foldl (fun model kv => P.write kv.1 kv.2 model) model

/-- What a load does with the file it finds, if there is one. -/
def loadFound (format : Format) (device : Device) (A : DriveAdapter F σ) (P : ParameterAccess F σ) :
    Option Bytes → PyM σ Bool
  | none => pure false
  | some text => do
    restore format device A P text
    return true

def load (format : Format) (device : Device) (A : DriveAdapter F σ) (P : ParameterAccess F σ)
    (files : Files String UInt8) : PyM σ Bool := loadFound format device A P (files device.path)

end EthercatSimulator.Storage
