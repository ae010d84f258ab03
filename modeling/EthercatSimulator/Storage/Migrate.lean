import EthercatSimulator.Storage.ParameterStore

/-! The explicit offline migration of an F-KR snapshot from schema 1 to schema 2. -/

namespace EthercatSimulator.Storage

open Base Profile Ipc EthercatSimulator.Runtime

/-! The members of a document. -/

def setMember (key : String) (value : Json) : List (String × Json) → List (String × Json)
  | [] => [(key, value)]
  | (k, v) :: rest => if k = key then (k, value) :: rest else (k, v) :: setMember key value rest

/-- `data[key] = value`, of a dictionary -/
def withMember (key : String) (value : Json) : Json → Json
  | .object members => .object (setMember key value members)
  | data => data

/-- `type(value) is int and value == n` -/
def isInt (n : Int) : Option Json → Bool
  | some (.int m) => m = n
  | _ => false

/-- The name of a type, in the message that it has no `get`. -/
def typeName : Json → String
  | .null => "NoneType"
  | .bool _ => "bool"
  | .int _ => "int"
  | .float _ => "float"
  | .string _ => "str"
  | .array _ => "list"
  | .object _ => "dict"

/-- `data.get('schema_version')` -/
def schemaVersion? (data : Json) : Except Exc (Option Json) :=
  match data with
  | .object _ => .ok (data.get? "schema_version")
  | _ => .error ⟨.attributeError, "'" ++ typeName data ++ "' object has no attribute 'get'"⟩

/-! The document of schema 1, and that of schema 2. -/

def checkLegacy (format : Format) (device : Device) (data : Json) : Except Exc Unit := do
  if ¬ hasFields ["schema_version", "identity", "values", "checksum"] data then
    throw (valueError "Invalid snapshot fields")
  if text? "checksum" data ≠ some (format.checksum (without "checksum" data)) then
    throw (valueError "Snapshot checksum mismatch")
  if ¬ isInt 1 (data.get? "schema_version") then
    throw (valueError "Expected schema 1")
  if ¬ (data.get? "identity").any (isIdentity device) then
    throw (valueError "Snapshot identity mismatch")

/-- The document of schema 2, without its checksum. -/
def upgradedBody (values : Json) (value : Int) (data : Json) : Json :=
  withMember "schema_version" (.int 2)
    (withMember "values" (withMember "6081:00" (.string (hexText (leBytes 4 value.toNat))) values)
      (without "checksum" data))

def addVelocity (format : Format) (expected : List String) (value : Int) (data : Json) : Except Exc Json :=
  match data.get? "values" with
  | none => .error (keyError "values")
  | some values => do
    if ¬ hasFields (expected.filter fun key => key ≠ "6081:00") values then
      throw (valueError "Legacy parameter catalog mismatch")
    let body := upgradedBody values value data
    return withMember "checksum" (.string (format.checksum body)) body

/-! The calls. -/

/-- The calls on the file system, those of `save` and of a new backup left out. -/
inductive MigrationCall
  | readBytes | readText | makeDirectory | writeStaged | loadText | removeDirectory | findBackup | readBackup
  deriving DecidableEq

/-- What the file system does during one migration. -/
structure MigrationDisk where
  raises : MigrationCall → Option Exc
  backup : Disk
  save : Disk

def MigrationDisk.call {S : Type} (d : MigrationDisk) (c : MigrationCall) : PyM S Unit :=
  match d.raises c with
  | none => pure ()
  | some e => Exec.raise e

/-- A file that is opened exclusively, written and closed. -/
def Disk.writeNew (d : Disk) (name : String) (text : Bytes) : PyM Volume Unit := do
  d.call .fdopen
  Volume.perform (.create name)
  (d.writeText name text).ensuring (d.call .close)

/-- An existing backup has to be the original. -/
def MigrationDisk.compareBackup (d : MigrationDisk) (kept original : Bytes) : PyM Volume Unit := do
  d.call .readBackup
  Exec.require (kept = original) (valueError "Existing migration backup differs; preserve and investigate")

variable {F σ α : Type}

def onVolume (x : PyM Volume α) : PyM (Volume × σ) α := x.zoom Prod.fst fun p v => (v, p.2)
def onModel (x : PyM σ α) : PyM (Volume × σ) α := x.zoom Prod.snd fun p s => (p.1, s)

/-- The store, the texts it is read and written in, and the model of the device.  `dumps` is
`json.dumps` of the staged document. -/
structure Migration (F σ : Type) where
  store : ParameterStore
  format : Format
  dumps : Json → Bytes
  device : Device
  adapter : DriveAdapter F σ
  access : ParameterAccess F σ

namespace Migration

variable (M : Migration F σ) (d : MigrationDisk)

def backupName : String := M.device.path ++ ".schema1.bak"

def readBytes : PyM Volume Bytes := do
  d.call .readBytes
  let v ← Exec.get
  match v.files M.device.path with
  | some original => return original
  | none => Exec.raise ⟨.osError, "No such file or directory"⟩

def legacyDocument (value : Int) (data : Json) : PyM σ Json := do
  Exec.ofExcept (checkLegacy M.format M.device data)
  let expected ← parameterValues M.adapter
  Exec.ofExcept (addVelocity M.format (expected.map fun kv => keyText kv.1) value data)

def keepBackup (original : Bytes) : PyM Volume Unit := do
  d.call .findBackup
  let v ← Exec.get
  match v.files M.backupName with
  | some kept => d.compareBackup kept original
  | none => d.backup.writeNew M.backupName original

variable [PyFloat F]

/-- The strict loader, on a store of its own. -/
def loadStaged (data : Json) : PyM σ Unit := do
  d.call .writeStaged
  d.call .loadText
  let _ ← loadFound M.format M.device M.adapter M.access (some (M.dumps data))

def stage (data : Json) : PyM σ Unit := do
  d.call .makeDirectory
  (M.loadStaged d data).ensuring (d.call .removeDirectory)

/-- What follows for a snapshot that is not of schema 2. -/
def upgrade (value : Int) (original : Bytes) (data : Json) : PyM (Volume × σ) Bool := do
  let data ← onModel (M.legacyDocument value data)
  onModel (M.stage d data)
  onVolume (M.keepBackup d original)
  let (_, model) ← Exec.get
  onVolume (M.store.save M.format M.device d.save M.adapter model)
  return true

/-- `store.load(model)` -/
def reload : PyM (Volume × σ) Unit := do
  d.call .loadText
  let (v, _) ← Exec.get
  let _ ← onModel (load M.format M.device M.adapter M.access v.files)

/-- The migration, once its arguments are checked. -/
def migrateSnapshot (value : Int) : PyM (Volume × σ) Bool := do
  let original ← onVolume (M.readBytes d)
  d.call .readText
  let data ← Exec.ofExcept (M.format.parse original)
  let version ← Exec.ofExcept (schemaVersion? data)
  if isInt 2 version then do
    M.reload d
    return false
  else M.upgrade d value original data

def migrateProfileVelocity (value : Int) : PyM (Volume × σ) Bool := do
  Exec.require (M.store.locked = true) (runtimeError "Parameter storage lock is required")
  Exec.require (M.device.modelType = .fKrCmmt)
    (valueError "Only F-KR CMMT schema 1 migration is supported")
  Exec.require (0 ≤ value ∧ value ≤ 0xffffffff)
    (valueError "Profile velocity must be an explicit uint32 raw OD value")
  M.migrateSnapshot d value

end Migration

end EthercatSimulator.Storage
