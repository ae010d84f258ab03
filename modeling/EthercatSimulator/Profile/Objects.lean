import EthercatSimulator.Base.Dict
import EthercatSimulator.Profile.Codec

/-! The objects a drive model serves: the fixed process data layout, the roles of the device
description and its two parameter presets. -/

namespace EthercatSimulator.Profile

open Base

/-- Index and subindex. -/
abbrev Key := Nat × Nat

namespace Key

abbrev controlword : Key := (0x6040, 0)
abbrev modeOfOperation : Key := (0x6060, 0)
abbrev targetPosition : Key := (0x607A, 0)
abbrev profileVelocity : Key := (0x6081, 0)
abbrev targetVelocity : Key := (0x60FF, 0)
abbrev targetTorque : Key := (0x6071, 0)
abbrev velocityOffset : Key := (0x60B1, 0)
abbrev torqueOffset : Key := (0x60B2, 0)
abbrev statusword : Key := (0x6041, 0)
abbrev modeOfOperationDisplay : Key := (0x6061, 0)
abbrev actualPosition : Key := (0x6064, 0)
abbrev actualVelocity : Key := (0x606C, 0)
abbrev actualTorque : Key := (0x6077, 0)

abbrev userPositionUnit : Key := (0x216E, 1)
abbrev convertingUnitPosition : Key := (0x2194, 1)
abbrev convertingUnitVelocity : Key := (0x2194, 2)
abbrev convertingUnitAcceleration : Key := (0x2194, 3)
abbrev convertingUnitJerk : Key := (0x2194, 4)
abbrev softwarePositionLimitNegative : Key := (0x607D, 1)
abbrev softwarePositionLimitPositive : Key := (0x607D, 2)
abbrev positionWindow : Key := (0x6067, 0)
abbrev positionWindowTime : Key := (0x6068, 0)
abbrev maxProfileVelocity : Key := (0x607F, 0)
abbrev negativeVelocityLimit : Key := (0x2183, 12)
abbrev profileAcceleration : Key := (0x6083, 0)
abbrev profileDeceleration : Key := (0x6084, 0)
abbrev homingMethod : Key := (0x6098, 0)
abbrev homingSpeedSearchSwitch : Key := (0x6099, 1)
abbrev homingSpeedSearchZero : Key := (0x6099, 2)
abbrev homingAcceleration : Key := (0x609A, 0)
abbrev maxAcceleration : Key := (0x60C5, 0)
abbrev maxDeceleration : Key := (0x60C6, 0)
abbrev ppJerk : Key := (0x60A4, 1)
abbrev cspInterpolationMode : Key := (0x217B, 13)
abbrev syncMode : Key := (0x212E, 1)
abbrev syncCycleTime : Key := (0x212E, 2)
abbrev syncInterpolationTime : Key := (0x212E, 9)
abbrev outputSyncManagerSynchronizationType : Key := (0x1C32, 1)
abbrev outputSyncManagerCycleTime : Key := (0x1C32, 2)
abbrev deviceResetCommand : Key := (0x2000, 1)
abbrev parameterSaveCommand : Key := (0x2005, 1)
abbrev parameterSaveStatus : Key := (0x2005, 2)
abbrev parameterSaveSelection : Key := (0x2005, 3)
abbrev parameterSaveReturnCode : Key := (0x2005, 4)
abbrev parameterSaveReturnValue : Key := (0x2005, 5)
abbrev errorCode : Key := (0x2145, 12)

end Key

/-- An `ObjectDictionaryEntry` of the process data, or padding. -/
inductive PdoObject
  | mapped (key : Key) (dataType : DataType) (default : Int)
  | padding (bytes : Nat)

def PdoObject.byteLength : PdoObject → Nat
  | .mapped _ t _ => t.size
  | .padding n => n

def rxpdoObjects : List PdoObject := [
  .mapped Key.controlword .uint16 0,
  .mapped Key.modeOfOperation .int8 8,
  .mapped Key.targetPosition .int32 0,
  .mapped Key.profileVelocity .uint32 0,
  .mapped Key.targetVelocity .int32 0,
  .mapped Key.targetTorque .int16 0,
  .mapped Key.velocityOffset .int32 0,
  .mapped Key.torqueOffset .int16 0,
  .padding 1]

def txpdoObjects : List PdoObject := [
  .mapped Key.statusword .uint16 64,
  .mapped Key.modeOfOperationDisplay .int8 8,
  .mapped Key.actualPosition .int32 0,
  .mapped Key.actualVelocity .int32 0,
  .mapped Key.actualTorque .int16 0,
  .padding 1]

def rxSize : Nat := (rxpdoObjects.map (·.byteLength)).sum
def txSize : Nat := (txpdoObjects.map (·.byteLength)).sum

inductive Access
  | ro | rw | wo
  deriving DecidableEq

structure Definition where
  dataType : DataType
  access : Access
  default : Int
  /-- Mapped in the process data, so a device reset restores `default`. -/
  pdo : Bool
  deriving DecidableEq

def role (key : Key) (dataType : DataType) (access : Access) : Key × Definition :=
  (key, ⟨dataType, access, 0, false⟩)

/-- The required objects outside the process data, in `role_order`. -/
def roles : List (Key × Definition) := [
  role Key.userPositionUnit .uint16 .ro,
  role Key.convertingUnitPosition .int8 .ro,
  role Key.convertingUnitVelocity .int8 .ro,
  role Key.convertingUnitAcceleration .int8 .ro,
  role Key.convertingUnitJerk .int8 .ro,
  role Key.softwarePositionLimitNegative .int32 .rw,
  role Key.softwarePositionLimitPositive .int32 .rw,
  role Key.positionWindow .uint32 .rw,
  role Key.positionWindowTime .uint16 .rw,
  role Key.maxProfileVelocity .uint32 .rw,
  role Key.negativeVelocityLimit .float32 .rw,
  role Key.profileAcceleration .uint32 .rw,
  role Key.profileDeceleration .uint32 .rw,
  role Key.homingMethod .int8 .rw,
  role Key.homingSpeedSearchSwitch .uint32 .rw,
  role Key.homingSpeedSearchZero .uint32 .rw,
  role Key.homingAcceleration .uint32 .rw,
  role Key.maxAcceleration .uint32 .rw,
  role Key.maxDeceleration .uint32 .rw,
  role Key.ppJerk .uint32 .rw,
  role Key.cspInterpolationMode .uint32 .rw,
  role Key.syncMode .uint16 .rw,
  role Key.syncCycleTime .float32 .rw,
  role Key.syncInterpolationTime .float32 .rw,
  role Key.outputSyncManagerSynchronizationType .uint16 .rw,
  role Key.outputSyncManagerCycleTime .uint32 .rw,
  role Key.deviceResetCommand .uint8 .rw,
  role Key.parameterSaveCommand .uint8 .rw,
  role Key.parameterSaveStatus .uint8 .ro,
  role Key.parameterSaveSelection .uint16 .rw,
  role Key.parameterSaveReturnCode .uint16 .ro,
  role Key.parameterSaveReturnValue .uint16 .ro,
  role Key.errorCode .uint32 .ro]

def pdoDefinitions (access : Access) (objects : List PdoObject) : List (Key × Definition) :=
  objects.filterMap fun
    | .mapped key t default => some (key, ⟨t, access, default, true⟩)
    | .padding _ => none

/-- The objects of the process data keep the access rights of the device description. -/
def definitions : List (Key × Definition) :=
  pdoDefinitions .rw rxpdoObjects ++ pdoDefinitions .ro txpdoObjects ++ roles

def definition (key : Key) : Option Definition := definitions.lookup key

/-- `persistent_roles` of the device description. -/
def persistentRoles : List Key := [
  Key.userPositionUnit, Key.convertingUnitPosition, Key.convertingUnitVelocity,
  Key.convertingUnitAcceleration, Key.convertingUnitJerk, Key.softwarePositionLimitNegative,
  Key.softwarePositionLimitPositive, Key.positionWindow, Key.positionWindowTime,
  Key.maxProfileVelocity, Key.negativeVelocityLimit, Key.profileAcceleration,
  Key.profileDeceleration, Key.homingMethod, Key.homingSpeedSearchSwitch,
  Key.homingSpeedSearchZero, Key.homingAcceleration, Key.maxAcceleration, Key.maxDeceleration,
  Key.ppJerk]

inductive AxisMode
  | linear | rotary
  deriving DecidableEq

inductive PresetValue
  | int (n : Int)
  | decimal (q : ℚ)
  deriving DecidableEq

/-- The non-PDO configuration the device description selects for the mode. -/
def presets : AxisMode → List (Key × PresetValue)
  | .linear => [
      (Key.userPositionUnit, .int 256),
      (Key.convertingUnitPosition, .int 6),
      (Key.convertingUnitVelocity, .int 3),
      (Key.convertingUnitAcceleration, .int 3),
      (Key.convertingUnitJerk, .int 3),
      (Key.softwarePositionLimitNegative, .int (-1000000)),
      (Key.softwarePositionLimitPositive, .int 1000000),
      (Key.positionWindow, .int 20),
      (Key.positionWindowTime, .int 20),
      (Key.maxProfileVelocity, .int 200),
      (Key.negativeVelocityLimit, .decimal (-1 / 5)),
      (Key.profileAcceleration, .int 1000),
      (Key.profileDeceleration, .int 1000),
      (Key.homingMethod, .int 37),
      (Key.homingSpeedSearchSwitch, .int 100),
      (Key.homingSpeedSearchZero, .int 50),
      (Key.homingAcceleration, .int 100),
      (Key.maxAcceleration, .int 2000),
      (Key.maxDeceleration, .int 2000),
      (Key.ppJerk, .int 100000)]
  | .rotary => [
      (Key.userPositionUnit, .int 16640),
      (Key.convertingUnitPosition, .int 6),
      (Key.convertingUnitVelocity, .int 3),
      (Key.convertingUnitAcceleration, .int 3),
      (Key.convertingUnitJerk, .int 3),
      (Key.softwarePositionLimitNegative, .int (-180000000)),
      (Key.softwarePositionLimitPositive, .int 180000000),
      (Key.positionWindow, .int 20000),
      (Key.positionWindowTime, .int 20),
      (Key.maxProfileVelocity, .int 200000),
      (Key.negativeVelocityLimit, .decimal (-200)),
      (Key.profileAcceleration, .int 1000000),
      (Key.profileDeceleration, .int 1000000),
      (Key.homingMethod, .int 37),
      (Key.homingSpeedSearchSwitch, .int 100000),
      (Key.homingSpeedSearchZero, .int 50000),
      (Key.homingAcceleration, .int 100000),
      (Key.maxAcceleration, .int 2000000),
      (Key.maxDeceleration, .int 2000000),
      (Key.ppJerk, .int 100000000)]

end EthercatSimulator.Profile
