import EthercatSimulator.Diagnostics.Fault
import EthercatSimulator.Runtime.Axis

/-! The adapter of an FMU that knows profile position mode only. -/

namespace EthercatSimulator.Adapter

open Base Profile Diagnostics EthercatSimulator.Runtime PyFloat

/-- An input or parameter of the FMU, with the value it is set to. -/
inductive Setting (F : Type)
  | controlWord (n : Nat)
  | modesOfOp (n : Int)
  | targetPosition (n : Int)
  | targetVelocity (n : Int)
  | targetTorque (n : Int)
  | faultInject (active : Bool)
  | profileVelocity (x : F)
  | profileAcceleration (x : F)

inductive Output
  | modesDisplay | actualPosition | actualVelocity | torqueActual

inductive Parameter
  | profileVelocity | profileAcceleration

/-- The FMU and its runner, as far as the adapter uses them.  Every call may raise. -/
structure Runner (F ρ : Type) where
  set : Setting F → PyM ρ Unit
  step : F → PyM ρ Unit
  statusWord : PyM ρ Nat
  output : Output → PyM ρ Int
  parameter : Parameter → PyM ρ F

/-- `CopleyAdapter` -/
structure Copley (F ρ : Type) where
  od : Od F
  runner : ρ
  remainder : F
  fault : Bool
  velocityFactor : F
  accelerationFactor : F

namespace Copley

variable {F ρ : Type} [PyFloat F]

/-- `capabilities.modes` -/
def supportedModes : List Int := [1]

/-- `WRITABLE` -/
def writable : List Key := [
  Key.controlword, Key.modeOfOperation, Key.targetPosition, Key.profileVelocity,
  Key.profileAcceleration, Key.profileDeceleration, Key.parameterSaveCommand,
  Key.parameterSaveSelection, Key.deviceResetCommand]

/-- Only parameters this model applies persist, and the units they are counted in. -/
def persistentRoles : List Key := [
  Key.userPositionUnit, Key.convertingUnitPosition, Key.convertingUnitVelocity,
  Key.convertingUnitAcceleration, Key.convertingUnitJerk, Key.profileAcceleration,
  Key.profileDeceleration, Key.profileVelocity]

def stepSeconds : F := lit (1 / 500)

/-- `round(x)`, ties to even. -/
def round (x : F) : Except Exc Int := do
  let n ← floatToInt x
  let rest := x - ofInt n
  let away := if 0 < rest then n + 1 else n - 1
  if lit (1 / 2) < PyFloat.abs rest ∨ (PyFloat.same (PyFloat.abs rest) (lit (1 / 2)) ∧ n % 2 ≠ 0) then
    return away
  else return n

/-- `value <= 0` -/
def isNonpositive : Value F → Bool
  | .int n => n ≤ 0
  | .float x => x ≤ 0
  | .float32 bits => unpack32 bits ≤ (0 : F)

/-! Validation. -/

def unequalAccelerations : String := "Copley requires equal profile acceleration and deceleration"

def valueOf (values : List (Key × Value F)) (key : Key) : Except Exc (Value F) :=
  match values.lookup key with
  | some v => .ok v
  | none => .error (keyError "")

/-- `validate_parameters` -/
def validateParameters (values : List (Key × Value F)) : Except Exc Unit := do
  for key in [Key.profileVelocity, Key.profileAcceleration, Key.profileDeceleration] do
    let v ← valueOf values key
    if isNonpositive v then throw (valueError "Copley profile parameters must be positive")
  let acceleration ← valueOf values Key.profileAcceleration
  let deceleration ← valueOf values Key.profileDeceleration
  if !acceleration.same deceleration then throw (valueError unequalAccelerations)

/-- `_validate`, for the objects with the index -/
def validate (index : Nat) (value : Value F) : Except Exc Unit := do
  if index = 0x6060 ∧ !(value.same (.int 0) || value.same (.int 1)) then
    throw (deviceRejected "Copley initial adapter supports PP only")
  if index ∈ [0x6081, 0x6083, 0x6084] ∧ isNonpositive value then
    throw (deviceRejected "Profile velocity/acceleration must be positive")

variable (R : Runner F ρ)

def onRunner {α : Type} (x : PyM ρ α) : PyM (Copley F ρ) α :=
  x.zoom (·.runner) fun s runner => { s with runner := runner }

def onOd {α : Type} (x : PyM (Od F) α) : PyM (Copley F ρ) α :=
  x.zoom (·.od) fun s od => { s with od := od }

/-- `od.write_internal` -/
def write (key : Key) (v : Value F) : PyM (Copley F ρ) Unit :=
  Exec.modify fun s => { s with od := s.od.write key v }

/-! SDO access. -/

def readSdo (key : Key) : PyM (Copley F ρ) Bytes := do
  let s ← Exec.get
  Exec.ofExcept (bridgeReadSdo s.od key)

def unsupportedWrite (key : Key) : Exc :=
  deviceRejected ("Unsupported Copley write " ++ String.ofList (hexDigits 4 key.1) ++ ":" ++ toString key.2)

def restartUnsupported : Exc :=
  deviceRejected "Device restart is not supported; only command clear (0) is supported"

def writeSdo (key : Key) (payload : Bytes) : PyM (Copley F ρ) Unit := do
  Exec.require (key ∈ writable) (unsupportedWrite key)
  match definition key with
  | none => Exec.raise (keyError "")
  | some d => do
    Exec.require (payload.length = d.dataType.size) (valueError "SDO length mismatch")
    let value : Value F ← Exec.ofExcept (decodeOdValue d.dataType payload)
    Exec.require (¬ (key = Key.deviceResetCommand ∧ !value.same (.int 0))) restartUnsupported
    Exec.ofExcept (validate key.1 value)
    let s ← Exec.get
    let od ← Exec.ofExcept (bridgeWriteSdo s.od key payload)
    Exec.modify fun s => { s with od := od }

/-! Process data. -/

/-- Objects of the frame that profile position mode leaves at zero. -/
def unusedInputs : List Nat := [0x60FF, 0x6071, 0x60B1, 0x60B2]

def validateInput (index : Nat) (value : Value F) : Except Exc Unit := do
  validate index value
  if index ∈ unusedInputs ∧ !value.same (.int 0) then
    throw (deviceRejected "Nonzero velocity/torque/offset input unsupported in PP")

variable (F) in
def validateObject (o : PdoObject) (raw : Bytes) : Except Exc Unit :=
  match o with
  | .padding _ => .ok ()
  | .mapped key t _ => (decodeOdValue t raw : Except Exc (Value F)) >>= validateInput key.1

variable (F) in
def validateObjects (payload : Bytes) : List PdoObject → Nat → Except Exc Unit
  | [], _ => .ok ()
  | o :: rest, offset => do
    validateObject F o ((payload.drop offset).take o.byteLength)
    validateObjects payload rest (offset + o.byteLength)

def applyOutputs (payload : Bytes) : PyM (Copley F ρ) Unit := do
  Exec.require (payload.length = rxSize) (valueError "RxPDO length mismatch")
  Exec.ofExcept (validateObjects F payload rxpdoObjects 0)
  onOd (rxpdoPayloadToOd payload)

/-- `_refresh`; only the referenced bit of the device description is added to the statusword. -/
def refresh : PyM (Copley F ρ) Unit := do
  let statusword ← onRunner R.statusWord
  write Key.statusword (.int (statusword ||| 0x8000 : Nat))
  let mode ← onRunner (R.output .modesDisplay)
  write Key.modeOfOperationDisplay (.int mode)
  let position ← onRunner (R.output .actualPosition)
  write Key.actualPosition (.int position)
  let torque ← onRunner (R.output .torqueActual)
  write Key.actualTorque (.int torque)
  let velocity ← onRunner (R.output .actualVelocity)
  let s ← Exec.get
  let velocity ← Exec.ofExcept (round (ofInt velocity * lit (1 / 10) / s.velocityFactor))
  write Key.actualVelocity (.int velocity)

def readInputs : PyM (Copley F ρ) Bytes := do
  let s ← Exec.get
  Exec.ofExcept (odToTxpdoPayload s.od)

/-! `step` -/

def isFinite (x : F) : Bool := (PyFloat.toInt x).toOption.isSome

def validateAll (od : Od F) : Except Exc Unit := do
  validate 0x6040 (od.read Key.controlword)
  validate 0x6060 (od.read Key.modeOfOperation)
  validate 0x6081 (od.read Key.profileVelocity)
  validate 0x6083 (od.read Key.profileAcceleration)
  validate 0x6084 (od.read Key.profileDeceleration)

def controlword (s : Copley F ρ) : Nat := (s.od.int Key.controlword).toNat

/-- What the FMU is set to; Halt is ignored there. -/
def settings (s : Copley F ρ) : List (Setting F) := [
  .controlWord (clearBits s.controlword 0x100),
  .modesOfOp (s.od.int Key.modeOfOperation),
  .targetPosition (s.od.int Key.targetPosition),
  .targetVelocity 0,
  .targetTorque 0,
  .faultInject s.fault,
  .profileVelocity (ofInt (s.od.int Key.profileVelocity) * s.velocityFactor),
  .profileAcceleration (ofInt (s.od.int Key.profileAcceleration) * s.accelerationFactor)]

def setAll : List (Setting F) → PyM (Copley F ρ) Unit
  | [] => pure ()
  | setting :: rest => do
    onRunner (R.set setting)
    setAll rest

/-- More sub-steps than any admitted cycle needs. -/
def subStepLimit : Nat := 64

def subStepsLeft : Exc := ⟨.runtimeError, "Sub-steps are left"⟩

/-- The sub-steps that are due; with `fuel` left over, none is. -/
def subSteps : Nat → PyM (Copley F ρ) Unit
  | 0 => Exec.raise subStepsLeft
  | fuel + 1 => do
    let s ← Exec.get
    Exec.when (stepSeconds ≤ s.remainder + lit (1 / 10 ^ 12)) do
      onRunner (R.step stepSeconds)
      Exec.modify fun s => { s with remainder := PyFloat.max 0 (s.remainder - stepSeconds) }
      subSteps fuel

def step (dt : F) : PyM (Copley F ρ) Unit := do
  Exec.require (isFinite dt ∧ 0 < dt ∧ dt ≤ lit (1 / 10)) (valueError "Model dt must be in (0, 0.1] seconds")
  let s ← Exec.get
  Exec.require (¬ (s.fault ∧ hasBits s.controlword 0x80)) (deviceRejected "Fault injection is still active")
  -- Sequential SDO updates are permitted, but an unequal pair is never executed.
  Exec.require (s.od.int Key.profileAcceleration = s.od.int Key.profileDeceleration)
    (deviceRejected unequalAccelerations)
  Exec.ofExcept (validateAll s.od)
  setAll R s.settings
  Exec.modify fun s => { s with remainder := s.remainder + dt }
  subSteps R subStepLimit
  refresh R

/-! `__init__` -/

def unitScale (od : Od F) (key : Key) : F := pow10 (-|od.int key|)

/-- Position mode is selected before the FMU is asked for anything. -/
def configured (mode : AxisMode) (runner : ρ) : Copley F ρ :=
  let od := ((Od.configured mode).write Key.modeOfOperation (.int 1)).write
    Key.modeOfOperationDisplay (.int 1)
  let position := unitScale od Key.convertingUnitPosition
  { od, runner, remainder := 0, fault := false
    velocityFactor := unitScale od Key.convertingUnitVelocity / position
    accelerationFactor := unitScale od Key.convertingUnitAcceleration / position }

def initialise : PyM (Copley F ρ) Unit := do
  let s ← Exec.get
  let velocity ← onRunner (R.parameter .profileVelocity)
  let velocity ← Exec.ofExcept (round (velocity / s.velocityFactor))
  write Key.profileVelocity (.int velocity)
  let acceleration ← onRunner (R.parameter .profileAcceleration)
  let acceleration ← Exec.ofExcept (round (acceleration / s.accelerationFactor))
  write Key.profileAcceleration (.int acceleration)
  write Key.profileDeceleration (.int acceleration)
  refresh R

/-- The adapter with the given runner, unless the FMU refuses. -/
def construct (mode : AxisMode) (runner : ρ) : Except Exc (Copley F ρ) :=
  match initialise R (configured mode runner) with
  | (.ok (), s) => .ok s
  | (.error e, _) => .error e

end Copley

def copley {F ρ : Type} [PyFloat F] (R : Runner F ρ) : DriveAdapter F (Copley F ρ) where
  applyOutputs := Copley.applyOutputs
  step := Copley.step R
  readInputs := Copley.readInputs
  readSdo key _ := Copley.readSdo key
  writeSdo := Copley.writeSdo
  odRead key := do
    let s ← Exec.get
    return s.od.read key
  odWriteRole key v := Copley.write key v
  validateParameters := do
    let s ← Exec.get
    Exec.ofExcept (Copley.validateParameters (Copley.persistentRoles.map fun key => (key, s.od.read key)))
  persistentRoles := Copley.persistentRoles

end EthercatSimulator.Adapter
