import EthercatSimulator.Behaviour.Servo
import EthercatSimulator.Runtime.Axis

/-! The adapter of the virtual servo. -/

namespace EthercatSimulator.Adapter

open Base Profile Behaviour EthercatSimulator.Runtime

namespace FKrCmmt

variable {F : Type} [PyFloat F]

/-- `capabilities.modes` -/
def supportedModes : List Int := [1, 3, 6, 8, -3]

/-- Zero is a valid idle input; no unsupported mode is executed. -/
def validateMode (mode : Int) : PyM (Servo F) Unit :=
  Exec.require (mode = 0 ∨ mode ∈ supportedModes)
    (deviceRejected ("Unsupported mode " ++ toString mode))

def onOd {α : Type} (x : PyM (Od F) α) : PyM (Servo F) α :=
  x.zoom (·.od) fun s od => { s with od := od }

def readSdo (key : Key) : PyM (Servo F) Bytes := do
  let s ← Exec.get
  Exec.ofExcept (bridgeReadSdo s.od key)

def writeSdo (key : Key) (payload : Bytes) : PyM (Servo F) Unit := do
  Exec.when (key = Key.modeOfOperation) (validateMode (leInt payload))
  let s ← Exec.get
  let od ← Exec.ofExcept (bridgeWriteSdo s.od key payload)
  Exec.modify fun s => { s with od := od }

/-- The mode bytes of a frame, validated wherever the layout maps them. -/
def validateModes (payload : Bytes) : List PdoObject → Nat → PyM (Servo F) Unit
  | [], _ => pure ()
  | o :: rest, offset => do
    let raw := (payload.drop offset).take o.byteLength
    match o with
    | .mapped key _ _ => Exec.when (key = Key.modeOfOperation) (validateMode (leInt raw))
    | .padding _ => pure ()
    validateModes payload rest (offset + o.byteLength)

def applyOutputs (payload : Bytes) : PyM (Servo F) Unit := do
  Exec.require (payload.length = rxSize) (valueError "RxPDO length mismatch")
  validateModes payload rxpdoObjects 0
  onOd (rxpdoPayloadToOd payload)

def step (dt : F) : PyM (Servo F) Unit := do
  Exec.modify fun s => { s with cycleTime := dt }
  Servo.modelUpdate

def readInputs : PyM (Servo F) Bytes := do
  let s ← Exec.get
  Exec.ofExcept (odToTxpdoPayload s.od)

end FKrCmmt

/-- `FKrCmmtAdapter`.  It has no `validate_parameters`. -/
def fKrCmmt (F : Type) [PyFloat F] : DriveAdapter F (Servo F) where
  applyOutputs := FKrCmmt.applyOutputs
  step := FKrCmmt.step
  readInputs := FKrCmmt.readInputs
  readSdo key _ := FKrCmmt.readSdo key
  writeSdo := FKrCmmt.writeSdo
  odRead key := do
    let s ← Exec.get
    return s.od.read key
  odWriteRole key v := Exec.modify fun s => s.write key v
  validateParameters := pure ()
  persistentRoles := persistentRoles ++ [Key.profileVelocity]

end EthercatSimulator.Adapter
