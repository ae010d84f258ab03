import EthercatSimulator.Behaviour.StateMachine
import EthercatSimulator.Diagnostics.Fault
import EthercatSimulator.Profile.Bridge

/-! The virtual servo behind the F-KR adapter: commands through the object dictionary, the
state machine, and one motion law for each mode of operation. -/

namespace EthercatSimulator.Behaviour

open Base Profile Diagnostics PyFloat

/-- `VirtualCiA402Servo`.  Positions and velocities are floats, also where the source keeps an
`int` it copied from the dictionary. -/
structure Servo (F : Type) where
  axisMode : AxisMode
  cycleTime : F
  od : Od F
  sm : CiA402State
  actualPosition : F
  actualVelocity : F
  kp : F
  targetReached : Bool
  windowCounter : Int
  previousControlword : Nat
  ppActive : Bool
  ppTargetPosition : F
  ppSetpointAck : Bool
  haltActive : Bool
  homingActive : Bool
  homingCounter : Int
  homingReferenced : Bool
  homingError : Bool
  softwareLimitWarning : Bool
  positionTargetRejected : Bool
  lastModeCommand : Int
  lastTargetPositionCommand : Value F
  lastDeviceResetCommand : Int
  lastParameterSaveCommand : Int

def zeroDivision : Exc := ⟨.zeroDivisionError, "float division by zero"⟩
def resultTooLarge : Exc := ⟨.overflowError, "(34, 'Numerical result out of range')"⟩

namespace Servo

variable {F : Type} [PyFloat F]

def construct (axisMode : AxisMode) : Servo F :=
  let od := Od.configured axisMode
  { axisMode, cycleTime := lit (1 / 100), od, sm := .switchOnDisabled
    actualPosition := 0, actualVelocity := 0, kp := lit 5
    targetReached := false, windowCounter := 0, previousControlword := 0
    ppActive := false, ppTargetPosition := 0, ppSetpointAck := false, haltActive := false
    homingActive := false, homingCounter := 0, homingReferenced := false, homingError := false
    softwareLimitWarning := false, positionTargetRejected := false
    lastModeCommand := od.int Key.modeOfOperation
    lastTargetPositionCommand := od.read Key.targetPosition
    lastDeviceResetCommand := od.int Key.deviceResetCommand
    lastParameterSaveCommand := od.int Key.parameterSaveCommand }

variable (s : Servo F)

def setVelocity (velocity : F) : Servo F := { s with actualVelocity := velocity }
def setPosition (position : F) : Servo F := { s with actualPosition := position }

def write (key : Key) (v : Value F) : Servo F := { s with od := s.od.write key v }

def controlword : Nat := (s.od.int Key.controlword).toNat

def enabled : Bool := s.sm = .operationEnabled

/-- The rising edge of controlword bit 4. -/
def newSetpoint : Bool := hasBits s.controlword 0x10 && !hasBits s.previousControlword 0x10

def writeActualFeedback : Servo F :=
  (s.write Key.actualPosition (.float s.actualPosition)).write Key.actualVelocity
    (.float s.actualVelocity)

/-! Units. -/

def unitScale (key : Key) : F :=
  let exponent := s.od.int key
  if 0 < exponent then pow10 (-exponent) else pow10 exponent

def positionScale : F := PyFloat.max (s.unitScale Key.convertingUnitPosition) (lit (1 / 10 ^ 12))
def velocityScale : F := PyFloat.max (s.unitScale Key.convertingUnitVelocity) (lit (1 / 10 ^ 12))
def accelerationScale : F :=
  PyFloat.max (s.unitScale Key.convertingUnitAcceleration) (lit (1 / 10 ^ 12))

def velocityToPositionRate (velocity : F) : F := velocity * s.velocityScale / s.positionScale
def positionRateToVelocity (rate : F) : F := rate * s.positionScale / s.velocityScale

def accelerationToPositionRate (acceleration : F) : F :=
  acceleration * s.accelerationScale / s.positionScale

def accelerationToVelocityDelta (acceleration dt : F) : F :=
  acceleration * s.accelerationScale / s.velocityScale * dt

def moveTowards (current target maxDelta : F) : F :=
  if maxDelta ≤ 0 then current
  else
    let delta := target - current
    if PyFloat.abs delta ≤ maxDelta then target
    else current + maxDelta * (if 0 < delta then lit 1 else lit (-1))

/-- The position after one cycle at the present velocity. -/
def integrated : F := s.actualPosition + s.velocityToPositionRate s.actualVelocity * s.cycleTime

/-! Software limits. -/

def softwarePositionLimits : F × F :=
  let negative := s.od.real Key.softwarePositionLimitNegative
  let positive := s.od.real Key.softwarePositionLimitPositive
  if positive < negative then (positive, negative) else (negative, positive)

def positionTargetIsWithinSoftwareLimits (position : F) : Bool :=
  s.softwarePositionLimits.1 ≤ position ∧ position ≤ s.softwarePositionLimits.2

def actualPositionExceedsSoftwareLimits : Bool :=
  s.actualPosition < s.softwarePositionLimits.1 ∨ s.softwarePositionLimits.2 < s.actualPosition

def softwareLimitIsActive : Bool := s.softwareLimitWarning || s.actualPositionExceedsSoftwareLimits

def isMoving : Bool :=
  lit (1 / 10 ^ 9) < PyFloat.abs s.actualVelocity || s.ppActive || s.homingActive

/-! Commands. -/

def stopAtCurrentPosition : Servo F :=
  let s := { s with actualVelocity := 0, ppActive := false, ppTargetPosition := s.actualPosition }
  let s := s.write Key.targetPosition (.float s.actualPosition)
  let s := { s with lastTargetPositionCommand := .float s.actualPosition }
  let s := s.writeActualFeedback
  { s with windowCounter := 0, targetReached := true }

def setMode (mode previousMode : Int) : Servo F :=
  let s :=
    if mode ≠ previousMode then
      let s := s.stopAtCurrentPosition
      if mode ≠ 6 then { s with homingActive := false, homingError := false } else s
    else s
  let s := s.write Key.modeOfOperation (.int mode)
  let s := s.write Key.modeOfOperationDisplay (.int mode)
  { s with lastModeCommand := mode }

def positionCommandRequiresReference : Bool :=
  s.od.int Key.modeOfOperation = 1 ∨ s.od.int Key.modeOfOperation = 8

def setTargetPosition (position previousTarget : Value F) : Servo F :=
  if s.positionCommandRequiresReference && !s.homingReferenced then
    let s := s.write Key.targetPosition previousTarget
    { s with lastTargetPositionCommand := previousTarget }
  else if !s.positionTargetIsWithinSoftwareLimits position.toFloat then
    let s := { s with softwareLimitWarning := true, positionTargetRejected := true }
    { s.stopAtCurrentPosition with targetReached := false }
  else
    let s := { s with positionTargetRejected := false }
    let s :=
      if s.actualPositionExceedsSoftwareLimits then s else { s with softwareLimitWarning := false }
    let s :=
      if position.same previousTarget then s else { s with targetReached := false, windowCounter := 0 }
    let s := s.write Key.targetPosition position
    { s with lastTargetPositionCommand := position }

def applyDeviceResetResponse : Servo F :=
  let currentPosition := s.od.read Key.actualPosition
  let s := { s with od := (s.od.resetNonPdoConfiguration s.axisMode).resetPdoValues }
  let s := s.write Key.targetPosition currentPosition
  let s := s.write Key.actualPosition currentPosition
  let s := s.write Key.statusword (.int 0x0027)
  let s := s.write Key.modeOfOperationDisplay (s.od.read Key.modeOfOperation)
  { s with
    lastModeCommand := s.od.int Key.modeOfOperation
    lastTargetPositionCommand := s.od.read Key.targetPosition }

def deviceResetRequested : Bool :=
  s.od.int Key.deviceResetCommand ≠ s.lastDeviceResetCommand ∧ s.od.int Key.deviceResetCommand = 1

def parameterSaveRequested : Bool :=
  s.od.int Key.parameterSaveCommand ≠ s.lastParameterSaveCommand ∧
    s.od.int Key.parameterSaveCommand = 1

def applyDeviceReset : Servo F :=
  let deviceResetCommand := s.od.int Key.deviceResetCommand
  let s := if s.deviceResetRequested then s.applyDeviceResetResponse else s
  { s with lastDeviceResetCommand := deviceResetCommand }

def applyParameterSave : Servo F :=
  let parameterSaveCommand := s.od.int Key.parameterSaveCommand
  let s :=
    if s.parameterSaveRequested then
      { s with od := s.od.writeAll [(Key.parameterSaveStatus, .int 0),
        (Key.parameterSaveReturnCode, .int 0), (Key.parameterSaveReturnValue, .int 1)] }
    else s
  { s with lastParameterSaveCommand := parameterSaveCommand }

def applyMotionCommands : Servo F :=
  let requestedMode := s.od.int Key.modeOfOperation
  let requestedTarget := s.od.read Key.targetPosition
  let s := if requestedMode ≠ s.lastModeCommand then s.setMode requestedMode s.lastModeCommand else s
  if requestedTarget.same s.lastTargetPositionCommand then s
  else s.setTargetPosition requestedTarget s.lastTargetPositionCommand

def applyOdCommands : Servo F := s.applyDeviceReset.applyParameterSave.applyMotionCommands

/-! Target reached. -/

def isInPosition : Bool :=
  PyFloat.abs (s.od.real Key.targetPosition - s.od.real Key.actualPosition) ≤
    s.od.real Key.positionWindow

def floatDiv (x y : F) : Except Exc F := if same y 0 then .error zeroDivision else .ok (x / y)

/-- `max(1, int(x / y))` -/
def cyclesIn (x y : F) : Except Exc Int := do
  let q ← floatDiv x y
  let n ← floatToInt q
  return Max.max 1 n

def updateTargetReached : PyM (Servo F) Unit := do
  Exec.modify fun s =>
    if s.isInPosition then { s with windowCounter := s.windowCounter + 1 }
    else { s with windowCounter := 0, targetReached := false }
  let s ← Exec.get
  let requiredCount ← Exec.ofExcept
    (cyclesIn (s.od.real Key.positionWindowTime) (s.cycleTime * lit 1000))
  Exec.modify fun s => if requiredCount ≤ s.windowCounter then { s with targetReached := true } else s

/-! Homing. -/

def startHoming : PyM (Servo F) Unit := do
  Exec.modify fun s => { s with homingActive := true }
  let s ← Exec.get
  let count ← Exec.ofExcept (cyclesIn (lit (1 / 10)) s.cycleTime)
  Exec.modify fun s =>
    let s := { s with
      homingCounter := count, homingReferenced := false, homingError := false, actualVelocity := 0 }
    { s.writeActualFeedback with targetReached := false }

def finishHoming : Servo F :=
  let s := (s.setPosition 0).setVelocity 0
  let s := (s.write Key.targetPosition (.float s.actualPosition)).writeActualFeedback
  { s with targetReached := true, homingActive := false, homingReferenced := true }

def advanceHoming : Servo F :=
  if !s.homingActive then s
  else
    let s := { s with homingCounter := s.homingCounter - 1 }
    if 0 < s.homingCounter then s else s.finishHoming

def processHoming : PyM (Servo F) Unit := do
  let s ← Exec.get
  Exec.when s.enabled do
    Exec.when s.newSetpoint startHoming
    Exec.modify advanceHoming

/-! Profile position. -/

def decelerateToStop : Servo F :=
  let decel := PyFloat.abs (s.od.real Key.profileDeceleration)
  let s := s.setVelocity
    (moveTowards s.actualVelocity 0 (s.accelerationToVelocityDelta decel s.cycleTime))
  s.setPosition s.integrated

def slowed : Servo F := s.decelerateToStop.writeActualFeedback

def atRest : Bool := PyFloat.abs s.actualVelocity ≤ lit (1 / 10 ^ 9)

def positiveLimit : F := PyFloat.abs (s.od.real Key.maxProfileVelocity)
def negativeLimit : F := PyFloat.abs (s.od.real Key.negativeVelocityLimit * lit 1000)
def profileVelocity : F := PyFloat.abs (s.od.real Key.profileVelocity)

def maxVelocity (target : F) : F :=
  let limit :=
    if target < s.actualPosition ∧ 0 < s.negativeLimit then s.negativeLimit else s.positiveLimit
  if 0 < limit then PyFloat.min s.profileVelocity limit else s.profileVelocity

def ppArrived : Bool :=
  let decel := PyFloat.abs (s.od.real Key.profileDeceleration)
  let window := PyFloat.abs (s.od.real Key.positionWindow)
  PyFloat.abs (s.ppTargetPosition - s.actualPosition) ≤ window ∧
    PyFloat.abs s.actualVelocity ≤
      PyFloat.max (s.accelerationToVelocityDelta decel s.cycleTime) (lit (1 / 10 ^ 9))

def ppArrive : Servo F :=
  { s with actualPosition := s.ppTargetPosition, actualVelocity := 0, ppActive := false }

def ppDirection : F := if 0 ≤ s.ppTargetPosition - s.actualPosition then lit 1 else lit (-1)

def stoppingDistance : Except Exc F :=
  let decel := PyFloat.abs (s.od.real Key.profileDeceleration)
  let rate := s.accelerationToPositionRate decel
  if 0 < rate then
    match square (PyFloat.max (s.velocityToPositionRate s.actualVelocity * s.ppDirection) 0) with
    | some sq => .ok (sq / (lit 2 * rate))
    | none => .error resultTooLarge
  else .ok 0

def ppAdvance (stoppingDistance : F) : Servo F :=
  let target := s.ppTargetPosition
  let accel := PyFloat.abs (s.od.real Key.profileAcceleration)
  let decel := PyFloat.abs (s.od.real Key.profileDeceleration)
  let braking := s.actualVelocity * s.ppDirection < 0 ∨
    PyFloat.abs (target - s.actualPosition) ≤ stoppingDistance
  let desired := if braking then 0 else s.ppDirection * s.maxVelocity target
  let limit := if braking then decel else accel
  let s := s.setVelocity
    (moveTowards s.actualVelocity desired (s.accelerationToVelocityDelta limit s.cycleTime))
  let next := s.integrated
  if same (target - s.actualPosition) 0 ∨ (target - s.actualPosition) * (target - next) ≤ 0 then
    s.ppArrive
  else s.setPosition next

def ppMove : PyM (Servo F) Unit := do
  let s ← Exec.get
  if s.ppArrived then Exec.modify ppArrive
  else do
    let d ← Exec.ofExcept s.stoppingDistance
    Exec.modify fun s => s.ppAdvance d
  Exec.modify writeActualFeedback
  updateTargetReached

def ppHalt : Servo F :=
  let s := { s with ppActive := false, ppSetpointAck := false }
  let s := s.slowed
  { s with targetReached := s.atRest }

def ppUnreferenced : Servo F :=
  let s := { s with ppActive := false, ppSetpointAck := false, targetReached := false }
  s.slowed

def ppReject : Servo F :=
  let s := { s with ppActive := false, ppSetpointAck := false }
  s.slowed

def ppLatch : Servo F :=
  { s with
    ppTargetPosition := s.od.real Key.targetPosition, ppActive := true
    targetReached := false, windowCounter := 0 }

def ppFollow : PyM (Servo F) Unit := do
  Exec.modify fun s =>
    let s := if s.newSetpoint then s.ppLatch else s
    { s with ppSetpointAck := hasBits s.controlword 0x10 }
  let s ← Exec.get
  if s.ppActive then ppMove
  else do
    Exec.modify slowed
    updateTargetReached

def processPp : PyM (Servo F) Unit := do
  let s ← Exec.get
  Exec.when s.enabled do
    if s.haltActive then Exec.modify ppHalt
    else if !s.homingReferenced then Exec.modify ppUnreferenced
    else if s.newSetpoint && s.positionTargetRejected then Exec.modify ppReject
    else ppFollow

/-! Profile velocity. -/

/-- The velocity law of the velocity modes: accelerate while the demand exceeds the present
velocity, else decelerate. -/
def velocityStep (target accel decel : F) : Servo F × F :=
  let limit := if PyFloat.abs s.actualVelocity < PyFloat.abs target then accel else decel
  let maxDelta := s.accelerationToVelocityDelta limit s.cycleTime
  let s := s.setVelocity (moveTowards s.actualVelocity target maxDelta)
  ((s.setPosition s.integrated).writeActualFeedback, maxDelta)

def pvTarget : F :=
  let target := if s.haltActive then 0 else s.od.real Key.targetVelocity
  if 0 ≤ target ∧ 0 < s.positiveLimit then PyFloat.min target s.positiveLimit
  else if target < 0 ∧ 0 < s.negativeLimit then PyFloat.max target (-s.negativeLimit)
  else target

def pvStep : Servo F :=
  let target := s.pvTarget
  let (s, maxDelta) := s.velocityStep target (s.od.real Key.profileAcceleration)
    (s.od.real Key.profileDeceleration)
  let near := PyFloat.abs (s.actualVelocity - target) ≤ PyFloat.max maxDelta (lit (1 / 10 ^ 9))
  { s with targetReached := near }

def processPv : PyM (Servo F) Unit := do
  let s ← Exec.get
  Exec.when s.enabled (Exec.modify pvStep)

/-! Jog. -/

def jogVelocityLimit : F :=
  let configured := [s.profileVelocity, s.positiveLimit, s.negativeLimit].filter (0 < ·)
  let maxVelocity := match configured with
    | [] => 0
    | x :: xs => xs.foldl PyFloat.min x
  let speedFactor :=
    if hasBits s.controlword 0x1000 then lit 1
    else if hasBits s.controlword 0x800 then lit (1 / 4) else lit (1 / 2)
  maxVelocity * speedFactor

def limitJogVelocityAtSoftwareLimit (target : F) : F :=
  if PyFloat.abs target ≤ lit (1 / 10 ^ 12) then 0
  else if 0 < target ∧ s.softwarePositionLimits.2 ≤ s.actualPosition then 0
  else if target < 0 ∧ s.actualPosition ≤ s.softwarePositionLimits.1 then 0
  else target

def jogTarget : F :=
  let positive := hasBits s.controlword 0x10
  let negative := hasBits s.controlword 0x20
  let target :=
    if positive = negative ∨ s.haltActive then 0
    else (if positive then lit 1 else lit (-1)) * s.jogVelocityLimit
  s.limitJogVelocityAtSoftwareLimit target

def jogStep : Servo F :=
  let s := (s.velocityStep s.jogTarget (s.od.real Key.profileAcceleration)
    (s.od.real Key.profileDeceleration)).1
  { s with targetReached := s.atRest }

def processJog : PyM (Servo F) Unit := do
  let s ← Exec.get
  Exec.when s.enabled (Exec.modify jogStep)

/-! Cyclic synchronous position. -/

def cspHalt : Servo F :=
  let s := s.slowed
  { s with targetReached := s.atRest }

def cspUnreferenced : Servo F :=
  let s := { s with targetReached := false }
  s.slowed

def cspStep : Servo F :=
  let target := s.od.real Key.targetPosition
  let maxVel := s.maxVelocity target
  let accel := s.od.real Key.profileAcceleration
  let decel := s.od.real Key.profileDeceleration
  let error := target - s.actualPosition
  let desired := s.positionRateToVelocity (s.kp * error)
  let desired := PyFloat.max (PyFloat.min desired maxVel) (-maxVel)
  let limit := if PyFloat.abs s.actualVelocity < PyFloat.abs desired then accel else decel
  let maxDelta := s.accelerationToVelocityDelta limit s.cycleTime
  let delta := PyFloat.max (PyFloat.min (desired - s.actualVelocity) maxDelta) (-maxDelta)
  let s := s.setVelocity (s.actualVelocity + delta)
  (s.setPosition s.integrated).writeActualFeedback

def processCsp : PyM (Servo F) Unit := do
  let s ← Exec.get
  Exec.when s.enabled do
    if s.haltActive then Exec.modify cspHalt
    else if !s.homingReferenced then Exec.modify cspUnreferenced
    else do
      Exec.modify cspStep
      updateTargetReached

/-! Main cycle. -/

/-- `word | bit` where the condition holds. -/
def flag (condition : Bool) (bit word : Nat) : Nat := if condition then word ||| bit else word

def publishedStatusword (mode : Int) : Nat :=
  let w := s.sm.statusword
  let w := flag s.targetReached 0x400 w
  let w := flag s.ppSetpointAck 0x1000 w
  let w := flag s.isMoving 0x100 w
  let w := flag s.softwareLimitIsActive 0x80 w
  let w := flag s.softwareLimitIsActive 0x800 w
  let w := flag s.homingReferenced 0x8000 w
  flag (mode = 6 && s.homingError) 0x8 w

/-- The state machine takes the controlword; a drive that loses Operation Enabled stops. -/
def processStateMachine : Servo F :=
  let controlword := s.controlword
  let s' := { s with haltActive := hasBits controlword 0x100, sm := s.sm.process controlword }
  if s.enabled && !s'.enabled then s'.stopAtCurrentPosition else s'

def processMode (mode : Int) : PyM (Servo F) Unit :=
  if mode = 1 then processPp
  else if mode = 3 then processPv
  else if mode = 8 then processCsp
  else if mode = 6 then processHoming
  else if mode = -3 then processJog
  else pure ()

def publish (controlword : Nat) (mode : Int) : Servo F :=
  let s := s.write Key.statusword (.int (s.publishedStatusword mode))
  { s with previousControlword := controlword }

def processCycle : PyM (Servo F) Unit := do
  let s ← Exec.get
  let controlword := s.controlword
  Exec.modify processStateMachine
  let s ← Exec.get
  let mode := s.od.int Key.modeOfOperation
  processMode mode
  Exec.modify fun s => s.publish controlword mode

def modelUpdate : PyM (Servo F) Unit := do
  Exec.modify applyOdCommands
  processCycle

end Servo

end EthercatSimulator.Behaviour
