import EthercatSimulator.Diagnostics.Fault
import EthercatSimulator.Profile.Bridge

/-! One axis of the model host: the requests it answers, and the fault boundary around the
adapter of its drive model. -/

namespace EthercatSimulator.Runtime

open Base Profile Diagnostics

/-- `DriveAdapter`.  Every call may change the adapter and raise. -/
structure DriveAdapter (F σ : Type) where
  applyOutputs : Bytes → PyM σ Unit
  step : F → PyM σ Unit
  readInputs : PyM σ Bytes
  readSdo : Key → Nat → PyM σ Bytes
  writeSdo : Key → Bytes → PyM σ Unit
  /-- `adapter.od.read` -/
  odRead : Key → PyM σ (Value F)
  /-- `adapter.od.write_role`, the role named by its object -/
  odWriteRole : Key → Value F → PyM σ Unit
  validateParameters : PyM σ Unit
  persistentRoles : List Key

/-- A call on the adapter, with what it returned where that matters. -/
inductive Call (F : Type)
  | applyOutputs (payload : Bytes)
  | step (dt : F)
  | readInputs (output : Option Bytes)
  | readSdo (key : Key)
  | writeSdo (key : Key) (payload : Bytes)
  | odRead (key : Key)
  | odWriteRole (key : Key)
  | save

/-- What the surroundings answer during one request: the two clocks, and the parameter store
once the values to save are known. -/
structure Moment (F : Type) where
  monotonic : F
  time : Time
  save : List (Key × Bytes) → Except Exc Unit

/-- `Model`.  `calls` lists the adapter calls of the latest request; the source keeps no such
list. -/
structure Axis (F σ : Type) where
  adapter : σ
  faultState : AxisFault
  lastCycle : Option F := none
  cycles : Nat := 0
  hasStore : Bool := false
  saveDiagnostic : Option Diagnostic := none
  savePrinted : List LogLine := []
  calls : List (Call F) := []

inductive Request
  | cycle (data : Option String)
  | idle
  | read (index subindex : Nat)
  | write (index subindex : Nat) (data : Option String)
  | describe
  | other (op : String)
  deriving DecidableEq

inductive Reply
  | output (data : String) (cycles : Option Nat)
  | guard (response : AxisFault.Response) (cycles : Option Nat)
  | object (data : String)
  | done
  | sdoAbort (code : Nat) (message : String)
  | contract
  deriving DecidableEq

def Reply.data : Reply → Option String
  | .output data _ | .object data => some data
  | .guard response _ => some response.data
  | .done | .sdoAbort _ _ | .contract => none

def keyError (key : String) : Exc := ⟨.keyError, key⟩
def valueError (message : String) : Exc := ⟨.valueError, message⟩

/-- `parameter_values`, with the values as bytes. -/
def parameterValues {F σ : Type} (A : DriveAdapter F σ) : PyM σ (List (Key × Bytes)) :=
  A.persistentRoles.mapM fun key =>
    match definition key with
    | none => Exec.raise (keyError "")
    | some d => do
      let raw ← A.readSdo key d.dataType.size
      return (key, raw)

namespace Axis

variable {F σ : Type} [PyFloat F] (A : DriveAdapter F σ) (m : Moment F)

def setGuard (g : AxisFault) (a : Axis F σ) : Axis F σ := { a with faultState := g }

def forgetCycle (a : Axis F σ) : Axis F σ := { a with lastCycle := none }

/-- Runs an adapter call and logs it. -/
def call {α : Type} (log : Except Exc α → Call F) (x : PyM σ α) : PyM (Axis F σ) α := fun a =>
  match x a.adapter with
  | (r, s) => (r, { a with adapter := s, calls := a.calls ++ [log r] })

def applyOutputs (payload : Bytes) : PyM (Axis F σ) Unit :=
  call (fun _ => .applyOutputs payload) (A.applyOutputs payload)

def step (dt : F) : PyM (Axis F σ) Unit := call (fun _ => .step dt) (A.step dt)

def readInputs : PyM (Axis F σ) Bytes := call (fun r => .readInputs r.toOption) A.readInputs

def readSdo (key : Key) (size : Nat) : PyM (Axis F σ) Bytes :=
  call (fun _ => .readSdo key) (A.readSdo key size)

def writeSdo (key : Key) (payload : Bytes) : PyM (Axis F σ) Unit :=
  call (fun _ => .writeSdo key payload) (A.writeSdo key payload)

/-! Saving parameters. -/

/-- `store.save(self)` -/
def storeSave : PyM (Axis F σ) Unit := call (fun _ => .save) do
  A.validateParameters
  let values ← parameterValues A
  Exec.ofExcept (m.save values)

def saveFailed (message : String) (a : Axis F σ) : Axis F σ :=
  match a.saveDiagnostic with
  | some _ => a
  | none =>
    let d : Diagnostic := {
      diagnosticId := a.savePrinted.length, code := .parameterSaveFailed, level := .alarm
      latching := false, axis := a.faultState.axis, detail := message, occurredAt := m.time }
    { a with saveDiagnostic := some d, savePrinted := a.savePrinted ++ [⟨.detected, d⟩] }

def saveSucceeded (a : Axis F σ) : Axis F σ :=
  match a.saveDiagnostic with
  | none => a
  | some d =>
    { a with
      saveDiagnostic := none, savePrinted := a.savePrinted ++ [⟨.resolved, d.resolve m.time⟩] }

def saveParameters : PyM (Axis F σ) Unit := do
  (storeSave A m).handle fun e => do
    Exec.modify (saveFailed m e.message)
    Exec.raise ⟨.osError, e.message⟩
  Exec.modify (saveSucceeded m)

def writeRole (key : Key) (n : Int) : PyM (Axis F σ) Unit :=
  call (fun _ => .odWriteRole key) (A.odWriteRole key (.int n))

/-- The body of the `try` around a save command. -/
def selectedSave : PyM (Axis F σ) Unit := do
  let selection ← call (fun _ => .odRead Key.parameterSaveSelection)
    (A.odRead Key.parameterSaveSelection)
  Exec.require (selection.same (.int 1)) (valueError "Only parameter save selection 1 is supported")
  saveParameters A m

def restorePrevious (key : Key) (previous : Option Bytes) : PyM (Axis F σ) Unit :=
  match previous with
  | none => pure ()
  | some raw => writeSdo A key raw

/-- What `write_sdo` reads before it writes. -/
def readPrevious (key : Key) (size : Nat) (access : Access) : PyM (Axis F σ) (Option Bytes) :=
  if access = .wo then pure none else some <$> readSdo A key size

/-- `CmmtAsDescription.write_sdo` -/
def describedWrite (key : Key) (payload : Bytes) (access : Access) : PyM (Axis F σ) Unit := do
  let previous ← readPrevious A key payload.length access
  writeSdo A key payload
  let a ← Exec.get
  -- CMMT-specific save command; no PDO tick is needed in PRE-OP.
  Exec.when (a.hasStore = true ∧ key = Key.parameterSaveCommand ∧ payload = [0x01]) do
    (selectedSave A m).handle fun e => do
      restorePrevious A key previous
      Exec.raise e
    writeRole A Key.parameterSaveStatus 0
    writeRole A Key.parameterSaveReturnCode 0
    writeRole A Key.parameterSaveReturnValue 1

/-! `_dispatch` -/

def innerRead (key : Key) : PyM (Axis F σ) Reply :=
  match definition key with
  | none => Exec.raise (keyError "")
  | some entry => do
    Exec.require (entry.access ≠ .wo) (valueError "Write-only object")
    let raw ← readSdo A key entry.dataType.size
    return .object (hexText raw)

def innerWrite (key : Key) (data : Option String) : PyM (Axis F σ) Reply :=
  match definition key with
  | none => Exec.raise (keyError "")
  | some entry =>
    match data with
    | none => Exec.raise (keyError "data")
    | some text =>
      match fromHex text with
      | none => Exec.raise (valueError "non-hexadecimal number found in fromhex() arg")
      | some payload => do
        Exec.require (payload.length = entry.dataType.size) (valueError "SDO length mismatch")
        describedWrite A m key payload entry.access
        return .done

/-- `dt` of the next cycle. -/
def elapsed (a : Axis F σ) : F :=
  match a.lastCycle with
  | none => PyFloat.ofRat (1 / 100)
  | some last => m.monotonic - last

def innerCycle (payload : Bytes) : PyM (Axis F σ) Bytes := do
  Exec.require (payload.length = rxSize) (valueError "RxPDO length mismatch")
  let a ← Exec.get
  let dt := a.elapsed m
  Exec.require (¬ PyFloat.ofRat (1 / 10) < dt)
    ⟨.runtimeError, "PDO gap exceeds 100 ms; restart the test session"⟩
  Exec.modify fun a => { a with lastCycle := some m.monotonic }
  applyOutputs A payload
  step A dt
  let result ← readInputs A
  Exec.modify fun a => { a with cycles := a.cycles + 1 }
  return result

def innerIdle : PyM (Axis F σ) Bytes := do
  Exec.modify forgetCycle
  readInputs A

/-! `dispatch` -/

def detect (code : Code) (detail : String) (restart : Bool := false) (a : Axis F σ) : Axis F σ :=
  a.setGuard (a.faultState.detect m.time code detail restart)

def prepare (payload : Bytes) : PyM (Axis F σ) (Option Bytes × Bool) :=
  (AxisFault.prepare m.time payload).zoom faultState fun a g => a.setGuard g

/-- The model may still be enabled internally after a rejected PDO.  It is disabled before the
reset is pulsed; old motion is never stepped. -/
def resetStep (frame : Bytes) : PyM (Axis F σ) Unit := do
  Exec.modify forgetCycle
  let a ← Exec.get
  match a.faultState.fault with
  | none => Exec.raise (AxisFault.noneHasNo "value")
  | some d =>
    Exec.when (d.code = .axisAdapterFault) do
      applyOutputs A (withControlword [0x00, 0x00] frame)
      step A (PyFloat.ofRat (2 / 1000))

def acceptOutput (output : Bytes) (resetting : Bool) : PyM (Axis F σ) Unit := fun a =>
  match a.faultState.accept m.time output resetting with
  | .ok g => (.ok (), a.setGuard g)
  | .error e =>
    if e.isValueError || e.isTypeError || e.isKeyError then
      (.ok (), (a.detect m .axisModelOutputInvalid e.message true).forgetCycle)
    else (.error e, a)

/-- How far the body of the fault boundary came: an answer of the guard returned at once, or
the model's result, which is returned only while no fault is latched. -/
inductive Progress
  | answered (reply : Reply)
  | result (reply : Reply)

def held : PyM (Axis F σ) Progress := do
  Exec.modify forgetCycle
  let a ← Exec.get
  return .answered (.guard a.faultState.response none)

/-- A frame the guard lets pass. -/
def forwarded (frame : Bytes) (resetting : Bool) : PyM (Axis F σ) Progress := do
  Exec.when resetting (resetStep A frame)
  let result ← innerCycle A m frame
  let a ← Exec.get
  acceptOutput m result resetting
  return .result (.output (hexText result) (some a.cycles))

def frameBody (payload : Bytes) : PyM (Axis F σ) Progress := do
  Exec.require (payload.length = rxSize) (deviceRejected "RxPDO length mismatch")
  let (frame, resetting) ← prepare m payload
  match frame with
  | none => held
  | some frame => forwarded A m frame resetting

def cycleBody (data : Option String) : PyM (Axis F σ) Progress :=
  match data with
  | none => Exec.raise (keyError "data")
  | some text =>
    match fromHex text with
    | none => Exec.raise (valueError "non-hexadecimal number found in fromhex() arg")
    | some payload => frameBody A m payload

def polled : PyM (Axis F σ) Progress := do
  let result ← innerIdle A
  acceptOutput m result false
  return .result (.output (hexText result) none)

def idleBody : PyM (Axis F σ) Progress := do
  let a ← Exec.get
  if a.faultState.phase ≠ .normal then held else polled A m

/-- The handlers around the body: a rejection is recoverable, anything else needs a restart. -/
def containFault (e : Exc) (a : Axis F σ) : Axis F σ :=
  if e.isDeviceRejected then (a.detect m .axisAdapterFault e.message).forgetCycle
  else (a.detect m .axisModelExecutionFailed e.message true).forgetCycle

/-- The end of `dispatch`; `result` is unbound when the body raised. -/
def finish (result : Option Reply) : PyM (Axis F σ) Reply := fun a =>
  if a.faultState.phase = .normal ∧ a.faultState.fault = none then
    match result with
    | some reply => (.ok reply, a)
    | none => (.error ⟨.unboundLocalError, "cannot access local variable 'result'"⟩, a)
  else (.ok (.guard a.faultState.response (some a.cycles)), a)

def processData (body : PyM (Axis F σ) Progress) : PyM (Axis F σ) Reply := fun a =>
  match body a with
  | (.ok (.answered reply), a') => (.ok reply, a')
  | (.ok (.result reply), a') => finish (some reply) a'
  | (.error e, a') => finish none (a'.containFault m e)

def accessFailed (e : Exc) (message : String) : PyM (Axis F σ) Reply := do
  Exec.modify (detect m .axisModelExecutionFailed e.message true)
  return .sdoAbort 0x08000000 message

/-- The boundary around SDO access: rejections are the caller's, and so is a failed save;
anything else needs a restart. -/
def access (saveCommand : Bool) (inner : PyM (Axis F σ) Reply) : PyM (Axis F σ) Reply :=
  inner.handle fun e =>
    if e.isOSError then
      if saveCommand then Exec.raise e
      else accessFailed m e "Model access failed; manual restart required"
    else if e.isDeviceRejected || e.isKeyError || e.isValueError then Exec.raise e
    else accessFailed m e "Model execution failed; manual restart required"

def restartAbort : Reply := .sdoAbort 0x08000022 "Model requires manual Docker restart"

def read (key : Key) : PyM (Axis F σ) Reply := do
  let a ← Exec.get
  if key = Key.statusword ∧ a.faultState.phase ≠ .normal then
    pure (.object (String.ofList (a.faultState.response.data.toList.take 4)))
  else if a.faultState.restartRequired then pure restartAbort
  else access m false (innerRead A key)

def write (key : Key) (data : Option String) : PyM (Axis F σ) Reply := do
  let a ← Exec.get
  if a.faultState.restartRequired then pure restartAbort
  else access m (key = Key.parameterSaveCommand) (innerWrite A m key data)

def dispatch (request : Request) : PyM (Axis F σ) Reply := do
  Exec.modify fun a => { a with calls := [] }
  match request with
  | .cycle data => processData m (cycleBody A m data)
  | .idle => processData m (idleBody A m)
  | .read index subindex => read A m (index, subindex)
  | .write index subindex data => write A m (index, subindex) data
  | .describe => pure .contract
  | .other op => access m false (Exec.raise (valueError ("Unknown operation: " ++ op)))

/-- An axis whose guard holds `initial`. -/
def start (slaveIndex : Nat) (adapter : σ) (initial : Bytes) (hasStore : Bool) : Axis F σ where
  adapter := adapter
  faultState := { axis := slaveIndex, last := initial }
  hasStore := hasStore

/-- `Model.__init__`: the guard holds the adapter's first inputs. -/
def init (slaveIndex : Nat) (adapter : σ) (hasStore : Bool) : Except Exc (Axis F σ) :=
  match A.readInputs adapter with
  | (.ok initial, adapter) => .ok (start slaveIndex adapter initial hasStore)
  | (.error e, _) => .error e

end Axis

end EthercatSimulator.Runtime
