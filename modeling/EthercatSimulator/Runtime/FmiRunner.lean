import EthercatSimulator.Adapter.Errors
import EthercatSimulator.Base.Dict
import EthercatSimulator.Base.Float

/-! The FMI 3 co-simulation runner for synchronous, scalar, fixed-step models.  What the native
side does is a parameter: any of its calls may raise, or report anything. -/

namespace EthercatSimulator.Runtime.FmiRunner

open Base

inductive VariableType
  | float32 | float64
  | int8 | int16 | int32 | int64
  | uint8 | uint16 | uint32 | uint64
  | boolean | string | binary | enumeration | clock
  deriving DecidableEq

/-- Whether the integer type is signed, and its bits. -/
def VariableType.integer : VariableType → Option (Bool × Nat)
  | .int8 => some (true, 8)
  | .int16 => some (true, 16)
  | .int32 => some (true, 32)
  | .int64 => some (true, 64)
  | .uint8 => some (false, 8)
  | .uint16 => some (false, 16)
  | .uint32 => some (false, 32)
  | .uint64 => some (false, 64)
  | _ => none

inductive Causality
  | parameter | calculatedParameter | structuralParameter | input | output | local | independent
  deriving DecidableEq

structure Variable where
  name : String
  type : VariableType
  causality : Causality
  valueReference : Nat
  dimensions : List Nat

structure ModelDescription where
  fmiVersion : String
  coSimulation : Bool
  modelVariables : List Variable

inductive Value (F : Type)
  | bool (b : Bool)
  | int (n : Int)
  | float (x : F)
  | text (s : String)
  | bytes (b : List UInt8)

/-- `isinstance(value, Integral)`, which holds of the Booleans too. -/
def Value.integral {F : Type} : Value F → Option Int
  | .bool b => some b.toNat
  | .int n => some n
  | _ => none

/-- What `doStep` returns, less the time it reached. -/
structure StepReport where
  event : Bool
  terminate : Bool
  early : Bool

def StepReport.unsupported (report : StepReport) : Bool := report.event || report.terminate || report.early

/-- The library, the FMU and the folder it is extracted to. -/
structure Native (F σ : Type) where
  openFolder : PyM σ Unit
  readModelDescription : PyM σ ModelDescription
  extract : PyM σ Unit
  load : PyM σ Unit
  instantiate : PyM σ Unit
  enterInitializationMode : PyM σ Unit
  exitInitializationMode : PyM σ Unit
  /-- The types the binding has a setter and a getter for. -/
  bound : VariableType → Bool
  set : VariableType → Nat → Value F → PyM σ Unit
  get : VariableType → Nat → PyM σ (List (Value F))
  doStep : F → F → PyM σ StepReport
  component : σ → Bool
  terminate : PyM σ Unit
  freeInstance : PyM σ Unit
  cleanup : PyM σ Unit

/-- A call the FMU has had, with its outcome. -/
inductive Call (F : Type)
  | set (outcome : Except Exc Unit)
  | get (outcome : Except Exc (List (Value F)))
  | doStep (dt : F) (outcome : Except Exc StepReport)
  | terminate (outcome : Except Exc Unit)
  | freeInstance (outcome : Except Exc Unit)

/-- `Fmi3Runner` -/
structure Runner (F σ : Type) where
  native : σ
  /-- `self.variables` -/
  variableByName : List (String × Variable) := []
  /-- `self._fmu is not None` -/
  fmu : Bool := false
  initialized : Bool := false
  failed : Bool := false
  time : F
  calls : List (Call F) := []

def runtimeError (message : String) : Exc := ⟨.runtimeError, message⟩
def valueError (message : String) : Exc := ⟨.valueError, message⟩

def closedOrFailed : Exc := runtimeError "FMU is closed or failed; create a new instance"

def attributeError : Exc := ⟨.attributeError, ""⟩

variable {F σ : Type}

def onNative {α : Type} (x : PyM σ α) : PyM (Runner F σ) α :=
  x.zoom (·.native) fun r native => { r with native }

/-- A call of the FMU. -/
def calling {α : Type} (call : Except Exc α → Call F) (x : PyM σ α) : PyM (Runner F σ) α := do
  let outcome ← (onNative x).attempt
  Exec.modify fun r => { r with calls := r.calls ++ [call outcome] }
  Exec.ofExcept outcome

/-- `except Exception: self.failed = True; raise` -/
def latching {α : Type} (x : PyM (Runner F σ) α) : PyM (Runner F σ) α := x.handle fun e => do
  Exec.modify fun r => { r with failed := true }
  Exec.raise e

/-- `_check` -/
def check : PyM (Runner F σ) Unit := do
  let r ← Exec.get
  Exec.require (r.initialized ∧ ¬ r.failed) closedOrFailed

def variableOf (name : String) : PyM (Runner F σ) Variable := do
  let r ← Exec.get
  match r.variableByName.lookup name with
  | some v => return v
  | none => Exec.raise ⟨.keyError, "'" ++ name ++ "'"⟩

/-- The least and the greatest value of an integer type. -/
def range : Bool × Nat → Int × Int
  | (true, bits) => (-(2 ^ (bits - 1)), 2 ^ (bits - 1) - 1)
  | (false, bits) => (0, 2 ^ bits - 1)

def inRange (format : Bool × Nat) (value : Value F) : Bool :=
  match value.integral with
  | some n => (range format).1 ≤ n ∧ n ≤ (range format).2
  | none => false

def isBool : Value F → Bool
  | .bool _ => true
  | _ => false

variable [PyFloat F]

/-- `math.isfinite(x)` -/
def isFinite (x : F) : Bool := (PyFloat.toInt x).toOption.isSome

def isNonfinite : Value F → Bool
  | .float x => !isFinite x
  | _ => false

/-- What `set` refuses before it calls the FMU. -/
def validate (v : Variable) (name : String) (value : Value F) : Except Exc Unit := do
  if ¬ v.causality ∈ [.input, .parameter] then throw (valueError ("Not writable: " ++ name))
  if isNonfinite value then throw (valueError ("Nonfinite FMU value: " ++ name))
  match v.type.integer with
  | some format => if ¬ inRange format value then throw (valueError ("FMU integer out of range: " ++ name))
  | none => pure ()
  if v.type = .boolean ∧ ¬ isBool value then throw (valueError ("FMU Boolean required: " ++ name))

variable (N : Native F σ)

/-- `getattr(self._fmu, ...)` -/
def bound (type : VariableType) : PyM (Runner F σ) Unit := do
  let r ← Exec.get
  Exec.require (r.fmu ∧ N.bound type) attributeError

def set (name : String) (value : Value F) : PyM (Runner F σ) Unit := do
  check
  let v ← variableOf name
  Exec.ofExcept (validate v name value)
  latching do
    bound N v.type
    calling .set (N.set v.type v.valueReference value)

def get (name : String) : PyM (Runner F σ) (Value F) := do
  check
  let v ← variableOf name
  latching do
    bound N v.type
    let values ← calling .get (N.get v.type v.valueReference)
    match values with
    | value :: _ => return value
    | [] => Exec.raise ⟨.indexError, "list index out of range"⟩

def unsupportedReport : Exc := runtimeError "FMU requested unsupported event/termination/early return"

def step (dt : F) : PyM (Runner F σ) Unit := do
  check
  Exec.require (isFinite dt ∧ ¬ dt ≤ 0) (valueError "FMU step must be finite and positive")
  latching do
    let r ← Exec.get
    Exec.require r.fmu attributeError
    let report ← calling (.doStep dt) (N.doStep r.time dt)
    Exec.require (¬ report.unsupported) unsupportedReport
    Exec.modify fun r => { r with time := r.time + dt }

/-- What `close` does with the FMU it has taken. -/
def release : PyM (Runner F σ) Unit := do
  let r ← Exec.get
  (Exec.when (r.initialized ∧ ¬ r.failed) (calling .terminate N.terminate)).ensuring do
    let r ← Exec.get
    Exec.when (N.component r.native) (calling .freeInstance N.freeInstance)

def close : PyM (Runner F σ) Unit := do
  let r ← Exec.get
  Exec.modify fun r => { r with fmu := false }
  (Exec.when r.fmu (release N)).ensuring do
    Exec.modify fun r => { r with initialized := false }
    onNative N.cleanup

/-! `__init__` -/

abbrev Signature := List (String × VariableType × Causality)

def namedVariables (md : ModelDescription) : List (String × Variable) :=
  md.modelVariables.foldl (fun variableByName v => Dict.set v.name v variableByName) []

def agrees (variableByName : List (String × Variable)) : String × VariableType × Causality → Bool
  | (name, type, causality) =>
    match variableByName.lookup name with
    | some v => v.type = type ∧ v.causality = causality ∧ v.dimensions = []
    | none => false

def checkContract (variableByName : List (String × Variable)) (signature : Signature) : Except Exc Unit :=
  match signature.find? fun entry => !agrees variableByName entry with
  | some (name, _) => .error (valueError ("FMU variable contract mismatch: " ++ name))
  | none => .ok ()

def openFmu (signature : Signature) : PyM (Runner F σ) Unit := do
  let md ← onNative N.readModelDescription
  Exec.require (md.fmiVersion = "3.0" ∧ md.coSimulation) (valueError "Requires FMI 3.0 Co-Simulation")
  Exec.modify fun r => { r with variableByName := namedVariables md }
  Exec.ofExcept (checkContract (namedVariables md) signature)
  onNative N.extract
  onNative N.load
  Exec.modify fun r => { r with fmu := true }
  onNative N.instantiate
  onNative N.enterInitializationMode
  onNative N.exitInitializationMode
  Exec.modify fun r => { r with initialized := true }

def construct (signature : Signature) : PyM (Runner F σ) Unit := do
  onNative N.openFolder
  (openFmu N signature).handle fun e => do
    close N
    Exec.raise e

/-! A life. -/

inductive Op (F : Type)
  | set (name : String) (value : Value F)
  | get (name : String)
  | step (dt : F)
  | close

def Op.exec : Op F → PyM (Runner F σ) (Option (Value F))
  | .set name value => (fun _ => none) <$> FmiRunner.set N name value
  | .get name => some <$> FmiRunner.get N name
  | .step dt => (fun _ => none) <$> FmiRunner.step N dt
  | .close => (fun _ => none) <$> FmiRunner.close N

def run (ops : List (Op F)) (r : Runner F σ) : Runner F σ := ops.foldl (fun r op => (op.exec N r).2) r

/-- The runner after the operations, or as a constructor that raised has left it. -/
def life (signature : Signature) (native : σ) (ops : List (Op F)) : Runner F σ :=
  match construct N signature { native, time := 0 } with
  | (.ok (), r) => run N ops r
  | (.error _, r) => r

end EthercatSimulator.Runtime.FmiRunner
