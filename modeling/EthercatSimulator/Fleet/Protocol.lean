import EthercatSimulator.Fleet.HostLaws
import EthercatSimulator.Fleet.WireForms
import EthercatSimulator.Runtime.Containment
import EthercatSimulator.Slave.SdoGateway

/-! The messages between the slave process and the model host, as JSON. -/

namespace EthercatSimulator.Fleet

open Base Profile Diagnostics Storage Ipc EthercatSimulator.Runtime

def codeText : Code → String
  | .axisDriveFault => "AXIS_DRIVE_FAULT"
  | .axisDriveWarning => "AXIS_DRIVE_WARNING"
  | .axisAdapterFault => "AXIS_ADAPTER_FAULT"
  | .axisModelExecutionFailed => "AXIS_MODEL_EXECUTION_FAILED"
  | .axisModelOutputInvalid => "AXIS_MODEL_OUTPUT_INVALID"
  | .parameterSaveFailed => "PARAMETER_SAVE_FAILED"

def levelText : Level → String
  | .alarm => "alarm"
  | .fault => "fault"

def timeJson (t : Option Time) : Json := t.elim .null .float

def contextJson (c : Context) : Json :=
  .object ([("last_valid_at", timeJson c.lastValidAt), ("feedback_valid", .bool c.feedbackValid),
    ("restart_required", .bool c.restartRequired)] ++
    c.executionFailure.elim [] fun detail => [("execution_failure", .string detail)])

/-- `type(value) is int` -/
def int? : Json → Option Int
  | .int n => some n
  | _ => none

/-- The request with this `op`; `none` where an index is no natural number. -/
def requestOf (op : String) (json : Json) : Option Request :=
  let data := (json.get? "data").bind Json.string?
  let natural (key : String) := ((json.get? key).bind int?).bind Int.toNat?
  if op = "cycle" then some (.cycle data)
  else if op = "idle" then some .idle
  else if op = "describe" then some .describe
  else if op = "read" then do return .read (← natural "index") (← natural "subindex")
  else if op = "write" then do return .write (← natural "index") (← natural "subindex") data
  else some (.other op)

/-- The members of a request, as the host reads them. -/
def messageOf (json : Json) : Option Message := do
  let op ← (json.get? "op").bind Json.string?
  return ⟨(json.get? "slave_index").bind int?, ← requestOf op json⟩

/-- `message["slave_index"] = i` -/
def addressed (i : Nat) : Json → Json
  | .object members => .object (members ++ [("slave_index", .int i)])
  | json => json

/-- What the JSON of a reply takes from elsewhere: the identifiers of diagnostics, and the contracts. -/
structure Presentation where
  uuid : Nat → String
  contract : Json
  contracts : Json

namespace Presentation

variable (p : Presentation)

/-- `Diagnostic.value` -/
def diagnostic (d : Diagnostic) : Json :=
  .object [("diagnostic_id", .string (p.uuid d.diagnosticId)),
    ("definition", .object [("code", .string (codeText d.code)), ("level", .string (levelText d.level)),
      ("title", .string (codeText d.code)), ("description", .string d.detail), ("latching", .bool d.latching)]),
    ("source", .object [("type", .string "axis"), ("index", .int d.axis)]),
    ("history", .object [("occurred_at", .float d.occurredAt), ("acknowledged_at", timeJson d.acknowledgedAt),
      ("resolved_at", timeJson d.resolvedAt)]),
    ("detail", .string d.detail),
    ("context", d.context.elim (.object []) contextJson)]

def cycles (n : Option Nat) : List (String × Json) := n.elim [] fun n => [("cycles", .int n)]

def abort (code : Nat) (message : String) : Json :=
  .object [("error", .object [("kind", .string "sdo_abort"), ("code", .int code), ("message", .string message)])]

def reply : Reply → Json
  | .output data n => .object (("data", .string data) :: cycles n)
  | .guard response n =>
    .object ([("data", .string response.data), ("fault", response.fault.elim .null p.diagnostic),
      ("restart_required", .bool response.restartRequired), ("feedback_valid", .bool response.feedbackValid),
      ("last_valid_at", timeJson response.lastValidAt)] ++ cycles n)
  | .object data => .object [("data", .string data)]
  | .done => .object []
  | .sdoAbort code message => abort code message
  | .contract => p.contract

def hostReply : HostReply → Json
  | .contracts => p.contracts
  | .axis reply => p.reply reply
  | .abort code message => abort code message

end Presentation

/-! What an axis of a host is. -/

variable {F σ ρ : Type} [PyFloat F]

/-- Every drive of the registry keeps its objects in one dictionary. -/
def registryOd (fmu : Artifact F ρ) : (type : ModelType) → OdDrive (registry fmu type)
  | .fKrCmmt => fKrOd F
  | .copleyDriveSim => copleyOd fmu.runner

theorem registry_readable {fmu : Artifact F ρ} {type : ModelType} {format : Format} {device : Device}
    {a : Axis F (AdapterState F ρ type)} (ha : (registry fmu type).Reachable format device a)
    (hfault : a.faultState.fault = none) : Readable ((registryOd fmu type).od a.adapter) := by
  cases type with
  | fKrCmmt => exact fKr_readable ha hfault
  | copleyDriveSim => exact copley_readable ha hfault

theorem length_encodePdoObjects {od : Od F} {objects : List PdoObject} {output : Bytes}
    (h : encodePdoObjects od objects = .ok output) : output.length = (objects.map (·.byteLength)).sum := by
  induction objects generalizing output with
  | nil =>
    cases h
    rfl
  | cons o rest ih =>
    unfold encodePdoObjects at h
    cases hraw : encodePdoObject od o with
    | error e =>
      rw [hraw] at h
      cases h
    | ok raw =>
      cases htail : encodePdoObjects od rest with
      | error e =>
        rw [hraw, htail] at h
        cases h
      | ok tail =>
        rw [hraw, htail] at h
        cases h
        rw [List.length_append, ih htail, List.map_cons, List.sum_cons]
        congr 1
        cases o with
        | padding n =>
          cases hraw
          exact List.length_replicate
        | mapped key t default => exact length_of_encode hraw

/-- What the guard of an axis holds is as long as an input image. -/
theorem reachable_last {D : Drive F σ} (h : OdDrive D) {format : Format} {device : Device} {a : Axis F σ}
    (ha : D.Reachable format device a) : a.faultState.last.length = txSize := by
  induction ha with
  | opened slaveIndex _ run => exact length_encodePdoObjects (opened_encodable h run).2
  | restored slaveIndex _ run _ => exact length_encodePdoObjects (opened_encodable h run).2
  | @dispatched a m request ha ih =>
    rcases Axis.dispatch_last D.adapter m request (reachable_shown h ha).1 with hlast | ⟨hlength, _⟩
    · exact (congrArg List.length hlast).trans ih
    · exact hlength.trans ih

namespace HostAxis

variable (fmus : Device → Artifact F ρ) (format : Format) (model : HostAxis F ρ)

def Reachable : Prop := (registry (fmus model.device) model.device.modelType).Reachable format model.device model.axis

def od : Od F := (registryOd (fmus model.device) model.device.modelType).od model.axis.adapter

end HostAxis

end EthercatSimulator.Fleet
