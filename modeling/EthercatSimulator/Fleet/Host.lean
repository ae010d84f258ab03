import EthercatSimulator.Base.Lines
import EthercatSimulator.Fleet.ModelFleet

/-! The model host: one process that answers the requests to all axes of a fleet on one socket. -/

namespace EthercatSimulator.Fleet

open Base Profile Storage EthercatSimulator.Runtime

variable {F ρ : Type} [PyFloat F]

/-- A model of a running fleet: its device, and the axis around its adapter. -/
structure HostAxis (F ρ : Type) where
  device : Device
  axis : Axis F (AdapterState F ρ device.modelType)

/-- A decoded request.  A `slave_index` that is missing or no integer is `none`. -/
structure Message where
  slaveIndex : Option Int
  request : Request
  deriving DecidableEq

inductive HostReply
  | contracts
  | axis (reply : Reply)
  | abort (code : Nat) (message : String)
  deriving DecidableEq

/-- `op in ('read', 'write')` -/
def isAccess : Request → Bool
  | .read _ _ | .write _ _ _ => true
  | .cycle _ | .idle | .describe | .other _ => false

def indexRequired : Exc := valueError "IPC slave_index is required and must be in range"

def invalidLength : Exc := valueError "Invalid IPC message length"

/-- `MAX_MESSAGE` -/
def maxMessage : Nat := 1024 * 1024

/-- The abort code of what an SDO request raises, unless it is an `OSError`. -/
def abortCode (e : Exc) : Nat :=
  if e.isDeviceRejected then 0x06010000 else if e.isKeyError then 0x06020000 else 0x06090030

/-- The JSON library, with the members of a request read out; a text it writes has no newline. -/
structure HostText where
  loads : Bytes → Except Exc Message
  dumps : HostReply → Bytes
  single : ∀ reply, newline ∉ dumps reply

variable (fmus : Device → Artifact F ρ)

/-- `Model.dispatch` -/
def HostAxis.dispatch (m : Moment F) (request : Request) : PyM (HostAxis F ρ) HostReply := fun h =>
  match Axis.dispatch (registry (fmus h.device) h.device.modelType).adapter m request h.axis with
  | (r, axis) => (r.map .axis, { h with axis })

namespace Host

abbrev Models (F ρ : Type) := List (HostAxis F ρ)

/-- `ModelFleet.dispatch` -/
def dispatch (m : Moment F) (message : Message) : PyM (Models F ρ) HostReply := fun models =>
  if message.request = .describe then (.ok .contracts, models)
  else
    match message.slaveIndex with
    | none => (.error indexRequired, models)
    | some i =>
      if h : 0 ≤ i ∧ i < models.length then
        match (models.get ⟨i.toNat, by omega⟩).dispatch fmus m message.request with
        | (r, model) => (r, models.set i.toNat model)
      else (.error indexRequired, models)

/-- What an SDO request raises is its answer; anything else that is raised ends the host. -/
def abortAccess {σ : Type} (request : Request) (x : PyM σ HostReply) : PyM σ HostReply :=
  if isAccess request then
    x.handle fun e =>
      if e.isDeviceRejected || e.isKeyError || e.isValueError then pure (.abort (abortCode e) e.message)
      else if e.isOSError then pure (.abort 0x08000020 e.message)
      else Exec.raise e
  else x

/-- `dispatch_request` -/
def dispatchRequest (m : Moment F) (message : Message) : PyM (Models F ρ) HostReply :=
  abortAccess message.request (dispatch fmus m message)

/-- `readline(limit)`: up to a newline, the limit or the end. -/
def readLine (limit : Nat) (stream : Bytes) : Bytes × Bytes :=
  (stream.take (min (lineLength stream) limit), stream.drop (min (lineLength stream) limit))

variable (text : HostText)

/-- One turn of the loop: the answer to one line. -/
def answerLine (m : Moment F) (raw : Bytes) : PyM (Models F ρ) Bytes := do
  Exec.require (raw.length ≤ maxMessage ∧ raw.getLast? = some newline) invalidLength
  let message ← Exec.ofExcept (text.loads raw)
  let response ← dispatchRequest fmus m message
  return text.dumps response ++ [newline]

/-- What a session wrote, what ended it unless the client closed the socket, and the models then. -/
structure Served (F ρ : Type) where
  output : Bytes
  failure : Option Exc
  models : Models F ρ

def Served.after (s : Served F ρ) (output : Bytes) : Served F ρ := { s with output := output ++ s.output }

theorem readLine_shorter {stream : Bytes} (hne : stream ≠ []) :
    (readLine (maxMessage + 1) stream).2.length < stream.length := by
  have hpositive := lineLength_pos hne
  have hlength := List.length_pos_iff.mpr hne
  unfold readLine maxMessage
  rw [List.length_drop]
  omega

/-- `serve`, from request number `turn` on; the stream is all that the client sends until it closes. -/
def serve (moments : Nat → Moment F) (turn : Nat) (stream : Bytes) (models : Models F ρ) : Served F ρ :=
  if _hne : stream = [] then ⟨[], none, models⟩
  else
    match answerLine fmus text (moments turn) (readLine (maxMessage + 1) stream).1 models with
    | (.ok response, models) =>
      (serve moments (turn + 1) (readLine (maxMessage + 1) stream).2 models).after response
    | (.error e, models) => ⟨[], some e, models⟩
termination_by stream.length
decreasing_by exact readLine_shorter _hne

end Host

end EthercatSimulator.Fleet
