import EthercatSimulator.Base.Run
import EthercatSimulator.Diagnostics.Fault
import EthercatSimulator.Ipc.Hex
import EthercatSimulator.Ipc.Json

/-! The main loop of the slave process: the futures of the model host are pumped into the input
images before and after each socket read, a frame is routed and answered, and each slave requests
its next cycle. -/

namespace EthercatSimulator.Slave

open Base Diagnostics Ipc
open AxisFault (faultWord)

/-- The state of the EtherCAT state machine of a slave. -/
inductive AlState
  | init | preOp | boot | safeOp | operational
  deriving DecidableEq

/-- A slave with its input image and the copy that its ESC shows.  An image has at least the two
bytes of the statusword. -/
structure SimulatedSlave where
  input : Bytes
  esc : Bytes
  pending : Bool
  txSize : Nat
  rxSize : Nat

/-- What the pump finds at one slave. -/
structure Glimpse where
  future : Future
  state : AlState

/-- What becomes of what was read from the socket: a frame is dropped, or routed and answered. -/
inductive FrameEvent
  | dropped
  | routed (written : Bool)

/-- What the loop finds at one slave after the answer. -/
structure Routine where
  output : Bytes
  state : AlState
  addressed : Bool
  mapped : Bool

/-- Whatever the next step of the loop asks its surroundings for. -/
structure Surroundings where
  failure : String
  glimpse : Glimpse
  frame : FrameEvent
  routine : Routine

/-- The next statement of the loop. -/
inductive Place
  | pump (second : Bool)
  | refresh (second : Bool) (i : Nat)
  | read
  | route
  | routine (i : Nat)
  | ended
  deriving DecidableEq

structure Process where
  hostFailed : Bool
  slaves : List SimulatedSlave
  submitted : List (Nat × Json)
  fleet : Bool
  place : Place

def decode (text : String) (size : Nat) : Except String Bytes :=
  decodeHex "IPC payload length mismatch" "Invalid hex" text size

/-- The input image in a response.  What the JSON library throws has a text of its own. -/
def validated (response : Json) (size : Nat) : Except String Bytes :=
  match response.get? "data" with
  | none => .error "[json.exception]"
  | some data =>
    match data.string? with
    | none => .error "[json.exception.type_error.302]"
    | some text => decode text size

namespace SimulatedSlave

def statusword (s : SimulatedSlave) : Nat := firstWord s.input

/-- The future of a pending request is consumed; the result tells whether the host has failed. -/
def consume (s : SimulatedSlave) (hostFailed : Bool) (future : Future) : Bool × SimulatedSlave :=
  if s.pending then
    match future with
    | .unready => (hostFailed, s)
    | .value response =>
      if hostFailed then (hostFailed, { s with pending := false })
      else match validated response s.txSize with
        | .ok data =>
          (hostFailed, { s with input := data ++ s.input.drop data.length, pending := false })
        | .error _ => (true, { s with pending := false })
    | .exception _ => (true, { s with pending := false })
  else (hostFailed, s)

def project (s : SimulatedSlave) : SimulatedSlave :=
  { s with input := leBytes 2 (faultWord s.statusword) ++ s.input.drop 2 }

def updateInput (s : SimulatedSlave) : SimulatedSlave := { s with esc := s.input }

/-- One slave in the loop of the pump. -/
def refresh (s : SimulatedSlave) (hostFailed : Bool) (glimpse : Glimpse) : Bool × SimulatedSlave :=
  let (hostFailed, s) := s.consume hostFailed glimpse.future
  let s := if hostFailed then s.project else s
  (hostFailed, if glimpse.state = .operational ∨ glimpse.state = .safeOp then s.updateInput else s)

end SimulatedSlave

namespace Process

def start (fleet : Bool) (slaves : List SimulatedSlave) : Process where
  hostFailed := false
  slaves := slaves
  submitted := []
  fleet := fleet
  place := .pump false

variable (p : Process)

def message (i : Nat) (members : List (String × Json)) : Json :=
  .object (members ++ if p.fleet then [("slave_index", .int i)] else [])

/-- `model.submit` -/
def submit (i : Nat) (members : List (String × Json)) : Process :=
  { p with submitted := p.submitted ++ [(i, p.message i members)] }

def setSlave (i : Nat) (s : SimulatedSlave) : Process := { p with slaves := p.slaves.set i s }

/-- One slave after the answer: the next request, unless one is pending. -/
def request (i : Nat) (s : SimulatedSlave) (r : Routine) : Process :=
  if !p.hostFailed && !s.pending && r.state = .operational && r.addressed then
    (p.submit i [("op", .string "cycle"), ("data", .string (hexText (r.output.take s.rxSize)))]).setSlave
      i { s with pending := true }
  else if !p.hostFailed && !s.pending && r.state ≠ .operational then
    (p.submit i [("op", .string "idle")]).setSlave i { s with pending := true }
  else p

/-- One step of the loop. -/
def advance (p : Process) (e : Surroundings) : Process :=
  match p.place with
  | .pump second =>
    { p with hostFailed := p.hostFailed || e.failure ≠ "", place := .refresh second 0 }
  | .refresh second i =>
    match p.slaves[i]? with
    | some s =>
      let (hostFailed, s) := s.refresh p.hostFailed e.glimpse
      { p.setSlave i s with hostFailed := hostFailed, place := .refresh second (i + 1) }
    | none => { p with place := if second then .route else .read }
  | .read => { p with place := .pump true }
  | .route =>
    match e.frame with
    | .dropped => { p with place := .pump false }
    | .routed written => { p with place := if written then .routine 0 else .ended }
  | .routine i =>
    match p.slaves[i]? with
    | some s =>
      if (e.routine.state = .safeOp ∨ e.routine.state = .operational) ∧ !e.routine.mapped then
        { p with place := .ended }
      else { p.request i s e.routine with place := .routine (i + 1) }
    | none => { p with place := .pump false }
  | .ended => p

end Process

end EthercatSimulator.Slave
