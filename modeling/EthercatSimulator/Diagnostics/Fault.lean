import EthercatSimulator.Adapter.Errors
import EthercatSimulator.Base.Bytes
import Mathlib.Data.Rat.Defs

/-! Axis-local diagnostics and the guard in front of the fixed PDO.  Recovery is explicit;
unexpected execution faults latch. -/

namespace EthercatSimulator.Diagnostics

open Base

/-- A reading of `time.time()`. -/
abbrev Time := ℚ

inductive Code
  | axisDriveFault
  | axisDriveWarning
  | axisAdapterFault
  | axisModelExecutionFailed
  | axisModelOutputInvalid
  | parameterSaveFailed
  deriving DecidableEq

inductive Level
  | alarm | fault
  deriving DecidableEq

inductive Action
  | detected | escalated | acknowledged | resolved
  deriving DecidableEq

structure Context where
  lastValidAt : Option Time
  feedbackValid : Bool
  restartRequired : Bool
  executionFailure : Option String := none
  deriving DecidableEq

def Context.escalate (c : Context) (detail : String) : Context :=
  { c with executionFailure := some detail, restartRequired := true, feedbackValid := false }

structure Diagnostic where
  diagnosticId : Nat
  code : Code
  level : Level
  latching : Bool
  axis : Nat
  detail : String
  occurredAt : Time
  acknowledgedAt : Option Time := none
  resolvedAt : Option Time := none
  context : Option Context := none
  deriving DecidableEq

/-- One printed line: what happened, and the diagnostic as it then was. -/
structure LogLine where
  action : Action
  diagnostic : Diagnostic
  deriving DecidableEq

inductive Phase
  | normal | fault | verifyReset | shutdown | switchOn | enable
  deriving DecidableEq

/-- Guards the fixed CMMT PDO.  `issued` feeds the diagnostic ids, `printed` is the log, and
`detections` counts the calls of `detect`; the source keeps none of the three. -/
structure AxisFault where
  axis : Nat
  last : Bytes
  fault : Option Diagnostic := none
  warning : Option Diagnostic := none
  restartRequired : Bool := false
  phase : Phase := .normal
  previousCw : Nat := 0
  lastValidAt : Option Time := none
  feedbackValid : Bool := true
  issued : Nat := 0
  printed : List LogLine := []
  detections : Nat := 0
  deriving DecidableEq

/-- `bool(word & mask)` -/
def hasBits (word mask : Nat) : Bool := word &&& mask ≠ 0

/-- `word & ~mask` -/
def clearBits (word mask : Nat) : Nat := word ^^^ (word &&& mask)

/-- `int.from_bytes(data[:2], 'little')` -/
def firstWord (data : Bytes) : Nat := leNat (data.take 2)

/-- The payload with its controlword replaced. -/
def withControlword (word : Bytes) (payload : Bytes) : Bytes := word ++ payload.drop 2

namespace Diagnostic

def acknowledge (d : Diagnostic) (now : Time) : Diagnostic :=
  if d.acknowledgedAt = none then { d with acknowledgedAt := some now } else d

def resolve (d : Diagnostic) (now : Time) : Diagnostic :=
  if d.resolvedAt = none then { d with resolvedAt := some now } else d

/-- Keeps the original occurrence and notes the additional blocking cause. -/
def escalate (d : Diagnostic) (detail : String) : Diagnostic :=
  { d with context := d.context.map (·.escalate detail) }

end Diagnostic

namespace AxisFault

def print (g : AxisFault) (action : Action) (d : Diagnostic) : AxisFault :=
  { g with printed := g.printed ++ [⟨action, d⟩] }

/-- A first cause creates the diagnostic; a later one that needs a restart is noted in it. -/
def latch (g : AxisFault) (now : Time) (code : Code) (detail : String) (restart : Bool) : AxisFault :=
  match g.fault with
  | none =>
    let d : Diagnostic := {
      diagnosticId := g.issued, code, level := .fault, latching := true, axis := g.axis, detail
      occurredAt := now
      context := some {
        lastValidAt := g.lastValidAt
        feedbackValid := code = Code.axisDriveFault ∧ ¬ restart
        restartRequired := restart } }
    ({ g with fault := some d, issued := g.issued + 1 } : AxisFault).print .detected d
  | some d =>
    if restart && !g.restartRequired then
      let d := d.escalate detail
      ({ g with fault := some d } : AxisFault).print .escalated d
    else g

def detect (g : AxisFault) (now : Time) (code : Code) (detail : String) (restart : Bool := false) :
    AxisFault :=
  let feedbackValid := if code ≠ Code.axisDriveFault ∨ restart then false else g.feedbackValid
  let g := { g with feedbackValid, detections := g.detections + 1 }
  let g := g.latch now code detail restart
  { g with restartRequired := g.restartRequired || restart, phase := .fault }

/-- `self.fault.acknowledge()` -/
def acknowledgeFault (g : AxisFault) (d : Diagnostic) (now : Time) : AxisFault :=
  let d' := d.acknowledge now
  let g := { g with fault := some d' }
  if d.acknowledgedAt = none then g.print .acknowledged d' else g

/-- `self.fault.resolve(); self.fault = None` -/
def resolveFault (g : AxisFault) (d : Diagnostic) (now : Time) : AxisFault :=
  let g := { g with fault := none }
  if d.resolvedAt = none then g.print .resolved (d.resolve now) else g

def noneHasNo (field : String) : Exc :=
  ⟨.attributeError, "'NoneType' object has no attribute '" ++ field ++ "'"⟩

/-- What of a frame reaches the model: `none` blocks it, and the flag marks a reset step. -/
def prepare (now : Time) (payload : Bytes) : PyM AxisFault (Option Bytes × Bool) := fun g =>
  let cw := firstWord payload
  let reset := hasBits cw 0x80 && !hasBits g.previousCw 0x80
  let g := { g with previousCw := cw }
  match g.phase with
  | .normal => (.ok (some payload, false), g)
  | .verifyReset =>
    -- Some FMUs clear Fault while reset is high; verify on reset-low, motion bits disabled.
    if hasBits cw 0x80 then (.ok (none, false), g)
    else (.ok (some (withControlword [0x00, 0x00] payload), true), g)
  | .fault =>
    if g.restartRequired then (.ok (none, false), g)
    else match g.fault with
      | none => (.error (noneHasNo (if reset then "acknowledge" else "value")), g)
      | some d =>
        if reset then
          -- The Enable and new-setpoint bits accompanying Reset are not passed.
          (.ok (some (withControlword [0x80, 0x00] payload), true), g.acknowledgeFault d now)
        else if d.code = .axisDriveFault then
          (.ok (some (withControlword [0x00, 0x00] payload), false), g)
        else (.ok (none, false), g)
  | .shutdown =>
    if cw &&& 0x8f = 6 then (.ok (some payload, false), { g with phase := .switchOn })
    else (.ok (none, false), g)
  | .switchOn =>
    if cw &&& 0x8f = 7 then (.ok (some payload, false), { g with phase := .enable })
    else (.ok (none, false), g)
  | .enable =>
    if cw &&& 0x8f = 15 ∧ ¬ hasBits cw 0x10 then
      match payload[2]? with
      | none => (.error ⟨.indexError, "index out of range"⟩, g)
      | some mode =>
        if mode = 1 then (.ok (some payload, false), { g with phase := .normal })
        else (.ok (none, false), g)
    else (.ok (none, false), g)

/-- The warning follows statusword bit 7. -/
def updateWarning (g : AxisFault) (now : Time) (sw : Nat) : AxisFault :=
  match g.warning with
  | none =>
    if hasBits sw 0x80 then
      let d : Diagnostic := {
        diagnosticId := g.issued, code := .axisDriveWarning, level := .alarm, latching := false
        axis := g.axis, detail := "Model reports warning", occurredAt := now }
      ({ g with warning := some d, issued := g.issued + 1 } : AxisFault).print .detected d
    else g
  | some d =>
    if hasBits sw 0x80 then g
    else
      let g := { g with warning := none }
      if d.resolvedAt = none then g.print .resolved (d.resolve now) else g

/-- The fault follows statusword bit 3, and a reset step that clears it advances the phase. -/
def updateFault (g : AxisFault) (now : Time) (sw : Nat) (resetting : Bool) : AxisFault :=
  if hasBits sw 8 then g.detect now .axisDriveFault "Model reports drive Fault"
  else match g.fault with
    | none => g
    | some d =>
      if resetting then
        if g.phase = .verifyReset then { g.resolveFault d now with phase := .shutdown }
        else { g with phase := .verifyReset }
      else g

def accept (g : AxisFault) (now : Time) (output : Bytes) (resetting : Bool := false) :
    Except Exc AxisFault :=
  if output.length ≠ g.last.length then .error ⟨.valueError, "Invalid model output size"⟩
  else
    let sw := firstWord output
    let g := { g with last := output, lastValidAt := some now, feedbackValid := true }
    .ok ((g.updateFault now sw resetting).updateWarning now sw)

/-- `(statusword & ~0x106f) | 8` -/
def faultWord (sw : Nat) : Nat := clearBits sw 0x106f ||| 8

/-- The bytes `response` publishes. -/
def responseData (g : AxisFault) : Bytes :=
  match g.fault with
  | none => g.last
  | some _ => leBytes 2 (faultWord (firstWord g.last)) ++ g.last.drop 2

structure Response where
  data : String
  fault : Option Diagnostic
  restartRequired : Bool
  feedbackValid : Bool
  lastValidAt : Option Time
  deriving DecidableEq

def response (g : AxisFault) : Response where
  data := hexText g.responseData
  fault := g.fault
  restartRequired := g.restartRequired
  feedbackValid := g.feedbackValid
  lastValidAt := g.lastValidAt

end AxisFault

end EthercatSimulator.Diagnostics
