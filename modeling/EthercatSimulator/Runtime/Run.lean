import EthercatSimulator.Base.Run
import EthercatSimulator.Runtime.AxisLaws

/-! Runs of an axis over any sequence of requests, and the restart latch. -/

namespace EthercatSimulator.Runtime

open Base Profile Diagnostics

/-- The requests of a run, each with the moment it is answered at. -/
abbrev Trace (F : Type) := Nat → Moment F × Request

namespace Axis

variable {F σ : Type} [PyFloat F] (A : DriveAdapter F σ)

def next (a : Axis F σ) (input : Moment F × Request) : Axis F σ :=
  (dispatch A input.1 input.2 a).2

/-- The axis before request `n`. -/
def states (a : Axis F σ) (trace : Trace F) : Nat → Axis F σ := runOf (next A) a trace

/-- What request `n` is answered. -/
def replies (a : Axis F σ) (trace : Trace F) (n : Nat) : Except Exc Reply :=
  (dispatch A (trace n).1 (trace n).2 (states A a trace n)).1

variable {A} {a : Axis F σ} {trace : Trace F}

theorem states_succ (n : Nat) : states A a trace (n + 1) =
    (dispatch A (trace n).1 (trace n).2 (states A a trace n)).2 := rfl

omit [PyFloat F] in
theorem start_valid (slaveIndex : Nat) (adapter : σ) (initial : Bytes) (hasStore : Bool) :
    (start slaveIndex adapter initial hasStore : Axis F σ).faultState.Valid :=
  ⟨by simp [start], by simp [start]⟩

theorem dispatch_valid (m : Moment F) (request : Request) (a : Axis F σ) (hv : a.faultState.Valid) :
    (dispatch A m request a).2.faultState.Valid := by
  cases hreq : request.isProcessData with
  | true => exact (dispatch_processed hreq a hv).valid
  | false =>
    have h := (dispatch_sdo (A := A) (m := m) hreq a).outcome
    generalize (dispatch A m request a).2.faultState = g at h
    cases h with
    | kept => exact hv
    | failed => exact AxisFault.detect_valid ..

theorem states_valid (hv : a.faultState.Valid) (n : Nat) :
    (states A a trace n).faultState.Valid :=
  runOf.invariant (next A) a trace (fun b => b.faultState.Valid) hv
    (fun b input => dispatch_valid input.1 input.2 b) n

/-- A request that finds the latch set changes nothing the guard publishes. -/
theorem dispatch_latched (m : Moment F) (request : Request) {a : Axis F σ} (hv : a.faultState.Valid)
    (hr : a.faultState.restartRequired = true) :
    (dispatch A m request a).2.calls = [] ∧
      (dispatch A m request a).2.faultState.restartRequired = true ∧
      (dispatch A m request a).2.faultState.last = a.faultState.last := by
  cases hreq : request.isProcessData with
  | true =>
    have h := dispatch_processed (A := A) (m := m) hreq a hv
    refine ⟨h.allowed.restart hr, ?_⟩
    have hout := h.outcome
    generalize (dispatch A m request a).2.faultState = g at hout
    cases hout with
    | held _ kept => exact ⟨kept.restartRequired.trans hr, kept.last⟩
    | faulted g₁ kept => simp [kept.restartRequired, hr, kept.last]
    | executed _ _ _ _ _ _ _ _ _ gate =>
      rw [gate.not_restart hv] at hr
      cases hr
    | polled _ _ _ normal =>
      rw [hv.phase_of_restart hr] at normal
      cases normal
  | false =>
    have h := dispatch_sdo (A := A) (m := m) hreq a
    refine ⟨h.restart hr, ?_⟩
    have hout := h.outcome
    generalize (dispatch A m request a).2.faultState = g at hout
    cases hout with
    | kept => exact ⟨hr, rfl⟩
    | failed unlatched =>
      rw [unlatched] at hr
      cases hr

theorem states_latched (hv : a.faultState.Valid) {i : Nat}
    (hr : (states A a trace i).faultState.restartRequired = true) {n : Nat} (hn : i ≤ n) :
    (states A a trace n).faultState.restartRequired = true ∧
      (states A a trace n).faultState.last = (states A a trace i).faultState.last := by
  refine (runOf.from_of (next A) a trace (fun b => b.faultState.Valid ∧
    b.faultState.restartRequired = true ∧
      b.faultState.last = (states A a trace i).faultState.last)
    ⟨states_valid hv i, hr, rfl⟩ ?_ hn).2
  intro n _ ⟨hvn, hrn, hln⟩
  have hnext := dispatch_latched (A := A) (trace n).1 (trace n).2 hvn hrn
  exact ⟨dispatch_valid _ _ _ hvn, hnext.2.1, hnext.2.2.trans hln⟩

end Axis

end EthercatSimulator.Runtime
