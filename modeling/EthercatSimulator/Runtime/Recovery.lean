import EthercatSimulator.Base.Climb
import EthercatSimulator.Runtime.Run
import Mathlib.Tactic.IntervalCases

/-! The way back from a fault: the guard lets the model run again only after a reset, its
verification and a new enable sequence, in this order. -/

namespace EthercatSimulator.Diagnostics

/-- The phases in the order in which a recovery takes them. -/
def Phase.stage : Phase → Nat
  | .fault => 0
  | .verifyReset => 1
  | .shutdown => 2
  | .switchOn => 3
  | .enable => 4
  | .normal => 5

namespace AxisFault.Verdict

variable {g g' : AxisFault} {sw : Nat} {resetting : Bool}

theorem clear_of_quiet (h : g.Verdict sw resetting g') (hquiet : g'.detections = g.detections) :
    hasBits sw 8 = false := by
  cases h with
  | faulted _ _ _ detections => omega
  | unchanged hsw => exact hsw
  | awaits hsw => exact hsw
  | cleared hsw => exact hsw

theorem phase_of_plain (h : g.Verdict sw false g') (hquiet : g'.detections = g.detections) :
    g'.phase = g.phase := by
  cases h with
  | faulted _ _ _ detections => omega
  | unchanged _ _ phase => exact phase
  | awaits _ hr => cases hr
  | cleared _ hr => cases hr

theorem phase_of_reset (h : g.Verdict sw true g') (hquiet : g'.detections = g.detections)
    (hfault : g.fault ≠ none) :
    g'.phase = if g.phase = .verifyReset then .shutdown else .verifyReset := by
  cases h with
  | faulted _ _ _ detections => omega
  | unchanged _ quiet => exact absurd (quiet.resolve_left (by simp)) hfault
  | awaits _ _ _ from_phase phase => rw [if_neg from_phase, phase]
  | cleared _ _ _ from_phase phase => rw [if_pos from_phase, phase]

end AxisFault.Verdict

end EthercatSimulator.Diagnostics

namespace EthercatSimulator.Runtime

open Base Profile Diagnostics

namespace Axis

variable {F σ : Type}

/-- The model took `frame`, stepped and answered `output` in these calls. -/
def Executed (calls : List (Call F)) (frame output : Bytes) : Prop :=
  ∃ before dt, calls = before ++ [.applyOutputs frame, .step dt, .readInputs (some output)]

/-- The five frames a recovery needs.  `word` is the controlword of the frame prepared before. -/
inductive Rung (word : Nat) (request : Request) (calls : List (Call F)) : Nat → Prop
  | reset (payload frame output : Bytes) (payload_eq : request.payload = some payload)
    (rising : hasBits (firstWord payload) 0x80 = true ∧ hasBits word 0x80 = false)
    (executed : Executed calls frame output) (controlword : firstWord frame = 0x80)
    (clear : hasBits (firstWord output) 8 = false) : Rung word request calls 0
  | verify (payload frame output : Bytes) (payload_eq : request.payload = some payload)
    (low : hasBits (firstWord payload) 0x80 = false)
    (executed : Executed calls frame output) (controlword : firstWord frame = 0)
    (clear : hasBits (firstWord output) 8 = false) : Rung word request calls 1
  | shutdown (payload output : Bytes) (payload_eq : request.payload = some payload)
    (masked : firstWord payload &&& 0x8f = 6) (executed : Executed calls payload output) :
    Rung word request calls 2
  | switchOn (payload output : Bytes) (payload_eq : request.payload = some payload)
    (masked : firstWord payload &&& 0x8f = 7) (executed : Executed calls payload output) :
    Rung word request calls 3
  | enable (payload output : Bytes) (payload_eq : request.payload = some payload)
    (masked : firstWord payload &&& 0x8f = 15) (low : hasBits (firstWord payload) 0x10 = false)
    (mode : payload[2]? = some 1) (executed : Executed calls payload output) :
    Rung word request calls 4

/-- Without a new detection a request keeps the phase or climbs one rung. -/
theorem outcome_climbs {g g' : AxisFault} {request : Request} {calls : List (Call F)}
    (hv : g.Valid) (hout : Outcome g request calls g') (hquiet : g'.detections = g.detections) :
    g'.phase = g.phase ∨
      g'.phase.stage = g.phase.stage + 1 ∧ Rung g.previousCw request calls g.phase.stage := by
  cases hout with
  | held _ kept phase => exact .inl phase
  | faulted g₁ kept =>
    rw [AxisFault.detect_detections, kept.detections] at hquiet
    omega
  | polled _ _ _ normal _ _ verdict =>
    cases verdict with
    | faulted _ _ _ detections => omega
    | unchanged _ _ phase => exact .inl phase
    | awaits _ hr => cases hr
    | cleared _ hr => cases hr
  | executed payload frame resetting g₁ before dt output _ payload_eq gate prepared calls_eq acc
      verdict =>
    have hex : Executed calls frame output := ⟨before, dt, calls_eq⟩
    have hquiet₁ : g'.detections = g₁.detections := hquiet.trans prepared.detections.symm
    have hclear := verdict.clear_of_quiet hquiet₁
    have hfault := prepared.toKept.fault_iff.trans hv.fault_iff
    generalize hp₁ : g₁.phase = phase₁ at gate
    cases gate with
    | passes hp => exact .inl ((verdict.phase_of_plain hquiet₁).trans (hp₁.trans hp.symm))
    | disables hp => exact .inl ((verdict.phase_of_plain hquiet₁).trans (hp₁.trans hp.symm))
    | verifies hp hlow =>
      refine .inr ⟨?_, ?_⟩
      · rw [verdict.phase_of_reset hquiet₁ (hfault.mpr (.inr hp)), if_pos hp₁, hp]
        rfl
      · rw [hp]
        exact .verify payload _ output payload_eq hlow hex (firstWord_withControlword ..) hclear
    | resets hp _ hhigh hword =>
      refine .inr ⟨?_, ?_⟩
      · rw [verdict.phase_of_reset hquiet₁ (hfault.mpr (.inl hp)), if_neg (by simp [hp₁]), hp]
        rfl
      · rw [hp]
        exact .reset payload _ output payload_eq ⟨hhigh, hword⟩ hex (firstWord_withControlword ..)
          hclear
    | shutdown hp hc =>
      refine .inr ⟨?_, ?_⟩
      · rw [verdict.phase_of_plain hquiet₁, hp₁, hp]
        rfl
      · rw [hp]
        exact .shutdown payload output payload_eq hc hex
    | switchOn hp hc =>
      refine .inr ⟨?_, ?_⟩
      · rw [verdict.phase_of_plain hquiet₁, hp₁, hp]
        rfl
      · rw [hp]
        exact .switchOn payload output payload_eq hc hex
    | enable hp hc hlow hmode =>
      refine .inr ⟨?_, ?_⟩
      · rw [verdict.phase_of_plain hquiet₁, hp₁, hp]
        rfl
      · rw [hp]
        exact .enable payload output payload_eq hc hlow hmode hex

variable [PyFloat F] {A : DriveAdapter F σ} {m : Moment F} {request : Request} {a : Axis F σ}

theorem dispatch_climbs (hv : a.faultState.Valid)
    (hquiet : (dispatch A m request a).2.faultState.detections = a.faultState.detections) :
    let b := (dispatch A m request a).2
    b.faultState.phase = a.faultState.phase ∨
      b.faultState.phase.stage = a.faultState.phase.stage + 1 ∧
        Rung a.faultState.previousCw request b.calls a.faultState.phase.stage := by
  intro b
  cases hreq : request.isProcessData with
  | true => exact outcome_climbs hv (dispatch_processed hreq a hv).outcome hquiet
  | false =>
    have hout : SdoOutcome a.faultState b.faultState := (dispatch_sdo hreq a).outcome
    have hquiet : b.faultState.detections = a.faultState.detections := hquiet
    generalize b.faultState = g at hout hquiet ⊢
    cases hout with
    | kept => exact .inl rfl
    | failed => simp at hquiet

/-- A detection is the last thing a request does to the guard. -/
theorem dispatch_detected (hv : a.faultState.Valid)
    (hdetect : (dispatch A m request a).2.faultState.detections ≠ a.faultState.detections) :
    (dispatch A m request a).2.faultState.phase = .fault := by
  cases hreq : request.isProcessData with
  | true =>
    have hout := (dispatch_processed (A := A) (m := m) hreq a hv).outcome
    generalize (dispatch A m request a).2.faultState = g at hout hdetect ⊢
    cases hout with
    | held _ kept => exact absurd kept.detections hdetect
    | faulted => rfl
    | executed _ _ _ _ _ _ _ _ _ _ prepared _ _ verdict =>
      rw [← prepared.detections] at hdetect
      cases verdict with
      | faulted _ phase => exact phase
      | unchanged _ _ _ _ detections => exact absurd detections hdetect
      | awaits _ _ _ _ _ _ detections => exact absurd detections hdetect
      | cleared _ _ _ _ _ _ detections => exact absurd detections hdetect
    | polled _ _ _ _ _ _ verdict =>
      cases verdict with
      | faulted _ phase => exact phase
      | unchanged _ _ _ _ detections => exact absurd detections hdetect
      | awaits _ hr => cases hr
      | cleared _ hr => cases hr
  | false =>
    have hout := (dispatch_sdo (A := A) (m := m) hreq a).outcome
    generalize (dispatch A m request a).2.faultState = g at hout hdetect ⊢
    cases hout with
    | kept => exact absurd rfl hdetect
    | failed => rfl

theorem dispatch_previousCw (hv : a.faultState.Valid) :
    (dispatch A m request a).2.faultState.previousCw = request.word a.faultState.previousCw := by
  cases hreq : request.isProcessData with
  | true =>
    have hout := (dispatch_processed (A := A) (m := m) hreq a hv).outcome
    generalize (dispatch A m request a).2.faultState = g at hout ⊢
    cases hout with
    | held _ kept => exact kept.previousCw
    | faulted _ kept => rw [AxisFault.detect_previousCw, kept.previousCw]
    | executed payload _ _ _ _ _ _ _ payload_eq _ prepared _ acc =>
      rw [acc.previousCw, prepared.previousCw, Request.word_of_payload _ payload_eq]
    | polled _ _ request_eq _ _ acc => rw [acc.previousCw, request_eq]; rfl
  | false =>
    have hword : request.word a.faultState.previousCw = a.faultState.previousCw := by
      cases request <;> first | rfl | cases hreq
    have hout := (dispatch_sdo (A := A) (m := m) hreq a).outcome
    generalize (dispatch A m request a).2.faultState = g at hout ⊢
    rw [hword]
    cases hout with
    | kept => rfl
    | failed => rw [AxisFault.detect_previousCw]

theorem dispatch_controlword (hv : a.faultState.Valid) (hf : a.faultState.fault ≠ none) :
    ∀ frame ∈ frames (dispatch A m request a).2.calls,
      firstWord frame = 0 ∨ firstWord frame = 0x80 := by
  cases hreq : request.isProcessData with
  | true => exact (dispatch_processed hreq a hv).allowed.controlword hf
  | false =>
    have hsdo := (dispatch_sdo (A := A) (m := m) hreq a).sdo
    generalize (dispatch A m request a).2.calls = calls at hsdo
    intro frame hframe
    obtain ⟨c, hc, hframe⟩ := List.mem_filterMap.mp hframe
    have := hsdo c hc
    cases c with
    | applyOutputs => cases this
    | step | readInputs => cases this
    | readSdo | writeSdo | odRead | odWriteRole | save => cases hframe

variable (A) (trace : Trace F)

/-- The controlword of the latest frame the guard prepared before request `n`. -/
def wordBefore : Nat → Nat
  | 0 => 0
  | n + 1 => (trace n).2.word (wordBefore n)

variable (slaveIndex : Nat) (adapter : σ) (initial : Bytes) (hasStore : Bool)

theorem states_previousCw (n : Nat) :
    (states A (start slaveIndex adapter initial hasStore) trace n).faultState.previousCw =
      wordBefore trace n := by
  induction n with
  | zero => rfl
  | succ n ih =>
    rw [states_succ, dispatch_previousCw (states_valid (start_valid ..) n), ih]
    rfl

/-- Between the latest detection and a cycle that ends in phase `normal`, the model took the
five frames of a recovery in order; and while a fault is latched it takes nothing but the
disable and the reset word. -/
theorem recovery_gate (trace : Trace F) (slaveIndex : Nat) (adapter : σ) (initial : Bytes) (hasStore : Bool) :
    let axis := states A (start slaveIndex adapter initial hasStore) trace
    let rung n := Rung (wordBefore trace n) (trace n).2 (axis (n + 1)).calls
    (∀ i j, i < j → (axis (i + 1)).faultState.detections ≠ (axis i).faultState.detections →
      (∀ n, i < n → n ≤ j →
        (axis (n + 1)).faultState.detections = (axis n).faultState.detections) →
      (∃ data, (trace j).2 = .cycle data) → (axis (j + 1)).faultState.phase = .normal →
      ∃ a b c d e, i < a ∧ a < b ∧ b < c ∧ c < d ∧ d < e ∧ e ≤ j ∧
        rung a 0 ∧ rung b 1 ∧ rung c 2 ∧ rung d 3 ∧ rung e 4) ∧
    ∀ n, (axis n).faultState.fault ≠ none → ∀ frame ∈ frames (axis (n + 1)).calls,
      firstWord frame = 0 ∨ firstWord frame = 0x80 := by
  intro axis rung
  have hvalid : ∀ n, (axis n).faultState.Valid :=
    states_valid (start_valid slaveIndex adapter initial hasStore)
  refine ⟨?_, fun n => dispatch_controlword (hvalid n)⟩
  intro i j hij hdetect hquiet _ hnormal
  let stage n := (axis n).faultState.phase.stage
  have hstep : ∀ n, i < n → n ≤ j →
      stage (n + 1) = stage n ∨ stage (n + 1) = stage n + 1 ∧ rung n (stage n) := by
    intro n hi hj
    have h := dispatch_climbs (hvalid n) (hquiet n hi hj)
    rw [states_previousCw A trace slaveIndex adapter initial hasStore n] at h
    exact h.imp (congrArg Phase.stage) id
  have hclimbs : Climbs stage (i + 1) (j + 1) := by
    intro n hi hj
    exact (hstep n (by omega) (by omega)).imp id And.left
  have hzero : stage (i + 1) = 0 := congrArg Phase.stage (dispatch_detected (hvalid i) hdetect)
  have hfive : stage (j + 1) = 5 := congrArg Phase.stage hnormal
  have hrung : ∀ k, k < 5 → ∃ n, i < n ∧ n ≤ j ∧ stage n = k ∧ stage (n + 1) = k + 1 ∧ rung n k := by
    intro k hk
    obtain ⟨n, hi, hj, hn, hn'⟩ := hclimbs.exists_rise (by omega) (by omega : stage (i + 1) ≤ k)
      (by omega)
    have h := (hstep n (by omega) (by omega)).resolve_left (by omega)
    exact ⟨n, by omega, by omega, hn, hn', hn ▸ h.2⟩
  have hlt : ∀ {s t}, i < t → s ≤ j → stage s < stage t → s < t := fun hi hj h =>
    hclimbs.lt_of_rise (by omega) (by omega) h
  obtain ⟨a, hia, haj, ha, -, hra⟩ := hrung 0 (by decide)
  obtain ⟨b, hib, hbj, hb, -, hrb⟩ := hrung 1 (by decide)
  obtain ⟨c, hic, hcj, hc, -, hrc⟩ := hrung 2 (by decide)
  obtain ⟨d, hid, hdj, hd, -, hrd⟩ := hrung 3 (by decide)
  obtain ⟨e, hie, hej, he, -, hre⟩ := hrung 4 (by decide)
  exact ⟨a, b, c, d, e, hia, hlt hib haj (by omega), hlt hic hbj (by omega),
    hlt hid hcj (by omega), hlt hie hdj (by omega), hej, hra, hrb, hrc, hrd, hre⟩

/-- A model that takes every call and reports zeros. -/
def obedientAdapter : DriveAdapter ExtRat Unit where
  applyOutputs _ := pure ()
  step _ := pure ()
  readInputs := pure (List.replicate txSize 0)
  readSdo _ _ := pure []
  writeSdo _ _ := pure ()
  odRead _ := pure (.int 0)
  odWriteRole _ _ := pure ()
  validateParameters := pure ()
  persistentRoles := []

def frameOf (controlword : UInt8) : Bytes := [controlword, 0x00, 0x01] ++ List.replicate 21 0x00

/-- A frame of the wrong length, then a complete recovery. -/
def recoveryFrames : Nat → Bytes
  | 0 => []
  | 1 => frameOf 0x80
  | 2 => frameOf 0x00
  | 3 => frameOf 0x06
  | 4 => frameOf 0x07
  | _ => frameOf 0x0f

def recoveryTrace : Trace ExtRat := fun n =>
  (⟨0, 0, fun _ => .ok ()⟩, .cycle (some (hexText (recoveryFrames n))))

theorem recovery_gate_obedient :
    let axis := states obedientAdapter (start 0 () (List.replicate txSize 0) false) recoveryTrace
    let rung n := Rung (wordBefore recoveryTrace n) (recoveryTrace n).2 (axis (n + 1)).calls
    ∃ a b c d e, 0 < a ∧ a < b ∧ b < c ∧ c < d ∧ d < e ∧ e ≤ 5 ∧
      rung a 0 ∧ rung b 1 ∧ rung c 2 ∧ rung d 3 ∧ rung e 4 := by
  refine (recovery_gate obedientAdapter recoveryTrace 0 () (List.replicate txSize 0) false).1 0 5
    (by decide) (by decide +kernel) ?_ ⟨_, rfl⟩ (by decide +kernel)
  intro n h0 h5
  interval_cases n <;> decide +kernel

end Axis

end EthercatSimulator.Runtime
