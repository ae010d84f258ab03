import EthercatSimulator.Behaviour.RestLaws
import EthercatSimulator.FKr.Requests
import EthercatSimulator.Runtime.Containment
import EthercatSimulator.Runtime.Recovery

/-! No stale motion: after an adapter fault the servo stands where it stood, until the guard is
back to normal and a new set-point arrives. -/

namespace EthercatSimulator.FKr

open Base Profile Diagnostics Behaviour Adapter EthercatSimulator.Runtime ExtRat
open FKrCmmt (Before Intact framed updated)

variable {m : Moment ExtRat} {a b : DriveAxis ExtRat} {request : Request}

/-- The clock readings are numbers. -/
def Clocked (a : DriveAxis ExtRat) : Prop := ∀ last, a.lastCycle = some last → ∃ q, last = num q

theorem elapsed_num (h : Clocked a) {q : ℚ} (hm : m.monotonic = num q) : ∃ dt, a.elapsed m = num dt := by
  unfold Axis.elapsed
  cases hl : a.lastCycle with
  | none => exact ⟨1 / 100, rfl⟩
  | some last =>
    obtain ⟨p, rfl⟩ := h last hl
    exact ⟨q - p, by simp [hm]⟩

theorem processed_clocked (hp : Processed m a request b) (hm : ∃ q, m.monotonic = num q) :
    Clocked b := by
  have hnone : b.lastCycle = none → Clocked b := by
    intro h last hl
    rw [h] at hl
    cases hl
  cases hp with
  | detected _ _ _ _ _ _ _ clock => exact hnone clock
  | held _ _ _ _ clock => exact hnone clock
  | polled _ _ _ _ _ _ _ clock => exact hnone clock
  | executed _ _ _ _ _ _ _ _ _ _ _ _ _ _ _ _ clock =>
    intro last hl
    rw [clock] at hl
    cases hl
    exact hm

/-- The drive stands still and follows no positioning. -/
structure Still (s : Servo ExtRat) : Prop where
  actualVelocity : s.actualVelocity = 0
  ppActive : s.ppActive = false

theorem still_of_settled {s : Servo ExtRat} (h : s.Settled) (hd : s.enabled = false) : Still s :=
  ⟨h.actualVelocity hd, h.ppActive hd⟩

theorem updated_enabled (s : Servo ExtRat) (frame : Bytes) (dt : ExtRat) :
    (updated s frame dt).enabled = (framed s frame dt).started.enabled := by
  obtain ⟨q, hdriven, hpublished⟩ := (framed s frame dt).modelUpdate_published
  unfold updated Servo.enabled
  rw [hpublished.sm, hdriven.sm]

/-- A frame that leaves the drive disabled stops it where it is. -/
theorem updated_stopped {s : Servo ExtRat} (h : Intact s) {frame : Bytes} {dt : ExtRat}
    (hd : (updated s frame dt).enabled = false) :
    (updated s frame dt).actualPosition = s.actualPosition ∧ Still (updated s frame dt) := by
  rw [updated_enabled] at hd
  have hunmoved := Servo.update_disabled_unmoved (FKrCmmt.framed_settled h.settled) hd
  exact ⟨hunmoved.actualPosition, hunmoved.actualVelocity, hunmoved.ppActive⟩

theorem before_stopped {s s₁ : Servo ExtRat} (h : Intact s) {frame : Bytes} {disabling : Bool}
    (hbefore : Before s frame disabling s₁) : s₁.actualPosition = s.actualPosition := by
  cases hbefore with
  | plain => rfl
  | disabled hlen => exact (updated_stopped h (FKrCmmt.Before.disabled hlen).enabled).1

/-- A frame in mode 1 with bit 4 low moves nothing that stands still. -/
theorem updated_waits {s : Servo ExtRat} (h : Intact s) (hstill : Still s) {payload : Bytes}
    (hlen : payload.length = rxSize) {dt : ExtRat} (hdt : ∃ q, dt = num q)
    (hmode : payload[2]? = some 1) (hlow : hasBits (firstWord payload) 0x10 = false) :
    (updated s payload dt).actualPosition = s.actualPosition ∧ Still (updated s payload dt) := by
  have hrest : (framed s payload dt).Resting :=
    ⟨hstill.actualVelocity, hstill.ppActive, FKrCmmt.framed_sound hlen h.sound dt, hdt⟩
  have hbyte : (payload.drop 2).take 1 = [1] := by
    obtain ⟨hlt, hget⟩ := List.getElem?_eq_some_iff.mp hmode
    rw [List.drop_eq_getElem_cons hlt, hget]
    rfl
  have hmode' : (framed s payload dt).od.int Key.modeOfOperation = 1 := by
    rw [FKrCmmt.framed_mode, hbyte]
    decide
  have hunmoved := Servo.update_unmoved hrest hmode' hlow
  exact ⟨hunmoved.actualPosition, hunmoved.actualVelocity, hunmoved.ppActive⟩

/-- While the guard is not back to normal nothing moves, and when it is the drive stands still. -/
theorem processed_stopped (h : Sane a) (hclock : Clocked a) (hm : ∃ q, m.monotonic = num q)
    (hp : Processed m a request b) (habnormal : a.faultState.phase ≠ .normal) :
    b.adapter.actualPosition = a.adapter.actualPosition ∧
      (b.faultState.phase = .normal → Still b.adapter) := by
  cases hp with
  | detected g₁ detail frame disabling entered detected before =>
    refine ⟨before_stopped h.servo before, fun hn => ?_⟩
    rw [detected] at hn
    cases hn
  | held adapter _ phase => exact ⟨by rw [adapter], fun hn => absurd (phase ▸ hn) habnormal⟩
  | polled _ _ normal => exact absurd normal habnormal
  | executed payload frame resetting g₁ disabling dt output s₁ ran before length adapter =>
    rw [adapter, ← before_stopped h.servo before]
    have hservo := before.intact h.servo
    cases through_of_ran h ran before with
    | passes normal => exact absurd normal habnormal
    | enables enable _ frame_eq plain low mode =>
      obtain ⟨q, hq⟩ := hm
      have hdt := elapsed_num hclock hq
      rw [plain.2] at before
      cases before
      have hstill := still_of_settled h.servo.settled (h.quiet (by simp [enable]) (by simp [enable]))
      have hdt_eq : dt = a.elapsed m := by rw [ran.dt_eq, plain.1]; rfl
      subst frame_eq
      have hwaits := updated_waits h.servo hstill length (hdt_eq ▸ hdt) mode low
      exact ⟨hwaits.1, fun _ => hwaits.2⟩
    | disabled _ hd =>
      have hstopped := updated_stopped hservo hd
      exact ⟨hstopped.1, fun _ => hstopped.2⟩

/-- After the recovery a drive that stands still waits for an edge. -/
theorem processed_waits (h : Sane a) (hclock : Clocked a) (hm : ∃ q, m.monotonic = num q)
    (hp : Processed m a request b) (hnormal : a.faultState.phase = .normal) (hstill : Still a.adapter)
    (hquiet : b.faultState.detections = a.faultState.detections)
    (hpayload : ∀ payload, request.payload = some payload →
      payload[2]? = some 1 ∧ hasBits (firstWord payload) 0x10 = false) :
    b.faultState.phase = .normal ∧ b.adapter.actualPosition = a.adapter.actualPosition ∧
      Still b.adapter := by
  cases hp with
  | detected g₁ detail frame disabling entered detected =>
    rw [detected, AxisFault.detect_detections, entered.detections] at hquiet
    omega
  | held _ _ _ abnormal => exact absurd hnormal abnormal
  | polled output _ _ adapter txpdo acc verdict =>
    exact ⟨(verdict.phase_of_plain hquiet).trans hnormal, by rw [adapter], adapter ▸ hstill⟩
  | executed payload frame resetting g₁ disabling dt output s₁ ran before length adapter update txpdo
      acc verdict =>
    have hquiet₁ : b.faultState.detections = g₁.detections :=
      hquiet.trans ran.prepared.detections.symm
    cases through_of_ran h ran before with
    | passes _ phase frame_eq plain =>
      obtain ⟨q, hq⟩ := hm
      rw [plain.2] at before
      rw [plain.1] at verdict
      cases before
      have hdt_eq : dt = a.elapsed m := by rw [ran.dt_eq, plain.1]; rfl
      obtain ⟨hmode, hlow⟩ := hpayload payload ran.payload_eq
      subst frame_eq
      rw [adapter]
      exact ⟨(verdict.phase_of_plain hquiet₁).trans phase,
        updated_waits h.servo hstill length (hdt_eq ▸ elapsed_num hclock hq) hmode hlow⟩
    | enables enable => rw [hnormal] at enable; cases enable
    | disabled abnormal => exact absurd hnormal abnormal

/-- Until the guard is back to normal an answer shows the fault, or a servo not yet enabled. -/
theorem abnormal_shown (h : Sane a) (habnormal : a.faultState.phase ≠ .normal) :
    firstWord a.faultState.responseData &&& 0x6f ≠ 0x27 := by
  by_cases hf : a.faultState.fault = none
  · have hphase := mt h.valid.fault_iff.mpr (by rw [hf]; simp)
    rw [not_or] at hphase
    have hdata : a.faultState.responseData = a.faultState.last := by
      simp [AxisFault.responseData, hf]
    rw [hdata]
    exact h.shown habnormal hphase.1 hphase.2
  · intro heq
    have hmask := congrArg (· &&& 0x6f) (showsFault_responseData hf).statusword
    simp only [Nat.and_assoc] at hmask
    rw [show 0x106f &&& 0x6f = 0x6f from rfl, heq] at hmask
    cases hmask

/-! The same for every request of a run. -/

theorem Clocked.forget (h : Clocked a) : Clocked { a with calls := [] } := h

theorem Accessed.motion (h : Accessed a b) :
    b.adapter.actualPosition = a.adapter.actualPosition ∧ (Still a.adapter → Still b.adapter) := by
  obtain ⟨od, hod⟩ := h.adapter.frame
  rw [hod]
  exact ⟨rfl, fun hs => ⟨hs.actualVelocity, hs.ppActive⟩⟩

section Dispatch

variable (h : Sane a) (hclock : Clocked a) (hm : ∃ q, m.monotonic = num q)
  (hrestart : (Axis.dispatch (fKrCmmt ExtRat) m request a).2.faultState.restartRequired = false)
include h hclock hm hrestart

theorem dispatch_clocked : Clocked (Axis.dispatch (fKrCmmt ExtRat) m request a).2 := by
  cases hreq : request.isProcessData with
  | true => exact processed_clocked (dispatch_processed h hreq hrestart) hm
  | false =>
    unfold Clocked
    rw [(dispatch_accessed hreq hrestart).clock]
    exact hclock

theorem dispatch_stopped (habnormal : a.faultState.phase ≠ .normal) :
    let b := (Axis.dispatch (fKrCmmt ExtRat) m request a).2
    b.adapter.actualPosition = a.adapter.actualPosition ∧
      (b.faultState.phase = .normal → Still b.adapter) := by
  intro b
  cases hreq : request.isProcessData with
  | true =>
    exact processed_stopped (a := { a with calls := [] }) h.forget hclock.forget hm
      (dispatch_processed h hreq hrestart) habnormal
  | false =>
    have haccessed := dispatch_accessed hreq hrestart
    exact ⟨haccessed.motion.1, fun hn => absurd (haccessed.faultState ▸ hn) habnormal⟩

theorem dispatch_waits (hnormal : a.faultState.phase = .normal) (hstill : Still a.adapter) :
    let b := (Axis.dispatch (fKrCmmt ExtRat) m request a).2
    b.faultState.detections = a.faultState.detections →
    (∀ payload, request.payload = some payload →
      payload[2]? = some 1 ∧ hasBits (firstWord payload) 0x10 = false) →
    b.faultState.phase = .normal ∧ b.adapter.actualPosition = a.adapter.actualPosition ∧
      Still b.adapter := by
  intro b hquiet hpayload
  cases hreq : request.isProcessData with
  | true =>
    exact processed_waits (a := { a with calls := [] }) h.forget hclock.forget hm
      (dispatch_processed h hreq hrestart) hnormal hstill hquiet hpayload
  | false =>
    have haccessed := dispatch_accessed hreq hrestart
    exact ⟨haccessed.faultState ▸ hnormal, haccessed.motion.1, haccessed.motion.2 hstill⟩

end Dispatch

section Run

variable {mode : AxisMode} {slaveIndex : Nat} {hasStore : Bool}
  (ha : Axis.init (fKrCmmt ExtRat) slaveIndex (Servo.construct mode) hasStore = .ok a)
  (trace : Trace ExtRat) (hclock : ∀ n, ∃ q, (trace n).1.monotonic = num q)
  (hrestart : ∀ n, (Axis.states (fKrCmmt ExtRat) a trace n).faultState.restartRequired = false)
include ha hclock hrestart

theorem states_clocked (n : Nat) : Clocked (Axis.states (fKrCmmt ExtRat) a trace n) := by
  have hsane := states_sane (init_sane ha) hrestart
  induction n with
  | zero =>
    intro last hl
    change a.lastCycle = some last at hl
    unfold Axis.init at ha
    split at ha <;> cases ha
    cases hl
  | succ n ih => exact dispatch_clocked (hsane n) ih (hclock n) (hrestart (n + 1))

/-- While the guard is not back to normal, the servo keeps its position. -/
theorem states_stopped {i n : Nat} (hn : i ≤ n) :
    let axis := Axis.states (fKrCmmt ExtRat) a trace
    (∀ k, i ≤ k → k < n → (axis k).faultState.phase ≠ .normal) →
      (axis n).adapter.actualPosition = (axis i).adapter.actualPosition := by
  intro axis
  induction n, hn using Nat.le_induction with
  | base => exact fun _ => rfl
  | succ n hn ih =>
    intro habnormal
    have hstop := dispatch_stopped (states_sane (init_sane ha) hrestart n)
      (states_clocked ha trace hclock hrestart n) (hclock n) (hrestart (n + 1))
      (habnormal n hn (Nat.lt_succ_self n))
    exact hstop.1.trans (ih fun k hk hkn => habnormal k hk (Nat.lt_succ_of_lt hkn))

/-- While frames in mode 1 with bit 4 low come in, a servo that stands still keeps its position. -/
theorem states_waits {j n : Nat} (hn : j ≤ n) :
    let axis := Axis.states (fKrCmmt ExtRat) a trace
    (axis j).faultState.phase = .normal → Still (axis j).adapter →
    (∀ k, j ≤ k → k < n →
      (axis (k + 1)).faultState.detections = (axis k).faultState.detections ∧
        ∀ payload, (trace k).2.payload = some payload →
          payload[2]? = some 1 ∧ hasBits (firstWord payload) 0x10 = false) →
    (axis n).faultState.phase = .normal ∧
      (axis n).adapter.actualPosition = (axis j).adapter.actualPosition ∧ Still (axis n).adapter := by
  intro axis hnormal hstill
  induction n, hn using Nat.le_induction with
  | base => exact fun _ => ⟨hnormal, rfl, hstill⟩
  | succ n hn ih =>
    intro hquiet
    obtain ⟨hphase, hposition, hstill⟩ := ih fun k hk hkn => hquiet k hk (Nat.lt_succ_of_lt hkn)
    obtain ⟨hdetections, hpayload⟩ := hquiet n hn (Nat.lt_succ_self n)
    have hwait := dispatch_waits (states_sane (init_sane ha) hrestart n)
      (states_clocked ha trace hclock hrestart n) (hclock n) (hrestart (n + 1)) hphase hstill
      hdetections hpayload
    exact ⟨hwait.1, hwait.2.1.trans hposition, hwait.2.2⟩

/-- After an adapter fault the servo keeps its position and no answer shows it enabled until the
guard is back in phase `normal`; and from then on, while the mode stays 1 and nothing new is
detected, it keeps its position until a cycle with bit 4. -/
theorem no_stale_motion {i : Nat} (hfault : (Axis.states (fKrCmmt ExtRat) a trace i).faultState.fault.map
    (·.code) = some .axisAdapterFault) :
    let axis := Axis.states (fKrCmmt ExtRat) a trace
    let reply := Axis.replies (fKrCmmt ExtRat) a trace
    (∀ n, i ≤ n → (∀ k, i ≤ k → k < n → (axis k).faultState.phase ≠ .normal) →
      (axis n).adapter.actualPosition = (axis i).adapter.actualPosition) ∧
    (∀ n, i ≤ n → (∀ k, i ≤ k → k ≤ n + 1 → (axis k).faultState.phase ≠ .normal) →
      (trace n).2.isProcessData = true →
      ∃ output, Axis.Answers (reply n) output ∧ firstWord output &&& 0x6f ≠ 0x27) ∧
    ∀ j n, i ≤ j → j ≤ n → (∀ k, i ≤ k → k < j → (axis k).faultState.phase ≠ .normal) →
      (axis j).faultState.phase = .normal →
      (∀ k, j ≤ k → k < n →
        (axis (k + 1)).faultState.detections = (axis k).faultState.detections ∧
          ∀ payload, (trace k).2.payload = some payload →
            payload[2]? = some 1 ∧ hasBits (firstWord payload) 0x10 = false) →
      (axis n).adapter.actualPosition = (axis i).adapter.actualPosition := by
  intro axis reply
  have hsane : ∀ n, Sane (axis n) := states_sane (init_sane ha) hrestart
  refine ⟨fun n hn => states_stopped ha trace hclock hrestart hn, ?_, ?_⟩
  · intro n hn habnormal hreq
    have hanswer := Axis.answers_of_processed
      (Axis.dispatch_processed (A := fKrCmmt ExtRat) (m := (trace n).1) hreq (axis n) (hsane n).valid)
    exact ⟨_, hanswer, abnormal_shown (hsane (n + 1)) (habnormal (n + 1) (by omega) (le_refl _))⟩
  · intro j n hij hjn habnormal hnormal hquiet
    have hj : j ≠ i := by
      rintro rfl
      obtain ⟨d, hd, -⟩ := Option.map_eq_some_iff.mp hfault
      have := (hsane j).valid.fault_iff.mp (by rw [hd]; simp)
      rw [hnormal] at this
      rcases this with h | h <;> cases h
    obtain ⟨k, rfl⟩ : ∃ k, j = k + 1 := ⟨j - 1, by omega⟩
    have hstop := dispatch_stopped (hsane k) (states_clocked ha trace hclock hrestart k) (hclock k)
      (hrestart (k + 1)) (habnormal k (by omega) (Nat.lt_succ_self k))
    have hwait := states_waits ha trace hclock hrestart hjn hnormal (hstop.2 hnormal) hquiet
    exact hwait.2.1.trans (states_stopped ha trace hclock hrestart hij habnormal)

end Run

/-- The drive moves in mode 3 when a frame asks for mode 2, and recovers. -/
def movingFrames : List Bytes :=
  let frame (controlword mode : UInt8) : Bytes :=
    [controlword, 0x00, mode] ++ List.replicate 8 0x00 ++ [0xe8, 0x03, 0x00, 0x00] ++
      List.replicate 9 0x00
  [frame 0x06 3, frame 0x07 3, frame 0x0f 3, frame 0x0f 3, frame 0x0f 2, frame 0x80 1, frame 0x00 1,
    frame 0x06 1, frame 0x07 1, frame 0x0f 1]

def movingTrace : Trace ExtRat := fun n =>
  (⟨num (n / 100), 0, fun _ => .ok ()⟩,
    match movingFrames[n]? with
    | some frame => .cycle (some (hexText frame))
    | none => .describe)

def movingAxis : DriveAxis ExtRat :=
  Axis.start 0 (Servo.construct .linear) ([0x40, 0x00, 0x08] ++ List.replicate 11 0x00) false

theorem movingAxis_init :
    Axis.init (fKrCmmt ExtRat) 0 (Servo.construct .linear) false = .ok movingAxis := by
  have hread : (odToTxpdoPayload (Servo.construct .linear : Servo ExtRat).od).toOption =
      some ([0x40, 0x00, 0x08] ++ List.replicate 11 0x00) := by decide +kernel
  have hrun : (fKrCmmt ExtRat).readInputs (Servo.construct .linear) =
      (odToTxpdoPayload (Servo.construct .linear).od, Servo.construct .linear) :=
    FKrCmmt.readInputs_eq _
  unfold Axis.init
  rw [hrun]
  generalize odToTxpdoPayload (Servo.construct .linear : Servo ExtRat).od = r at hread
  cases r with
  | ok initial => cases hread; rfl
  | error e => cases hread

theorem movingTrace_phases :
    let axis := Axis.states (fKrCmmt ExtRat) movingAxis movingTrace
    (∀ k < 11, (axis k).faultState.restartRequired = false) ∧
      (∀ k < 10, 5 ≤ k → (axis k).faultState.phase ≠ .normal) ∧
      (axis 5).faultState.fault.map (·.code) = some .axisAdapterFault ∧
      (axis 10).faultState.phase = .normal := by
  decide +kernel

theorem movingTrace_restart (n : Nat) :
    (Axis.states (fKrCmmt ExtRat) movingAxis movingTrace n).faultState.restartRequired = false := by
  rcases Nat.lt_or_ge n 10 with hn | hn
  · exact movingTrace_phases.1 n (by omega)
  · induction n, hn using Nat.le_induction with
    | base => exact movingTrace_phases.1 10 (by decide)
    | succ n hn ih =>
      have hdescribe : (movingTrace n).2 = .describe := by
        have : movingFrames[n]? = none := List.getElem?_eq_none hn
        simp [movingTrace, this]
      rw [Axis.states_succ, hdescribe]
      exact ih

theorem no_stale_motion_moving :
    let axis := Axis.states (fKrCmmt ExtRat) movingAxis movingTrace
    (axis 5).faultState.fault.map (·.code) = some .axisAdapterFault ∧
      (axis 10).faultState.phase = .normal ∧
      (axis 10).adapter.actualPosition = (axis 5).adapter.actualPosition := by
  obtain ⟨-, habnormal, hfault, hnormal⟩ := movingTrace_phases
  have h := no_stale_motion movingAxis_init movingTrace (fun n => ⟨n / 100, rfl⟩)
    movingTrace_restart hfault
  exact ⟨hfault, hnormal, h.2.2 10 10 (by decide) (le_refl _)
    (fun k hk hk' => habnormal k hk' hk) hnormal (by omega)⟩

end EthercatSimulator.FKr
