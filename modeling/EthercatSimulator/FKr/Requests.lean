import EthercatSimulator.Adapter.FKrCmmtLaws
import EthercatSimulator.Runtime.Run

/-! The guard and the virtual servo together: what one request does to both. -/

namespace EthercatSimulator.FKr

open Base Profile Diagnostics Behaviour Adapter EthercatSimulator.Runtime
open FKrCmmt (Before Cycled Intact framed updated)

/-- An axis with the virtual servo behind it. -/
abbrev DriveAxis (F : Type) := Axis F (Servo F)

variable {F : Type} [PyFloat F] {m : Moment F} {a b : DriveAxis F} {request : Request}

/-- What a cycle or idle request does, unless it ends with a restart required. -/
inductive Processed (m : Moment F) (a : DriveAxis F) (request : Request) (b : DriveAxis F) : Prop
  | detected (g₁ : AxisFault) (detail : String) (frame : Bytes) (disabling : Bool)
    (entered : Entered a.faultState request g₁)
    (detected : b.faultState = g₁.detect m.time .axisAdapterFault detail)
    (before : Before a.adapter frame disabling b.adapter) (clock : b.lastCycle = none)
  | held (adapter : b.adapter = a.adapter) (entered : Entered a.faultState request b.faultState)
    (phase : b.faultState.phase = a.faultState.phase) (abnormal : a.faultState.phase ≠ .normal)
    (clock : b.lastCycle = none)
  | executed (payload frame : Bytes) (resetting : Bool) (g₁ : AxisFault) (disabling : Bool) (dt : F)
    (output : Bytes) (s₁ : Servo F)
    (ran : Axis.Ran (fKrCmmt F) m a request payload frame resetting g₁ disabling dt (.ok output) b)
    (before : Before a.adapter frame disabling s₁) (length : frame.length = rxSize)
    (adapter : b.adapter = updated s₁ frame dt)
    (update : (Servo.modelUpdate (framed s₁ frame dt)).1 = .ok ())
    (txpdo : odToTxpdoPayload b.adapter.od = .ok output)
    (acc : g₁.Accepted output b.faultState)
    (verdict : g₁.Verdict (firstWord output) resetting b.faultState)
    (clock : b.lastCycle = some m.monotonic)
  | polled (output : Bytes) (request_eq : request = .idle) (normal : a.faultState.phase = .normal)
    (adapter : b.adapter = a.adapter) (txpdo : odToTxpdoPayload b.adapter.od = .ok output)
    (acc : a.faultState.Accepted output b.faultState)
    (verdict : a.faultState.Verdict (firstWord output) false b.faultState)
    (clock : b.lastCycle = none)

theorem processed_of_modelled (h : Axis.Modelled (fKrCmmt F) m a request b)
    (hrestart : b.faultState.restartRequired = false) : Processed m a request b := by
  cases h with
  | restart h => rw [hrestart] at h; cases h
  | refused g₁ detail adapter entered detected clock =>
    exact .detected g₁ detail [] false entered detected (adapter ▸ .plain) clock
  | rejected payload frame resetting g₁ disabling dt e ran expected detected clock =>
    have hrun := FKrCmmt.execute_post disabling frame dt a.adapter
    unfold Exec.Post at hrun
    rw [ran.run] at hrun
    have hentered : Entered a.faultState request g₁ :=
      ⟨ran.prepared.toKept, by
        rw [ran.prepared.previousCw, Request.word_of_payload _ ran.payload_eq]⟩
    rcases hrun with ⟨_, _, hs⟩ | ⟨s₁, hbefore, hcycled⟩
    · have hs : b.adapter = a.adapter := hs
      exact .detected g₁ e.message [] false hentered detected (hs ▸ .plain) clock
    · have hs : b.adapter = s₁ := by
        generalize b.adapter = s' at hcycled
        cases hcycled with
        | refused => rfl
        | failed _ unexpected => exact absurd expected (by simp [unexpected])
      exact .detected g₁ e.message frame disabling hentered detected (hs ▸ hbefore) clock
  | held adapter entered phase abnormal clock => exact .held adapter entered phase abnormal clock
  | executed payload frame resetting g₁ disabling dt output ran acc verdict clock =>
    have hrun := FKrCmmt.execute_post disabling frame dt a.adapter
    unfold Exec.Post at hrun
    rw [ran.run] at hrun
    rcases hrun with ⟨_, he, _⟩ | ⟨s₁, hbefore, hcycled⟩
    · cases he
    · generalize hadapter : b.adapter = s' at hcycled
      cases hcycled with
      | done _ length update txpdo =>
        exact .executed payload frame resetting g₁ disabling dt output s₁ ran hbefore length hadapter
          update (hadapter ▸ txpdo) acc verdict clock
  | unread e normal run expected detected clock =>
    change FKrCmmt.readInputs a.adapter = _ at run
    rw [FKrCmmt.readInputs_eq] at run
    have hunexpected := FKrCmmt.encodePdoObjects_unexpected (Prod.mk.inj run).1
    exact absurd expected (by simp [hunexpected])
  | polled output request_eq normal run acc verdict clock =>
    change FKrCmmt.readInputs a.adapter = _ at run
    rw [FKrCmmt.readInputs_eq] at run
    have hs := (Prod.mk.inj run).2
    exact .polled output request_eq normal hs.symm (hs ▸ (Prod.mk.inj run).1) acc verdict clock

/-! What holds of an axis as long as no restart is required. -/

/-- The guard's fault is an adapter fault, the servo is in order, and it is disabled wherever
the guard is on the way back to normal. -/
structure Sane (a : DriveAxis F) : Prop where
  valid : a.faultState.Valid
  code : ∀ c, a.faultState.fault.map (·.code) = some c → c = .axisAdapterFault
  servo : Intact a.adapter
  quiet : a.faultState.phase ≠ .normal → a.faultState.phase ≠ .fault → a.adapter.enabled = false
  shown : a.faultState.phase ≠ .normal → a.faultState.phase ≠ .fault →
    a.faultState.phase ≠ .verifyReset → firstWord a.faultState.last &&& 0x6f ≠ 0x27

theorem init_sane {mode : AxisMode} {slaveIndex : Nat} {hasStore : Bool} {a : DriveAxis F}
    (h : Axis.init (fKrCmmt F) slaveIndex (Servo.construct mode) hasStore = .ok a) : Sane a := by
  have hread : (fKrCmmt F).readInputs (Servo.construct mode) =
      (odToTxpdoPayload (Servo.construct mode).od, Servo.construct mode) := FKrCmmt.readInputs_eq _
  unfold Axis.init at h
  rw [hread] at h
  cases ho : odToTxpdoPayload (Servo.construct mode : Servo F).od with
  | error e => rw [ho] at h; cases h
  | ok initial =>
    rw [ho] at h
    cases h
    generalize hs : (Servo.construct mode : Servo F) = s
    have hservo : Intact s := hs ▸ FKrCmmt.construct_intact mode
    exact ⟨Axis.start_valid .., (fun _ hd => by cases hd), hservo, fun hn => absurd rfl hn,
      fun hn => absurd rfl hn⟩

/-- The published statusword shows the state machine, and never a fault of the drive. -/
theorem firstWord_output {s : Servo F} (h : Intact s) {output : Bytes}
    (ho : odToTxpdoPayload s.od = .ok output) :
    firstWord output &&& 0x6f = s.sm.statusword ∧ hasBits (firstWord output) 8 = false := by
  obtain ⟨w, hw, hlt, hand⟩ := h.faultless.statusword
  rw [FKrCmmt.firstWord_txpdo hw hlt ho]
  refine ⟨hand, ?_⟩
  have hbit : w &&& 8 = 0 := by
    have : w &&& 0x6f &&& 8 = 0 := by
      rw [hand]
      have := h.faultless.sm
      cases hsm : s.sm <;> first | (rw [hsm] at this; contradiction) | decide
    rwa [Nat.and_assoc] at this
  simp [hasBits, hbit]

theorem not_enabled_shown {s : Servo F} (h : Intact s) (hd : s.enabled = false) {output : Bytes}
    (ho : odToTxpdoPayload s.od = .ok output) : firstWord output &&& 0x6f ≠ 0x27 := by
  rw [(firstWord_output h ho).1]
  intro heq
  rw [CiA402State.statusword_eq_enabled] at heq
  unfold Servo.enabled at hd
  rw [heq] at hd
  cases hd

/-- Which frames can enable the drive, or find it enabled: one in phase `normal`, and the one
that ends a recovery.  After any other frame the drive is disabled. -/
inductive Through (a : DriveAxis F) (payload frame : Bytes) (resetting disabling : Bool)
    (g₁ : AxisFault) (s' : Servo F) : Prop
  | passes (normal : a.faultState.phase = .normal) (phase : g₁.phase = .normal)
    (frame_eq : frame = payload) (plain : resetting = false ∧ disabling = false)
  | enables (enable : a.faultState.phase = .enable) (phase : g₁.phase = .normal)
    (frame_eq : frame = payload) (plain : resetting = false ∧ disabling = false)
    (low : hasBits (firstWord payload) 0x10 = false) (mode : payload[2]? = some 1)
  | disabled (abnormal : a.faultState.phase ≠ .normal) (disabled : s'.enabled = false)

theorem through_of_ran (h : Sane a) {payload frame : Bytes} {resetting disabling : Bool}
    {g₁ : AxisFault} {dt : F} {r : Except Exc Bytes} {s₁ : Servo F}
    (ran : Axis.Ran (fKrCmmt F) m a request payload frame resetting g₁ disabling dt r b)
    (hbefore : Before a.adapter frame disabling s₁) :
    Through a payload frame resetting disabling g₁ (updated s₁ frame dt) := by
  have hiff := ran.disabling_iff
  have hplain : resetting = false → disabling = false := by
    intro hr
    by_contra hne
    rw [Bool.not_eq_false] at hne
    have := (hiff.mp hne).1
    rw [hr] at this
    cases this
  have hdisabling : resetting = true →
      (a.faultState.phase = .fault ∨ a.faultState.phase = .verifyReset) → disabling = true := by
    intro hr hp
    obtain ⟨d, hd⟩ := h.valid.fault_of_phase hp
    have hcode : a.faultState.fault.map (·.code) = some d.code := by rw [hd]; rfl
    exact hiff.mpr ⟨hr, by rw [hcode, h.code _ hcode]⟩
  have hgate := ran.gate
  generalize hphase : g₁.phase = phase₁ at hgate
  cases hgate with
  | passes hp => exact .passes hp hphase rfl ⟨rfl, hplain rfl⟩
  | verifies hp =>
    refine .disabled (by simp [hp]) (FKrCmmt.updated_disabled ?_ (by simp [leNat]) dt)
    exact (hdisabling rfl (.inr hp) ▸ hbefore).enabled
  | resets hp =>
    refine .disabled (by simp [hp]) (FKrCmmt.updated_disabled ?_ (by simp [leNat]) dt)
    exact (hdisabling rfl (.inl hp) ▸ hbefore).enabled
  | disables hp _ hcode => exact absurd (h.code _ hcode) (by decide)
  | shutdown hp hword =>
    rw [hplain rfl] at hbefore
    cases hbefore
    have hd := h.quiet (by simp [hp]) (by simp [hp])
    exact .disabled (by simp [hp]) (FKrCmmt.updated_disabled hd (by simp [hword]) dt)
  | switchOn hp hword =>
    rw [hplain rfl] at hbefore
    cases hbefore
    have hd := h.quiet (by simp [hp]) (by simp [hp])
    exact .disabled (by simp [hp]) (FKrCmmt.updated_disabled hd (by simp [hword]) dt)
  | enable hp _ hlow hmode => exact .enables hp hphase rfl ⟨rfl, hplain rfl⟩ hlow hmode

theorem processed_sane (h : Sane a) (hp : Processed m a request b) (hv : b.faultState.Valid) :
    Sane b := by
  cases hp with
  | detected g₁ detail frame disabling entered detected before =>
    have hphase : b.faultState.phase = .fault := by rw [detected]; rfl
    refine ⟨hv, ?_, before.intact h.servo, fun _ hf => absurd hphase hf, fun _ hf => absurd hphase hf⟩
    intro c hc
    rw [detected, AxisFault.detect_code, entered.code, Option.some_inj] at hc
    cases hcode : a.faultState.fault.map (·.code) with
    | none => rw [hcode] at hc; exact hc.symm
    | some c' => rw [hcode] at hc; exact hc ▸ h.code c' hcode
  | held adapter entered phase =>
    refine ⟨hv, ?_, adapter ▸ h.servo, ?_, ?_⟩
    · intro c hc
      rw [entered.code] at hc
      exact h.code c hc
    · rw [phase, adapter]
      exact h.quiet
    · rw [phase, entered.last]
      exact h.shown
  | polled output _ normal adapter txpdo acc verdict =>
    have hservo : Intact b.adapter := adapter ▸ h.servo
    have hphase : b.faultState.phase = .normal ∧ b.faultState.fault = a.faultState.fault := by
      cases verdict with
      | faulted hsw => rw [(firstWord_output hservo txpdo).2] at hsw; cases hsw
      | unchanged _ _ phase fault => exact ⟨phase.trans normal, fault⟩
      | awaits _ hr => cases hr
      | cleared _ hr => cases hr
    exact ⟨hv, hphase.2 ▸ h.code, hservo, fun hn => absurd hphase.1 hn, fun hn => absurd hphase.1 hn⟩
  | executed payload frame resetting g₁ disabling dt output s₁ ran before length adapter update txpdo
      acc verdict =>
    have hservo : Intact b.adapter :=
      adapter ▸ FKrCmmt.updated_intact (before.intact h.servo) length update
    have hcode : ∀ c, b.faultState.fault.map (·.code) = some c → c = .axisAdapterFault := by
      intro c hc
      cases verdict with
      | faulted hsw => rw [(firstWord_output hservo txpdo).2] at hsw; cases hsw
      | unchanged _ _ _ fault => rw [fault, ran.prepared.code] at hc; exact h.code c hc
      | awaits _ _ _ _ _ fault => rw [fault, ran.prepared.code] at hc; exact h.code c hc
      | cleared _ _ _ _ _ fault => rw [fault] at hc; cases hc
    have hnormal : g₁.phase = .normal → resetting = false → b.faultState.phase = .normal := by
      intro hg hr
      subst hr
      cases verdict with
      | faulted hsw => rw [(firstWord_output hservo txpdo).2] at hsw; cases hsw
      | unchanged _ _ phase => exact phase.trans hg
      | awaits _ hr => cases hr
      | cleared _ hr => cases hr
    cases through_of_ran h ran before with
    | passes _ phase _ plain =>
      have hn := hnormal phase plain.1
      exact ⟨hv, hcode, hservo, fun hne => absurd hn hne, fun hne => absurd hn hne⟩
    | enables _ phase _ plain =>
      have hn := hnormal phase plain.1
      exact ⟨hv, hcode, hservo, fun hne => absurd hn hne, fun hne => absurd hn hne⟩
    | disabled _ hd =>
      rw [← adapter] at hd
      refine ⟨hv, hcode, hservo, fun _ _ => hd, fun _ _ _ => ?_⟩
      rw [acc.last]
      exact not_enabled_shown hservo hd txpdo

/-! One request. -/

theorem Sane.forget (h : Sane a) : Sane { a with calls := [] } :=
  ⟨h.valid, h.code, h.servo, h.quiet, h.shown⟩

theorem dispatch_processed (h : Sane a) (hreq : request.isProcessData = true)
    (hrestart : (Axis.dispatch (fKrCmmt F) m request a).2.faultState.restartRequired = false) :
    Processed m { a with calls := [] } request (Axis.dispatch (fKrCmmt F) m request a).2 :=
  processed_of_modelled (Axis.dispatch_modelled hreq h.valid) hrestart

/-- An SDO request rewrites the dictionary and leaves guard and clock alone. -/
structure Accessed (a b : DriveAxis F) : Prop where
  adapter : FKrCmmt.Rewritten a.adapter b.adapter
  faultState : b.faultState = a.faultState
  clock : b.lastCycle = a.lastCycle

theorem dispatch_accessed (hreq : request.isProcessData = false)
    (hrestart : (Axis.dispatch (fKrCmmt F) m request a).2.faultState.restartRequired = false) :
    Accessed a (Axis.dispatch (fKrCmmt F) m request a).2 := by
  refine ⟨Axis.dispatch_sdoCalls FKrCmmt.sdoCalls hreq, ?_, Axis.dispatch_sdo_clock hreq⟩
  have hout := (Axis.dispatch_sdo (A := fKrCmmt F) (m := m) hreq a).outcome
  generalize (Axis.dispatch (fKrCmmt F) m request a).2.faultState = g at hout hrestart
  cases hout with
  | kept => rfl
  | failed =>
    rw [AxisFault.detect_restartRequired, Bool.or_true] at hrestart
    cases hrestart

theorem Accessed.sane (hab : Accessed a b) (h : Sane a) : Sane b := by
  obtain ⟨od, hod⟩ := hab.adapter.frame
  have henabled : b.adapter.enabled = a.adapter.enabled := by rw [hod]; rfl
  have hservo : Intact b.adapter := by
    have hsound := hab.adapter.sound h.servo.sound
    have hstatus := hab.adapter.statusword
    rw [hod] at hsound hstatus ⊢
    obtain ⟨w, hw, hlt, hand⟩ := h.servo.faultless.statusword
    exact ⟨⟨h.servo.settled.actualVelocity, h.servo.settled.ppActive⟩,
      ⟨h.servo.faultless.sm, h.servo.faultless.homingError, w, hstatus.trans hw, hlt, hand⟩, hsound⟩
  have hg := hab.faultState
  exact ⟨hg ▸ h.valid, hg ▸ h.code, hservo, by rw [hg, henabled]; exact h.quiet,
    by rw [hg]; exact h.shown⟩

theorem dispatch_sane (h : Sane a)
    (hrestart : (Axis.dispatch (fKrCmmt F) m request a).2.faultState.restartRequired = false) :
    Sane (Axis.dispatch (fKrCmmt F) m request a).2 := by
  cases hreq : request.isProcessData with
  | true =>
    exact processed_sane h.forget (dispatch_processed h hreq hrestart)
      (Axis.dispatch_valid m request a h.valid)
  | false => exact (dispatch_accessed hreq hrestart).sane h

/-! Runs without a fault that needs a restart. -/

variable {trace : Trace F}

theorem states_sane (h : Sane a)
    (hrestart : ∀ n, (Axis.states (fKrCmmt F) a trace n).faultState.restartRequired = false) (n : Nat) :
    Sane (Axis.states (fKrCmmt F) a trace n) := by
  induction n with
  | zero => exact h
  | succ n ih => exact dispatch_sane ih (hrestart (n + 1))

end EthercatSimulator.FKr
