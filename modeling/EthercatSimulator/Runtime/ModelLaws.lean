import EthercatSimulator.Runtime.AxisLaws

/-! What a request does to the model behind the axis. -/

namespace EthercatSimulator.Runtime

open Base Profile Diagnostics

namespace DriveAdapter

variable {F σ : Type} [PyFloat F] (A : DriveAdapter F σ)

/-- The calls of one model cycle. -/
def cycle (frame : Bytes) (dt : F) : PyM σ Bytes := do
  A.applyOutputs frame
  A.step dt
  A.readInputs

/-- The calls that take an adapter fault's motion away. -/
def disable (frame : Bytes) : PyM σ Unit := do
  A.applyOutputs (withControlword [0x00, 0x00] frame)
  A.step (PyFloat.ofRat (2 / 1000))

def execute (disabling : Bool) (frame : Bytes) (dt : F) : PyM σ Bytes := do
  Exec.when disabling (A.disable frame)
  A.cycle frame dt

end DriveAdapter

namespace Axis

variable {F σ : Type}

theorem mirrors_call {α : Type} (log : Except Exc α → Call F) (x : PyM σ α) :
    (call log x).Mirrors Axis.adapter x := fun _ => rfl

variable [PyFloat F] {A : DriveAdapter F σ} {m : Moment F}

omit [PyFloat F] in
theorem keeps_lastCycle_call {α : Type} (log : Except Exc α → Call F) (x : PyM σ α) :
    (call log x : PyM (Axis F σ) α).Keeps (Exec.Fixes lastCycle) := fun _ => rfl

/-- The cycle was refused before it reached the model, or ran as the adapter's own. -/
theorem innerCycle_model (frame : Bytes) (a : Axis F σ) :
    (innerCycle A m frame).Post a fun r b =>
      (∃ e, r = .error e ∧ e.isDeviceRejected = false) ∨
        A.cycle frame (a.elapsed m) a.adapter = (r, b.adapter) ∧
          b.lastCycle = some m.monotonic := by
  apply Exec.post_require_bind
  · intro _
    apply Exec.post_get_bind
    apply Exec.post_require_bind
    · intro _
      apply Exec.post_modify_bind
      refine .inr ⟨?_, ?_⟩
      · have hcount : ∀ output, (do
            Exec.modify fun a : Axis F σ => { a with cycles := a.cycles + 1 }
            return output : PyM (Axis F σ) Bytes).Mirrors Axis.adapter (pure output) :=
          fun _ => .bind (Exec.mirrors_modify fun _ => rfl) fun _ => Exec.mirrors_pure _
        have hcalls := (mirrors_call (fun _ => .applyOutputs frame) (A.applyOutputs frame)).bind
          fun _ => (mirrors_call (fun _ => .step (a.elapsed m)) (A.step (a.elapsed m))).bind
            fun _ => (mirrors_call (fun r => .readInputs r.toOption) A.readInputs).tail hcount
        exact hcalls { a with lastCycle := some m.monotonic }
      · refine Exec.Keeps.bind (R := Exec.Fixes lastCycle) (keeps_lastCycle_call _ _) (fun _ => .bind
          (keeps_lastCycle_call _ _) fun _ => .bind (keeps_lastCycle_call _ _) fun _ => ?_)
          { a with lastCycle := some m.monotonic }
        exact .bind (fun _ => rfl) fun _ => Exec.keeps_pure _
    · exact fun _ => .inl ⟨_, rfl, rfl⟩
  · exact fun _ => .inl ⟨_, rfl, rfl⟩

/-- The step before a reset disables the model after an adapter fault and else does nothing. -/
theorem resetStep_model (frame : Bytes) (a : Axis F σ) :
    (resetStep A frame).Post a fun r b =>
      (∃ e, r = .error e ∧ e.isDeviceRejected = false) ∨
        ∃ d, a.faultState.fault = some d ∧ b.lastCycle = none ∧
          Exec.when (d.code = .axisAdapterFault) (A.disable frame) a.adapter = (r, b.adapter) := by
  apply Exec.post_modify_bind
  apply Exec.post_get_bind
  cases hf : a.forgetCycle.faultState.fault with
  | none => exact .inl ⟨_, rfl, rfl⟩
  | some d =>
    refine .inr ⟨d, hf, ?_, ?_⟩
    · exact Exec.Keeps.when (R := Exec.Fixes lastCycle) _ (.bind (keeps_lastCycle_call _ _) fun _ =>
        keeps_lastCycle_call _ _) a.forgetCycle
    · exact Exec.Mirrors.when _ (.bind (mirrors_call _ _) fun _ => mirrors_call _ _) a.forgetCycle

/-- A frame passed the gate and ran on the model. -/
structure Ran (A : DriveAdapter F σ) (m : Moment F) (a : Axis F σ) (request : Request)
    (payload frame : Bytes) (resetting : Bool) (g₁ : AxisFault) (disabling : Bool) (dt : F)
    (r : Except Exc Bytes) (b : Axis F σ) : Prop where
  payload_eq : request.payload = some payload
  gate : a.faultState.Gate payload (some frame) resetting g₁.phase
  prepared : a.faultState.Prepared payload g₁
  disabling_iff : disabling = true ↔
    resetting = true ∧ a.faultState.fault.map (·.code) = some .axisAdapterFault
  dt_eq : dt = if resetting then PyFloat.ofRat (1 / 100) else a.elapsed m
  run : A.execute disabling frame dt a.adapter = (r, b.adapter)

/-- What the body of the fault boundary did to the model. -/
inductive Stage (A : DriveAdapter F σ) (m : Moment F) (a : Axis F σ) (request : Request) :
    Except Exc Progress → Axis F σ → Prop
  | failed (e : Exc) (b : Axis F σ) (unexpected : e.isDeviceRejected = false) :
    Stage A m a request (.error e) b
  | refused (e : Exc) (b : Axis F σ) (adapter : b.adapter = a.adapter)
    (entered : Entered a.faultState request b.faultState) : Stage A m a request (.error e) b
  | rejected (payload frame : Bytes) (resetting disabling : Bool) (dt : F) (e : Exc) (b : Axis F σ)
    (ran : Ran A m a request payload frame resetting b.faultState disabling dt (.error e) b) :
    Stage A m a request (.error e) b
  | held (reply : Reply) (b : Axis F σ) (adapter : b.adapter = a.adapter)
    (entered : Entered a.faultState request b.faultState)
    (phase : b.faultState.phase = a.faultState.phase) (abnormal : a.faultState.phase ≠ .normal)
    (clock : b.lastCycle = none) : Stage A m a request (.ok (.answered reply)) b
  | invalid (reply : Reply) (b : Axis F σ) (restart : b.faultState.restartRequired = true) :
    Stage A m a request (.ok (.result reply)) b
  | executed (payload frame : Bytes) (resetting : Bool) (g₁ : AxisFault) (disabling : Bool) (dt : F)
    (output : Bytes) (reply : Reply) (b : Axis F σ)
    (ran : Ran A m a request payload frame resetting g₁ disabling dt (.ok output) b)
    (acc : g₁.Accepted output b.faultState)
    (verdict : g₁.Verdict (firstWord output) resetting b.faultState)
    (clock : b.lastCycle = some m.monotonic) : Stage A m a request (.ok (.result reply)) b
  | unread (e : Exc) (b : Axis F σ) (normal : a.faultState.phase = .normal)
    (run : A.readInputs a.adapter = (.error e, b.adapter))
    (kept : b.faultState = a.faultState) : Stage A m a request (.error e) b
  | polled (output : Bytes) (reply : Reply) (b : Axis F σ) (request_eq : request = .idle)
    (normal : a.faultState.phase = .normal) (run : A.readInputs a.adapter = (.ok output, b.adapter))
    (acc : a.faultState.Accepted output b.faultState)
    (verdict : a.faultState.Verdict (firstWord output) false b.faultState)
    (clock : b.lastCycle = none) : Stage A m a request (.ok (.result reply)) b

omit [PyFloat F] in
theorem innerIdle_model (a : Axis F σ) : (innerIdle A).Post a fun r b =>
    b.lastCycle = none ∧ A.readInputs a.adapter = (r, b.adapter) := ⟨rfl, rfl⟩

variable {a : Axis F σ} {request : Request}

/-- The disable step, where one is due, on the axis `b` that has prepared a frame of `a`. -/
theorem disableStep_model {payload : Bytes} (frame : Bytes) (resetting : Bool) {b : Axis F σ}
    (hadapter : b.adapter = a.adapter) (hclock : b.lastCycle = a.lastCycle)
    (hprepared : a.faultState.Prepared payload b.faultState) :
    (Exec.when resetting (resetStep A frame)).Post b fun r c =>
      (∃ e, r = .error e ∧ e.isDeviceRejected = false) ∨
        ∃ disabling : Bool, c.faultState = b.faultState ∧
          (disabling = true ↔
            resetting = true ∧ a.faultState.fault.map (·.code) = some .axisAdapterFault) ∧
          c.elapsed m = (if resetting then PyFloat.ofRat (1 / 100) else a.elapsed m) ∧
          Exec.when disabling (A.disable frame) a.adapter = (r, c.adapter) := by
  apply Exec.post_when
  · intro hr
    have hboth := Exec.Post.and (resetStep_post (A := A) frame b) (resetStep_model (A := A) frame b)
    apply hboth.mono
    rintro r c ⟨⟨_, hcalled, _⟩, hfailed | ⟨d, hd, hc, hrun⟩⟩
    · exact .inl hfailed
    · refine .inr ⟨decide (d.code = .axisAdapterFault), hcalled.faultState, ?_, ?_, ?_⟩
      · rw [← hprepared.code, hd, Option.map_some, Option.some_inj, decide_eq_true_eq, hr]
        simp
      · rw [if_pos hr, elapsed, hc]
      · rw [← hadapter, ← hrun]
        simp only [decide_eq_true_eq]
  · intro hr
    rw [Bool.not_eq_true] at hr
    refine .inr ⟨false, rfl, by simp [hr], ?_, ?_⟩
    · rw [hr, if_neg (by decide), elapsed, elapsed, hclock]
    · rw [← hadapter]
      rfl

theorem forwarded_stage {payload frame : Bytes} {resetting : Bool} {b : Axis F σ}
    (hadapter : b.adapter = a.adapter) (hclock : b.lastCycle = a.lastCycle)
    (hpayload : request.payload = some payload)
    (hgate : a.faultState.Gate payload (some frame) resetting b.faultState.phase)
    (hprepared : a.faultState.Prepared payload b.faultState) :
    (forwarded A m frame resetting).Post b (Stage A m a request) := by
  have hpre := disableStep_model frame resetting (A := A) (m := m) hadapter hclock hprepared
  apply Exec.Post.bind
  · apply hpre.mono
    rintro _ c (⟨e, he, _⟩ | ⟨disabling, hc, hiff, hdt, hdisable⟩) _ rfl
    · cases he
    have hcycle := Exec.Post.and (innerCycle_post (A := A) (m := m) frame c)
      (innerCycle_model (A := A) (m := m) frame c)
    have hran : ∀ (r : Except Exc Bytes) (d : Axis F σ),
        A.cycle frame (c.elapsed m) c.adapter = (r, d.adapter) →
        Ran A m a request payload frame resetting b.faultState disabling (c.elapsed m) r d := by
      intro r d hrun
      refine ⟨hpayload, hgate, hprepared, hiff, hdt, ?_⟩
      unfold DriveAdapter.execute
      rw [Exec.run_bind_ok hdisable, hrun]
    apply Exec.Post.bind
    · apply hcycle.mono
      rintro _ d ⟨⟨_, hcalled, _⟩, ⟨e, he, _⟩ | ⟨hrun, hd⟩⟩ output rfl
      · cases he
      have hguard : d.faultState = b.faultState := hcalled.faultState.trans hc
      apply Exec.post_get_bind
      apply Exec.Post.bind
      · apply (acceptOutput_post (m := m) output resetting d).mono
        rintro _ e ⟨rfl, _, hae, ⟨hacc, hverdict, hce⟩ | ⟨detail, hdetect⟩⟩ _ _
        · rw [hguard] at hacc hverdict
          have hran' := hran (.ok output) d hrun
          exact .executed payload frame resetting b.faultState disabling (c.elapsed m) output _ e
            ⟨hran'.payload_eq, hran'.gate, hran'.prepared, hran'.disabling_iff, hran'.dt_eq,
              hae ▸ hran'.run⟩ hacc hverdict (hce.trans hd)
        · exact .invalid _ e (by rw [hdetect, AxisFault.detect_restartRequired, Bool.or_true])
      · apply (acceptOutput_post (m := m) output resetting d).mono
        rintro _ e ⟨rfl, _⟩ _ he
        cases he
    · apply hcycle.mono
      rintro _ d ⟨⟨_, hcalled, _⟩, ⟨e, he, hunexpected⟩ | ⟨hrun, _⟩⟩ e' rfl
      · cases he
        exact .failed e d hunexpected
      · have hran' := hran (.error e') d hrun
        have hguard : d.faultState = b.faultState := hcalled.faultState.trans hc
        rw [← hguard] at hran'
        exact .rejected payload frame resetting disabling _ e' d hran'
  · apply hpre.mono
    rintro _ c (⟨e, he, hunexpected⟩ | ⟨disabling, hc, hiff, hdt, hdisable⟩) e' rfl
    · cases he
      exact .failed e c hunexpected
    · refine .rejected payload frame resetting disabling _ e' c
        ⟨hpayload, hc ▸ hgate, hc ▸ hprepared, hiff, hdt, ?_⟩
      unfold DriveAdapter.execute
      rw [Exec.run_bind, hdisable]

theorem held_stage {b : Axis F σ} (hadapter : b.adapter = a.adapter)
    (hentered : Entered a.faultState request b.faultState)
    (hphase : b.faultState.phase = a.faultState.phase) (habnormal : a.faultState.phase ≠ .normal) :
    (held : PyM (Axis F σ) Progress).Post b (Stage A m a request) :=
  .held _ b.forgetCycle hadapter hentered hphase habnormal rfl

theorem cycleBody_stage (data : Option String) (hv : a.faultState.Valid) :
    (cycleBody A m data).Post a (Stage A m a (.cycle data)) := by
  have hraise : ∀ e : Exc, (Request.cycle data).payload = none →
      (Exec.raise e : PyM (Axis F σ) Progress).Post a (Stage A m a (.cycle data)) :=
    fun e h => .refused e a rfl (.refl h)
  cases data with
  | none => exact hraise _ rfl
  | some text =>
    simp only [cycleBody]
    cases htext : fromHex text with
    | none => exact hraise _ (by simp [Request.payload, htext])
    | some payload =>
      apply Exec.post_require_bind
      · intro hlen
        have hpayload : (Request.cycle (some text)).payload = some payload := by
          simp [Request.payload, htext, hlen]
        have hprepare := prepare_post (m := m) hv (by rw [hlen]; decide : 2 < payload.length)
        apply Exec.Post.bind
        · apply hprepare.mono
          rintro _ b ⟨frame, resetting, rfl, _, hadapter, hclock, hgate, hprep⟩ _ ⟨⟩
          cases frame with
          | none =>
            have hentered : Entered a.faultState (.cycle (some text)) b.faultState :=
              ⟨hprep.toKept, by rw [hprep.previousCw, Request.word_of_payload _ hpayload]⟩
            have hphase : b.faultState.phase = a.faultState.phase ∧ a.faultState.phase ≠ .normal := by
              generalize b.faultState.phase = phase at hgate
              cases hgate with
              | holds h => exact ⟨rfl, h⟩
            exact held_stage hadapter hentered hphase.1 hphase.2
          | some frame => exact forwarded_stage hadapter hclock hpayload hgate hprep
        · apply hprepare.mono
          rintro _ b ⟨_, _, rfl, _⟩ _ ⟨⟩
      · exact fun hlen => hraise _ (by simp [Request.payload, htext, hlen])

theorem idleBody_stage : (idleBody A m).Post a (Stage A m a .idle) := by
  apply Exec.post_get_bind
  split
  · rename_i habnormal
    exact held_stage rfl (.refl rfl) rfl habnormal
  · rename_i hnormal
    rw [ne_eq, not_not] at hnormal
    have hpoll := Exec.Post.and (innerIdle_post (A := A) a) (innerIdle_model (A := A) a)
    unfold polled
    apply Exec.Post.bind
    · apply hpoll.mono
      rintro _ b ⟨hcalled, hb, hrun⟩ output rfl
      apply Exec.Post.bind
      · apply (acceptOutput_post (m := m) output false b).mono
        rintro _ c ⟨rfl, _, hac, ⟨hacc, hverdict, hc⟩ | ⟨detail, hdetect⟩⟩ _ _
        · rw [hcalled.faultState] at hacc hverdict
          exact .polled output _ c rfl hnormal (hac ▸ hrun) hacc hverdict (hc.trans hb)
        · exact .invalid _ c (by rw [hdetect, AxisFault.detect_restartRequired, Bool.or_true])
      · apply (acceptOutput_post (m := m) output false b).mono
        rintro _ c ⟨rfl, _⟩ _ he
        cases he
    · apply hpoll.mono
      rintro _ b ⟨hcalled, hb, hrun⟩ e rfl
      exact .unread e b hnormal hrun hcalled.faultState


/-- What a cycle or idle request did to the model, unless it ends with a restart required. -/
inductive Modelled (A : DriveAdapter F σ) (m : Moment F) (a : Axis F σ) (request : Request)
    (b : Axis F σ) : Prop
  | restart (restart : b.faultState.restartRequired = true)
  | refused (g₁ : AxisFault) (detail : String) (adapter : b.adapter = a.adapter)
    (entered : Entered a.faultState request g₁)
    (detected : b.faultState = g₁.detect m.time .axisAdapterFault detail) (clock : b.lastCycle = none)
  | rejected (payload frame : Bytes) (resetting : Bool) (g₁ : AxisFault) (disabling : Bool) (dt : F)
    (e : Exc) (ran : Ran A m a request payload frame resetting g₁ disabling dt (.error e) b)
    (expected : e.isDeviceRejected = true)
    (detected : b.faultState = g₁.detect m.time .axisAdapterFault e.message)
    (clock : b.lastCycle = none)
  | held (adapter : b.adapter = a.adapter) (entered : Entered a.faultState request b.faultState)
    (phase : b.faultState.phase = a.faultState.phase) (abnormal : a.faultState.phase ≠ .normal)
    (clock : b.lastCycle = none)
  | executed (payload frame : Bytes) (resetting : Bool) (g₁ : AxisFault) (disabling : Bool) (dt : F)
    (output : Bytes) (ran : Ran A m a request payload frame resetting g₁ disabling dt (.ok output) b)
    (acc : g₁.Accepted output b.faultState)
    (verdict : g₁.Verdict (firstWord output) resetting b.faultState)
    (clock : b.lastCycle = some m.monotonic)
  | unread (e : Exc) (normal : a.faultState.phase = .normal)
    (run : A.readInputs a.adapter = (.error e, b.adapter)) (expected : e.isDeviceRejected = true)
    (detected : b.faultState = a.faultState.detect m.time .axisAdapterFault e.message)
    (clock : b.lastCycle = none)
  | polled (output : Bytes) (request_eq : request = .idle) (normal : a.faultState.phase = .normal)
    (run : A.readInputs a.adapter = (.ok output, b.adapter))
    (acc : a.faultState.Accepted output b.faultState)
    (verdict : a.faultState.Verdict (firstWord output) false b.faultState)
    (clock : b.lastCycle = none)

theorem processData_modelled {body : PyM (Axis F σ) Progress} {a : Axis F σ} {request : Request}
    (hbody : body.Post a (Stage A m a request)) :
    (processData m body).Post a fun _ b => Modelled A m a request b := by
  have hfinish : ∀ (result : Option Reply) (b : Axis F σ), (finish result b).2 = b := by
    intro result b
    unfold finish
    split
    · cases result <;> rfl
    · rfl
  have hrestart : ∀ (e : Exc) (b : Axis F σ), e.isDeviceRejected = false →
      (b.containFault m e).faultState.restartRequired = true := by
    intro e b he
    unfold containFault
    rw [if_neg (by simp [he])]
    change (b.faultState.detect _ _ _ _).restartRequired = true
    rw [AxisFault.detect_restartRequired, Bool.or_true]
  have hrejected : ∀ (e : Exc) (b : Axis F σ), e.isDeviceRejected = true →
      b.containFault m e = (b.detect m .axisAdapterFault e.message).forgetCycle := by
    intro e b he
    unfold containFault
    rw [if_pos he]
  unfold Exec.Post at hbody ⊢
  unfold processData
  generalize body a = p at hbody ⊢
  obtain ⟨r, b⟩ := p
  dsimp only at hbody
  cases hbody with
  | failed e _ unexpected =>
    dsimp only
    rw [hfinish]
    exact .restart (hrestart e b unexpected)
  | refused e _ adapter entered =>
    dsimp only
    rw [hfinish]
    cases he : e.isDeviceRejected with
    | false => exact .restart (hrestart e b he)
    | true =>
      rw [hrejected e b he]
      exact .refused b.faultState e.message adapter entered rfl rfl
  | rejected payload frame resetting disabling dt e _ ran =>
    dsimp only
    rw [hfinish]
    cases he : e.isDeviceRejected with
    | false => exact .restart (hrestart e b he)
    | true =>
      rw [hrejected e b he]
      exact .rejected payload frame resetting b.faultState disabling dt e
        ⟨ran.payload_eq, ran.gate, ran.prepared, ran.disabling_iff, ran.dt_eq, ran.run⟩ he rfl rfl
  | held reply _ adapter entered phase abnormal clock =>
    exact .held adapter entered phase abnormal clock
  | invalid reply _ restart =>
    dsimp only
    rw [hfinish]
    exact .restart restart
  | executed payload frame resetting g₁ disabling dt output reply _ ran acc verdict clock =>
    dsimp only
    rw [hfinish]
    exact .executed payload frame resetting g₁ disabling dt output ran acc verdict clock
  | unread e _ normal run kept =>
    dsimp only
    rw [hfinish]
    cases he : e.isDeviceRejected with
    | false => exact .restart (hrestart e b he)
    | true =>
      rw [hrejected e b he]
      exact .unread e normal run he (kept ▸ rfl) rfl
  | polled output reply _ request_eq normal run acc verdict clock =>
    dsimp only
    rw [hfinish]
    exact .polled output request_eq normal run acc verdict clock

theorem dispatch_modelled (hreq : request.isProcessData = true) (hv : a.faultState.Valid) :
    (dispatch A m request).Post a fun _ b => Modelled A m { a with calls := [] } request b := by
  apply Exec.post_modify_bind
  cases request with
  | cycle data => exact processData_modelled (cycleBody_stage data hv)
  | idle => exact processData_modelled idleBody_stage
  | read | write | describe | other => cases hreq

/-! What an SDO request does to the model: calls that each move it by `R` move it by `R`. -/

/-- The calls an SDO request makes on the adapter. -/
structure SdoCalls (A : DriveAdapter F σ) (R : σ → σ → Prop) : Prop where
  readSdo : ∀ key size, (A.readSdo key size).Keeps R
  writeSdo : ∀ key payload, (A.writeSdo key payload).Keeps R
  odRead : ∀ key, (A.odRead key).Keeps R
  odWriteRole : ∀ kn ∈ saveOutcome, (A.odWriteRole kn.1 (.int kn.2)).Keeps R
  validateParameters : A.validateParameters.Keeps R

variable {R : σ → σ → Prop} [Std.Refl R] [IsTrans σ R]

omit [PyFloat F] in
theorem SdoCalls.parameterValues (h : SdoCalls A R) : (parameterValues A).Keeps R := by
  unfold Runtime.parameterValues
  induction A.persistentRoles with
  | nil => exact Exec.keeps_pure _
  | cons key keys ih =>
    rw [List.mapM_cons]
    refine .bind ?_ fun _ => .bind ih fun _ => Exec.keeps_pure _
    split
    · exact Exec.keeps_raise _
    · exact .bind (h.readSdo _ _) fun _ => Exec.keeps_pure _

omit [PyFloat F] in
theorem SdoCalls.parts (h : SdoCalls A R) : SdoParts A m (Exec.Moves adapter R) where
  readSdo key size a := h.readSdo key size a.adapter
  writeSdo key payload a := h.writeSdo key payload a.adapter
  odRead key a := h.odRead key a.adapter
  writeRole kn hkn a := h.odWriteRole kn hkn a.adapter
  storeSave a := by
    have hsave : (do
        A.validateParameters
        let values ← Runtime.parameterValues A
        Exec.ofExcept (m.save values) : PyM σ Unit).Keeps R :=
      .bind h.validateParameters fun _ => .bind h.parameterValues fun _ => Exec.keeps_ofExcept _
    exact hsave a.adapter
  saveFailed message a := by
    obtain ⟨d, printed, heq⟩ := a.saveFailed_eq (m := m) message
    rw [Exec.run_modify, heq]
    exact refl (r := R) a.adapter
  saveSucceeded a := by
    obtain ⟨d, printed, heq⟩ := a.saveSucceeded_eq (m := m)
    rw [Exec.run_modify, heq]
    exact refl (r := R) a.adapter

/-- An SDO request moves the axis as its parts do. -/
theorem SdoParts.dispatch {R : Axis F σ → Axis F σ → Prop} [Std.Refl R] [IsTrans (Axis F σ) R]
    (h : SdoParts A m R)
    (hdetect : ∀ code detail restart, ∀ b : Axis F σ, R b (b.detect m code detail restart))
    (hcalls : ∀ b : Axis F σ, R b { b with calls := [] }) (hreq : request.isProcessData = false) :
    (dispatch A m request).Keeps R := by
  have haccess : ∀ (saveCommand : Bool) (inner : PyM (Axis F σ) Reply), inner.Keeps R →
      (access m saveCommand inner).Keeps R := by
    intro saveCommand inner hinner
    have hfailed : ∀ (e : Exc) (message : String),
        (accessFailed m e message : PyM (Axis F σ) Reply).Keeps R :=
      fun e message => .bind (fun b => hdetect _ _ _ b) fun _ => Exec.keeps_pure _
    refine .handle hinner fun e => ?_
    split
    · split
      · exact Exec.keeps_raise _
      · exact hfailed _ _
    · split
      · exact Exec.keeps_raise _
      · exact hfailed _ _
  refine .bind hcalls fun _ => ?_
  cases request with
  | cycle | idle => cases hreq
  | describe => exact Exec.keeps_pure _
  | read index subindex =>
    refine .bind (R := R) Exec.keeps_get fun b => ?_
    split
    · exact Exec.keeps_pure _
    · split
      · exact Exec.keeps_pure _
      · exact haccess _ _ (h.innerRead _)
  | write index subindex data =>
    refine .bind (R := R) Exec.keeps_get fun b => ?_
    split
    · exact Exec.keeps_pure _
    · exact haccess _ _ (h.innerWrite _ _)
  | other op => exact haccess _ _ (Exec.keeps_raise _)

theorem dispatch_sdoCalls (h : SdoCalls A R) (hreq : request.isProcessData = false) :
    R a.adapter (dispatch A m request a).2.adapter :=
  h.parts.dispatch (fun _ _ _ b => refl (r := R) b.adapter) (fun b => refl (r := R) b.adapter) hreq a

/-- SDO access leaves the clock reading of the last cycle alone. -/
theorem dispatch_sdo_clock (hreq : request.isProcessData = false) :
    (dispatch A m request a).2.lastCycle = a.lastCycle := by
  have hparts : SdoParts A m (Exec.Fixes lastCycle) := {
    readSdo := fun _ _ => keeps_lastCycle_call _ _
    writeSdo := fun _ _ => keeps_lastCycle_call _ _
    odRead := fun _ => keeps_lastCycle_call _ _
    writeRole := fun _ _ => keeps_lastCycle_call _ _
    storeSave := keeps_lastCycle_call _ _
    saveFailed := fun message b => by
      obtain ⟨d, printed, heq⟩ := b.saveFailed_eq (m := m) message
      rw [Exec.run_modify, heq]
      rfl
    saveSucceeded := fun b => by
      obtain ⟨d, printed, heq⟩ := b.saveSucceeded_eq (m := m)
      rw [Exec.run_modify, heq]
      rfl }
  exact hparts.dispatch (fun _ _ _ _ => rfl) (fun _ => rfl) hreq a

/-! What any request does to the model: calls that each move it by `R` move it by `R`. -/

/-- Every call on the adapter. -/
structure ModelCalls (A : DriveAdapter F σ) (R : σ → σ → Prop) : Prop extends SdoCalls A R where
  applyOutputs : ∀ payload, (A.applyOutputs payload).Keeps R
  step : ∀ dt, (A.step dt).Keeps R
  readInputs : A.readInputs.Keeps R

namespace ModelCalls

omit [PyFloat F] [IsTrans σ R] in
theorem acceptOutput (output : Bytes) (resetting : Bool) :
    (acceptOutput m output resetting : PyM (Axis F σ) Unit).Keeps (Exec.Moves adapter R) := by
  intro b
  have hadapter : (Axis.acceptOutput m output resetting b).2.adapter = b.adapter :=
    (acceptOutput_post output resetting b).2.2.1
  change R b.adapter (Axis.acceptOutput m output resetting b).2.adapter
  rw [hadapter]
  exact refl b.adapter

theorem forwarded (h : ModelCalls A R) (frame : Bytes) (resetting : Bool) :
    (forwarded A m frame resetting).Keeps (Exec.Moves adapter R) := by
  have hforget : (Exec.modify forgetCycle : PyM (Axis F σ) Unit).Keeps (Exec.Moves adapter R) :=
    fun b => refl (r := R) b.adapter
  have hreset : (resetStep A frame).Keeps (Exec.Moves adapter R) := by
    refine .bind hforget fun _ => .bind Exec.keeps_get fun b => ?_
    split
    · exact Exec.keeps_raise _
    · exact .when _ (.bind (fun b => h.applyOutputs _ b.adapter) fun _ b => h.step _ b.adapter)
  have hcycle : (innerCycle A m frame).Keeps (Exec.Moves adapter R) := by
    refine .bind (Exec.keeps_require _ _) fun _ => .bind Exec.keeps_get fun b => ?_
    refine .bind (Exec.keeps_require _ _) fun _ => .bind (fun b => refl (r := R) b.adapter) fun _ => ?_
    refine .bind (fun b => h.applyOutputs _ b.adapter) fun _ => .bind (fun b => h.step _ b.adapter) fun _ => ?_
    refine .bind (fun b => h.readInputs b.adapter) fun _ => .bind (fun b => refl (r := R) b.adapter) fun _ => ?_
    exact Exec.keeps_pure _
  refine .bind (.when _ hreset) fun _ => .bind hcycle fun _ => .bind Exec.keeps_get fun _ => ?_
  exact .bind (acceptOutput _ _) fun _ => Exec.keeps_pure _

omit [PyFloat F] in
theorem held : (held : PyM (Axis F σ) Progress).Keeps (Exec.Moves adapter R) :=
  .bind (fun b => refl (r := R) b.adapter) fun _ => .bind Exec.keeps_get fun _ => Exec.keeps_pure _

theorem cycleBody (h : ModelCalls A R) (data : Option String) :
    (cycleBody A m data).Keeps (Exec.Moves adapter R) := by
  unfold Axis.cycleBody
  split
  · exact Exec.keeps_raise _
  · split
    · exact Exec.keeps_raise _
    · refine .bind (Exec.keeps_require _ _) fun _ => .bind (fun b => refl (r := R) b.adapter) ?_
      rintro ⟨frame, resetting⟩
      cases frame with
      | none => exact held
      | some frame => exact h.forwarded frame resetting

omit [PyFloat F] in
theorem idleBody (h : ModelCalls A R) : (idleBody A m).Keeps (Exec.Moves adapter R) := by
  refine .bind Exec.keeps_get fun b => ?_
  split
  · exact held
  · have hpoll : (innerIdle A).Keeps (Exec.Moves adapter R) :=
      .bind (fun b => refl (r := R) b.adapter) fun _ b => h.readInputs b.adapter
    exact .bind hpoll fun _ => .bind (acceptOutput _ _) fun _ => Exec.keeps_pure _

omit [PyFloat F] [Std.Refl R] [IsTrans σ R] in
theorem processData {body : PyM (Axis F σ) Progress} (hbody : body.Keeps (Exec.Moves adapter R)) :
    (processData m body).Keeps (Exec.Moves adapter R) := by
  intro a
  have hfinish (result : Option Reply) (b : Axis F σ) : (finish result b).2 = b := by
    unfold finish
    split
    · cases result <;> rfl
    · rfl
  have hcontain (e : Exc) (b : Axis F σ) : (b.containFault m e).adapter = b.adapter := by
    unfold containFault
    split <;> rfl
  have hb : R a.adapter (body a).2.adapter := hbody a
  unfold Axis.processData
  generalize body a = p at hb ⊢
  obtain ⟨r, b⟩ := p
  change R a.adapter _
  cases r with
  | ok progress =>
    cases progress with
    | answered reply => exact hb
    | result reply =>
      dsimp only
      rw [hfinish]
      exact hb
  | error e =>
    dsimp only
    rw [hfinish, hcontain]
    exact hb

theorem dispatch (h : ModelCalls A R) (request : Request) (a : Axis F σ) :
    R a.adapter (dispatch A m request a).2.adapter := by
  cases hreq : request.isProcessData with
  | true =>
    cases request with
    | cycle data => exact processData (h.cycleBody data) { a with calls := [] }
    | idle => exact processData h.idleBody { a with calls := [] }
    | read | write | describe | other => cases hreq
  | false => exact dispatch_sdoCalls h.toSdoCalls hreq

end ModelCalls

end Axis

end EthercatSimulator.Runtime
