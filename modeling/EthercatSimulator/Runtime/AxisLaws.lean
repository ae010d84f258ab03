import EthercatSimulator.Diagnostics.FaultLaws
import EthercatSimulator.Runtime.Axis

/-! What one request can do to an axis, whatever its adapter answers. -/

namespace EthercatSimulator.Runtime

open Base Profile Diagnostics

/-- The calls an SDO request makes. -/
def Call.isSdo {F : Type} : Call F → Bool
  | .readSdo _ | .writeSdo _ _ | .odRead _ | .odWriteRole _ | .save => true
  | .applyOutputs _ | .step _ | .readInputs _ => false

/-- The frames handed to the model, in order. -/
def frames {F : Type} (calls : List (Call F)) : List Bytes :=
  calls.filterMap fun
    | .applyOutputs payload => some payload
    | _ => none

@[simp] theorem frames_append {F : Type} (xs ys : List (Call F)) :
    frames (xs ++ ys) = frames xs ++ frames ys := List.filterMap_append

/-- The frame a cycle request carries, when it has the contract length. -/
def Request.payload : Request → Option Bytes
  | .cycle (some text) => (fromHex text).filter fun payload => payload.length = rxSize
  | _ => none

/-- The controlword seen last, after the request. -/
def Request.word (request : Request) (before : Nat) : Nat :=
  match request.payload with
  | some payload => firstWord payload
  | none => before

theorem Request.word_of_payload {request : Request} {payload : Bytes} (before : Nat)
    (h : request.payload = some payload) : request.word before = firstWord payload := by
  simp [word, h]

/-- The guard once it has seen the request's frame. -/
structure Entered (g : AxisFault) (request : Request) (g₁ : AxisFault) : Prop extends
    AxisFault.Kept g g₁ where
  previousCw : g₁.previousCw = request.word g.previousCw

theorem Entered.refl {g : AxisFault} {request : Request} (h : request.payload = none) :
    Entered g request g := ⟨.refl g, by simp [Request.word, h]⟩

def Request.isProcessData : Request → Bool
  | .cycle _ | .idle => true
  | .read _ _ | .write _ _ _ | .describe | .other _ => false

namespace Axis

variable {F σ : Type}

/-- `a'` is `a` after the adapter calls `new` and nothing else the guard reads. -/
structure Called (a : Axis F σ) (new : List (Call F)) (a' : Axis F σ) : Prop where
  faultState : a'.faultState = a.faultState
  calls : a'.calls = a.calls ++ new

namespace Called

variable {a b c : Axis F σ} {xs ys : List (Call F)}

theorem refl (a : Axis F σ) : a.Called [] a := ⟨rfl, (List.append_nil _).symm⟩

theorem trans (h : a.Called xs b) (h' : b.Called ys c) : a.Called (xs ++ ys) c where
  faultState := h'.faultState.trans h.faultState
  calls := by rw [h'.calls, h.calls, List.append_assoc]

end Called

theorem post_call {α : Type} {log : Except Exc α → Call F} {x : PyM σ α} {a : Axis F σ}
    {Q : Except Exc α → Axis F σ → Prop}
    (h : ∀ r a', a.Called [log r] a' → Q r a') : (call log x).Post a Q :=
  h (x a.adapter).1 _ ⟨rfl, rfl⟩

theorem post_call_bind {α β : Type} {log : Except Exc α → Call F} {x : PyM σ α}
    {f : α → PyM (Axis F σ) β} {a : Axis F σ} {Q : Except Exc β → Axis F σ → Prop}
    (hok : ∀ v b, a.Called [log (.ok v)] b → (f v).Post b Q)
    (herr : ∀ e b, a.Called [log (.error e)] b → Q (.error e) b) : (call log x >>= f).Post a Q := by
  apply Exec.Post.bind
  · apply post_call
    intro r b hb v hv
    exact hok v b (hv ▸ hb)
  · apply post_call
    intro r b hb e he
    exact herr e b (he ▸ hb)

variable [PyFloat F] {A : DriveAdapter F σ} {m : Moment F}

/-- The calls of one model cycle that got as far as `r`. -/
inductive CycleCalls (frame : Bytes) : List (Call F) → Except Exc Bytes → Prop
  | refused (e : Exc) : CycleCalls frame [] (.error e)
  | rejected (e : Exc) : CycleCalls frame [.applyOutputs frame] (.error e)
  | stopped (dt : F) (e : Exc) : CycleCalls frame [.applyOutputs frame, .step dt] (.error e)
  | unread (dt : F) (e : Exc) :
    CycleCalls frame [.applyOutputs frame, .step dt, .readInputs none] (.error e)
  | executed (dt : F) (output : Bytes) :
    CycleCalls frame [.applyOutputs frame, .step dt, .readInputs (some output)] (.ok output)

theorem innerCycle_post (frame : Bytes) (a : Axis F σ) :
    (innerCycle A m frame).Post a fun r a' =>
      ∃ new, a.Called new a' ∧ CycleCalls frame new r := by
  apply Exec.post_require_bind
  · intro _
    apply Exec.post_get_bind
    apply Exec.post_require_bind
    · intro _
      apply Exec.post_modify_bind
      have ha : a.Called [] { a with lastCycle := some m.monotonic } := ⟨rfl, (List.append_nil _).symm⟩
      apply post_call_bind
      · intro _ b hb
        apply post_call_bind
        · intro _ c hc
          apply post_call_bind
          · intro output d hd
            have h := ((ha.trans hb).trans hc).trans hd
            exact ⟨_, ⟨h.faultState, h.calls⟩, .executed _ output⟩
          · intro e d hd
            exact ⟨_, ((ha.trans hb).trans hc).trans hd, .unread _ e⟩
        · intro e c hc
          exact ⟨_, (ha.trans hb).trans hc, .stopped _ e⟩
      · intro e b hb
        exact ⟨_, ha.trans hb, .rejected e⟩
    · intro _
      exact ⟨[], Called.refl a, .refused _⟩
  · intro _
    exact ⟨[], Called.refl a, .refused _⟩

/-- Only the disable frame goes to the model before a reset. -/
theorem resetStep_post (frame : Bytes) (a : Axis F σ) :
    (resetStep A frame).Post a fun _ b =>
      ∃ new, a.Called new b ∧ ∀ p ∈ frames new, firstWord p = 0 := by
  have hquiet : ∃ new, a.Called new a.forgetCycle ∧ ∀ p ∈ frames new, firstWord p = 0 :=
    ⟨[], ⟨rfl, (List.append_nil _).symm⟩, by simp [frames]⟩
  have ha : a.Called [] a.forgetCycle := ⟨rfl, (List.append_nil _).symm⟩
  apply Exec.post_modify_bind
  apply Exec.post_get_bind
  cases hf : a.forgetCycle.faultState.fault with
  | none => exact hquiet
  | some d =>
    apply Exec.post_when
    · intro _
      apply post_call_bind
      · intro _ b hb
        apply post_call
        intro _ c hc
        exact ⟨_, (ha.trans hb).trans hc, by simp [frames, leNat]⟩
      · intro e b hb
        exact ⟨_, ha.trans hb, by simp [frames, leNat]⟩
    · intro _
      exact hquiet

omit [PyFloat F] in
/-- The guard takes an output, or latches a fault that needs a restart. -/
theorem acceptOutput_post (output : Bytes) (resetting : Bool) (a : Axis F σ) :
    (acceptOutput m output resetting).Post a fun r b =>
      r = .ok () ∧ b.calls = a.calls ∧ b.adapter = a.adapter ∧
        ((a.faultState.Accepted output b.faultState ∧
            a.faultState.Verdict (firstWord output) resetting b.faultState ∧
            b.lastCycle = a.lastCycle) ∨
          ∃ detail, b.faultState =
            a.faultState.detect m.time .axisModelOutputInvalid detail true) := by
  unfold Exec.Post acceptOutput
  cases hacc : a.faultState.accept m.time output resetting with
  | ok g =>
    have hcases := AxisFault.accept_cases hacc
    exact ⟨rfl, rfl, rfl, .inl ⟨hcases.1, hcases.2, rfl⟩⟩
  | error e =>
    have he : e.isValueError = true := by
      unfold AxisFault.accept at hacc
      split at hacc <;> cases hacc
      rfl
    simp only [he, Bool.true_or, if_true]
    exact ⟨trivial, rfl, rfl, .inr ⟨_, rfl⟩⟩

/-- What a frame that was let through leads to. -/
inductive Forwarded (g : AxisFault) (frame : Bytes) (resetting : Bool) (new : List (Call F)) :
    Except Exc Progress → AxisFault → Prop
  | raised (e : Exc) : Forwarded g frame resetting new (.error e) g
  | invalid (output : Bytes) (cycles : Option Nat) (now : Time) (detail : String) :
    Forwarded g frame resetting new (.ok (.result (.output (hexText output) cycles)))
      (g.detect now .axisModelOutputInvalid detail true)
  | accepted (before : List (Call F)) (dt : F) (output : Bytes) (cycles : Option Nat)
    (g' : AxisFault) (calls : new = before ++
      [.applyOutputs frame, .step dt, .readInputs (some output)])
    (acc : g.Accepted output g') (verdict : g.Verdict (firstWord output) resetting g') :
    Forwarded g frame resetting new (.ok (.result (.output (hexText output) cycles))) g'

theorem forwarded_post (frame : Bytes) (resetting : Bool) (a : Axis F σ) :
    (forwarded A m frame resetting).Post a fun r b =>
      ∃ new, b.calls = a.calls ++ new ∧
        (∀ p ∈ frames new, p = frame ∨ resetting = true ∧ firstWord p = 0) ∧
        Forwarded a.faultState frame resetting new r b.faultState := by
  have hpre : (Exec.when resetting (resetStep A frame)).Post a fun _ b =>
      ∃ new, a.Called new b ∧ ∀ p ∈ frames new, resetting = true ∧ firstWord p = 0 := by
    apply Exec.post_when
    · intro hr
      exact (resetStep_post frame a).mono fun _ _ ⟨new, hc, hp⟩ => ⟨new, hc, fun p h => ⟨hr, hp p h⟩⟩
    · intro _
      exact ⟨[], Called.refl a, by simp [frames]⟩
  have hframes : ∀ {r} {ys : List (Call F)}, CycleCalls frame ys r → ∀ p ∈ frames ys, p = frame := by
    intro r ys h
    cases h <;> simp [frames]
  apply Exec.Post.bind
  · apply hpre.mono
    intro _ b ⟨pre, hb, hpb⟩ _ _
    apply Exec.Post.bind
    · apply (innerCycle_post frame b).mono
      intro _ c ⟨new, hc, hcc⟩ output hr
      have habc := hb.trans hc
      subst hr
      apply Exec.post_get_bind
      apply Exec.Post.bind
      · apply (acceptOutput_post output resetting c).mono
        intro _ d ⟨_, hcalls, _, hguard⟩ _ _
        refine ⟨pre ++ new, hcalls.trans habc.calls, ?_, ?_⟩
        · intro p hp
          rw [frames_append, List.mem_append] at hp
          exact hp.elim (fun h => .inr (hpb p h)) (fun h => .inl (hframes hcc p h))
        · rw [← habc.faultState]
          cases hguard with
          | inl h =>
            cases hcc with
            | executed dt _ => exact .accepted pre dt output _ _ rfl h.1 h.2.1
          | inr h =>
            obtain ⟨detail, h⟩ := h
            change Forwarded _ _ _ _ (.ok _) d.faultState
            rw [h]
            exact .invalid output _ _ detail
      · apply (acceptOutput_post output resetting c).mono
        intro _ d ⟨hok, _⟩ e he
        rw [hok] at he
        cases he
    · apply (innerCycle_post frame b).mono
      intro _ c ⟨new, hc, hcc⟩ e hr
      have habc := hb.trans hc
      subst hr
      refine ⟨pre ++ new, habc.calls, ?_, habc.faultState ▸ .raised e⟩
      intro p hp
      rw [frames_append, List.mem_append] at hp
      exact hp.elim (fun h => .inr (hpb p h)) (fun h => .inl (hframes hcc p h))
  · apply hpre.mono
    intro _ b ⟨pre, hb, hpb⟩ e _
    exact ⟨pre, hb.calls, fun p hp => .inr (hpb p hp), hb.faultState ▸ .raised e⟩

/-- What the body of the fault boundary leads to.  `g` is the guard before the request. -/
inductive Body (g : AxisFault) (request : Request) (new : List (Call F)) :
    Except Exc Progress → AxisFault → Prop
  | raised (e : Exc) (g₁ : AxisFault) (kept : Entered g request g₁) : Body g request new (.error e) g₁
  | held (g₁ : AxisFault) (kept : Entered g request g₁) (phase : g₁.phase = g.phase)
    (abnormal : g.phase ≠ .normal) (calls : new = []) :
    Body g request new (.ok (.answered (.guard g₁.response none))) g₁
  | invalid (g₁ : AxisFault) (kept : Entered g request g₁) (output : Bytes) (cycles : Option Nat)
    (now : Time) (detail : String) :
    Body g request new (.ok (.result (.output (hexText output) cycles)))
      (g₁.detect now .axisModelOutputInvalid detail true)
  | executed (payload frame : Bytes) (resetting : Bool) (g₁ : AxisFault)
    (before : List (Call F)) (dt : F) (output : Bytes) (cycles : Option Nat) (g' : AxisFault)
    (payload_eq : request.payload = some payload)
    (gate : g.Gate payload (some frame) resetting g₁.phase) (prepared : g.Prepared payload g₁)
    (calls : new = before ++ [.applyOutputs frame, .step dt, .readInputs (some output)])
    (acc : g₁.Accepted output g') (verdict : g₁.Verdict (firstWord output) resetting g') :
    Body g request new (.ok (.result (.output (hexText output) cycles))) g'
  | polled (output : Bytes) (g' : AxisFault) (request_eq : request = .idle)
    (normal : g.phase = .normal) (calls : new = [.readInputs (some output)])
    (acc : g.Accepted output g') (verdict : g.Verdict (firstWord output) false g') :
    Body g request new (.ok (.result (.output (hexText output) none))) g'

/-- The calls the guard allows: none once a restart is required, and only the disable and the
reset word while a fault is latched. -/
structure Allowed (g : AxisFault) (new : List (Call F)) : Prop where
  restart : g.restartRequired = true → new = []
  controlword : g.fault ≠ none → ∀ p ∈ frames new, firstWord p = 0 ∨ firstWord p = 0x80

omit [PyFloat F] in
theorem Allowed.nil (g : AxisFault) : Allowed g ([] : List (Call F)) := ⟨fun _ => rfl, by simp [frames]⟩

omit [PyFloat F] in
theorem held_post {g : AxisFault} {request : Request} (a : Axis F σ)
    (kept : Entered g request a.faultState) (phase : a.faultState.phase = g.phase) (abnormal : g.phase ≠ .normal) :
    (held : PyM (Axis F σ) Progress).Post a fun r b => ∃ new, b.calls = a.calls ++ new ∧
      Allowed g new ∧ Body g request new r b.faultState :=
  ⟨[], (List.append_nil _).symm, .nil g, .held a.faultState kept phase abnormal rfl⟩

omit [PyFloat F] in
theorem prepare_post {a : Axis F σ} (hv : a.faultState.Valid) {payload : Bytes}
    (hlen : 2 < payload.length) : (prepare m payload).Post a fun r b =>
      ∃ frame resetting, r = .ok (frame, resetting) ∧ b.calls = a.calls ∧
        b.adapter = a.adapter ∧ b.lastCycle = a.lastCycle ∧
        a.faultState.Gate payload frame resetting b.faultState.phase ∧
        a.faultState.Prepared payload b.faultState := by
  apply Exec.post_zoom
  obtain ⟨frame, resetting, hr, hgate, hprep⟩ := AxisFault.prepare_gate hv hlen
    (Prod.eta (AxisFault.prepare m.time payload a.faultState)).symm
  exact ⟨frame, resetting, hr, rfl, rfl, rfl, hgate, hprep⟩

theorem cycleBody_post (data : Option String) (a : Axis F σ) (hv : a.faultState.Valid) :
    (cycleBody A m data).Post a fun r b => ∃ new, b.calls = a.calls ++ new ∧
      Allowed a.faultState new ∧ Body a.faultState (.cycle data) new r b.faultState := by
  have hraise : ∀ e : Exc, (Request.cycle data).payload = none →
      (Exec.raise e : PyM (Axis F σ) Progress).Post a fun r b => ∃ new, b.calls = a.calls ++ new ∧
        Allowed a.faultState new ∧ Body a.faultState (.cycle data) new r b.faultState :=
    fun e h => ⟨[], (List.append_nil _).symm, .nil _, .raised e _ (.refl h)⟩
  cases data with
  | none => exact hraise _ rfl
  | some text =>
    simp only [cycleBody]
    cases htext : fromHex text with
    | none => exact hraise _ (by simp [Request.payload, htext])
    | some payload =>
      apply Exec.post_require_bind
      · intro hlen
        have hpayload : (Request.cycle (some text)).payload = some payload := by
          simp [Request.payload, htext, hlen]
        have hlen2 : 2 < payload.length := by rw [hlen]; decide
        apply Exec.Post.bind
        · apply (prepare_post hv hlen2).mono
          intro _ b ⟨frame, resetting, hr, hcalls, _, _, hgate, hprep⟩ ⟨_, _⟩ hr'
          rw [hr] at hr'
          cases hr'
          rw [← hcalls]
          have hentered : Entered a.faultState (.cycle (some text)) b.faultState :=
            ⟨hprep.toKept, by rw [hprep.previousCw, Request.word_of_payload _ hpayload]⟩
          cases frame with
          | none =>
            have hphase : b.faultState.phase = a.faultState.phase ∧ a.faultState.phase ≠ .normal := by
              generalize b.faultState.phase = phase at hgate
              cases hgate with
              | holds h => exact ⟨rfl, h⟩
            exact held_post b hentered hphase.1 hphase.2
          | some frame =>
            apply (forwarded_post frame resetting b).mono
            intro r c ⟨new, hnew, hframes, hfwd⟩
            refine ⟨new, hnew, ⟨?_, ?_⟩, ?_⟩
            · intro hrestart
              rw [hgate.not_restart hv] at hrestart
              cases hrestart
            · intro hf p hp
              cases hframes p hp with
              | inl h => exact h ▸ hgate.controlword hv hf
              | inr h => exact .inl h.2
            · generalize c.faultState = g' at hfwd
              cases hfwd with
              | raised e => exact .raised e _ hentered
              | invalid output cycles now detail =>
                exact .invalid _ hentered output cycles now detail
              | accepted before dt output cycles _ calls acc verdict =>
                exact .executed payload frame resetting _ before dt output cycles g' hpayload hgate
                  hprep calls acc verdict
        · apply (prepare_post hv hlen2).mono
          intro _ b ⟨_, _, hr, _⟩ e he
          rw [hr] at he
          cases he
      · intro hlen
        exact hraise _ (by simp [Request.payload, htext, hlen])

omit [PyFloat F] in
theorem innerIdle_post (a : Axis F σ) : (innerIdle A).Post a fun r b =>
    a.Called [.readInputs r.toOption] b := by
  apply Exec.post_modify_bind
  apply post_call
  intro r b hb
  exact ⟨hb.faultState, hb.calls⟩

omit [PyFloat F] in
theorem idleBody_post (a : Axis F σ) (hv : a.faultState.Valid) :
    (idleBody A m).Post a fun r b => ∃ new, b.calls = a.calls ++ new ∧
      Allowed a.faultState new ∧ Body a.faultState .idle new r b.faultState := by
  apply Exec.post_get_bind
  split
  · rename_i habnormal
    exact held_post a (.refl rfl) rfl habnormal
  · rename_i hnormal
    rw [ne_eq, not_not] at hnormal
    have hallowed : ∀ new : List (Call F), Allowed a.faultState new := by
      intro new
      refine ⟨fun hr => ?_, fun hf => ?_⟩
      · have := hv.phase_of_restart hr
        simp_all
      · have := hv.fault_iff.mp hf
        simp_all
    unfold polled
    apply Exec.Post.bind
    · apply (innerIdle_post a).mono
      intro _ b hb output hr
      subst hr
      apply Exec.Post.bind
      · apply (acceptOutput_post output false b).mono
        intro _ c ⟨_, hcalls, _, hguard⟩ _ _
        refine ⟨_, hcalls.trans hb.calls, hallowed _, ?_⟩
        change Body _ _ _ (.ok _) c.faultState
        rw [hb.faultState] at hguard
        cases hguard with
        | inl h => exact .polled output _ rfl hnormal rfl h.1 h.2.1
        | inr h =>
          obtain ⟨detail, h⟩ := h
          rw [h]
          exact .invalid _ (.refl rfl) output _ _ detail
      · apply (acceptOutput_post output false b).mono
        intro _ c ⟨hok, _⟩ e he
        rw [hok] at he
        cases he
    · apply (innerIdle_post a).mono
      intro _ b hb e hr
      exact ⟨_, hb.calls, hallowed _, hb.faultState ▸ .raised e _ (.refl rfl)⟩

/-! SDO access is made of calls on the adapter and of the bookkeeping of failed saves. -/

/-- What a successful save command writes to the roles of its outcome. -/
def saveOutcome : List (Key × Int) :=
  [(Key.parameterSaveStatus, 0), (Key.parameterSaveReturnCode, 0), (Key.parameterSaveReturnValue, 1)]

/-- Every part of an SDO access moves the axis by `R`. -/
structure SdoParts (A : DriveAdapter F σ) (m : Moment F) (R : Axis F σ → Axis F σ → Prop) : Prop where
  readSdo : ∀ key size, (readSdo A key size).Keeps R
  writeSdo : ∀ key payload, (writeSdo A key payload).Keeps R
  odRead : ∀ key, (call (fun _ => .odRead key) (A.odRead key) : PyM (Axis F σ) _).Keeps R
  writeRole : ∀ kn ∈ saveOutcome, (writeRole A kn.1 kn.2).Keeps R
  storeSave : (storeSave A m).Keeps R
  saveFailed : ∀ message, (Exec.modify (saveFailed m message) : PyM (Axis F σ) Unit).Keeps R
  saveSucceeded : (Exec.modify (saveSucceeded m) : PyM (Axis F σ) Unit).Keeps R

section SdoParts

variable {R : Axis F σ → Axis F σ → Prop} [Std.Refl R] [IsTrans (Axis F σ) R]

omit [PyFloat F] in
theorem SdoParts.saveParameters (h : SdoParts A m R) : (saveParameters A m).Keeps R := by
  apply Exec.Keeps.bind
  · exact .handle h.storeSave fun e => .bind (h.saveFailed _) fun _ => Exec.keeps_raise _
  · exact fun _ => h.saveSucceeded

theorem SdoParts.selectedSave (h : SdoParts A m R) : (selectedSave A m).Keeps R := by
  refine .bind (h.odRead _) fun _ => ?_
  exact .bind (Exec.keeps_require _ _) fun _ => h.saveParameters

omit [PyFloat F] in
theorem SdoParts.readPrevious (h : SdoParts A m R) (key : Key) (size : Nat) (rights : Access) :
    (readPrevious A key size rights).Keeps R := by
  unfold Axis.readPrevious
  split
  · exact Exec.keeps_pure _
  · exact .bind (h.readSdo _ _) fun _ => Exec.keeps_pure _

omit [PyFloat F] [IsTrans (Axis F σ) R] in
theorem SdoParts.restorePrevious (h : SdoParts A m R) (key : Key) (previous : Option Bytes) :
    (restorePrevious A key previous).Keeps R := by
  cases previous with
  | none => exact Exec.keeps_pure _
  | some raw => exact h.writeSdo key raw

theorem SdoParts.describedWrite (h : SdoParts A m R) (key : Key) (payload : Bytes)
    (rights : Access) : (describedWrite A m key payload rights).Keeps R := by
  refine .bind (h.readPrevious _ _ _) fun previous => .bind (h.writeSdo _ _) fun _ => ?_
  refine .bind Exec.keeps_get fun a => .when _ (.bind ?_ ?_)
  · exact .handle h.selectedSave fun _ => .bind (h.restorePrevious key previous) fun _ =>
      Exec.keeps_raise _
  · refine fun _ => .bind (h.writeRole (_, 0) (by simp [saveOutcome])) fun _ => ?_
    exact .bind (h.writeRole (_, 0) (by simp [saveOutcome])) fun _ =>
      h.writeRole (_, 1) (by simp [saveOutcome])

omit [PyFloat F] in
theorem SdoParts.innerRead (h : SdoParts A m R) (key : Key) : (innerRead A key).Keeps R := by
  unfold Axis.innerRead
  split
  · exact Exec.keeps_raise _
  · exact .bind (Exec.keeps_require _ _) fun _ => .bind (h.readSdo _ _) fun _ => Exec.keeps_pure _

theorem SdoParts.innerWrite (h : SdoParts A m R) (key : Key) (data : Option String) :
    (innerWrite A m key data).Keeps R := by
  unfold Axis.innerWrite
  split
  · exact Exec.keeps_raise _
  · split
    · exact Exec.keeps_raise _
    · split
      · exact Exec.keeps_raise _
      · exact .bind (Exec.keeps_require _ _) fun _ => .bind (h.describedWrite _ _ _) fun _ =>
          Exec.keeps_pure _

end SdoParts

/-- SDO calls only, and the guard left alone. -/
def SdoOnly (a b : Axis F σ) : Prop := ∃ new, a.Called new b ∧ ∀ c ∈ new, c.isSdo = true

omit [PyFloat F] in
theorem SdoOnly.of_eq {a b : Axis F σ} (hg : b.faultState = a.faultState) (hc : b.calls = a.calls) :
    a.SdoOnly b := ⟨[], ⟨hg, by rw [hc, List.append_nil]⟩, by simp⟩

instance : Std.Refl (SdoOnly (F := F) (σ := σ)) := ⟨fun _ => .of_eq rfl rfl⟩

instance : IsTrans (Axis F σ) SdoOnly where
  trans _ _ _ := fun ⟨xs, h, hxs⟩ ⟨ys, h', hys⟩ =>
    ⟨xs ++ ys, h.trans h', fun c hc => (List.mem_append.mp hc).elim (hxs c) (hys c)⟩

omit [PyFloat F] in
theorem keeps_call {α : Type} {log : Except Exc α → Call F} {x : PyM σ α}
    (h : ∀ r, (log r).isSdo = true) : (call log x).Keeps SdoOnly := fun a =>
  ⟨[log (x a.adapter).1], ⟨rfl, rfl⟩, by simpa using h _⟩

omit [PyFloat F] in
/-- The bookkeeping of failed saves touches the list of diagnostics only. -/
theorem saveFailed_eq (message : String) (a : Axis F σ) : ∃ d printed,
    a.saveFailed m message = { a with saveDiagnostic := d, savePrinted := printed } := by
  unfold saveFailed
  split <;> exact ⟨_, _, rfl⟩

omit [PyFloat F] in
theorem saveSucceeded_eq (a : Axis F σ) : ∃ d printed,
    a.saveSucceeded m = { a with saveDiagnostic := d, savePrinted := printed } := by
  unfold saveSucceeded
  split <;> exact ⟨_, _, rfl⟩

omit [PyFloat F] in
theorem sdoParts_sdoOnly : SdoParts A m (SdoOnly (F := F) (σ := σ)) where
  readSdo _ _ := keeps_call fun _ => rfl
  writeSdo _ _ := keeps_call fun _ => rfl
  odRead _ := keeps_call fun _ => rfl
  writeRole _ _ := keeps_call fun _ => rfl
  storeSave := keeps_call fun _ => rfl
  saveFailed message a := by
    obtain ⟨d, printed, h⟩ := a.saveFailed_eq (m := m) message
    rw [Exec.run_modify, h]
    exact .of_eq rfl rfl
  saveSucceeded a := by
    obtain ⟨d, printed, h⟩ := a.saveSucceeded_eq (m := m)
    rw [Exec.run_modify, h]
    exact .of_eq rfl rfl

/-- What an SDO request does to the guard. -/
inductive SdoOutcome (g : AxisFault) : AxisFault → Prop
  | kept : SdoOutcome g g
  | failed (unlatched : g.restartRequired = false) (now : Time) (detail : String) :
    SdoOutcome g (g.detect now .axisModelExecutionFailed detail true)

omit [PyFloat F] in
theorem access_post {saveCommand : Bool} {inner : PyM (Axis F σ) Reply} (hinner : inner.Keeps SdoOnly)
    (a : Axis F σ) (hr : a.faultState.restartRequired = false) :
    (access m saveCommand inner).Post a fun _ b => ∃ new, b.calls = a.calls ++ new ∧
      (∀ c ∈ new, c.isSdo = true) ∧ SdoOutcome a.faultState b.faultState := by
  obtain ⟨new, hcalled, hsdo⟩ := hinner a
  have hkept : ∀ b : Axis F σ, b = (inner a).2 → ∃ new, b.calls = a.calls ++ new ∧
      (∀ c ∈ new, c.isSdo = true) ∧ SdoOutcome a.faultState b.faultState := by
    intro b hb
    subst hb
    exact ⟨new, hcalled.calls, hsdo, hcalled.faultState ▸ .kept⟩
  have hfailed : ∀ (e : Exc) (message : String) (b : Axis F σ), b = (inner a).2 →
      (accessFailed m e message).Post b fun _ c => ∃ new, c.calls = a.calls ++ new ∧
        (∀ c ∈ new, c.isSdo = true) ∧ SdoOutcome a.faultState c.faultState := by
    intro e message b hb
    subst hb
    refine ⟨new, hcalled.calls, hsdo, ?_⟩
    change SdoOutcome _ (AxisFault.detect (inner a).2.faultState _ _ _ _)
    rw [hcalled.faultState]
    exact .failed hr _ _
  apply Exec.Post.handle
  · intro r _
    exact hkept _ rfl
  · intro e _
    split
    · split
      · exact hkept _ rfl
      · exact hfailed e _ _ rfl
    · split
      · exact hkept _ rfl
      · exact hfailed e _ _ rfl

/-- What a cycle or idle request does to the guard. -/
inductive Outcome (g : AxisFault) (request : Request) (calls : List (Call F)) : AxisFault → Prop
  | held (g' : AxisFault) (kept : Entered g request g') (phase : g'.phase = g.phase)
    (abnormal : g.phase ≠ .normal) (quiet : calls = []) : Outcome g request calls g'
  | faulted (g₁ : AxisFault) (kept : Entered g request g₁) (now : Time) (code : Code) (detail : String)
    (restart : Bool) : Outcome g request calls (g₁.detect now code detail restart)
  | executed (payload frame : Bytes) (resetting : Bool) (g₁ : AxisFault) (before : List (Call F))
    (dt : F) (output : Bytes) (g' : AxisFault) (payload_eq : request.payload = some payload)
    (gate : g.Gate payload (some frame) resetting g₁.phase) (prepared : g.Prepared payload g₁)
    (calls_eq : calls = before ++ [.applyOutputs frame, .step dt, .readInputs (some output)])
    (acc : g₁.Accepted output g') (verdict : g₁.Verdict (firstWord output) resetting g') :
    Outcome g request calls g'
  | polled (output : Bytes) (g' : AxisFault) (request_eq : request = .idle)
    (normal : g.phase = .normal) (calls_eq : calls = [.readInputs (some output)])
    (acc : g.Accepted output g') (verdict : g.Verdict (firstWord output) false g') :
    Outcome g request calls g'

/-- A cycle or idle request is always answered, with what the guard publishes. -/
structure Processed (g : AxisFault) (request : Request) (r : Except Exc Reply) (calls : List (Call F))
    (g' : AxisFault) : Prop where
  valid : g'.Valid
  reply : ∃ reply, r = .ok reply ∧ reply.data = some (hexText g'.responseData)
  allowed : Allowed g calls
  outcome : Outcome g request calls g'

omit [PyFloat F] in
theorem containFault_faultState (e : Exc) (a : Axis F σ) :
    ∃ code restart, (a.containFault m e).faultState = a.faultState.detect m.time code e.message restart ∧
      (a.containFault m e).calls = a.calls := by
  unfold containFault
  split <;> exact ⟨_, _, rfl, rfl⟩

omit [PyFloat F] in
theorem finish_faulted (result : Option Reply) {a : Axis F σ} (h : a.faultState.phase = .fault) :
    finish result a = (.ok (.guard a.faultState.response (some a.cycles)), a) := by
  unfold finish
  rw [if_neg]
  rintro ⟨hp, -⟩
  rw [h] at hp
  cases hp

omit [PyFloat F] in
/-- The model's own output is returned only where the guard would publish the same bytes. -/
theorem finish_output {a : Axis F σ} {output : Bytes} (cycles : Option Nat)
    (hlast : a.faultState.last = output) :
    ∃ reply, finish (some (.output (hexText output) cycles)) a = (.ok reply, a) ∧
      reply.data = some (hexText a.faultState.responseData) := by
  unfold finish
  split
  · rename_i h
    exact ⟨_, rfl, by simp [Reply.data, AxisFault.responseData, h.2, hlast]⟩
  · exact ⟨_, rfl, rfl⟩

omit [PyFloat F] in
theorem processData_processed {body : PyM (Axis F σ) Progress} {request : Request} (a : Axis F σ)
    (hv : a.faultState.Valid)
    (hbody : body.Post a fun r b => ∃ new, b.calls = a.calls ++ new ∧
      Allowed a.faultState new ∧ Body a.faultState request new r b.faultState) :
    (processData m body).Post a fun r b => ∃ new, b.calls = a.calls ++ new ∧
      Processed a.faultState request r new b.faultState := by
  obtain ⟨new, hcalls, hallowed, hb⟩ := hbody
  have hfinish : ∀ (b : Axis F σ) (output : Bytes) (cycles : Option Nat),
      b.calls = a.calls ++ new → b.faultState.last = output → b.faultState.Valid →
      Outcome a.faultState request new b.faultState →
      (finish (some (.output (hexText output) cycles))).Post b fun r c =>
        ∃ new, c.calls = a.calls ++ new ∧ Processed a.faultState request r new c.faultState := by
    intro b output cycles hb hlast hvalid hout
    obtain ⟨reply, hr, hdata⟩ := finish_output cycles hlast
    unfold Exec.Post
    rw [hr]
    exact ⟨new, hb, hvalid, ⟨reply, rfl, hdata⟩, hallowed, hout⟩
  have hfaulted : ∀ (b : Axis F σ) (result : Option Reply), b.calls = a.calls ++ new →
      b.faultState.phase = .fault → b.faultState.Valid →
      Outcome a.faultState request new b.faultState →
      (finish result).Post b fun r c =>
        ∃ new, c.calls = a.calls ++ new ∧ Processed a.faultState request r new c.faultState := by
    intro b result hb hphase hvalid hout
    unfold Exec.Post
    rw [finish_faulted result hphase]
    exact ⟨new, hb, hvalid, ⟨_, rfl, rfl⟩, hallowed, hout⟩
  unfold Exec.Post processData
  generalize body a = p at hcalls hb ⊢
  obtain ⟨r, b⟩ := p
  dsimp only at hcalls hb
  generalize hg : b.faultState = g' at hb
  cases hb with
  | raised e _ kept =>
    obtain ⟨code, restart, hstate, hc⟩ := containFault_faultState (m := m) e b
    rw [hg] at hstate
    apply hfaulted
    · rw [hc, hcalls]
    · rw [hstate]; rfl
    · rw [hstate]; exact AxisFault.detect_valid ..
    · rw [hstate]; exact .faulted _ kept _ _ _ _
  | held _ kept phase abnormal calls =>
    subst hg
    refine ⟨new, hcalls, ?_, ⟨_, rfl, rfl⟩, hallowed, .held _ kept phase abnormal calls⟩
    constructor
    · rw [kept.toKept.fault_iff, phase]
      exact hv.fault_iff
    · rw [kept.restartRequired, phase]
      exact hv.phase_of_restart
  | invalid g₁ kept output cycles now detail =>
    apply hfaulted
    · exact hcalls
    · rw [hg]; rfl
    · rw [hg]; exact AxisFault.detect_valid ..
    · rw [hg]; exact .faulted _ kept _ _ _ _
  | executed payload frame resetting g₁ before dt output cycles _ payload_eq gate prepared calls acc
      verdict =>
    subst hg
    have hv₁ := gate.valid prepared hv
    have hr₁ := prepared.restartRequired.trans (gate.not_restart hv)
    apply hfinish _ _ _ hcalls acc.last (verdict.valid acc hv₁ hr₁)
    exact .executed payload frame resetting g₁ before dt output _ payload_eq gate prepared calls acc
      verdict
  | polled output _ request_eq normal calls acc verdict =>
    subst hg
    have hr : a.faultState.restartRequired = false := by
      by_contra h
      have := hv.phase_of_restart (by simpa using h)
      simp_all
    apply hfinish _ _ _ hcalls acc.last (verdict.valid acc hv hr)
    exact .polled output _ request_eq normal calls acc verdict

/-- The cycle and idle cases of `dispatch`. -/
theorem dispatch_processed {request : Request} (hreq : request.isProcessData = true) (a : Axis F σ)
    (hv : a.faultState.Valid) : (dispatch A m request).Post a fun r b =>
      Processed a.faultState request r b.calls b.faultState := by
  apply Exec.post_modify_bind
  set a₀ : Axis F σ := { a with calls := [] }
  cases request with
  | cycle data =>
    exact (processData_processed a₀ hv (cycleBody_post data a₀ hv)).mono
      fun _ _ ⟨_, hcalls, h⟩ => hcalls ▸ h
  | idle =>
    exact (processData_processed a₀ hv (idleBody_post a₀ hv)).mono
      fun _ _ ⟨_, hcalls, h⟩ => hcalls ▸ h
  | read | write | describe | other => cases hreq

/-- The other requests.  Once a restart is required they reach neither guard nor adapter. -/
structure SdoAnswered (g : AxisFault) (calls : List (Call F)) (g' : AxisFault) : Prop where
  sdo : ∀ c ∈ calls, c.isSdo = true
  outcome : SdoOutcome g g'
  restart : g.restartRequired = true → calls = []

theorem dispatch_sdo {request : Request} (hreq : request.isProcessData = false) (a : Axis F σ) :
    (dispatch A m request).Post a fun _ b => SdoAnswered a.faultState b.calls b.faultState := by
  apply Exec.post_modify_bind
  set a₀ : Axis F σ := { a with calls := [] }
  have hnone : SdoAnswered a₀.faultState a₀.calls a₀.faultState :=
    ⟨by simp [a₀], .kept, fun _ => rfl⟩
  have haccess : ∀ (saveCommand : Bool) (inner : PyM (Axis F σ) Reply), inner.Keeps SdoOnly →
      a₀.faultState.restartRequired = false → (access m saveCommand inner).Post a₀ fun _ b =>
        SdoAnswered a₀.faultState b.calls b.faultState := by
    intro saveCommand inner hinner hr
    apply (access_post hinner a₀ hr).mono
    intro _ b ⟨new, hcalls, hsdo, hout⟩
    have hcalls : b.calls = new := hcalls
    rw [hcalls]
    exact ⟨hsdo, hout, fun h => absurd h (by simp [hr])⟩
  cases request with
  | cycle | idle => cases hreq
  | describe => exact hnone
  | read index subindex =>
    apply Exec.post_get_bind
    split
    · exact hnone
    · split
      · exact hnone
      · rename_i hr
        exact haccess _ _ (sdoParts_sdoOnly.innerRead (m := m) _) (by simpa using hr)
  | write index subindex data =>
    apply Exec.post_get_bind
    split
    · exact hnone
    · rename_i hr
      exact haccess _ _ (sdoParts_sdoOnly.innerWrite _ _) (by simpa using hr)
  | other op => exact hnone

end Axis

end EthercatSimulator.Runtime
