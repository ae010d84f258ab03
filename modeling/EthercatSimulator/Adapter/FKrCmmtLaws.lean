import EthercatSimulator.Adapter.FKrCmmt
import EthercatSimulator.Behaviour.SoundLaws
import EthercatSimulator.Runtime.ModelLaws

/-! What the adapter calls do to the virtual servo. -/

namespace EthercatSimulator.Adapter

open Base Profile Diagnostics Behaviour EthercatSimulator.Runtime

namespace FKrCmmt

variable {F : Type} [PyFloat F] {s : Servo F}

/-- What a frame commands. -/
def commands (payload : Bytes) : List (Key × Value F) := [
  (Key.controlword, .int (leNat (payload.take 2))),
  (Key.modeOfOperation, .int (leInt ((payload.drop 2).take 1))),
  (Key.targetPosition, .int (leInt ((payload.drop 3).take 4))),
  (Key.profileVelocity, .int (leNat ((payload.drop 7).take 4))),
  (Key.targetVelocity, .int (leInt ((payload.drop 11).take 4))),
  (Key.targetTorque, .int (leInt ((payload.drop 15).take 2))),
  (Key.velocityOffset, .int (leInt ((payload.drop 17).take 4))),
  (Key.torqueOffset, .int (leInt ((payload.drop 21).take 2)))]

omit [PyFloat F] in
/-- One object of a frame that is long enough. -/
theorem rxpdoFrom_mapped {payload : Bytes} {key : Key} {t : DataType} (ht : t ≠ .float32)
    (default : Int) (rest : List PdoObject) {offset : Nat} (hlen : offset + t.size ≤ payload.length)
    (od : Od F) :
    let raw := (payload.drop offset).take t.size
    rxpdoFrom payload (.mapped key t default :: rest) offset od =
      rxpdoFrom payload rest (offset + t.size)
        (od.write key (.int (if t.signed then leInt raw else leNat raw))) := by
  intro raw
  have hraw : raw.length = t.size := by
    rw [List.length_take, List.length_drop]
    omega
  have hobject : (rxpdoObject (.mapped key t default) raw : PyM (Od F) Unit) od =
      (.ok (), od.write key (.int (if t.signed then leInt raw else leNat raw))) := by
    unfold rxpdoObject
    dsimp only
    rw [decodeOdValue_int ht hraw]
    rfl
  have hrequire : (Exec.require (offset + t.size ≤ payload.length)
      (payloadTooSmall (offset + t.size) payload.length) : PyM (Od F) Unit) od = (.ok (), od) := by
    rw [Exec.require, if_pos hlen]
    rfl
  rw [rxpdoFrom]
  exact (Exec.run_bind_ok hrequire _).trans (Exec.run_bind_ok hobject _)

omit [PyFloat F] in
theorem rxpdoPayloadToOd_ok {payload : Bytes} (hlen : payload.length = rxSize) (od : Od F) :
    rxpdoPayloadToOd payload od = (.ok (), od.writeAll (commands payload)) := by
  have hlen : payload.length = 24 := hlen
  unfold rxpdoPayloadToOd rxpdoObjects
  iterate 8 rw [rxpdoFrom_mapped (by decide) _ _ (by simp only [DataType.size]; omega)]
  have hpadding : ∀ {offset : Nat} (od : Od F), offset + 1 ≤ payload.length →
      rxpdoFrom payload [.padding 1] offset od = (.ok (), od) := by
    intro offset od h
    have hrequire : (Exec.require (offset + 1 ≤ payload.length)
        (payloadTooSmall (offset + 1) payload.length) : PyM (Od F) Unit) od = (.ok (), od) := by
      rw [Exec.require, if_pos h]
      rfl
    exact Exec.run_bind_ok hrequire _
  rw [hpadding _ (by simp only [DataType.size]; omega)]
  rfl

omit [PyFloat F] in
/-- The modes of a frame are checked before it is written. -/
theorem validateModes_keeps (payload : Bytes) (objects : List PdoObject) (offset : Nat) :
    (validateModes payload objects offset : PyM (Servo F) Unit).Keeps (Exec.Fixes id) := by
  induction objects generalizing offset with
  | nil => exact Exec.keeps_pure ()
  | cons o rest ih =>
    cases o with
    | padding n => exact ih _
    | mapped key t default =>
      exact .bind (R := Exec.Fixes id) (.when _ (Exec.keeps_require _ _)) fun _ => ih _

omit [PyFloat F] in
/-- A frame is refused as a whole or written as a whole. -/
theorem applyOutputs_post (payload : Bytes) (s : Servo F) :
    (applyOutputs payload).Post s fun r s' =>
      (∃ e, r = .error e ∧ s' = s) ∨
        r = .ok () ∧ payload.length = rxSize ∧
          s' = { s with od := s.od.writeAll (commands payload) } := by
  have hmodes : (validateModes payload rxpdoObjects 0).Post s fun _ s' => s' = s :=
    validateModes_keeps payload rxpdoObjects 0 s
  apply Exec.post_require_bind
  · intro hlen
    apply Exec.Post.bind
    · apply hmodes.mono
      rintro _ _ rfl _ _
      apply Exec.post_zoom
      unfold Exec.Post
      rw [rxpdoPayloadToOd_ok hlen]
      exact .inr ⟨rfl, hlen, rfl⟩
    · apply hmodes.mono
      rintro _ _ rfl e rfl
      exact .inl ⟨e, rfl, rfl⟩
  · exact fun _ => .inl ⟨_, rfl, rfl⟩

theorem readInputs_eq (s : Servo F) : readInputs s = (odToTxpdoPayload s.od, s) :=
  Exec.run_ofExcept _ s

theorem readSdo_eq (key : Key) (s : Servo F) : readSdo key s = (bridgeReadSdo s.od key, s) :=
  Exec.run_ofExcept _ s

omit [PyFloat F] in
/-- A write is refused, or reaches the one object. -/
theorem writeSdo_post (key : Key) (payload : Bytes) (s : Servo F) :
    (writeSdo key payload).Post s fun r s' =>
      (∃ e, r = .error e ∧ s' = s) ∨
        r = .ok () ∧ ∃ od, bridgeWriteSdo s.od key payload = .ok od ∧ s' = { s with od := od } := by
  have hmode : (Exec.when (key = Key.modeOfOperation) (validateMode (leInt payload))).Post s
      fun _ s' => s' = s := by
    apply Exec.post_when
    · exact fun _ => Exec.post_require (fun _ => rfl) fun _ => rfl
    · exact fun _ => rfl
  apply Exec.Post.bind
  · apply hmode.mono
    rintro _ _ rfl _ _
    apply Exec.post_get_bind
    apply Exec.Post.bind
    · apply Exec.post_ofExcept
      intro od hod
      exact .inr ⟨rfl, od, hod, rfl⟩
    · apply Exec.post_ofExcept
      intro e _
      exact .inl ⟨e, rfl, rfl⟩
  · apply hmode.mono
    rintro _ _ rfl e rfl
    exact .inl ⟨e, rfl, rfl⟩

/-- What SDO access can do to the servo: rewrite its dictionary, the statusword apart. -/
structure Rewritten (s s' : Servo F) : Prop where
  frame : ∃ od, s' = { s with od := od }
  sound : s.od.Sound → s'.od.Sound
  statusword : s'.od Key.statusword = s.od Key.statusword

instance : Std.Refl (Rewritten (F := F)) := ⟨fun s => ⟨⟨s.od, rfl⟩, id, rfl⟩⟩

instance : IsTrans (Servo F) Rewritten where
  trans _ _ _ := fun ⟨⟨_, h⟩, hsound, hstatus⟩ ⟨⟨od, h'⟩, hsound', hstatus'⟩ =>
    ⟨⟨od, by rw [h', h]⟩, hsound' ∘ hsound, hstatus'.trans hstatus⟩

omit [PyFloat F] in
/-- The statusword is read-only. -/
theorem bridgeWriteSdo_statusword {od od' : Od F} {key : Key} {payload : Bytes}
    (h : bridgeWriteSdo od key payload = .ok od') : od' Key.statusword = od Key.statusword := by
  obtain ⟨d, v, hd, haccess, _, rfl⟩ := bridgeWriteSdo_ok h
  apply od.write_of_ne
  rintro rfl
  cases hd
  exact haccess rfl

theorem sdoCalls : Axis.SdoCalls (fKrCmmt F) Rewritten where
  readSdo key _ s := by
    change Rewritten s (readSdo key s).2
    rw [readSdo_eq]
    exact refl s
  writeSdo key payload s := by
    change Rewritten s (writeSdo key payload s).2
    rcases writeSdo_post key payload s with ⟨e, _, h⟩ | ⟨_, od, hod, h⟩
    · rw [h]
      exact refl s
    · rw [h]
      exact ⟨⟨od, rfl⟩, fun hs => hs.bridgeWrite hod, bridgeWriteSdo_statusword hod⟩
  odRead _ s := refl s
  odWriteRole kn hkn s := by
    refine ⟨⟨_, rfl⟩, fun hs => ?_, ?_⟩
    · simp only [Axis.saveOutcome, List.mem_cons, List.not_mem_nil, or_false] at hkn
      apply hs.write
      intro d hd _
      rcases hkn with rfl | rfl | rfl <;> cases hd <;>
        exact fits_int (by decide) (by decide) (by decide)
    · have hne : ∀ kn ∈ Axis.saveOutcome, Key.statusword ≠ kn.1 := by decide
      exact s.write_od_of_ne _ (hne kn hkn)
  validateParameters := Exec.keeps_pure ()

/-- Any call keeps a sound dictionary sound. -/
theorem modelCalls : Axis.ModelCalls (fKrCmmt F) (Exec.Preserves fun s => s.od.Sound) where
  readSdo key size s := (sdoCalls.readSdo key size s).sound
  writeSdo key payload s := (sdoCalls.writeSdo key payload s).sound
  odRead key s := (sdoCalls.odRead key s).sound
  odWriteRole kn hkn s := (sdoCalls.odWriteRole kn hkn s).sound
  validateParameters s := (sdoCalls.validateParameters s).sound
  applyOutputs payload s hs := by
    rcases applyOutputs_post payload s with ⟨_, _, h⟩ | ⟨_, hlen, h⟩
    · change (applyOutputs payload s).2.od.Sound
      rw [h]
      exact hs
    · have hwritten := rxpdoFrom_sound payload rxpdoObjects_declared 0 hs
      change ((rxpdoPayloadToOd payload s.od).2 : Od F).Sound at hwritten
      rw [rxpdoPayloadToOd_ok hlen] at hwritten
      change (applyOutputs payload s).2.od.Sound
      rw [h]
      exact hwritten
  step dt s hs := Servo.modelUpdate_sound (s := { s with cycleTime := dt }) hs
  readInputs s hs := by
    change (readInputs s).2.od.Sound
    rw [readInputs_eq]
    exact hs

/-- The servo as an update finds it after a frame. -/
def framed (s : Servo F) (frame : Bytes) (dt : F) : Servo F :=
  { s with od := s.od.writeAll (commands frame), cycleTime := dt }

omit [PyFloat F] in
theorem framed_controlword (s : Servo F) (frame : Bytes) (dt : F) :
    (framed s frame dt).controlword = firstWord frame := rfl

omit [PyFloat F] in
theorem framed_mode (s : Servo F) (frame : Bytes) (dt : F) :
    (framed s frame dt).od.int Key.modeOfOperation = leInt ((frame.drop 2).take 1) := rfl

omit [PyFloat F] in
theorem framed_statusword (s : Servo F) (frame : Bytes) (dt : F) :
    (framed s frame dt).od Key.statusword = s.od Key.statusword := rfl

theorem framed_sound {frame : Bytes} (hlen : frame.length = rxSize) (hs : s.od.Sound) (dt : F) :
    (framed s frame dt).od.Sound := by
  have hwritten := rxpdoFrom_sound frame rxpdoObjects_declared 0 hs
  change ((rxpdoPayloadToOd frame s.od).2 : Od F).Sound at hwritten
  rw [rxpdoPayloadToOd_ok hlen] at hwritten
  exact hwritten

theorem framed_settled {frame : Bytes} {dt : F} (h : s.Settled) : (framed s frame dt).Settled :=
  ⟨h.actualVelocity, h.ppActive⟩

omit [PyFloat F] in
theorem framed_faultless {frame : Bytes} {dt : F} (h : s.Faultless) : (framed s frame dt).Faultless :=
  ⟨h.sm, h.homingError, h.statusword⟩

/-! Process data out. -/

omit [PyFloat F] in
theorem packInt_unexpected {t : DataType} {n : Int} {e : Exc} (h : packInt t n = .error e) :
    Servo.Unexpected e := by
  unfold packInt at h
  split at h <;> cases h
  rfl

theorem encodeOdValue_unexpected {t : DataType} {v : Value F} {e : Exc}
    (h : encodeOdValue t v = .error e) : Servo.Unexpected e := by
  have hpack : ∀ x : F, packFloat x = .error e → Servo.Unexpected e := by
    intro x hx
    unfold packFloat at hx
    split at hx <;> cases hx
    rfl
  by_cases ht : t = .float32
  · subst ht
    cases v with
    | int n => exact hpack _ h
    | float x => exact hpack _ h
    | float32 bits => cases h
  · rw [encodeOdValue_int ht] at h
    cases hv : v.toInt with
    | ok n =>
      rw [hv] at h
      exact packInt_unexpected h
    | error e' =>
      rw [hv] at h
      cases h
      cases v with
      | int n => cases hv
      | float x => exact Servo.floatToInt_unexpected hv
      | float32 bits => exact Servo.floatToInt_unexpected hv

theorem encodePdoObjects_unexpected {od : Od F} {objects : List PdoObject} {e : Exc}
    (h : encodePdoObjects od objects = .error e) : Servo.Unexpected e := by
  induction objects with
  | nil => cases h
  | cons o rest ih =>
    rw [encodePdoObjects] at h
    cases ho : encodePdoObject od o with
    | error e' =>
      rw [ho] at h
      cases h
      cases o with
      | padding n => cases ho
      | mapped key t default => exact encodeOdValue_unexpected ho
    | ok raw =>
      cases hrest : encodePdoObjects od rest with
      | error e' =>
        rw [ho, hrest] at h
        cases h
        exact ih hrest
      | ok tail =>
        rw [ho, hrest] at h
        cases h

/-- The first object of the process data is the statusword. -/
theorem firstWord_txpdo {od : Od F} {output : Bytes} {w : Nat} (hw : od Key.statusword = .int w)
    (hlt : w < 2 ^ 16) (h : odToTxpdoPayload od = .ok output) : firstWord output = w := by
  unfold odToTxpdoPayload txpdoObjects at h
  rw [encodePdoObjects] at h
  have hencode : encodePdoObject od (.mapped Key.statusword .uint16 64) = .ok (leBytesInt 2 w) := by
    change encodeOdValue .uint16 (od Key.statusword) = _
    rw [hw]
    change packInt .uint16 w = _
    rw [packInt, if_pos]
    · rfl
    · rw [show DataType.low .uint16 = 0 from rfl, show DataType.high .uint16 = 65535 from rfl]
      omega
  rw [hencode] at h
  change (encodePdoObjects od _ >>= fun tail => .ok (leBytesInt 2 w ++ tail)) = _ at h
  cases htail : encodePdoObjects od [.mapped Key.modeOfOperationDisplay .int8 8,
      .mapped Key.actualPosition .int32 0, .mapped Key.actualVelocity .int32 0,
      .mapped Key.actualTorque .int16 0, .padding 1] with
  | error e =>
    rw [htail] at h
    cases h
  | ok tail =>
    rw [htail] at h
    cases h
    rw [firstWord_append (length_leBytesInt 2 _)]
    have hint := leNat_leBytesInt (k := 2) (z := w) (by omega) (by norm_num; omega)
    exact_mod_cast hint

/-! The calls of one cycle together. -/

/-- The servo after it took a frame and updated. -/
def updated (s : Servo F) (frame : Bytes) (dt : F) : Servo F :=
  (Servo.modelUpdate (framed s frame dt)).2

/-- A cycle that was not refused updates the servo; the refusal is the only rejection. -/
inductive Cycled (s : Servo F) (frame : Bytes) (dt : F) : Except Exc Bytes → Servo F → Prop
  | refused (e : Exc) : Cycled s frame dt (.error e) s
  | failed (e : Exc) (unexpected : Servo.Unexpected e) (length : frame.length = rxSize) :
    Cycled s frame dt (.error e) (updated s frame dt)
  | done (output : Bytes) (length : frame.length = rxSize)
    (update : (Servo.modelUpdate (framed s frame dt)).1 = .ok ())
    (txpdo : odToTxpdoPayload (updated s frame dt).od = .ok output) :
    Cycled s frame dt (.ok output) (updated s frame dt)

theorem cycle_post (frame : Bytes) (dt : F) (s : Servo F) :
    ((fKrCmmt F).cycle frame dt).Post s (Cycled s frame dt) := by
  have hstep : ∀ od : Od F, (step dt : PyM (Servo F) Unit) { s with od := od } =
      Servo.modelUpdate { s with od := od, cycleTime := dt } := fun _ => rfl
  have happly := applyOutputs_post frame s
  apply Exec.Post.bind
  · apply happly.mono
    rintro _ _ (⟨e, rfl, rfl⟩ | ⟨rfl, hlen, rfl⟩) _ he
    · cases he
    apply Exec.Post.bind
    · unfold Exec.Post
      change ∀ _, ((step dt : PyM (Servo F) Unit) _).1 = _ → _
      rw [hstep]
      intro _ hok
      change readInputs.Post (updated s frame dt) _
      unfold Exec.Post
      rw [readInputs_eq]
      cases hout : odToTxpdoPayload (updated s frame dt).od with
      | ok output => exact .done output hlen hok hout
      | error e => exact .failed e (encodePdoObjects_unexpected hout) hlen
    · unfold Exec.Post
      change ∀ e, ((step dt : PyM (Servo F) Unit) _).1 = _ → _
      rw [hstep]
      exact fun e he => .failed e (Servo.modelUpdate_raises _ e he) hlen
  · apply happly.mono
    rintro _ _ (⟨e, rfl, rfl⟩ | ⟨rfl, _⟩) e' he
    · cases he
      exact .refused e
    · cases he

/-- The disable step is refused, or stops the drive where it is. -/
inductive Disabled (s : Servo F) (frame : Bytes) : Except Exc Unit → Servo F → Prop
  | refused (e : Exc) : Disabled s frame (.error e) s
  | done (length : (withControlword [0x00, 0x00] frame).length = rxSize) :
    Disabled s frame (.ok ())
      (updated s (withControlword [0x00, 0x00] frame) (PyFloat.ofRat (2 / 1000)))

theorem started_disabled {s : Servo F} (h : s.controlword = 0) : s.started.enabled = false := by
  have hs := s.started_spec
  unfold Servo.enabled
  rw [hs.sm, Servo.applyOdCommands_controlword, h, ite_self, CiA402State.process_zero]
  rfl

theorem disable_post (frame : Bytes) (s : Servo F) :
    ((fKrCmmt F).disable frame).Post s (Disabled s frame) := by
  have happly := applyOutputs_post (withControlword [0x00, 0x00] frame) s
  apply Exec.Post.bind
  · apply happly.mono
    rintro _ _ (⟨e, rfl, rfl⟩ | ⟨rfl, hlen, rfl⟩) _ he
    · cases he
    have hd := started_disabled
      (framed_controlword s (withControlword [0x00, 0x00] frame) (PyFloat.ofRat (2 / 1000)))
    have hupdate := Servo.modelUpdate_disabled _ hd
    have hok : (Servo.modelUpdate (framed s (withControlword [0x00, 0x00] frame)
        (PyFloat.ofRat (2 / 1000)))).1 = .ok () := by rw [hupdate]
    change Disabled s frame (Servo.modelUpdate (framed s _ _)).1 (updated s _ _)
    rw [hok]
    exact .done hlen
  · apply happly.mono
    rintro _ _ (⟨e, rfl, rfl⟩ | ⟨rfl, _⟩) e' he
    · cases he
      exact .refused e
    · cases he

/-- The servo a cycle starts from, with and without the disable step. -/
inductive Before (s : Servo F) (frame : Bytes) : Bool → Servo F → Prop
  | plain : Before s frame false s
  | disabled (length : (withControlword [0x00, 0x00] frame).length = rxSize) :
    Before s frame true
      (updated s (withControlword [0x00, 0x00] frame) (PyFloat.ofRat (2 / 1000)))

theorem execute_post (disabling : Bool) (frame : Bytes) (dt : F) (s : Servo F) :
    ((fKrCmmt F).execute disabling frame dt).Post s fun r s' =>
      (∃ e, r = .error e ∧ s' = s) ∨
        ∃ s₁, Before s frame disabling s₁ ∧ Cycled s₁ frame dt r s' := by
  cases disabling with
  | false =>
    have hcycle := cycle_post frame dt s
    exact .inr ⟨s, .plain, hcycle⟩
  | true =>
    have hdisable := disable_post frame s
    apply Exec.Post.bind
    · apply Exec.post_when
      · intro _
        apply hdisable.mono
        intro r s₁ h _ hr
        cases h with
        | refused e => cases hr
        | done hlen => exact .inr ⟨_, .disabled hlen, cycle_post frame dt _⟩
      · exact fun h => absurd rfl h
    · apply Exec.post_when
      · intro _
        apply hdisable.mono
        intro r s₁ h e hr
        cases h with
        | refused e' => exact .inl ⟨e, rfl, rfl⟩
        | done hlen => cases hr
      · exact fun h => absurd rfl h

/-! What an update keeps. -/

/-- What holds of the servo between two requests. -/
structure Intact (s : Servo F) : Prop where
  settled : s.Settled
  faultless : s.Faultless
  sound : s.od.Sound

theorem construct_intact (mode : AxisMode) : Intact (Servo.construct mode : Servo F) :=
  ⟨Servo.construct_settled mode, Servo.construct_faultless mode, configured_sound mode⟩

theorem updated_intact (h : Intact s) {frame : Bytes} {dt : F} (hlen : frame.length = rxSize)
    (hok : (Servo.modelUpdate (framed s frame dt)).1 = .ok ()) : Intact (updated s frame dt) :=
  ⟨Servo.update_settled (framed_settled h.settled),
    Servo.update_faultless (framed_faultless h.faultless) hok,
    Servo.modelUpdate_sound (framed_sound hlen h.sound dt)⟩

theorem updated_sm (s : Servo F) (frame : Bytes) (dt : F) :
    (updated s frame dt).sm = s.sm.process
      (if (framed s frame dt).deviceResetRequested then 0 else firstWord frame) := by
  obtain ⟨q, hdriven, hpublished⟩ := (framed s frame dt).modelUpdate_published
  have hstarted := (framed s frame dt).started_spec
  unfold updated
  rw [hpublished.sm, hdriven.sm, hstarted.sm, Servo.applyOdCommands_controlword,
    framed_controlword]
  rfl

/-- A disabled drive is enabled by the enable command only. -/
theorem updated_disabled {frame : Bytes} (hd : s.enabled = false)
    (hword : firstWord frame &&& 0x8f ≠ 0xf) (dt : F) : (updated s frame dt).enabled = false := by
  by_contra hne
  have hsm : (updated s frame dt).sm = .operationEnabled := by
    unfold Servo.enabled at hne
    simpa using hne
  rw [updated_sm] at hsm
  rcases CiA402State.of_process_enabled hsm with h | ⟨_, h⟩
  · unfold Servo.enabled at hd
    rw [h] at hd
    cases hd
  · split_ifs at h
    exact hword h

theorem disabled_ok (s : Servo F) (frame : Bytes) (dt : F) : (Servo.modelUpdate
    (framed s (withControlword [0x00, 0x00] frame) dt)).1 = .ok () := by
  have hd := started_disabled (framed_controlword s (withControlword [0x00, 0x00] frame) dt)
  rw [Servo.modelUpdate_disabled _ hd]

theorem Before.intact {s₁ : Servo F} {frame : Bytes} {disabling : Bool}
    (hbefore : Before s frame disabling s₁) (h : Intact s) : Intact s₁ := by
  cases hbefore with
  | plain => exact h
  | disabled hlen => exact updated_intact h hlen (disabled_ok s frame _)

theorem Before.enabled {s₁ : Servo F} {frame : Bytes} (hbefore : Before s frame true s₁) :
    s₁.enabled = false := by
  cases hbefore with
  | disabled hlen =>
    unfold Servo.enabled
    rw [updated_sm, firstWord_withControlword]
    simp [leNat]

end FKrCmmt

end EthercatSimulator.Adapter
