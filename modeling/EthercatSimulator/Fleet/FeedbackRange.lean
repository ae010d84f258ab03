import EthercatSimulator.Behaviour.CycleTime
import EthercatSimulator.Fleet.Protocol
import EthercatSimulator.Profile.WireRange
import EthercatSimulator.Runtime.PlainCycle
import EthercatSimulator.Storage.SnapshotLaws

/-! What well-formed process data can do to the virtual servo: it fails only where the feedback leaves the
range of its objects. -/

namespace EthercatSimulator.Fleet

open Base Profile Diagnostics Behaviour Adapter Storage EthercatSimulator.Runtime ExtRat
open FKrCmmt (Intact framed updated)

/-! The frames a drive takes. -/

/-- The mode a frame selects is idle or one of the drive's. -/
def selectsSupported (frame : Bytes) : Prop :=
  let mode := leInt ((frame.drop 2).take 1)
  mode = 0 ∨ mode ∈ FKrCmmt.supportedModes

section Frames

variable {F : Type} [PyFloat F] {s : Servo F} {frame : Bytes}

omit [PyFloat F] in
theorem validateModes_ok (hmode : selectsSupported frame) :
    FKrCmmt.validateModes frame rxpdoObjects 0 s = (.ok (), s) := by
  have hmode : leInt ((frame.drop 2).take 1) = 0 ∨ leInt ((frame.drop 2).take 1) ∈ FKrCmmt.supportedModes := hmode
  have hvalid : (FKrCmmt.validateMode (leInt ((frame.drop 2).take 1)) : PyM (Servo F) Unit) s = (.ok (), s) :=
    Exec.run_require hmode _ s
  exact Exec.run_bind_ok hvalid _

omit [PyFloat F] in
theorem applyOutputs_ok (hlen : frame.length = rxSize) (hmode : selectsSupported frame) :
    FKrCmmt.applyOutputs frame s = (.ok (), { s with od := s.od.writeAll (FKrCmmt.commands frame) }) := by
  unfold FKrCmmt.applyOutputs
  rw [Exec.run_bind_ok (Exec.run_require hlen _ s), Exec.run_bind_ok (validateModes_ok hmode)]
  unfold FKrCmmt.onOd Exec.zoom
  rw [FKrCmmt.rxpdoPayloadToOd_ok hlen]

/-- A frame that is taken and steps the drive leaves what the drive shows. -/
theorem cycle_updated (hlen : frame.length = rxSize) (hmode : selectsSupported frame) {dt : F}
    (hruns : Servo.modelUpdate.Runs (framed s frame dt)) :
    (fKrCmmt F).cycle frame dt s = (odToTxpdoPayload (updated s frame dt).od, updated s frame dt) := by
  obtain ⟨⟨⟩, hok⟩ := hruns
  have hstep : (FKrCmmt.step dt : PyM (Servo F) Unit) { s with od := s.od.writeAll (FKrCmmt.commands frame) } =
      (.ok (), updated s frame dt) := Prod.ext hok rfl
  unfold DriveAdapter.cycle
  exact (Exec.run_bind_ok (applyOutputs_ok hlen hmode) _).trans ((Exec.run_bind_ok hstep _).trans
    (FKrCmmt.readInputs_eq _))

end Frames

/-! What the process data shows. -/

/-- The feedback of the drive fits its objects. -/
structure FeedbackFits (s : Servo ExtRat) : Prop where
  position : InRange (s.od Key.actualPosition)
  velocity : InRange (s.od Key.actualVelocity)

theorem encodePdoObjects_of_each {F : Type} [PyFloat F] {od : Od F} {objects : List PdoObject}
    (h : ∀ o ∈ objects, ∃ raw, encodePdoObject od o = .ok raw) : ∃ output, encodePdoObjects od objects = .ok output := by
  induction objects with
  | nil => exact ⟨[], rfl⟩
  | cons o rest ih =>
    obtain ⟨raw, hraw⟩ := h o List.mem_cons_self
    obtain ⟨tail, htail⟩ := ih fun o' ho' => h o' (List.mem_cons_of_mem _ ho')
    exact ⟨raw ++ tail, by rw [encodePdoObjects, hraw, htail]; rfl⟩

/-- Of what the process data shows, the feedback alone can fail to fit. -/
theorem txpdo_iff {s : Servo ExtRat} (hs : s.od.Sound) :
    (∃ output, odToTxpdoPayload s.od = .ok output) ↔ FeedbackFits s := by
  constructor
  · rintro ⟨output, houtput⟩
    have hposition : .mapped Key.actualPosition .int32 0 ∈ txpdoObjects := .tail _ (.tail _ (.head _))
    have hvelocity : .mapped Key.actualVelocity .int32 0 ∈ txpdoObjects := .tail _ (.tail _ (.tail _ (.head _)))
    exact ⟨(encodable_iff _).mp (encodable_of_objects houtput hposition),
      (encodable_iff _).mp (encodable_of_objects houtput hvelocity)⟩
  · intro h
    have hfits (key : Key) {d : Definition} (hd : definition key = some d) (hmotion : ¬ key.isMotion) :
        Encodable d.dataType (s.od key) := (hs key d hd hmotion).encodable
    refine encodePdoObjects_of_each fun o ho => ?_
    simp only [txpdoObjects, List.mem_cons, List.not_mem_nil, or_false] at ho
    rcases ho with rfl | rfl | rfl | rfl | rfl | rfl
    · exact hfits Key.statusword rfl (by simp [Key.isMotion])
    · exact hfits Key.modeOfOperationDisplay rfl (by simp [Key.isMotion])
    · exact (encodable_iff _).mpr h.position
    · exact (encodable_iff _).mpr h.velocity
    · exact hfits Key.actualTorque rfl (by simp [Key.isMotion])
    · exact ⟨_, rfl⟩

/-! An opened or restored axis is in order. -/

section Reached

variable {F : Type} [PyFloat F] {format : Format} {device : Device} {a : Axis F (Servo F)}

theorem intact_write {s : Servo F} (h : Intact s) {key : Key} {v : Value F} (hkey : key ≠ Key.statusword)
    (hv : ∀ d, definition key = some d → Fits d.dataType v) : Intact (s.write key v) := by
  obtain ⟨w, hw, hlt, hand⟩ := h.faultless.statusword
  exact ⟨⟨h.settled.actualVelocity, h.settled.ppActive⟩, ⟨h.faultless.sm, h.faultless.homingError, w,
    (s.write_od_of_ne v hkey.symm).trans hw, hlt, hand⟩, h.sound.write key v fun d hd _ => hv d hd⟩

/-- The statusword is no parameter. -/
theorem load_intact {files : Base.Files String UInt8} {found : Bool} {s s' : Servo F} (hs : Intact s)
    (hload : load format device (fKrCmmt F) (fKrDrive F).access files s = (.ok found, s')) : Intact s' := by
  rcases fKrServes.load_ok hload with rfl | ⟨text, decoded, hdecoded, rfl⟩
  · exact hs
  · obtain ⟨data, document, expected, hrestored⟩ := decodeSnapshot_ok.mp hdecoded
    refine writeDecoded_keeps (fun kv hkv s hs => ?_) hs
    obtain ⟨⟨key, original⟩, he, hone⟩ := exists_of_mapM hrestored.decode hkv
    obtain ⟨hkey, d, raw, payload, hvalue⟩ := decodeParameter_ok.mp hone
    have hrole : key ∈ (fKrCmmt F).persistentRoles :=
      (valuesOf_ok.mp hrestored.read).1 ▸ List.mem_map_of_mem (f := Prod.fst) he
    have hne : ∀ role ∈ Profile.persistentRoles ++ [Key.profileVelocity], role ≠ Key.statusword := by decide
    rw [hkey]
    refine intact_write hs (hne key hrole) fun d' hd' => ?_
    obtain rfl : d = d' := Option.some.inj (hvalue.definition.symm.trans hd')
    exact fits_of_decode hvalue.value

theorem start_sane {s : Servo F} (hs : Intact s) (slaveIndex : Nat) (initial : Bytes) (hasStore : Bool) :
    FKr.Sane (Axis.start slaveIndex s initial hasStore) :=
  ⟨Axis.start_valid .., fun _ hd => (nomatch hd), hs, fun hn => absurd rfl hn, fun hn => absurd rfl hn⟩

theorem fKr_sane (ha : (fKrDrive F).Reachable format device a) :
    a.faultState.Valid ∧ (a.faultState.restartRequired = false → FKr.Sane a) := by
  have hopened {s s' : Servo F} {initial : Bytes} (opens : s = Servo.construct device.mode)
      (hrun : openModel (fKrCmmt F) s = (.ok initial, s')) : Intact s' := by
    obtain ⟨_, hconstruct⟩ := openModel_fKr (F := F) device.mode
    rw [opens, hconstruct] at hrun
    exact (Prod.mk.inj hrun).2 ▸ FKrCmmt.construct_intact device.mode
  induction ha with
  | opened slaveIndex opens run => exact ⟨Axis.start_valid .., fun _ => start_sane (hopened opens run) ..⟩
  | restored slaveIndex opens run loaded =>
    exact ⟨Axis.start_valid .., fun _ => start_sane (load_intact (hopened opens run) loaded) ..⟩
  | @dispatched a m request _ ih =>
    refine ⟨Axis.dispatch_valid m request a ih.1, fun hrestart => ?_⟩
    refine FKr.dispatch_sane (ih.2 ?_) hrestart
    by_contra hne
    rw [Bool.not_eq_false] at hne
    exact nomatch hrestart.symm.trans (Axis.dispatch_latched (A := fKrCmmt F) m request ih.1 hne).2.1

end Reached

/-! One request. -/

variable {format : Format} {device : Device} {a : Axis ExtRat (Servo ExtRat)} {m : Moment ExtRat}

/-- A cycle request with a frame of the contract's length in a supported mode, no more than 100 ms after the
last cycle. -/
structure GoodCycle (a : Axis ExtRat (Servo ExtRat)) (m : Moment ExtRat) (data : Option String) (frame : Bytes) :
    Prop where
  data_eq : ∃ text, data = some text ∧ fromHex text = some frame
  length : frame.length = rxSize
  mode : selectsSupported frame
  elapsed : ∃ dt : ℚ, a.elapsed m = num dt ∧ 0 < dt ∧ dt ≤ 1 / 10

/-- What the drive shows after the frame. -/
abbrev after (a : Axis ExtRat (Servo ExtRat)) (m : Moment ExtRat) (frame : Bytes) : Servo ExtRat :=
  updated a.adapter frame (a.elapsed m)

/-- A good cycle is answered with the drive's feedback, or with a fault that needs a restart. -/
inductive CycleOutcome (a : Axis ExtRat (Servo ExtRat)) (m : Moment ExtRat) (frame : Bytes) :
    Except Exc Reply → Axis ExtRat (Servo ExtRat) → Prop
  | answered (output : Bytes) (b : Axis ExtRat (Servo ExtRat)) (fits : FeedbackFits (after a m frame))
    (adapter : b.adapter = after a m frame) (txpdo : odToTxpdoPayload b.adapter.od = .ok output)
    (healthy : Healthy b.faultState) :
    CycleOutcome a m frame (.ok (.output (hexText output) (some (a.cycles + 1)))) b
  | crashed (r : Except Exc Reply) (b : Axis ExtRat (Servo ExtRat)) (leaves : ¬ FeedbackFits (after a m frame))
    (restart : b.faultState.restartRequired = true) : CycleOutcome a m frame r b

theorem output_length (ha : (fKrDrive ExtRat).Reachable format device a) {od : Od ExtRat} {output : Bytes}
    (h : odToTxpdoPayload od = .ok output) : output.length = a.faultState.last.length := by
  rw [length_encodePdoObjects h, reachable_last (fKrOd ExtRat) ha]
  rfl

theorem dispatch_cycle (ha : (fKrDrive ExtRat).Reachable format device a) (h : Healthy a.faultState)
    {data : Option String} {frame : Bytes} (hgood : GoodCycle a m data frame) :
    (Axis.dispatch (fKrCmmt ExtRat) m (.cycle data)).Post a (CycleOutcome a m frame) := by
  obtain ⟨text, rfl, htext⟩ := hgood.data_eq
  obtain ⟨dt, hdt, hpos, hgap⟩ := hgood.elapsed
  have hrestart := (fKr_sane ha).1.restart_of_fault_none h.fault
  have hintact := ((fKr_sane ha).2 hrestart).servo
  have hsound := FKrCmmt.framed_sound hgood.length hintact.sound (a.elapsed m)
  have hruns : Servo.modelUpdate.Runs (framed a.adapter frame (a.elapsed m)) :=
    (Servo.modelUpdate_runs hsound hdt).mpr (.inl hpos.ne')
  have hok : (Servo.modelUpdate (framed a.adapter frame (a.elapsed m))).1 = .ok () := hruns.choose_spec
  have hafter : Intact (after a m frame) := FKrCmmt.updated_intact hintact hgood.length hok
  have hrun := cycle_updated (s := a.adapter) hgood.length hgood.mode hruns
  by_cases hfits : FeedbackFits (after a m frame)
  · obtain ⟨output, houtput⟩ := (txpdo_iff hafter.sound).mpr hfits
    rw [show odToTxpdoPayload (updated a.adapter frame (a.elapsed m)).od = .ok output from houtput] at hrun
    have hlate : ¬ PyFloat.ofRat (1 / 10) < a.elapsed m := by
      rw [hdt, ofRat_eq, num_lt, not_lt]
      exact hgap
    refine (Axis.dispatch_ok (m := m) h htext hgood.length hlate hrun (output_length ha houtput)
      (FKr.firstWord_output hafter houtput).2).mono ?_
    rintro _ b ⟨rfl, hb, hhealthy, _⟩
    exact .answered output b hfits hb (hb ▸ houtput) hhealthy
  · cases houtput : odToTxpdoPayload (updated a.adapter frame (a.elapsed m)).od with
    | ok output => exact absurd ((txpdo_iff hafter.sound).mp ⟨output, houtput⟩) hfits
    | error e =>
      rw [houtput] at hrun
      exact .crashed _ _ hfits (Axis.dispatch_failed (m := m) h htext hgood.length hrun
        (FKrCmmt.encodePdoObjects_unexpected houtput))

/-- No other request to a healthy axis changes that. -/
theorem dispatch_other (ha : (fKrDrive ExtRat).Reachable format device a) (h : Healthy a.faultState)
    {request : Request} (hother : ∀ data, request ≠ .cycle data) :
    Healthy (Axis.dispatch (fKrCmmt ExtRat) m request a).2.faultState := by
  have hreadable := fKr_readable ha h.fault
  have hrestart := (fKr_sane ha).1.restart_of_fault_none h.fault
  cases hreq : request.isProcessData with
  | true =>
    cases request with
    | cycle data => exact absurd rfl (hother data)
    | idle =>
      have hintact := ((fKr_sane ha).2 hrestart).servo
      have hfits : FeedbackFits a.adapter :=
        ⟨(encodable_iff _).mp (hreadable.values Key.actualPosition _ rfl),
          (encodable_iff _).mp (hreadable.values Key.actualVelocity _ rfl)⟩
      obtain ⟨output, houtput⟩ := (txpdo_iff hintact.sound).mpr hfits
      have hrun : (fKrCmmt ExtRat).readInputs a.adapter = (.ok output, a.adapter) := by
        change FKrCmmt.readInputs a.adapter = _
        rw [FKrCmmt.readInputs_eq, houtput]
      exact (Axis.dispatch_idle (m := m) h hrun (output_length ha houtput)
        (FKr.firstWord_output hintact houtput).2).2.2
    | read | write | describe | other => cases hreq
  | false =>
    have hkept := Axis.sdo_faultState (m := m) (FKrCmmt.odAccess ExtRat) hrestart hreadable.values
      hreadable.saveCommand hreq
    exact (show _ = a.faultState from hkept) ▸ h

/-! Runs. -/

/-- Any request but a cycle, or a good cycle. -/
def GoodRequest (a : Axis ExtRat (Servo ExtRat)) (m : Moment ExtRat) : Request → Prop
  | .cycle data => ∃ frame, GoodCycle a m data frame
  | _ => True

/-- The frame of the request, if it has one, leaves the feedback in range. -/
def StaysInRange (a : Axis ExtRat (Servo ExtRat)) (input : Moment ExtRat × Request) : Prop :=
  ∀ frame, input.2.payload = some frame → FeedbackFits (after a input.1 frame)

theorem GoodCycle.payload {data : Option String} {frame : Bytes} (h : GoodCycle a m data frame) :
    (Request.cycle data).payload = some frame := by
  obtain ⟨text, rfl, htext⟩ := h.data_eq
  simp [Request.payload, htext, h.length]

theorem dispatch_good (ha : (fKrDrive ExtRat).Reachable format device a) (h : Healthy a.faultState)
    {input : Moment ExtRat × Request} (hgood : GoodRequest a input.1 input.2) :
    let b := (Axis.dispatch (fKrCmmt ExtRat) input.1 input.2 a).2
    (StaysInRange a input ∧ Healthy b.faultState) ∨ (¬ StaysInRange a input ∧ b.faultState.restartRequired = true) := by
  intro b
  obtain ⟨m, request⟩ := input
  by_cases hcycle : ∃ data, request = .cycle data
  · obtain ⟨data, rfl⟩ := hcycle
    obtain ⟨frame, hframe⟩ := hgood
    have hone : StaysInRange a (m, .cycle data) ↔ FeedbackFits (after a m frame) := by
      constructor
      · exact fun hall => hall frame hframe.payload
      · rintro hfits frame' hpayload
        obtain rfl : frame = frame' := Option.some.inj (hframe.payload.symm.trans hpayload)
        exact hfits
    have houtcome : CycleOutcome a m frame (Axis.dispatch (fKrCmmt ExtRat) m (.cycle data) a).1 b :=
      dispatch_cycle ha h hframe
    rw [hone]
    generalize (Axis.dispatch (fKrCmmt ExtRat) m (.cycle data) a).1 = r at houtcome
    cases houtcome with
    | answered output _ fits _ _ healthy => exact .inl ⟨fits, healthy⟩
    | crashed _ _ leaves restart => exact .inr ⟨leaves, restart⟩
  · have hother : ∀ data, request ≠ .cycle data := fun data heq => hcycle ⟨data, heq⟩
    refine .inl ⟨fun frame hpayload => ?_, dispatch_other ha h hother⟩
    cases request with
    | cycle data => exact absurd rfl (hother data)
    | idle | read | write | describe | other => cases hpayload

theorem states_reachable {trace : Trace ExtRat} (ha : (fKrDrive ExtRat).Reachable format device a) (n : Nat) :
    (fKrDrive ExtRat).Reachable format device (Axis.states (fKrCmmt ExtRat) a trace n) := by
  induction n with
  | zero => exact ha
  | succ n ih => exact .dispatched _ _ ih

/-- Along a run of good requests: healthy as long as the feedback stays in range, and no longer. -/
theorem states_good (ha : (fKrDrive ExtRat).Reachable format device a) (h : Healthy a.faultState)
    {trace : Trace ExtRat} {n : Nat}
    (hgood : ∀ k < n, GoodRequest (Axis.states (fKrCmmt ExtRat) a trace k) (trace k).1 (trace k).2) :
    let axis := Axis.states (fKrCmmt ExtRat) a trace
    ∀ k ≤ n, (Healthy (axis k).faultState ∧ ∀ j < k, StaysInRange (axis j) (trace j)) ∨
      ((axis k).faultState.restartRequired = true ∧ ∃ j < k, ¬ StaysInRange (axis j) (trace j)) := by
  intro axis k
  induction k with
  | zero => exact fun _ => .inl ⟨h, by simp⟩
  | succ k ih =>
    intro hk
    have hreach : (fKrDrive ExtRat).Reachable format device (axis k) := states_reachable ha k
    rcases ih (by omega) with ⟨hhealthy, hstays⟩ | ⟨hrestart, j, hj, hleaves⟩
    · rcases dispatch_good hreach hhealthy (hgood k hk) with ⟨hstay, hnext⟩ | ⟨hleave, hnext⟩
      · refine .inl ⟨hnext, fun j hj => ?_⟩
        rcases Nat.lt_succ_iff_lt_or_eq.mp hj with hj | rfl
        · exact hstays j hj
        · exact hstay
      · exact .inr ⟨hnext, k, Nat.lt_succ_self k, hleave⟩
    · exact .inr ⟨(Axis.dispatch_latched _ _ (fKr_sane hreach).1 hrestart).2.1, j, Nat.lt_succ_of_lt hj, hleaves⟩

/-- A master whose cycles are good crashes the drive exactly when it drives the feedback out of the 32-bit
range; until then every cycle is answered with the feedback, and from then on a restart is required. -/
theorem crash_iff_out_of_range (format : Format) (device : Device)
    (ha : (fKrDrive ExtRat).Reachable format device a) (h : Healthy a.faultState) (trace : Trace ExtRat) (n : Nat)
    (hgood : ∀ k < n, GoodRequest (Axis.states (fKrCmmt ExtRat) a trace k) (trace k).1 (trace k).2) :
    let axis := Axis.states (fKrCmmt ExtRat) a trace
    (Healthy (axis n).faultState ↔ ∀ k < n, StaysInRange (axis k) (trace k)) ∧
    ((axis n).faultState.restartRequired = true ↔ ∃ k < n, ¬ StaysInRange (axis k) (trace k)) ∧
    ∀ k < n, (∀ j ≤ k, StaysInRange (axis j) (trace j)) → ∀ frame, (trace k).2.payload = some frame →
      ∃ output, odToTxpdoPayload (after (axis k) (trace k).1 frame).od = .ok output ∧
        Axis.replies (fKrCmmt ExtRat) a trace k = .ok (.output (hexText output) (some ((axis k).cycles + 1))) := by
  intro axis
  have hreach : ∀ k, (fKrDrive ExtRat).Reachable format device (axis k) := states_reachable ha
  have hvalid : ∀ k, (axis k).faultState.Valid := fun k => (fKr_sane (hreach k)).1
  have hrun : ∀ k ≤ n, (Healthy (axis k).faultState ∧ ∀ j < k, StaysInRange (axis j) (trace j)) ∨
      ((axis k).faultState.restartRequired = true ∧ ∃ j < k, ¬ StaysInRange (axis j) (trace j)) :=
    states_good ha h hgood
  have hexclusive (k : Nat) (hhealthy : Healthy (axis k).faultState) : (axis k).faultState.restartRequired ≠ true := by
    rw [(hvalid k).restart_of_fault_none hhealthy.fault]
    decide
  refine ⟨?_, ?_, fun k hk hstays frame hpayload => ?_⟩
  · rcases hrun n le_rfl with ⟨hhealthy, hstays⟩ | ⟨hrestart, j, hj, hleaves⟩
    · exact iff_of_true hhealthy hstays
    · exact iff_of_false (fun hhealthy => hexclusive n hhealthy hrestart) fun hall => hleaves (hall j hj)
  · rcases hrun n le_rfl with ⟨hhealthy, hstays⟩ | ⟨hrestart, hsome⟩
    · exact iff_of_false (hexclusive n hhealthy) fun ⟨j, hj, hleaves⟩ => hleaves (hstays j hj)
    · exact iff_of_true hrestart hsome
  · have hhealthy : Healthy (axis k).faultState := by
      rcases hrun k hk.le with ⟨hhealthy, _⟩ | ⟨_, j, hj, hleaves⟩
      · exact hhealthy
      · exact absurd (hstays j hj.le) hleaves
    obtain ⟨data, hcycle⟩ : ∃ data, (trace k).2 = .cycle data := by
      generalize (trace k).2 = request at hpayload
      cases request with
      | cycle data => exact ⟨data, rfl⟩
      | idle | read | write | describe | other => cases hpayload
    have hone := hgood k hk
    have hfits := hstays k le_rfl frame hpayload
    change ∃ output, _ ∧ (Axis.dispatch (fKrCmmt ExtRat) (trace k).1 (trace k).2 (axis k)).1 = _
    rw [hcycle] at hone hpayload ⊢
    obtain ⟨frame', hframe⟩ := hone
    obtain rfl : frame' = frame := Option.some.inj (hframe.payload.symm.trans hpayload)
    have houtcome := dispatch_cycle (hreach k) hhealthy hframe
    unfold Exec.Post at houtcome
    generalize Axis.dispatch (fKrCmmt ExtRat) (trace k).1 (.cycle data) (axis k) = p at houtcome
    obtain ⟨r, b⟩ := p
    cases houtcome with
    | answered output _ _ adapter txpdo => exact ⟨output, adapter ▸ txpdo, rfl⟩
    | crashed _ _ leaves => exact absurd hfits leaves

/-- Profile velocity mode at the largest velocity there is. -/
def racingFrame (controlword : UInt8) : Bytes :=
  [controlword, 0x00, 0x03] ++ List.replicate 8 0x00 ++ [0xff, 0xff, 0xff, 0x7f] ++ List.replicate 9 0x00

/-- Acceleration and velocity limit are set to the largest there are, and the drive is enabled. -/
def racingTrace : Trace ExtRat := fun n =>
  (⟨num (n / 10), 0, fun _ => .ok ()⟩,
    match n with
    | 0 => .write 0x6083 0 (some "ffffffff")
    | 1 => .write 0x607F 0 (some "ffffffff")
    | 2 => .cycle (some (hexText (racingFrame 0x06)))
    | 3 => .cycle (some (hexText (racingFrame 0x07)))
    | _ => .cycle (some (hexText (racingFrame 0x0f))))

theorem racing_clock :
    let axis := Axis.states (fKrCmmt ExtRat) FKr.movingAxis racingTrace
    (axis 2).lastCycle = none ∧ (axis 3).lastCycle = some (num (2 / 10)) ∧
      (axis 4).lastCycle = some (num (3 / 10)) ∧ Healthy (axis 4).faultState ∧
      (axis 5).faultState.restartRequired = true := by
  intro axis
  have hall : (axis 2).lastCycle = none ∧ (axis 3).lastCycle = some (num (2 / 10)) ∧
      (axis 4).lastCycle = some (num (3 / 10)) ∧ (axis 4).faultState.phase = .normal ∧
      (axis 4).faultState.fault = none ∧ (axis 5).faultState.restartRequired = true := by decide +kernel
  exact ⟨hall.1, hall.2.1, hall.2.2.1, ⟨hall.2.2.2.1, hall.2.2.2.2.1⟩, hall.2.2.2.2.2⟩

theorem movingAxis_reachable (format : Format) :
    (fKrDrive ExtRat).Reachable format ⟨"", .fKrCmmt, .linear, ""⟩ FKr.movingAxis := by
  obtain ⟨initial, hrun⟩ := openModel_fKr (F := ExtRat) .linear
  have hread : (odToTxpdoPayload (Servo.construct .linear : Servo ExtRat).od).toOption =
      some ([0x40, 0x00, 0x08] ++ List.replicate 11 0x00) := by decide +kernel
  have houtput : odToTxpdoPayload (Servo.construct .linear : Servo ExtRat).od = .ok initial :=
    (opened_encodable (fKrOd ExtRat) hrun).2
  rw [houtput] at hread
  cases hread
  exact .opened 0 rfl hrun

theorem racing_good (k : Nat) (hk : k < 5) :
    GoodRequest (Axis.states (fKrCmmt ExtRat) FKr.movingAxis racingTrace k) (racingTrace k).1 (racingTrace k).2 := by
  obtain ⟨h2, h3, h4, _⟩ := racing_clock
  generalize Axis.states (fKrCmmt ExtRat) FKr.movingAxis racingTrace = axis at h2 h3 h4
  have hcycle (controlword : UInt8) {a : Axis ExtRat (Servo ExtRat)} {m : Moment ExtRat}
      (helapsed : ∃ dt : ℚ, a.elapsed m = num dt ∧ 0 < dt ∧ dt ≤ 1 / 10) :
      GoodRequest a m (.cycle (some (hexText (racingFrame controlword)))) :=
    ⟨racingFrame controlword, ⟨_, rfl, fromHex_hexText _⟩, rfl,
      .inr (show leInt [3] ∈ FKrCmmt.supportedModes by decide), helapsed⟩
  have helapsed {a : Axis ExtRat (Servo ExtRat)} {m : Moment ExtRat} {last now : ℚ} (hlast : a.lastCycle = some (num last))
      (hnow : m.monotonic = num now) (hgap : now - last = 1 / 10) :
      ∃ dt : ℚ, a.elapsed m = num dt ∧ 0 < dt ∧ dt ≤ 1 / 10 := by
    refine ⟨1 / 10, ?_, by norm_num, by norm_num⟩
    unfold Axis.elapsed
    rw [hlast, hnow, ← hgap]
    exact num_sub ..
  have hnow (n : Nat) : (racingTrace n).1.monotonic = num (n / 10) := rfl
  match k, hk with
  | 0, _ => trivial
  | 1, _ => trivial
  | 2, _ =>
    refine hcycle 0x06 ⟨1 / 100, ?_, by norm_num, by norm_num⟩
    unfold Axis.elapsed
    rw [h2]
    exact ofRat_eq _
  | 3, _ => exact hcycle 0x07 (helapsed h3 (hnow 3) (by norm_num))
  | 4, _ => exact hcycle 0x0f (helapsed h4 (hnow 4) (by norm_num))

theorem crash_iff_out_of_range_racing :
    let axis := Axis.states (fKrCmmt ExtRat) FKr.movingAxis racingTrace
    Healthy (axis 4).faultState ∧ (axis 5).faultState.restartRequired = true ∧
      ¬ StaysInRange (axis 4) (racingTrace 4) := by
  let format : Format := ⟨fun _ => [], fun _ => .ok .null, fun _ => ""⟩
  obtain ⟨_, _, _, hhealthy, hrestart⟩ := racing_clock
  have hreach := movingAxis_reachable format
  have hstart : Healthy FKr.movingAxis.faultState := ⟨rfl, rfl⟩
  have hfour := crash_iff_out_of_range format ⟨"", .fKrCmmt, .linear, ""⟩ hreach hstart racingTrace 4
    fun k hk => racing_good k (by omega)
  have hfive := crash_iff_out_of_range format ⟨"", .fKrCmmt, .linear, ""⟩ hreach hstart racingTrace 5 racing_good
  refine ⟨hhealthy, hrestart, fun hstays => ?_⟩
  obtain ⟨k, hk, hleaves⟩ := hfive.2.1.mp hrestart
  rcases Nat.lt_succ_iff_lt_or_eq.mp hk with hk | rfl
  · exact hleaves (hfour.1.mp hhealthy k hk)
  · exact hleaves hstays

end EthercatSimulator.Fleet
