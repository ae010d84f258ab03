import EthercatSimulator.FKr.Requests
import EthercatSimulator.Runtime.Containment

/-! The statusword by SDO, and the one in the process data answered last. -/

namespace EthercatSimulator.FKr

open Base Profile Diagnostics Behaviour Adapter EthercatSimulator.Runtime

/-! What the guard shows while SDO access goes on. -/

/-- The guard shows and blocks the same. -/
structure ShownAlike (g g' : AxisFault) : Prop where
  data : g'.responseData = g.responseData
  normal : g'.phase = .normal ↔ g.phase = .normal

theorem ShownAlike.refl (g : AxisFault) : ShownAlike g g := ⟨rfl, Iff.rfl⟩

theorem ShownAlike.trans {g g' g'' : AxisFault} (h : ShownAlike g g') (h' : ShownAlike g' g'') :
    ShownAlike g g'' := ⟨h'.data.trans h.data, h'.normal.trans h.normal⟩

/-- One more cause does not show while a fault is latched. -/
theorem shownAlike_detect {g : AxisFault} (hv : g.Valid) (hfault : g.fault ≠ none) (now : Time)
    (code : Code) (detail : String) (restart : Bool) :
    ShownAlike g (g.detect now code detail restart) := by
  constructor
  · obtain ⟨d, hd⟩ := Option.ne_none_iff_exists'.mp hfault
    obtain ⟨d', hd'⟩ := Option.ne_none_iff_exists'.mp (g.detect_fault now code detail restart)
    rw [AxisFault.responseData, hd', AxisFault.responseData, hd, AxisFault.detect_last]
  · rw [AxisFault.detect_phase]
    refine iff_of_false (by decide) fun hp => ?_
    have hphase := hv.fault_iff.mp hfault
    rw [hp] at hphase
    simp at hphase

theorem shownAlike_of_outcome {g g' : AxisFault} (hv : g.Valid) (h : Axis.SdoOutcome g g')
    (hlatch : g.fault = none → g'.fault = none) : ShownAlike g g' := by
  cases h with
  | kept => exact .refl g
  | failed _ now detail =>
    refine shownAlike_detect hv (fun hfault => ?_) ..
    exact g.detect_fault _ _ _ _ (hlatch hfault)

/-- The first four digits are the first two bytes. -/
theorem hexText_take (data : Bytes) :
    String.ofList ((hexText data).toList.take 4) = hexText (data.take 2) := by
  rw [hexText, hexText, String.toList_ofList]
  cases data with
  | nil => rfl
  | cons b rest =>
    cases rest with
    | nil => rfl
    | cons b' rest => rfl

variable {F : Type} [PyFloat F] {m : Moment F} {a b : DriveAxis F} {request : Request}

/-- What the axis answers a read of the statusword with. -/
def statuswordOf (a : DriveAxis F) : Except Exc Bytes :=
  if a.faultState.phase = .normal then bridgeReadSdo a.adapter.od Key.statusword
  else .ok (a.faultState.responseData.take 2)

/-- A read answers with the live value in phase `normal`, else from the guard. -/
theorem read_statusword (hv : a.faultState.Valid) {raw : Bytes} (hraw : statuswordOf a = .ok raw) :
    Axis.Answers (Axis.dispatch (fKrCmmt F) m (.read 0x6041 0) a).1 raw := by
  unfold statuswordOf at hraw
  refine ⟨.object (hexText raw), _, ?_, rfl, fromHex_hexText raw⟩
  change (Axis.read (fKrCmmt F) m Key.statusword { a with calls := [] }).1 = _
  unfold Axis.read
  rw [Exec.run_bind_ok (Exec.run_get _)]
  by_cases hp : a.faultState.phase = .normal
  · have hr : ¬ a.faultState.restartRequired = true := by
      intro hr
      have hphase := hv.phase_of_restart hr
      rw [hp] at hphase
      cases hphase
    rw [if_pos hp] at hraw
    rw [if_neg (fun h => h.2 hp), if_neg hr]
    have hsdo : (Axis.readSdo (fKrCmmt F) Key.statusword 2).Post { a with calls := [] }
        fun r _ => r = .ok raw := by
      change (FKrCmmt.readSdo Key.statusword a.adapter).1 = _
      rw [FKrCmmt.readSdo_eq, hraw]
    have hinner : (Axis.innerRead (fKrCmmt F) Key.statusword).Post { a with calls := [] }
        fun r _ => r = .ok (.object (hexText raw)) := by
      apply Exec.post_require_bind
      · intro _
        apply Exec.Post.bind
        · apply hsdo.mono
          rintro _ _ hr v rfl
          cases hr
          exact Exec.post_pure rfl
        · apply hsdo.mono
          rintro _ _ hr e rfl
          cases hr
      · exact fun hwo => absurd (by decide) hwo
    have hread : (Axis.access m false (Axis.innerRead (fKrCmmt F) Key.statusword)).Post
        { a with calls := [] } fun r _ => r = .ok (.object (hexText raw)) := by
      apply Exec.Post.handle
      · apply hinner.mono
        rintro _ _ hr v rfl
        exact hr
      · apply hinner.mono
        rintro _ _ hr e rfl
        cases hr
    exact hread
  · rw [if_neg hp] at hraw
    cases hraw
    rw [if_pos ⟨rfl, hp⟩]
    change Except.ok (Reply.object (String.ofList ((hexText _).toList.take 4))) = _
    rw [hexText_take]

/-- The process data starts with the statusword the dictionary holds. -/
theorem readSdo_of_txpdo {od : Od F} {output : Bytes} (h : odToTxpdoPayload od = .ok output) :
    bridgeReadSdo od Key.statusword = .ok (output.take 2) := by
  unfold odToTxpdoPayload txpdoObjects at h
  rw [encodePdoObjects] at h
  change encodeOdValue .uint16 (od Key.statusword) = _
  cases hraw : encodePdoObject od (.mapped Key.statusword .uint16 64) with
  | error e =>
    rw [hraw] at h
    cases h
  | ok raw =>
    have hencode : encodeOdValue .uint16 (od Key.statusword) = .ok raw := hraw
    have hlen : raw.length = 2 := length_of_encode hencode
    rw [hraw] at h
    change (encodePdoObjects od _ >>= fun tail => .ok (raw ++ tail)) = _ at h
    generalize encodePdoObjects od _ = rest at h
    cases rest with
    | error e => cases h
    | ok tail =>
      cases h
      rw [hencode, ← hlen, List.take_left]

/-- A read after a cycle or idle request gives what the answer shows. -/
theorem statuswordOf_processed (hv : b.faultState.Valid)
    (h : Axis.Modelled (fKrCmmt F) m a request b) :
    statuswordOf b = .ok (b.faultState.responseData.take 2) := by
  unfold statuswordOf
  split
  · rename_i hp
    have hfault : b.faultState.fault = none := hv.fault_none (by simp [hp]) (by simp [hp])
    have hdata : b.faultState.responseData = b.faultState.last := by
      rw [AxisFault.responseData, hfault]
    rw [hdata]
    cases processed_of_modelled h (hv.restart_of_fault_none hfault) with
    | detected g₁ detail frame disabling entered detected =>
      rw [detected] at hp
      cases hp
    | held _ _ phase abnormal => exact absurd (phase.symm.trans hp) abnormal
    | executed _ _ _ _ _ _ _ _ _ _ _ _ _ txpdo acc => rw [acc.last, readSdo_of_txpdo txpdo]
    | polled _ _ _ _ txpdo acc => rw [acc.last, readSdo_of_txpdo txpdo]
  · rfl

/-- SDO access that latches no fault leaves the statusword as it is. -/
theorem statuswordOf_sdo (hv : a.faultState.Valid) (hreq : request.isProcessData = false)
    (hlatch : a.faultState.fault = none →
      (Axis.dispatch (fKrCmmt F) m request a).2.faultState.fault = none) :
    statuswordOf (Axis.dispatch (fKrCmmt F) m request a).2 = statuswordOf a := by
  have hshown := shownAlike_of_outcome hv
    (Axis.dispatch_sdo (A := fKrCmmt F) (m := m) hreq a).outcome hlatch
  have hlive := (Axis.dispatch_sdoCalls (a := a) (m := m) FKrCmmt.sdoCalls hreq).statusword
  unfold statuswordOf
  simp only [hshown.normal, hshown.data]
  split
  · change encodeOdValue .uint16 _ = encodeOdValue .uint16 _
    rw [Od.read, Od.read, hlive]
  · rfl

variable (trace : Trace F) (slaveIndex : Nat) (adapter : Servo F) (initial : Bytes) (hasStore : Bool)

/-- After an answer to a cycle or idle request, and SDO access that latches no fault, a read of the
statusword gives the first two bytes of that answer. -/
theorem statusword_by_sdo {i j : Nat} (hij : i < j) (hcycle : (trace i).2.isProcessData = true)
    (hsdo : ∀ k, i < k → k < j → (trace k).2.isProcessData = false)
    (hlatch : ∀ k, i < k → k < j →
      (Axis.states (fKrCmmt F) (Axis.start slaveIndex adapter initial hasStore) trace k).faultState.fault
        = none →
      (Axis.states (fKrCmmt F) (Axis.start slaveIndex adapter initial hasStore) trace (k + 1)).faultState.fault
        = none)
    (hread : (trace j).2 = .read 0x6041 0) :
    let reply := Axis.replies (fKrCmmt F) (Axis.start slaveIndex adapter initial hasStore) trace
    ∃ output, Axis.Answers (reply i) output ∧ Axis.Answers (reply j) (output.take 2) := by
  intro reply
  set axis := Axis.states (fKrCmmt F) (Axis.start slaveIndex adapter initial hasStore) trace with haxis
  have hvalid : ∀ k, (axis k).faultState.Valid := Axis.states_valid (Axis.start_valid ..)
  refine ⟨(axis (i + 1)).faultState.responseData, ?_, ?_⟩
  · exact Axis.answers_of_processed (Axis.dispatch_processed hcycle (axis i) (hvalid i))
  · have hshown (k : Nat) (hk : i + 1 ≤ k) : k ≤ j →
        statuswordOf (axis k) = .ok ((axis (i + 1)).faultState.responseData.take 2) := by
      induction k, hk using Nat.le_induction with
      | base =>
        intro _
        exact statuswordOf_processed (hvalid (i + 1)) (Axis.dispatch_modelled hcycle (hvalid i))
      | succ k hk ih =>
        intro hkj
        rw [← ih (Nat.le_of_succ_le hkj)]
        exact statuswordOf_sdo (hvalid k) (hsdo k hk hkj) (hlatch k hk hkj)
    have hanswer := read_statusword (m := (trace j).1) (hvalid j) (hshown j hij le_rfl)
    rw [← hread] at hanswer
    exact hanswer

/-- An idle request, a read of another object, and the read. -/
theorem statusword_by_sdo_idle :
    let trace : Trace ExtRat := fun n => (Axis.stillMoment,
      if n = 0 then .idle else if n = 1 then .read 0x6061 0 else .read 0x6041 0)
    let reply := Axis.replies (fKrCmmt ExtRat)
      (Axis.start 0 (Servo.construct .linear) (List.replicate 14 0) false) trace
    ∃ output, Axis.Answers (reply 0) output ∧ Axis.Answers (reply 2) (output.take 2) := by
  intro trace reply
  refine statusword_by_sdo trace 0 (Servo.construct .linear) (List.replicate 14 0) false
    (by decide : 0 < 2) rfl ?_ ?_ rfl
  · intro k h0 h2
    obtain rfl : k = 1 := by omega
    rfl
  · intro k h0 h2
    obtain rfl : k = 1 := by omega
    decide +kernel

end EthercatSimulator.FKr
