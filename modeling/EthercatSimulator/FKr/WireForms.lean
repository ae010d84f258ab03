import EthercatSimulator.Adapter.SdoAccess
import EthercatSimulator.Behaviour.FeedbackLaws
import EthercatSimulator.FKr.Requests

/-! The virtual servo's values have a wire form as long as no restart is required. -/

namespace EthercatSimulator.FKr

open Base Profile Diagnostics Behaviour Adapter EthercatSimulator.Runtime
open FKrCmmt (Before framed updated)

variable {F : Type} [PyFloat F] {m : Moment F} {a b : DriveAxis F} {request : Request} {s : Servo F}

/-- The values the motion laws write, and the target of a frame, have a wire form. -/
def MotionEncodable (key : Key) (_ : Definition) (v : Value F) : Prop := key.isMotion → Encodable .int32 v

theorem motion_int32 {key : Key} {d : Definition} (hmotion : key.isMotion) (hd : definition key = some d) :
    d.dataType = .int32 := by
  rcases hmotion with rfl | rfl | rfl <;> cases hd <;> rfl

theorem decodes_motion : Decodes (MotionEncodable (F := F)) := fun _ _ _ _ hd hv hmotion =>
  motion_int32 hmotion hd ▸ (fits_of_decode hv).encodable

theorem motion_definition {key : Key} (hmotion : key.isMotion) : ∃ d, definition key = some d := by
  rcases hmotion with rfl | rfl | rfl <;> exact ⟨_, rfl⟩

theorem wired_meets (h : s.Wired) : s.od.Meets MotionEncodable := by
  rintro key d _ (rfl | rfl | rfl)
  · exact h.target
  · exact h.shownPosition
  · exact h.shownVelocity

/-- A dictionary with the motion values of one that has wire forms. -/
theorem wired_withOd (h : s.Wired) {od : Od F} (hod : od.Meets MotionEncodable) :
    Servo.Wired { s with od := od } where
  position := h.position
  command := h.command
  target := hod Key.targetPosition _ rfl (.inl rfl)
  shownPosition := hod Key.actualPosition _ rfl (.inr (.inl rfl))
  shownVelocity := hod Key.actualVelocity _ rfl (.inr (.inr rfl))

theorem sdoCalls_motion : Axis.SdoCalls (fKrCmmt F) (Exec.Preserves fun s => s.od.Meets MotionEncodable) :=
  (FKrCmmt.odAccess F).sdoCalls decodes_motion.takes fun kn hkn _ _ hmotion => by
    have hne : ∀ kn ∈ Axis.saveOutcome, kn.1 ∉ [Key.targetPosition, Key.actualPosition, Key.actualVelocity] := by
      decide
    exact absurd (by simpa [Key.isMotion] using hmotion) (hne kn hkn)

theorem sdoCalls_wired : Axis.SdoCalls (fKrCmmt F) (Exec.Preserves Servo.Wired) :=
  FKrCmmt.sdoCalls.both sdoCalls_motion fun _ _ hrewritten hmotion h => by
    have hod := hmotion (wired_meets h)
    obtain ⟨od, rfl⟩ := hrewritten.frame
    exact wired_withOd h hod

/-! One request. -/

theorem framed_wired (h : s.Wired) {frame : Bytes} (hlen : frame.length = rxSize) (dt : F) :
    (framed s frame dt).Wired := by
  have hraw : ((frame.drop 3).take 4).length = DataType.int32.size := by
    have hlen : frame.length = 24 := hlen
    simp only [List.length_take, List.length_drop, hlen]
    decide
  obtain ⟨hlow, hhigh⟩ := low_le_leInt rfl hraw
  exact ⟨h.position, h.command, Servo.encodable_int _ hlow hhigh, h.shownPosition, h.shownVelocity⟩

theorem before_wired (h : s.Wired) {frame : Bytes} {disabling : Bool} {s₁ : Servo F}
    (hbefore : Before s frame disabling s₁) : s₁.Wired := by
  cases hbefore with
  | plain => exact h
  | disabled hlen =>
    exact Servo.update_wired_disabled (framed_wired h hlen _)
      (FKrCmmt.started_disabled (FKrCmmt.framed_controlword ..))

theorem updated_wired (h : s.Wired) {frame : Bytes} (hlen : frame.length = rxSize) {dt : F} {output : Bytes}
    (htxpdo : odToTxpdoPayload (updated s frame dt).od = .ok output) : (updated s frame dt).Wired :=
  have hposition : .mapped Key.actualPosition .int32 0 ∈ txpdoObjects := .tail _ (.tail _ (.head _))
  have hvelocity : .mapped Key.actualVelocity .int32 0 ∈ txpdoObjects := .tail _ (.tail _ (.tail _ (.head _)))
  Servo.update_wired (framed_wired h hlen dt) (encodable_of_objects htxpdo hposition)
    (encodable_of_objects htxpdo hvelocity)

theorem processed_wired (h : a.faultState.restartRequired = false → a.adapter.Wired)
    (hp : Processed m a request b) (hrestart : b.faultState.restartRequired = false) : b.adapter.Wired := by
  cases hp with
  | detected g₁ detail frame disabling entered detected before =>
    rw [detected, AxisFault.detect_restartRequired, Bool.or_false] at hrestart
    exact before_wired (h (entered.restartRequired ▸ hrestart)) before
  | held adapter entered => exact adapter ▸ h (entered.restartRequired ▸ hrestart)
  | executed payload frame resetting g₁ disabling dt output s₁ ran before length adapter update txpdo acc =>
    have hs := h (ran.prepared.restartRequired ▸ acc.restartRequired ▸ hrestart)
    exact adapter ▸ updated_wired (before_wired hs before) length (adapter ▸ txpdo)
  | polled output _ _ adapter _ acc => exact adapter ▸ h (acc.restartRequired ▸ hrestart)

theorem dispatch_wired (hv : a.faultState.Valid) (h : a.faultState.restartRequired = false → a.adapter.Wired)
    (hrestart : (Axis.dispatch (fKrCmmt F) m request a).2.faultState.restartRequired = false) :
    (Axis.dispatch (fKrCmmt F) m request a).2.adapter.Wired := by
  cases hreq : request.isProcessData with
  | true =>
    exact processed_wired (a := { a with calls := [] }) h
      (processed_of_modelled (Axis.dispatch_modelled hreq hv) hrestart) hrestart
  | false =>
    have haccessed := dispatch_accessed hreq hrestart
    exact Axis.dispatch_sdoCalls sdoCalls_wired hreq (h (haccessed.faultState ▸ hrestart))

end EthercatSimulator.FKr
