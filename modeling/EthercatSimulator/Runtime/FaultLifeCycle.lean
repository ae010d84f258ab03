import EthercatSimulator.Diagnostics.LifeCycle
import EthercatSimulator.Runtime.Run

/-! The life of each fault over the runs of an axis. -/

namespace EthercatSimulator.Runtime

open Base Diagnostics

namespace Axis

variable {F σ : Type} [PyFloat F] (A : DriveAdapter F σ)

/-- The computation keeps the log and the guard in agreement. -/
def KeepsChronicle {α : Type} (x : PyM (Axis F σ) α) : Prop :=
  ∀ a, a.faultState.Chronicle → x.Post a fun _ b => b.faultState.Chronicle

variable {A} {m : Moment F}

omit [PyFloat F] in
theorem held_chronicle : KeepsChronicle (held : PyM (Axis F σ) Progress) := fun _ h => h

omit [PyFloat F] in
theorem acceptOutput_chronicle (output : Bytes) {resetting : Bool} {a : Axis F σ}
    (h : a.faultState.Chronicle) (hcleared : resetting = true → a.faultState.Cleared) :
    (acceptOutput m output resetting).Post a fun _ b => b.faultState.Chronicle := by
  unfold Exec.Post acceptOutput
  cases hacc : a.faultState.accept m.time output resetting with
  | ok g => exact h.accept hcleared hacc
  | error e =>
    dsimp only
    split
    · exact h.detect _ _ _ _
    · exact h

theorem forwarded_chronicle (frame : Bytes) {resetting : Bool} {a : Axis F σ}
    (h : a.faultState.Chronicle) (hcleared : resetting = true → a.faultState.Cleared) :
    (forwarded A m frame resetting).Post a fun _ b => b.faultState.Chronicle := by
  have hpre : (Exec.when resetting (resetStep A frame)).Post a fun _ b =>
      b.faultState = a.faultState := by
    apply Exec.post_when
    · exact fun _ => (resetStep_post frame a).mono fun _ _ ⟨_, hc, _⟩ => hc.faultState
    · exact fun _ => rfl
  apply Exec.Post.bind
  · apply hpre.mono
    intro _ b hb _ _
    apply Exec.Post.bind
    · apply (innerCycle_post frame b).mono
      intro _ c ⟨_, hc, _⟩ output _
      have hac := hc.faultState.trans hb
      apply Exec.post_get_bind
      apply Exec.Post.bind
      · exact (acceptOutput_chronicle output (hac ▸ h) (hac ▸ hcleared)).mono fun _ _ hd _ _ => hd
      · exact (acceptOutput_chronicle output (hac ▸ h) (hac ▸ hcleared)).mono fun _ _ hd _ _ => hd
    · apply (innerCycle_post frame b).mono
      intro _ c ⟨_, hc, _⟩ _ _
      exact (hc.faultState.trans hb) ▸ h
  · exact hpre.mono fun _ b hb _ _ => hb ▸ h

theorem frameBody_chronicle (payload : Bytes) : KeepsChronicle (frameBody A m payload) := by
  intro a h
  have hprepare : (prepare m payload).Post a fun r b => b.faultState.Chronicle ∧
      ∀ frame, r = .ok (frame, true) → b.faultState.Cleared := by
    apply Exec.post_zoom
    exact h.prepare (Prod.eta (AxisFault.prepare m.time payload a.faultState)).symm
  apply Exec.post_require_bind
  · intro _
    apply Exec.Post.bind
    · apply hprepare.mono
      rintro _ b ⟨hb, hcleared⟩ ⟨frame, resetting⟩ rfl
      cases frame with
      | none => exact hb
      | some frame => exact forwarded_chronicle frame hb fun hr => hcleared (some frame) (by rw [hr])
    · exact hprepare.mono fun _ _ hb _ _ => hb.1
  · exact fun _ => h

theorem cycleBody_chronicle (data : Option String) : KeepsChronicle (cycleBody A m data) := by
  intro a h
  unfold cycleBody
  cases data with
  | none => exact h
  | some text =>
    cases htext : fromHex text with
    | none => simp only [htext]; exact h
    | some payload => simp only [htext]; exact frameBody_chronicle payload a h

omit [PyFloat F] in
theorem polled_chronicle : KeepsChronicle (polled A m) := by
  intro a h
  have hpoll : (innerIdle A).Post a fun _ b => b.faultState = a.faultState := by
    apply Exec.post_modify_bind
    exact post_call fun _ _ hb => hb.faultState
  apply Exec.Post.bind
  · apply hpoll.mono
    intro _ b hb output _
    have hguard : (acceptOutput m output false).Post b fun _ c => c.faultState.Chronicle :=
      acceptOutput_chronicle output (hb ▸ h) nofun
    apply Exec.Post.bind
    · exact hguard.mono fun _ _ hc _ _ => hc
    · exact hguard.mono fun _ _ hc _ _ => hc
  · exact hpoll.mono fun _ b hb _ _ => hb ▸ h

omit [PyFloat F] in
theorem idleBody_chronicle : KeepsChronicle (idleBody A m) := by
  intro a h
  apply Exec.post_get_bind
  split
  · exact held_chronicle a h
  · exact polled_chronicle a h

omit [PyFloat F] in
theorem processData_chronicle {body : PyM (Axis F σ) Progress} (hbody : KeepsChronicle body) :
    KeepsChronicle (processData m body) := by
  intro a h
  have hfinish (result : Option Reply) : KeepsChronicle (finish result : PyM (Axis F σ) Reply) := by
    intro b hb
    unfold Exec.Post finish
    split
    · cases result <;> exact hb
    · exact hb
  have hb := hbody a h
  unfold Exec.Post at hb ⊢
  unfold processData
  generalize body a = p at hb ⊢
  obtain ⟨r, b⟩ := p
  cases r with
  | ok progress =>
    cases progress with
    | answered reply => exact hb
    | result reply => exact hfinish _ _ hb
  | error e =>
    obtain ⟨code, restart, hstate, -⟩ := containFault_faultState (m := m) e b
    refine hfinish _ _ ?_
    rw [hstate]
    exact AxisFault.Chronicle.detect hb _ _ _ _

theorem dispatch_chronicle (m : Moment F) (request : Request) (a : Axis F σ)
    (h : a.faultState.Chronicle) : (dispatch A m request a).2.faultState.Chronicle := by
  cases hreq : request.isProcessData with
  | true =>
    cases request with
    | cycle data => exact processData_chronicle (cycleBody_chronicle data) { a with calls := [] } h
    | idle => exact processData_chronicle idleBody_chronicle { a with calls := [] } h
    | read | write | describe | other => cases hreq
  | false =>
    have hout := (dispatch_sdo (A := A) (m := m) hreq a).outcome
    generalize (dispatch A m request a).2.faultState = g at hout
    cases hout with
    | kept => exact h
    | failed => exact h.detect _ _ _ _

variable (A) (trace : Trace F) (slaveIndex : Nat) (adapter : σ) (initial : Bytes) (hasStore : Bool)

/-- After any sequence of requests, whatever the model does, the log shows every fault as its life
cycle allows. -/
theorem fault_life_cycle (n : Nat) :
    (states A (start slaveIndex adapter initial hasStore) trace n).faultState.Orderly :=
  (runOf.invariant (next A) _ trace (fun b => b.faultState.Chronicle)
    (AxisFault.chronicle_initial rfl rfl rfl rfl)
    (fun b input => dispatch_chronicle input.1 input.2 b) n).orderly

end Axis

end EthercatSimulator.Runtime
