import EthercatSimulator.Runtime.Run

/-! What the process data of an axis shows, whatever its model does: the answers stay well
formed, and a fault that needs a restart silences the model for good. -/

namespace EthercatSimulator.Runtime

open Base Profile Diagnostics

/-- The published statusword shows Fault, and everything else is what was accepted last. -/
structure ShowsFault (last output : Bytes) : Prop where
  statusword : firstWord output &&& 0x106f = 8
  other_bits : clearBits (firstWord output) 0x106f = clearBits (firstWord last) 0x106f
  rest : output.drop 2 = last.drop 2

theorem showsFault_responseData {g : AxisFault} (h : g.fault ≠ none) :
    ShowsFault g.last g.responseData where
  statusword := by rw [AxisFault.firstWord_responseData h, AxisFault.faultWord_and]
  other_bits := by rw [AxisFault.firstWord_responseData h, AxisFault.clearBits_faultWord]
  rest := AxisFault.drop_responseData g

namespace Axis

variable {F σ : Type} [PyFloat F] (A : DriveAdapter F σ) (trace : Trace F)

/-- The reply carries `output` in hexadecimal. -/
def Answers (r : Except Exc Reply) (output : Bytes) : Prop :=
  ∃ reply text, r = .ok reply ∧ reply.data = some text ∧ fromHex text = some output

omit [PyFloat F] in
theorem answers_of_processed {g g' : AxisFault} {request : Request} {r : Except Exc Reply}
    {calls : List (Call F)} (h : Processed g request r calls g') : Answers r g'.responseData := by
  obtain ⟨reply, hr, hdata⟩ := h.reply
  exact ⟨reply, _, hr, hdata, fromHex_hexText _⟩

def broken {α : Type} : PyM Unit α := Exec.raise ⟨.runtimeError, "broken"⟩

/-- A model whose every call raises. -/
def brokenAdapter : DriveAdapter ExtRat Unit where
  applyOutputs _ := broken
  step _ := broken
  readInputs := broken
  readSdo _ _ := broken
  writeSdo _ _ := broken
  odRead _ := broken
  odWriteRole _ _ := broken
  validateParameters := broken
  persistentRoles := []

def stillMoment : Moment ExtRat := ⟨0, 0, fun _ => .ok ()⟩

variable (slaveIndex : Nat) (adapter : σ) (initial : Bytes) (hasStore : Bool)

/-- Once a restart is required, the model is left alone and the axis only repeats its last
accepted output under Fault. -/
theorem restart_latch {i n : Nat} (hn : i ≤ n) (hlatch : (states A
      (start slaveIndex adapter initial hasStore) trace i).faultState.restartRequired = true) :
    let axis := states A (start slaveIndex adapter initial hasStore) trace
    let reply := replies A (start slaveIndex adapter initial hasStore) trace n
    (axis (n + 1)).calls = [] ∧ (axis (n + 1)).faultState.restartRequired = true ∧
      (axis (n + 1)).faultState.phase = .fault ∧
      ((trace n).2.isProcessData = true → ∃ output, Answers reply output ∧
        output.drop 2 = (axis i).faultState.last.drop 2 ∧ firstWord output &&& 0x106f = 8) ∧
      (∀ index subindex, (trace n).2 = .read index subindex → (index, subindex) ≠ Key.statusword →
        ∃ message, reply = .ok (.sdoAbort 0x08000022 message)) ∧
      ∀ index subindex data, (trace n).2 = .write index subindex data →
        ∃ message, reply = .ok (.sdoAbort 0x08000022 message) := by
  intro axis reply
  have hstart := start_valid (F := F) slaveIndex adapter initial hasStore
  obtain ⟨hr, -⟩ := states_latched hstart hlatch hn
  obtain ⟨hr', hlast⟩ := states_latched hstart hlatch (Nat.le_succ_of_le hn)
  have hvalid : ∀ k, (axis k).faultState.Valid := states_valid hstart
  have hphase := (hvalid (n + 1)).phase_of_restart hr'
  refine ⟨(dispatch_latched _ _ (hvalid n) hr).1, hr', hphase, ?_, ?_, ?_⟩
  · intro hreq
    have hproc := dispatch_processed (A := A) (m := (trace n).1) hreq (axis n) (hvalid n)
    have hshow := showsFault_responseData ((hvalid (n + 1)).fault_iff.mpr (.inl hphase))
    exact ⟨_, answers_of_processed hproc, hshow.rest.trans (congrArg (List.drop 2) hlast),
      hshow.statusword⟩
  · intro index subindex hreq hkey
    refine ⟨"Model requires manual Docker restart", ?_⟩
    change (dispatch A (trace n).1 (trace n).2 (axis n)).1 = _
    rw [hreq]
    change (read A (trace n).1 (index, subindex) { axis n with calls := [] }).1 = _
    unfold read
    rw [Exec.run_bind_ok (Exec.run_get _), if_neg (by simp [hkey]), if_pos hr]
    rfl
  · intro index subindex data hreq
    refine ⟨"Model requires manual Docker restart", ?_⟩
    change (dispatch A (trace n).1 (trace n).2 (axis n)).1 = _
    rw [hreq]
    change (write A (trace n).1 (index, subindex) data { axis n with calls := [] }).1 = _
    unfold write
    rw [Exec.run_bind_ok (Exec.run_get _), if_pos hr]
    rfl

theorem restart_latch_broken : ∃ output,
    Answers (replies brokenAdapter (start 0 () [0x40, 0x00, 0x01] false)
      (fun _ => (stillMoment, .idle)) 1) output ∧
      output.drop 2 = [0x01] ∧ firstWord output &&& 0x106f = 8 :=
  have h := restart_latch brokenAdapter (fun _ => (stillMoment, .idle)) 0 () [0x40, 0x00, 0x01] false
    (le_refl 1) rfl
  h.2.2.2.1 rfl

/-- The held output is the one before, or one of the same length the model gave just now. -/
theorem dispatch_last (m : Moment F) (request : Request) {a : Axis F σ} (hv : a.faultState.Valid) :
    let b := (dispatch A m request a).2
    b.faultState.last = a.faultState.last ∨
      b.faultState.last.length = a.faultState.last.length ∧
        .readInputs (some b.faultState.last) ∈ b.calls := by
  intro b
  cases hreq : request.isProcessData with
  | true =>
    have hout : Outcome a.faultState request b.calls b.faultState :=
      (dispatch_processed hreq a hv).outcome
    generalize b.calls = calls at hout ⊢
    generalize b.faultState = g at hout ⊢
    cases hout with
    | held _ kept => exact .inl kept.last
    | faulted g₁ kept => exact .inl ((AxisFault.detect_last ..).trans kept.last)
    | executed _ _ _ g₁ _ _ output _ _ _ prepared calls_eq acc =>
      refine .inr ⟨?_, ?_⟩
      · rw [acc.last, acc.length, prepared.last]
      · rw [calls_eq, acc.last]
        simp
    | polled output _ _ _ calls_eq acc =>
      refine .inr ⟨?_, ?_⟩
      · rw [acc.last, acc.length]
      · rw [calls_eq, acc.last]
        simp
  | false =>
    have hout : SdoOutcome a.faultState b.faultState := (dispatch_sdo hreq a).outcome
    generalize b.faultState = g at hout ⊢
    cases hout with
    | kept => exact .inl rfl
    | failed => exact .inl (AxisFault.detect_last ..)

/-- The held output is the initial one or one the model gave during the run. -/
theorem states_last (n : Nat) :
    let axis := states A (start slaveIndex adapter initial hasStore) trace
    (axis n).faultState.last.length = initial.length ∧
      ((axis n).faultState.last = initial ∨
        ∃ k, k < n ∧ .readInputs (some (axis n).faultState.last) ∈ (axis (k + 1)).calls) := by
  intro axis
  induction n with
  | zero => exact ⟨rfl, .inl rfl⟩
  | succ n ih =>
    have hvalid : (axis n).faultState.Valid :=
      states_valid (start_valid slaveIndex adapter initial hasStore) n
    cases dispatch_last A (trace n).1 (trace n).2 hvalid with
    | inl h =>
      have hlast : (axis (n + 1)).faultState.last = (axis n).faultState.last := h
      rw [hlast]
      refine ⟨ih.1, ih.2.imp id ?_⟩
      rintro ⟨k, hk, hmem⟩
      exact ⟨k, Nat.lt_succ_of_lt hk, hmem⟩
    | inr h => exact ⟨h.1.trans ih.1, .inr ⟨n, Nat.lt_succ_self n, h.2⟩⟩

/-- Whatever the model does, a cycle or idle request is answered with an output of the initial
length, provided that length holds a statusword. -/
theorem failure_contained (hinitial : 2 ≤ initial.length) (n : Nat)
    (hreq : (trace n).2.isProcessData = true) :
    let axis := states A (start slaveIndex adapter initial hasStore) trace
    let guard := (axis (n + 1)).faultState
    ∃ output, Answers (replies A (start slaveIndex adapter initial hasStore) trace n) output ∧
      output.length = initial.length ∧
      (guard.fault ≠ none → ShowsFault guard.last output) ∧
      (guard.fault = none → output = guard.last) ∧
      (guard.last = initial ∨
        ∃ k, k ≤ n ∧ .readInputs (some guard.last) ∈ (axis (k + 1)).calls) := by
  intro axis guard
  have hvalid : (axis n).faultState.Valid :=
    states_valid (start_valid slaveIndex adapter initial hasStore) n
  obtain ⟨hlen, hfrom⟩ := states_last A trace slaveIndex adapter initial hasStore (n + 1)
  refine ⟨guard.responseData, answers_of_processed (dispatch_processed hreq _ hvalid), ?_,
    showsFault_responseData, ?_, ?_⟩
  · rw [AxisFault.length_responseData (by rw [hlen]; exact hinitial), hlen]
  · intro hf
    simp [AxisFault.responseData, hf]
  · refine hfrom.imp id ?_
    rintro ⟨k, hk, hmem⟩
    exact ⟨k, Nat.le_of_lt_succ hk, hmem⟩

theorem failure_contained_broken : ∃ output,
    Answers (replies brokenAdapter (start 0 () [0x40, 0x00, 0x01] false)
      (fun _ => (stillMoment, .idle)) 0) output ∧ output.length = 3 :=
  have ⟨output, hanswer, hlength, _⟩ := failure_contained brokenAdapter
    (fun _ => (stillMoment, .idle)) 0 () [0x40, 0x00, 0x01] false (by decide) 0 rfl
  ⟨output, hanswer, hlength⟩

/-- An initial output without a statusword grows to two bytes under a fault. -/
theorem short_output_grows :
    Answers (replies brokenAdapter (start 0 () [] false) (fun _ => (stillMoment, .idle)) 0)
        [0x08, 0x00] ∧
      ([0x08, 0x00] : Bytes).length ≠ ([] : Bytes).length :=
  ⟨⟨_, _, rfl, rfl, fromHex_hexText _⟩, by decide⟩

end Axis

end EthercatSimulator.Runtime
