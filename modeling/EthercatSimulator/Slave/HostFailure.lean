import EthercatSimulator.Diagnostics.FaultLaws
import EthercatSimulator.Slave.MainLoop

/-! What the slave process shows of a host that has failed. -/

namespace EthercatSimulator.Slave

open Base Diagnostics Ipc
open AxisFault (faultWord faultWord_and faultWord_lt)

namespace SimulatedSlave

variable (s : SimulatedSlave)

/-- The pending request of the slave turns out to have failed. -/
def Fails (future : Future) : Prop :=
  s.pending = true ∧ match future with
    | .unready => False
    | .value response => ∃ e, validated response s.txSize = .error e
    | .exception _ => True

def ShowsFault : Prop := s.statusword &&& 0x106f = 8

instance : Decidable s.ShowsFault := inferInstanceAs (Decidable (_ = _))

theorem project_showsFault : s.project.ShowsFault := by
  unfold ShowsFault SimulatedSlave.statusword SimulatedSlave.project
  dsimp only
  rw [firstWord_append (length_leBytes 2 _), leNat_leBytes_of_lt (faultWord_lt (firstWord_lt _))]
  exact faultWord_and _

theorem project_input : s.project.input.drop 2 = s.input.drop 2 := by
  unfold SimulatedSlave.project
  dsimp only
  rw [List.drop_left' (length_leBytes 2 _)]

/-- A host that has failed, or fails now, leaves the image as it was. -/
theorem consume_spec (hostFailed : Bool) (future : Future)
    (h : (s.consume hostFailed future).1 = true) :
    (hostFailed = true ∨ s.Fails future) ∧ (s.consume hostFailed future).2.input = s.input := by
  unfold consume at h ⊢
  split at h
  · rename_i hpending
    rw [if_pos hpending]
    cases future with
    | unready => exact ⟨.inl h, rfl⟩
    | value response =>
      cases hostFailed with
      | true => exact ⟨.inl rfl, rfl⟩
      | false =>
        dsimp only at h ⊢
        cases hvalid : validated response s.txSize with
        | ok data =>
          rw [hvalid] at h
          cases h
        | error e => exact ⟨.inr ⟨hpending, e, hvalid⟩, rfl⟩
    | exception what => exact ⟨.inr ⟨hpending, trivial⟩, rfl⟩
  · rename_i hpending
    rw [if_neg hpending]
    exact ⟨.inl h, rfl⟩

/-- A failed host stays failed. -/
theorem consume_failed (future : Future) : (s.consume true future).1 = true := by
  unfold consume
  split
  · cases future <;> rfl
  · rfl

theorem refresh_failed (glimpse : Glimpse) : (s.refresh true glimpse).1 = true :=
  s.consume_failed glimpse.future

/-- Once the host has failed, a slave shows the fault over the image it had. -/
theorem refresh_spec (hostFailed : Bool) (glimpse : Glimpse)
    (h : (s.refresh hostFailed glimpse).1 = true) :
    (hostFailed = true ∨ s.Fails glimpse.future) ∧
      (s.refresh hostFailed glimpse).2.input.drop 2 = s.input.drop 2 ∧
      (s.refresh hostFailed glimpse).2.ShowsFault := by
  have hconsumed : (s.consume hostFailed glimpse.future).1 = true := h
  obtain ⟨hfails, hinput⟩ := s.consume_spec hostFailed glimpse.future hconsumed
  have hprojected : (s.refresh hostFailed glimpse).2.input =
      (s.consume hostFailed glimpse.future).2.project.input := by
    unfold refresh
    dsimp only
    rw [hconsumed]
    split <;> rfl
  refine ⟨hfails, ?_, ?_⟩
  · rw [hprojected, project_input, hinput]
  · unfold ShowsFault SimulatedSlave.statusword
    rw [hprojected]
    exact (s.consume hostFailed glimpse.future).2.project_showsFault

end SimulatedSlave

namespace Process

variable {p : Process}

/-- The second pump learns of the failure from the request of a slave, after it has passed one
whose image does not show the fault. -/
def DiscoversLate (p : Process) (e : Surroundings) : Prop :=
  p.hostFailed = false ∧ ∃ i s, p.place = .refresh true i ∧ p.slaves[i]? = some s ∧
    s.Fails e.glimpse.future ∧ ∃ j < i, ∃ t, p.slaves[j]? = some t ∧ ¬ t.ShowsFault

/-- What the slaves show after the statusword. -/
def feedback (p : Process) : List Bytes := p.slaves.map fun s => s.input.drop 2

theorem feedback_set {i : Nat} {s s' : SimulatedSlave} (h : p.slaves[i]? = some s)
    (hs' : s'.input.drop 2 = s.input.drop 2) : (p.setSlave i s').feedback = p.feedback := by
  unfold feedback setSlave
  apply List.ext_getElem?
  intro j
  rw [List.getElem?_map, List.getElem?_map, List.getElem?_set]
  split_ifs with hij hi
  · subst hij
    rw [h, Option.map_some, Option.map_some, hs']
  · subst hij
    rw [List.getElem?_eq_none (by omega)]
  · rfl

theorem request_failed (h : p.hostFailed = true) (i : Nat) (s : SimulatedSlave) (r : Routine) :
    p.request i s r = p := by
  unfold request
  rw [h]
  rfl

theorem request_hostFailed (i : Nat) (s : SimulatedSlave) (r : Routine) :
    (p.request i s r).hostFailed = p.hostFailed := by
  unfold request
  split_ifs <;> rfl

/-- From the moment the host has failed nothing is requested any more. -/
theorem advance_failed (e : Surroundings) (h : p.hostFailed = true) :
    (p.advance e).hostFailed = true ∧ (p.advance e).submitted = p.submitted := by
  unfold advance
  cases p.place with
  | pump second =>
    dsimp only
    rw [h]
    exact ⟨rfl, rfl⟩
  | refresh second i =>
    dsimp only
    cases p.slaves[i]? with
    | some s =>
      refine ⟨?_, rfl⟩
      dsimp only
      rw [h]
      exact s.refresh_failed e.glimpse
    | none => exact ⟨h, rfl⟩
  | read => exact ⟨h, rfl⟩
  | route => cases e.frame <;> exact ⟨h, rfl⟩
  | routine i =>
    dsimp only
    cases p.slaves[i]? with
    | some s =>
      dsimp only
      rw [request_failed h]
      split_ifs <;> exact ⟨h, rfl⟩
    | none => exact ⟨h, rfl⟩
  | ended => exact ⟨h, rfl⟩

theorem request_feedback {i : Nat} {s : SimulatedSlave} (h : p.slaves[i]? = some s) (r : Routine) :
    (p.request i s r).feedback = p.feedback := by
  unfold request
  split_ifs
  · exact feedback_set (p := p.submit i _) h rfl
  · exact feedback_set (p := p.submit i _) h rfl
  · rfl

/-- A step that leaves the host failed leaves the feedback as it was. -/
theorem advance_feedback (e : Surroundings) (h : (p.advance e).hostFailed = true) :
    (p.advance e).feedback = p.feedback := by
  unfold advance at h ⊢
  cases hplace : p.place with
  | pump | read | ended => rfl
  | refresh second i =>
    rw [hplace] at h
    dsimp only at h ⊢
    cases hs : p.slaves[i]? with
    | some s =>
      rw [hs] at h
      exact feedback_set hs (s.refresh_spec p.hostFailed e.glimpse h).2.1
    | none => rfl
  | route =>
    dsimp only
    cases e.frame <;> rfl
  | routine i =>
    dsimp only
    cases hs : p.slaves[i]? with
    | some s =>
      dsimp only
      split_ifs
      · rfl
      · exact request_feedback hs e.routine
    | none => rfl

/-- As far as the second pump has got, the slaves show the fault of a failed host. -/
def Projected (p : Process) : Prop :=
  p.hostFailed = true → match p.place with
    | .refresh true i => ∀ j < i, ∀ s, p.slaves[j]? = some s → s.ShowsFault
    | .route => ∀ s ∈ p.slaves, s.ShowsFault
    | _ => True

theorem advance_projected (h : p.Projected) (e : Surroundings) (hlate : ¬ p.DiscoversLate e) :
    (p.advance e).Projected := by
  intro hfailed
  unfold advance at hfailed ⊢
  cases hplace : p.place with
  | pump second =>
    rw [hplace] at hfailed
    cases second with
    | true => exact fun j hj => absurd hj (Nat.not_lt_zero j)
    | false => trivial
  | refresh second i =>
    rw [hplace] at hfailed
    dsimp only at hfailed ⊢
    cases hs : p.slaves[i]? with
    | some s =>
      rw [hs] at hfailed
      dsimp only at hfailed ⊢
      cases second with
      | false => trivial
      | true =>
        obtain ⟨hfails, -, hshows⟩ := s.refresh_spec p.hostFailed e.glimpse hfailed
        intro j hj t ht
        change (p.slaves.set i _)[j]? = some t at ht
        rw [List.getElem?_set] at ht
        split_ifs at ht with hij hi
        · cases ht
          exact hshows
        · have hbefore : j < i := by omega
          rcases Bool.eq_false_or_eq_true p.hostFailed with hold | hnew
          · exact (hplace ▸ h hold) j hbefore t ht
          · by_contra hshown
            have hfails := hfails.resolve_left (by rw [hnew]; nofun)
            exact hlate ⟨hnew, i, s, hplace, hs, hfails, j, hbefore, t, ht, hshown⟩
    | none =>
      rw [hs] at hfailed
      cases second with
      | false => trivial
      | true =>
        have hall := h hfailed
        rw [hplace] at hall
        intro s hmem
        obtain ⟨j, hj, rfl⟩ := List.mem_iff_getElem.mp hmem
        refine hall j ?_ _ (List.getElem?_eq_getElem hj)
        exact hj.trans_le (List.getElem?_eq_none_iff.mp hs)
  | read => trivial
  | route =>
    dsimp only
    cases e.frame with
    | dropped => trivial
    | routed written => cases written <;> trivial
  | routine i =>
    dsimp only
    cases p.slaves[i]? with
    | some s =>
      dsimp only
      split_ifs <;> trivial
    | none => trivial
  | ended =>
    dsimp only
    rw [hplace]
    trivial

/-- A failed host stays failed, its feedback is frozen and nothing is requested from it any more;
unless its failure was discovered late, every slave shows the fault when a frame is routed. -/
theorem host_failure (fleet : Bool) (slaves : List SimulatedSlave) (events : Nat → Surroundings) :
    let process := runOf advance (start fleet slaves) events
    (∀ n m, n ≤ m → (process n).hostFailed = true → (process m).hostFailed = true ∧
      (process m).feedback = (process n).feedback ∧ (process m).submitted = (process n).submitted) ∧
    ∀ n, (∀ k < n, ¬ (process k).DiscoversLate (events k)) → (process n).place = .route →
      (process n).hostFailed = true → ∀ s ∈ (process n).slaves, s.statusword &&& 0x106f = 8 := by
  intro process
  refine ⟨fun n m hnm hfailed => ?_, fun n hlate hroute hfailed => ?_⟩
  · induction m, hnm using Nat.le_induction with
    | base => exact ⟨hfailed, rfl, rfl⟩
    | succ m _ ih =>
      obtain ⟨hm, hfeedback, hsubmitted⟩ := ih
      have hstep := advance_failed (events m) hm
      exact ⟨hstep.1, (advance_feedback (events m) hstep.1).trans hfeedback, hstep.2.trans hsubmitted⟩
  · have hprojected : (process n).Projected := by
      clear hroute hfailed
      induction n with
      | zero => exact fun hfailed => absurd hfailed nofun
      | succ n ih =>
        exact advance_projected (ih fun k hk => hlate k (by omega)) _ (hlate n (Nat.lt_succ_self n))
    have hall := hprojected hfailed
    rw [hroute] at hall
    exact hall

def twoSlaves : List SimulatedSlave := List.replicate 2 ⟨[0x27, 0x00], [0x27, 0x00], false, 2, 2⟩

/-- No future is ready, and every frame is answered. -/
def waiting : Surroundings where
  failure := ""
  glimpse := ⟨.unready, .preOp⟩
  frame := .routed true
  routine := ⟨[0x0f, 0x00], .preOp, false, true⟩

/-- The second pump finds the client failed. -/
def failedClient (n : Nat) : Surroundings :=
  if n = 5 then { waiting with failure := "MODEL_RESPONSE_TIMEOUT" } else waiting

theorem host_failure_projected :
    ∀ s ∈ (runOf advance (start true twoSlaves) failedClient 9).slaves, s.statusword &&& 0x106f = 8 := by
  refine (host_failure true twoSlaves failedClient).2 9 (fun k _ => ?_) (by decide +kernel) (by decide +kernel)
  rintro ⟨-, i, s, -, -, hfails, -⟩
  have hunready : (failedClient k).glimpse.future = .unready := by
    unfold failedClient
    split_ifs <;> rfl
  unfold SimulatedSlave.Fails at hfails
  rw [hunready] at hfails
  exact hfails.2

/-- The second pump finds the request of the second slave failed. -/
def failedRequest (n : Nat) : Surroundings :=
  if n = 20 then { waiting with glimpse := ⟨.exception "MODEL_RESPONSE_TIMEOUT", .preOp⟩ } else waiting

/-- The first slave is shown without the fault of the host. -/
theorem host_failure_late :
    let process := runOf advance (start true twoSlaves) failedRequest
    (process 22).place = .route ∧ (process 22).hostFailed = true ∧
      (process 22).slaves.map SimulatedSlave.statusword = [0x0027, 0x0008] := by
  decide +kernel

end Process

end EthercatSimulator.Slave
