import EthercatSimulator.Fleet.Protocol
import EthercatSimulator.Fleet.SdoRequests
import EthercatSimulator.Slave.SdoReplies

/-! An SDO transfer from the mailbox of a slave to the model of its axis and back. -/

namespace EthercatSimulator.Fleet

open Base Profile Diagnostics Behaviour Adapter Storage Ipc Slave EthercatSimulator.Runtime
open Host (ask ask_state ask_ok ask_error)

/-- The request of the gateway, as the host reads it. -/
def sdoRequest (r : SdoRequest) : Request :=
  if r.write then .write r.index r.subindex (some (hexText r.value)) else .read r.index r.subindex

theorem messageOf_sdo (i : Nat) (r : SdoRequest) : messageOf (addressed i r.json) = some ⟨some i, sdoRequest r⟩ := by
  unfold sdoRequest SdoRequest.json
  cases r.write with
  | true => rfl
  | false => rfl

variable {F ρ : Type} [PyFloat F] {fmus : Device → Artifact F ρ} {m : Moment F}

theorem read_undefined {σ : Type} {A : DriveAdapter F σ} {a : Axis F σ}
    (hrestart : a.faultState.restartRequired = false) {index subindex : Nat}
    (hd : definition (index, subindex) = none) : ∃ e, (Axis.dispatch A m (.read index subindex) a).1 = .error e := by
  suffices h : (Axis.dispatch A m (.read index subindex)).Post a fun r _ => ∃ e, r = .error e from h
  apply Exec.post_modify_bind
  apply Exec.post_get_bind
  split
  · next hguard =>
    rw [hguard.1] at hd
    cases hd
  · rw [if_neg (by simpa using hrestart)]
    have hinner : Axis.innerRead A (index, subindex) { a with calls := [] } = (.error (keyError ""), { a with calls := [] }) := by
      unfold Axis.innerRead
      rw [hd]
      rfl
    unfold Exec.Post Axis.access Exec.handle
    rw [hinner]
    exact ⟨_, rfl⟩

/-- The model has taken the transfer: its object holds the value, and nothing else has changed. -/
structure Taken (fmus : Device → Artifact F ρ) (before after : HostAxis F ρ) (r : SdoRequest) (value : Bytes) :
    Prop where
  held : (r.index, r.subindex) ≠ Key.statusword → bridgeReadSdo (after.od fmus) (r.index, r.subindex) = .ok value
  upload : r.write = false → after.od fmus = before.od fmus
  download : r.write = true → value = r.value ∧ ∀ key ≠ (r.index, r.subindex), after.od fmus key =
    besideWrite before.axis.hasStore (r.index, r.subindex) value (before.od fmus) key

theorem commits_data {r : SdoRequest} (hread : r.write = false) {text : String} {value : Bytes}
    (h : r.commits (.object [("data", .string text)]) = some value) : text = hexText value := by
  have hsound : Json.contains "error" (.object [("data", .string text)]) = false := rfl
  unfold SdoRequest.commits at h
  rw [hsound, if_neg Bool.false_ne_true] at h
  obtain ⟨hdata, _⟩ := (SdoRequest.accepted_upload hread).mp h
  exact Json.string.inj (Option.some.inj hdata)

theorem commits_done {r : SdoRequest} (hwrite : r.write = true) : r.commits (.object []) = some r.value := by
  have hsound : Json.contains "error" (.object []) = false := rfl
  unfold SdoRequest.commits SdoRequest.accepted
  rw [hsound, if_neg Bool.false_ne_true, if_pos hwrite]

section Ask

variable {format : Format} {before : HostAxis F ρ} (hmodel : before.Reachable fmus format)
  (hfault : before.axis.faultState.fault = none) (p : Presentation) (i : Nat) {r : SdoRequest}

include hmodel hfault

/-- What the model answers to an upload. -/
theorem ask_upload (hread : r.write = false) :
    let out := ask fmus (m, ⟨some i, sdoRequest r⟩) before
    out.2.axis.faultState = before.axis.faultState ∧ out.2.od fmus = before.od fmus ∧
      ∃ reply, out.1 = .ok reply ∧ ∀ value, r.commits (p.hostReply reply) = some value →
        Taken fmus before out.2 r value := by
  intro out
  have hrequest : sdoRequest r = .read r.index r.subindex := if_neg (by simp [hread])
  have hstate : out.2 = _ := ask_state fmus _ before
  have hrestart := (reachable_shown (registryOd _ _) hmodel).1.restart_of_fault_none hfault
  have hvalues := (registry_readable hmodel hfault).values (r.index, r.subindex)
  obtain ⟨hholds, hreply⟩ := Axis.read_post (m := m) (registryOd _ _).toOdAccess hrestart hvalues
  have hod : out.2.od fmus = before.od fmus := by
    rw [hstate]
    unfold HostAxis.od
    dsimp only
    rw [hrequest, hholds.adapter]
  refine ⟨?_, hod, ?_⟩
  · rw [hstate]
    dsimp only
    rw [hrequest]
    exact hholds.faultState
  cases hd : definition (r.index, r.subindex) with
  | none =>
    obtain ⟨e, he⟩ := read_undefined (m := m) (A := (registry (fmus before.device) before.device.modelType).adapter)
      hrestart hd
    obtain ⟨code, message, hanswer⟩ := ask_error fmus (m, ⟨some i, sdoRequest r⟩) before
      (by rw [hrequest]; rfl) (hrequest ▸ he)
    exact ⟨_, hanswer, nofun⟩
  | some d =>
    obtain ⟨text, hanswer, hbytes⟩ := hreply d hd
    refine ⟨_, ask_ok (hrequest ▸ hanswer), fun value hvalue => ⟨fun hne => ?_, fun _ => hod, fun hwrite => ?_⟩⟩
    · obtain ⟨raw, htext, hraw⟩ := hbytes hne
      rw [hod, ← hexText_injective (htext.symm.trans (commits_data hread hvalue))]
      exact hraw
    · rw [hread] at hwrite
      cases hwrite

/-- What the model answers to a download. -/
theorem ask_download (hwrite : r.write = true) :
    let out := ask fmus (m, ⟨some i, sdoRequest r⟩) before
    out.2.axis.faultState = before.axis.faultState ∧ ∃ reply, out.1 = .ok reply ∧
      (r.commits (p.hostReply reply) = none ∧ out.2.od fmus = before.od fmus ∨
        r.commits (p.hostReply reply) = some r.value ∧ Taken fmus before out.2 r r.value) := by
  intro out
  have hrequest : sdoRequest r = .write r.index r.subindex (some (hexText r.value)) := if_pos hwrite
  have hstate : out.2 = _ := ask_state fmus _ before
  have hrestart := (reachable_shown (registryOd _ _) hmodel).1.restart_of_fault_none hfault
  have hexact := exactWrite_post (m := m) (registryOd _ _).toOdAccess hrestart (registry_readable hmodel hfault)
    r.index r.subindex (some (hexText r.value))
  have hafter := Drive.Reachable.dispatched m (.write r.index r.subindex (some (hexText r.value))) hmodel
  unfold Exec.Post at hexact
  generalize hrun : Axis.dispatch (registry (fmus before.device) before.device.modelType).adapter m
    (.write r.index r.subindex (some (hexText r.value))) before.axis = run at hexact
  have hout : out.2 = { before with axis := run.2 } := by
    rw [hstate]
    dsimp only
    rw [hrequest, hrun]
  have hod : out.2.od fmus = (registryOd (fmus before.device) before.device.modelType).od run.2.adapter := by
    rw [hout]
    rfl
  have hreplied : (Axis.dispatch (registry (fmus before.device) before.device.modelType).adapter m (sdoRequest r)
      before.axis).1 = run.1 := by
    rw [hrequest, hrun]
  obtain ⟨result, axis⟩ := run
  cases hexact with
  | refused e _ faultState unchanged =>
    obtain ⟨code, message, hanswer⟩ := ask_error fmus (m, ⟨some i, sdoRequest r⟩) before
      (by rw [hrequest]; rfl) hreplied
    exact ⟨by rw [hout]; exact faultState, _, hanswer, .inl ⟨rfl, hod.trans unchanged⟩⟩
  | written text payload _ data_eq payload_eq faultState readBack others =>
    cases data_eq
    rw [fromHex_hexText] at payload_eq
    cases payload_eq
    have hreadable := registry_readable hafter (by rw [hrun]; exact faultState ▸ hfault)
    rw [hrun] at hreadable
    refine ⟨by rw [hout]; exact faultState, _, ask_ok hreplied, .inr ⟨commits_done hwrite, ?_, ?_, ?_⟩⟩
    · intro hne
      have hrestart' : axis.faultState.restartRequired = false := faultState ▸ hrestart
      obtain ⟨_, hread⟩ := Axis.read_post (m := m) (registryOd (fmus before.device) before.device.modelType).toOdAccess
        hrestart' (hreadable.values (r.index, r.subindex))
      cases hd : definition (r.index, r.subindex) with
      | none =>
        obtain ⟨e, he⟩ := read_undefined (m := m)
          (A := (registry (fmus before.device) before.device.modelType).adapter) hrestart' hd
        cases (readBack m).symm.trans he
      | some d =>
        obtain ⟨text, htext, hbytes⟩ := hread d hd
        obtain ⟨raw, rfl, hraw⟩ := hbytes hne
        have hsame := Reply.object.inj (Except.ok.inj (htext.symm.trans (readBack m)))
        rw [hod, ← hexText_injective hsame]
        exact hraw
    · intro hread
      rw [hwrite] at hread
      cases hread
    · refine fun _ => ⟨rfl, fun key hkey => ?_⟩
      rw [hod]
      exact others key hkey

end Ask

/-- A message the model has answered is closed, by what the answer commits. -/
theorem exchange_answered {gateway : SdoGateway} {dictionary : Dictionary} {raw : Bytes} {polls : Nat → Poll} {n : Nat}
    (hraw : 12 ≤ raw.length) {r : SdoRequest} (hvalid : validate gateway dictionary raw = some (.ok r))
    {response : Json} (hanswered : Answered gateway polls n (.value response)) :
    ∃ g answer, exchange gateway dictionary raw polls n = some g ∧ g.replies = [answer] ∧
      ((∃ value, r.commits response = some value ∧
          ReplyHeader raw answer 3 (if r.write then 0x60 else 0x43 ||| (4 - r.size) <<< 2) ∧
          (r.write = false → readBytes answer 12 r.size = some value) ∧
          g.dictionary = Dictionary.commit dictionary r value) ∨
        r.commits response = none ∧ ReplyHeader raw answer 2 0x80 ∧ g.dictionary = dictionary) := by
  obtain ⟨g, hg, hstage⟩ := exchange_stage gateway dictionary polls hraw n
  refine ⟨g, ?_⟩
  cases hstage with
  | fresh first =>
    obtain ⟨_, k, hk, _⟩ := hanswered
    omega
  | waits _ _ _ _ unready =>
    obtain ⟨hready, k, hk, _, hfuture⟩ := hanswered
    exact absurd (hfuture.symm.trans (unready k hk)) hready
  | closed answer replies _ _ verdict =>
    refine ⟨answer, hg, replies, ?_⟩
    cases verdict with
    | rejected code invalid =>
      rw [hvalid] at invalid
      cases invalid
    | failed r' valid future answered refused header unchanged =>
      rw [hvalid] at valid
      cases valid
      exact .inr ⟨refused response (answered.unique hanswered), header, unchanged⟩
    | accepted r' valid response' value answered commits header data committed =>
      rw [hvalid] at valid
      cases valid
      cases answered.unique hanswered
      exact .inl ⟨value, commits, header, data, committed⟩

theorem sdoRequest_ne (r : SdoRequest) : sdoRequest r ≠ .describe := by
  unfold sdoRequest
  split <;> exact nofun

end EthercatSimulator.Fleet
