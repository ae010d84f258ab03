import EthercatSimulator.Slave.SdoGatewayLaws

/-! One message at the gateway, from its arrival to its reply, however often it is polled. -/

namespace EthercatSimulator.Slave

open Base Ipc

/-- The message after `n` calls of `process`. -/
def exchange (gateway : SdoGateway) (dictionary : Dictionary) (raw : Bytes) (polls : Nat → Poll) :
    Nat → Option GatewayMessage
  | 0 => some ⟨raw, false, [], [], dictionary, false⟩
  | n + 1 => (exchange gateway dictionary raw polls n).bind fun m => m.process gateway (polls n)

/-- What the model has answered at one poll. -/
def answer (gateway : SdoGateway) (polls : Nat → Poll) (n : Nat) : Future :=
  GatewayMessage.consult gateway (n ≠ 0) (polls n)

/-- The first answer of the model within `n` polls. -/
def Answered (gateway : SdoGateway) (polls : Nat → Poll) (n : Nat) (future : Future) : Prop :=
  future ≠ .unready ∧ ∃ k < n, (∀ j < k, answer gateway polls j = .unready) ∧ answer gateway polls k = future

/-- What the model has to answer for `value` to be committed: an object without an error, that has
the data if the request is an upload. -/
structure SdoRequest.Accepts (r : SdoRequest) (raw : Bytes) (response : Json) (value : Bytes) : Prop where
  form : ∃ members, response = .object members
  sound : response.contains "error" = false
  download : r.write = true → readBytes raw (payloadOffset raw) r.size = some value
  upload : r.write = false → response.get? "data" = some (.string (hexText value)) ∧ value.length = r.size

/-- The bytes that a reply of the model commits. -/
def SdoRequest.commits (r : SdoRequest) (response : Json) : Option Bytes :=
  if response.contains "error" then none else r.accepted response

theorem SdoRequest.accepted_upload {r : SdoRequest} (h : r.write = false) {response : Json}
    {value : Bytes} : r.accepted response = some value ↔
      response.get? "data" = some (.string (hexText value)) ∧ value.length = r.size := by
  unfold accepted unhex
  rw [if_neg (by rw [h]; nofun)]
  simp only [Option.bind_eq_bind, Option.bind_eq_some_iff, Option.pure_def]
  constructor
  · rintro ⟨data, hdata, text, htext, hunhex⟩
    cases data <;> cases htext
    split at hunhex
    · rename_i hok
      cases hunhex
      obtain ⟨rfl, hlength⟩ := decodeHex_eq_ok.mp hok
      exact ⟨hdata, hlength⟩
    · cases hunhex
  · rintro ⟨hdata, hlength⟩
    refine ⟨_, hdata, _, rfl, ?_⟩
    rw [decodeHex_eq_ok.mpr ⟨rfl, hlength⟩]

theorem SdoRequest.commits_eq_some {r : SdoRequest} {dictionary : Dictionary} {raw : Bytes}
    (h : r.Valid dictionary raw) {response : Json}
    (hform : r.write = true → ∃ members, response = .object members) {value : Bytes} :
    r.commits response = some value ↔ r.Accepts raw response value := by
  unfold commits
  cases herror : response.contains "error" with
  | true =>
    refine ⟨nofun, fun haccepts => ?_⟩
    have := haccepts.sound
    rw [herror] at this
    cases this
  | false =>
    rw [if_neg nofun]
    cases hwrite : r.write with
    | true =>
      have hcommits : r.accepted response = some r.value := by
        unfold accepted
        rw [if_pos hwrite]
      rw [hcommits, ← h.value hwrite]
      refine ⟨fun hvalue => ⟨hform hwrite, herror, fun _ => hvalue, fun hread => ?_⟩,
        fun haccepts => haccepts.download hwrite⟩
      rw [hwrite] at hread
      cases hread
    | false =>
      rw [accepted_upload hwrite]
      refine ⟨fun hdata => ⟨?_, herror, fun hdownload => ?_, fun _ => hdata⟩,
        fun haccepts => haccepts.upload hwrite⟩
      · cases response with
        | object members => exact ⟨members, rfl⟩
        | _ => exact nomatch hdata.1
      · rw [hwrite] at hdownload
        cases hdownload

theorem SdoRequest.length_commits {r : SdoRequest} {dictionary : Dictionary} {raw : Bytes}
    (h : r.Valid dictionary raw) {response : Json} {value : Bytes}
    (hvalue : r.commits response = some value) : value.length = r.size := by
  unfold commits at hvalue
  split_ifs at hvalue
  cases hwrite : r.write with
  | true =>
    unfold accepted at hvalue
    rw [if_pos hwrite] at hvalue
    cases hvalue
    exact length_readBytes (h.value hwrite)
  | false => exact ((accepted_upload hwrite).mp hvalue).2

section

variable {gateway : SdoGateway} {dictionary : Dictionary} {raw : Bytes} {polls : Nat → Poll} {n : Nat}
  {m : GatewayMessage}

theorem Answered.mono {future : Future} (h : Answered gateway polls n future) :
    Answered gateway polls (n + 1) future := by
  obtain ⟨hready, k, hk, hfirst, hfuture⟩ := h
  exact ⟨hready, k, by omega, hfirst, hfuture⟩

theorem Answered.unique {future future' : Future} (h : Answered gateway polls n future)
    (h' : Answered gateway polls n future') : future = future' := by
  obtain ⟨hready, k, _, hfirst, hfuture⟩ := h
  obtain ⟨hready', k', _, hfirst', hfuture'⟩ := h'
  rcases Nat.lt_trichotomy k k' with hlt | rfl | hlt
  · exact absurd (hfuture.symm.trans (hfirst' k hlt)) hready
  · exact hfuture.symm.trans hfuture'
  · exact absurd (hfuture'.symm.trans (hfirst k' hlt)) hready'

/-- What the reply to a message says, and what has become of the dictionary. -/
inductive Verdict (gateway : SdoGateway) (dictionary : Dictionary) (raw : Bytes) (polls : Nat → Poll)
    (n : Nat) (reply : Bytes) (dictionary' : Dictionary) : Prop
  | rejected (code : Nat) (invalid : validate gateway dictionary raw = some (.error code))
    (header : ReplyHeader raw reply 2 0x80) (unchanged : dictionary' = dictionary)
  | failed (r : SdoRequest) (valid : validate gateway dictionary raw = some (.ok r)) (future : Future)
    (answered : Answered gateway polls n future)
    (refused : ∀ response, future = .value response → r.commits response = none)
    (header : ReplyHeader raw reply 2 0x80) (unchanged : dictionary' = dictionary)
  | accepted (r : SdoRequest) (valid : validate gateway dictionary raw = some (.ok r)) (response : Json)
    (value : Bytes) (answered : Answered gateway polls n (.value response))
    (commits : r.commits response = some value)
    (header : ReplyHeader raw reply 3 (if r.write then 0x60 else 0x43 ||| (4 - r.size) <<< 2))
    (data : r.write = false → readBytes reply 12 r.size = some value)
    (committed : dictionary' = Dictionary.commit dictionary r value)

/-- Where a message stands after `n` polls. -/
inductive Stage (gateway : SdoGateway) (dictionary : Dictionary) (raw : Bytes) (polls : Nat → Poll)
    (n : Nat) (m : GatewayMessage) : Prop
  | fresh (first : n = 0) (form : m = ⟨raw, false, [], [], dictionary, false⟩)
  | waits (r : SdoRequest) (valid : validate gateway dictionary raw = some (.ok r)) (later : n ≠ 0)
    (async : gateway.async = true) (unready : ∀ j < n, answer gateway polls j = .unready)
    (form : m = ⟨raw, true, [r.json], [], dictionary, false⟩)
  | closed (reply : Bytes) (replies : m.replies = [reply]) (finalized : m.finalized = true)
    (submitted : m.submitted.length ≤ 1)
    (verdict : Verdict gateway dictionary raw polls n reply m.dictionary)

/-- A gateway that does not submit has an answer at once. -/
theorem answer_unready (h : answer gateway polls n = .unready) : gateway.async = true := by
  unfold answer GatewayMessage.consult at h
  split at h
  · assumption
  · cases hresponse : (polls n).response with
    | none => rw [hresponse] at h; cases h
    | some response => rw [hresponse] at h; cases h

/-- The answer of the model to a message that has been submitted. -/
theorem settled (hraw : 12 ≤ raw.length) {r : SdoRequest}
    (hvalid : validate gateway dictionary raw = some (.ok r))
    (hunready : ∀ j < n, answer gateway polls j = .unready)
    (hasync : answer gateway polls n = .unready → gateway.async = true) {pending : Bool} :
    ∃ m', GatewayMessage.settle ⟨raw, pending, [r.json], [], dictionary, false⟩ r (answer gateway polls n) =
      some m' ∧ Stage gateway dictionary raw polls (n + 1) m' := by
  obtain ⟨verdict, hverdict, hchecked⟩ := validate_checked gateway dictionary hraw
  rw [hvalid] at hverdict
  have hr := hchecked r (Option.some.inj hverdict).symm
  have hanswered : answer gateway polls n ≠ .unready →
      Answered gateway polls (n + 1) (answer gateway polls n) := fun hready =>
    ⟨hready, n, Nat.lt_succ_self n, hunready, rfl⟩
  -- an abort, whatever its code
  have habort : ∀ code, answer gateway polls n ≠ .unready →
      (∀ response, answer gateway polls n = .value response → r.commits response = none) →
      ∃ m', GatewayMessage.abort ⟨raw, pending, [r.json], [], dictionary, false⟩ code = some m' ∧
        Stage gateway dictionary raw polls (n + 1) m' := by
    intro code hready hrefused
    obtain ⟨reply, habort, hheader⟩ := GatewayMessage.abort_spec
      (m := ⟨raw, pending, [r.json], [], dictionary, false⟩) hraw code
    exact ⟨_, habort, .closed reply rfl rfl le_rfl
      (.failed r hvalid _ (hanswered hready) hrefused hheader rfl)⟩
  cases hanswer : answer gateway polls n with
  | unready =>
    refine ⟨_, rfl, .waits r hvalid (Nat.succ_ne_zero n) (hasync hanswer) (fun j hj => ?_) rfl⟩
    rcases Nat.lt_succ_iff_lt_or_eq.mp hj with hlt | rfl
    · exact hunready j hlt
    · exact hanswer
  | exception what =>
    exact habort _ (by rw [hanswer]; nofun) fun response hresponse => by
      rw [hanswer] at hresponse
      cases hresponse
  | value response =>
    have hready : answer gateway polls n ≠ .unready := by
      rw [hanswer]
      nofun
    have hrefused : r.commits response = none → ∀ response', answer gateway polls n = .value response' →
        r.commits response' = none := by
      rintro hnone response' hresponse'
      rw [hanswer] at hresponse'
      cases hresponse'
      exact hnone
    unfold GatewayMessage.settle GatewayMessage.conclude
    dsimp only
    cases herror : response.contains "error" with
    | true =>
      have hnone : r.commits response = none := by
        unfold SdoRequest.commits
        rw [herror]
        rfl
      rw [if_pos rfl]
      split
      · exact habort _ hready (hrefused hnone)
      · exact habort _ hready (hrefused hnone)
    | false =>
      have hcommits : r.commits response = r.accepted response := by
        unfold SdoRequest.commits
        rw [herror]
        rfl
      rw [if_neg nofun, ← hcommits]
      cases hvalue : r.commits response with
      | none => exact habort _ hready (hrefused hvalue)
      | some value =>
        obtain ⟨reply, hsucceed, hheader, hdata⟩ := GatewayMessage.succeed_spec
          (m := ⟨raw, pending, [r.json], [], dictionary, false⟩) hr.length r hr.size
          (SdoRequest.length_commits hr hvalue)
        have hanswered := hanswered hready
        rw [hanswer] at hanswered
        exact ⟨_, hsucceed, .closed reply rfl rfl le_rfl
          (.accepted r hvalid response value hanswered hvalue hheader hdata rfl)⟩

theorem exchange_stage (gateway : SdoGateway) (dictionary : Dictionary) (polls : Nat → Poll)
    (hraw : 12 ≤ raw.length) (n : Nat) :
    ∃ m, exchange gateway dictionary raw polls n = some m ∧ Stage gateway dictionary raw polls n m := by
  induction n with
  | zero => exact ⟨_, rfl, .fresh rfl rfl⟩
  | succ n ih =>
    obtain ⟨m, hm, hstage⟩ := ih
    unfold exchange
    rw [hm, Option.bind_some]
    cases hstage with
    | fresh first form =>
      subst form
      subst first
      obtain ⟨verdict, hverdict, _⟩ := validate_checked gateway dictionary hraw
      unfold GatewayMessage.process
      rw [if_neg nofun]
      dsimp only
      rw [hverdict]
      cases verdict with
      | error code =>
        obtain ⟨reply, habort, hheader⟩ := GatewayMessage.abort_spec
          (m := ⟨raw, false, [], [], dictionary, false⟩) hraw code
        exact ⟨_, habort, .closed reply rfl rfl (Nat.zero_le _) (.rejected code hverdict hheader rfl)⟩
      | ok r =>
        have hasked : (gateway.async && false) = false := Bool.and_false _
        simp only [Option.bind_eq_bind, Option.bind_some, hasked]
        exact settled hraw hverdict (fun _ hj => absurd hj (Nat.not_lt_zero _)) answer_unready
    | waits r valid later async unready form =>
      subst form
      have hasked : (gateway.async && true) = true := by
        rw [async]
        rfl
      unfold GatewayMessage.process
      rw [if_neg nofun]
      dsimp only
      rw [valid]
      simp only [Option.bind_eq_bind, Option.bind_some, hasked, ↓reduceIte]
      have hconsult : GatewayMessage.consult gateway true (polls n) = answer gateway polls n := by
        unfold answer
        rw [decide_eq_true later]
      rw [hconsult]
      exact settled hraw valid unready fun _ => async
    | closed reply replies finalized submitted verdict =>
      refine ⟨m, ?_, .closed reply replies finalized submitted ?_⟩
      · unfold GatewayMessage.process
        rw [if_pos finalized]
        rfl
      · cases verdict with
        | rejected code invalid header unchanged => exact .rejected code invalid header unchanged
        | failed r valid future answered refused header unchanged =>
          exact .failed r valid future answered.mono refused header unchanged
        | accepted r valid response value answered commits header data committed =>
          exact .accepted r valid response value answered.mono commits header data committed

end

end EthercatSimulator.Slave
