import EthercatSimulator.Slave.SdoExchange

/-! One reply and at most one request for each message, and a commit only for a request that the
model has accepted. -/

namespace EthercatSimulator.Slave

open Base Ipc

/-- What an accepted request leaves: the bytes in the entry that was asked for, and nothing else. -/
structure Committed (dictionary dictionary' : Dictionary) (r : SdoRequest) (value : Bytes) : Prop where
  held : ∃ entry, dictionary' r.index r.subindex = some entry ∧ entry.data.take r.size = value
  other : ∀ index subindex, ¬ (index = r.index ∧ subindex = r.subindex) →
    dictionary' index subindex = dictionary index subindex

theorem committed {dictionary : Dictionary} {r : SdoRequest} {value : Bytes} {entry : Entry}
    (hentry : dictionary r.index r.subindex = some entry) (hvalue : value.length = r.size) :
    Committed dictionary (Dictionary.commit dictionary r value) r value where
  held := by
    refine ⟨{ entry with data := value ++ entry.data.drop value.length }, ?_, ?_⟩
    · unfold Dictionary.commit
      rw [if_pos ⟨rfl, rfl⟩, hentry]
      rfl
    · dsimp only
      rw [← hvalue]
      exact List.take_left
  other _ _ h := if_neg h

section

variable (gateway : SdoGateway) (dictionary : Dictionary) (raw : Bytes) (polls : Nat → Poll) (n : Nat)

/-- Within `n` polls the model has accepted the request of the message. -/
def Acceptance (r : SdoRequest) (value : Bytes) : Prop :=
  validate gateway dictionary raw = some (.ok r) ∧
    ∃ response, Answered gateway polls n (.value response) ∧ r.Accepts raw response value

/-- The reply to a message, and the dictionary it leaves. -/
structure Replied (reply : Bytes) (dictionary' : Dictionary) : Prop where
  success : ∀ r value, Acceptance gateway dictionary raw polls n r value →
    ReplyHeader raw reply 3 (if r.write then 0x60 else 0x43 ||| (4 - r.size) <<< 2) ∧
      (r.write = false → readBytes reply 12 r.size = some value) ∧ Committed dictionary dictionary' r value
  abort : (¬ ∃ r value, Acceptance gateway dictionary raw polls n r value) →
    ReplyHeader raw reply 2 0x80 ∧ dictionary' = dictionary

/-- After `n` polls the message has been read inside its buffer only, and submitted at most once; it
has one reply if it is finalized, and otherwise neither a reply nor an effect. -/
def Sound : Prop :=
  ∃ m, exchange gateway dictionary raw polls n = some m ∧ m.submitted.length ≤ 1 ∧
    (m.finalized = false → m.replies = [] ∧ m.dictionary = dictionary) ∧
    (m.finalized = true → ∃ reply, m.replies = [reply] ∧
      Replied gateway dictionary raw polls n reply m.dictionary)

/-- The model has answered a download with a value that is no object. -/
def Careless : Prop :=
  ∃ r response, validate gateway dictionary raw = some (.ok r) ∧ r.write = true ∧
    Answered gateway polls n (.value response) ∧ ∀ members, response ≠ .object members

end

section

variable {gateway : SdoGateway} {dictionary : Dictionary} {raw : Bytes} {polls : Nat → Poll} {n : Nat}

theorem valid_of_validate (hraw : 12 ≤ raw.length) {r : SdoRequest}
    (h : validate gateway dictionary raw = some (.ok r)) : r.Valid dictionary raw := by
  obtain ⟨verdict, hverdict, hchecked⟩ := validate_checked gateway dictionary hraw
  rw [h] at hverdict
  exact hchecked r (Option.some.inj hverdict).symm

/-- Away from the careless answers, the gateway commits what the model has accepted. -/
theorem commits_iff (hraw : 12 ≤ raw.length) (h : ¬ Careless gateway dictionary raw polls n)
    {r : SdoRequest} (hvalid : validate gateway dictionary raw = some (.ok r)) {response : Json}
    (hanswered : Answered gateway polls n (.value response)) {value : Bytes} :
    r.commits response = some value ↔ r.Accepts raw response value := by
  refine SdoRequest.commits_eq_some (valid_of_validate hraw hvalid) fun hwrite => ?_
  by_contra hform
  exact h ⟨r, response, hvalid, hwrite, hanswered, fun members hmembers => hform ⟨members, hmembers⟩⟩

theorem Acceptance.response {r r' : SdoRequest} {value : Bytes}
    (h : Acceptance gateway dictionary raw polls n r value)
    (hvalid : validate gateway dictionary raw = some (.ok r')) {future : Future}
    (hanswered : Answered gateway polls n future) :
    r = r' ∧ ∃ response, future = .value response ∧ r'.Accepts raw response value := by
  obtain ⟨hvalid', response, hanswered', haccepts⟩ := h
  rw [hvalid] at hvalid'
  cases hvalid'
  exact ⟨rfl, response, hanswered.unique hanswered', haccepts⟩

theorem replied_of_verdict (hraw : 12 ≤ raw.length) (h : ¬ Careless gateway dictionary raw polls n)
    {reply : Bytes} {dictionary' : Dictionary}
    (hverdict : Verdict gateway dictionary raw polls n reply dictionary') :
    Replied gateway dictionary raw polls n reply dictionary' := by
  cases hverdict with
  | rejected code invalid header unchanged =>
    refine ⟨fun r value hacceptance => ?_, fun _ => ⟨header, unchanged⟩⟩
    have hvalid := hacceptance.1
    rw [invalid] at hvalid
    cases hvalid
  | failed r valid future answered refused header unchanged =>
    refine ⟨fun r' value hacceptance => ?_, fun _ => ⟨header, unchanged⟩⟩
    obtain ⟨rfl, response, rfl, haccepts⟩ := hacceptance.response valid answered
    have hnone := refused response rfl
    rw [(commits_iff hraw h valid answered).mpr haccepts] at hnone
    cases hnone
  | accepted r valid response value answered commits header data unchanged =>
    have haccepts := (commits_iff hraw h valid answered).mp commits
    refine ⟨fun r' value' hacceptance => ?_, fun hnone =>
      absurd ⟨r, value, valid, response, answered, haccepts⟩ hnone⟩
    obtain ⟨rfl, response', hresponse, haccepts'⟩ := hacceptance.response valid answered
    cases hresponse
    have hvalue := (commits_iff hraw h valid answered).mpr haccepts'
    rw [commits] at hvalue
    cases hvalue
    have hr := valid_of_validate hraw valid
    obtain ⟨entry, hentry, _⟩ := hr.entry
    subst unchanged
    exact ⟨header, data, committed hentry (SdoRequest.length_commits hr commits)⟩

theorem sound_of_careful (hraw : 12 ≤ raw.length) (h : ¬ Careless gateway dictionary raw polls n) :
    Sound gateway dictionary raw polls n := by
  obtain ⟨m, hm, hstage⟩ := exchange_stage gateway dictionary polls hraw n
  refine ⟨m, hm, ?_⟩
  cases hstage with
  | fresh _ form =>
    subst form
    exact ⟨Nat.zero_le _, fun _ => ⟨rfl, rfl⟩, nofun⟩
  | waits _ _ _ _ _ form =>
    subst form
    exact ⟨le_rfl, fun _ => ⟨rfl, rfl⟩, nofun⟩
  | closed reply replies finalized submitted verdict =>
    refine ⟨submitted, fun hpending => ?_, fun _ => ⟨reply, replies, replied_of_verdict hraw h verdict⟩⟩
    rw [finalized] at hpending
    cases hpending

theorem ReplyHeader.unambiguous {reply : Bytes} {service service' command command' : Nat}
    (h : ReplyHeader raw reply service command) (h' : ReplyHeader raw reply service' command') :
    service = service' := by
  have hservice := h.service
  rw [h'.service] at hservice
  exact (Option.some.inj hservice).symm

/-- A careless answer is taken for an acceptance. -/
theorem accepted_of_careless (h : Careless gateway dictionary raw polls n) {reply : Bytes}
    {dictionary' : Dictionary} (hverdict : Verdict gateway dictionary raw polls n reply dictionary') :
    ∃ command, ReplyHeader raw reply 3 command := by
  obtain ⟨r, response, hvalid, hwrite, hanswered, hform⟩ := h
  cases hverdict with
  | rejected code invalid =>
    rw [hvalid] at invalid
    cases invalid
  | failed r' valid future answered refused =>
    rw [hvalid] at valid
    cases valid
    have hnone := refused response (answered.unique hanswered)
    have herror : response.contains "error" = false := by
      cases response with
      | object members => exact absurd rfl (hform members)
      | _ => rfl
    unfold SdoRequest.commits SdoRequest.accepted at hnone
    rw [herror, if_neg nofun, if_pos hwrite] at hnone
    cases hnone
  | accepted r' valid response' value answered commits header => exact ⟨_, header⟩

theorem unsound_of_careless (hraw : 12 ≤ raw.length) (h : Careless gateway dictionary raw polls n) :
    ¬ Sound gateway dictionary raw polls n := by
  obtain ⟨m, hm, hstage⟩ := exchange_stage gateway dictionary polls hraw n
  rintro ⟨m', hm', _, _, hreplied⟩
  rw [hm] at hm'
  cases hm'
  obtain ⟨r, response, hvalid, hwrite, hanswered, hform⟩ := id h
  cases hstage with
  | fresh first =>
    obtain ⟨_, k, hk, _⟩ := hanswered
    omega
  | waits _ _ _ _ unready =>
    obtain ⟨hready, k, hk, _, hfuture⟩ := hanswered
    exact hready (hfuture.symm.trans (unready k hk))
  | closed reply replies finalized _ verdict =>
    obtain ⟨reply', hreplies, houtcome⟩ := hreplied finalized
    rw [replies] at hreplies
    cases hreplies
    obtain ⟨command, hsuccess⟩ := accepted_of_careless h verdict
    have hrefused : ¬ ∃ r value, Acceptance gateway dictionary raw polls n r value := by
      rintro ⟨r', value, hacceptance⟩
      obtain ⟨rfl, response', hresponse, haccepts⟩ := hacceptance.response hvalid hanswered
      cases hresponse
      obtain ⟨members, hmembers⟩ := haccepts.form
      exact hform members hmembers
    exact absurd ((houtcome.abort hrefused).1.unambiguous hsuccess) (by omega)

theorem sdo_replies (hraw : 12 ≤ raw.length) :
    Sound gateway dictionary raw polls n ↔ ¬ Careless gateway dictionary raw polls n :=
  ⟨fun hsound hcareless => unsound_of_careless hraw hcareless hsound, sound_of_careful hraw⟩

end

/-- A download of 10000 to the profile velocity. -/
def download : Bytes :=
  [0x0A, 0, 0, 0, 0, 3, 0, 0x20, 0x23, 0x81, 0x60, 0, 0x10, 0x27, 0, 0]

def profileVelocityOnly : Dictionary := fun index subindex =>
  if index = 0x6081 ∧ subindex = 0 then some ⟨32, true, true, [0, 0, 0, 0]⟩ else none

theorem validate_download (async : Bool) :
    validate ⟨[(0x6081, 0)], async⟩ profileVelocityOnly download =
      some (.ok ⟨true, 0x6081, 0, 4, [0x10, 0x27, 0, 0]⟩) := rfl

/-- The model accepts it at the second poll. -/
theorem sdo_replies_accepted :
    Sound ⟨[(0x6081, 0)], true⟩ profileVelocityOnly download
      (fun n => ⟨false, if n = 0 then .unready else .value (.object []), none⟩) 2 := by
  refine (sdo_replies (by decide)).mpr ?_
  rintro ⟨r, response, _, _, hanswered, hform⟩
  have haccepted : Answered ⟨[(0x6081, 0)], true⟩
      (fun n => ⟨false, if n = 0 then .unready else .value (.object []), none⟩) 2 (.value (.object [])) := by
    refine ⟨nofun, 1, by omega, fun j hj => ?_, rfl⟩
    obtain rfl : j = 0 := by omega
    rfl
  have hresponse := hanswered.unique haccepted
  cases hresponse
  exact hform [] rfl

/-- The model answers with an empty array. -/
theorem sdo_replies_array :
    ¬ Sound ⟨[(0x6081, 0)], true⟩ profileVelocityOnly download
      (fun _ => ⟨false, .value (.array []), none⟩) 1 ∧
    ∃ m, exchange ⟨[(0x6081, 0)], true⟩ profileVelocityOnly download
      (fun _ => ⟨false, .value (.array []), none⟩) 1 = some m ∧
      m.replies.map (readByte · 8) = [some 0x60] ∧
      (m.dictionary 0x6081 0).map Entry.data = some [0x10, 0x27, 0, 0] := by
  refine ⟨unsound_of_careless (by decide) ⟨_, .array [], validate_download true, rfl, ?_, nofun⟩,
    ⟨_, rfl, rfl, rfl⟩⟩
  exact ⟨nofun, 0, by omega, nofun, rfl⟩

end EthercatSimulator.Slave
