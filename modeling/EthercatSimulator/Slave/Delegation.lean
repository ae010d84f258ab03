import EthercatSimulator.Slave.SdoGatewayLaws

/-! Messages that the gateway leaves to the upstream mailbox, and the queue of replies they share. -/

namespace EthercatSimulator.Slave

open Base

inductive ProcessingResult
  | noop | continue | finalize
  deriving DecidableEq

/-- A reply that waits in the mailbox: `popReply` gives the empty vector when none is left. -/
structure MailboxReply where
  data : Bytes
  nonempty : data ≠ []

/-- What the delegate does at one call: the replies it queues, and what it returns unless it throws. -/
structure Upstream where
  queued : List MailboxReply
  result : Option ProcessingResult

def Upstream.replies (u : Upstream) : List Bytes := u.queued.map (·.data)

/-- A CoE abort in the upstream's form. -/
def isAbort (r : Bytes) : Bool :=
  dataOffset + 4 ≤ r.length && (readByte r 5).map (· % 16) = some 3 &&
    (readByte r 7).map (· / 16) = some 2 && (readByte r serviceOffset).map (· / 32) = some 4

/-- The full command byte, and the length of an abort. -/
def normalizeReply (r : Bytes) : Bytes :=
  if isAbort r then leBytes 2 10 ++ (r.set serviceOffset 0x80).drop 2 else r

/-- The replies popped before the first empty one, normalised, and what stays in the queue. -/
def popReplies : List Bytes → List Bytes × List Bytes
  | [] => ([], [])
  | r :: rest =>
    if r.isEmpty then ([], rest)
    else
      let (replies, left) := popReplies rest
      (normalizeReply r :: replies, left)

def normalizeReplies (queue : List Bytes) : List Bytes :=
  let (replies, left) := popReplies queue
  left ++ replies

/-- `while (!popReply().empty())` -/
def discardReplies : List Bytes → List Bytes
  | [] => []
  | r :: rest => if r.isEmpty then rest else discardReplies rest

namespace GatewayMessage

variable (m : GatewayMessage) (u : Upstream)

def queue (replies : List Bytes) : GatewayMessage := { m with replies := m.replies ++ replies }

/-- `process` of a message with a delegate; its replies are the queue of the mailbox. -/
def delegate : Option (ProcessingResult × GatewayMessage) := do
  let m := m.queue u.replies
  match u.result with
  | some result => return (result, { m with replies := normalizeReplies m.replies })
  | none =>
    let m ← ({ m with replies := discardReplies m.replies } : GatewayMessage).abort 0x08000000
    return (.finalize, m)

/-- `process(raw)`, which lets an exception of the delegate pass. -/
def delegateRaw : Option ProcessingResult × GatewayMessage :=
  let m := m.queue u.replies
  match u.result with
  | some result => (some result, { m with replies := normalizeReplies m.replies })
  | none => (none, m)

end GatewayMessage

/-! What becomes of the queue. -/

/-- A reply as it was, save for the length and the command byte of an abort. -/
structure Settled (r r' : Bytes) : Prop where
  same : isAbort r = false → r' = r
  length : isAbort r = true → readWord r' 0 = some 10
  command : isAbort r = true → readByte r' serviceOffset = some 0x80
  rest : isAbort r = true → ∀ i, 2 ≤ i → i ≠ serviceOffset → r'[i]? = r[i]?

structure IsAbortReply (r : Bytes) : Prop where
  length : readWord r 0 = some 10
  service : (readByte r 7).map (· / 16) = some 2
  command : readByte r serviceOffset = some 0x80

/-- The earlier replies are still there, in their order, before those of this request. -/
def Kept (earlier : List MailboxReply) (u : Upstream) (queue : List Bytes) : Prop :=
  ∃ front own, queue = front ++ own ∧ List.Forall₂ Settled (earlier.map (·.data)) front ∧
    match u.result with
    | some _ => List.Forall₂ Settled u.replies own
    | none => ∃ r, own = [r] ∧ IsAbortReply r

theorem length_of_isAbort {r : Bytes} (h : isAbort r = true) : 16 ≤ r.length := by
  unfold isAbort dataOffset at h
  simp only [Bool.and_eq_true, decide_eq_true_eq] at h
  exact h.1.1.1

theorem normalizeReply_settled (r : Bytes) : Settled r (normalizeReply r) := by
  unfold normalizeReply
  by_cases h : isAbort r = true
  · have hlen := length_of_isAbort h
    have hget (i : Nat) (hi : 2 ≤ i) :
        (leBytes 2 10 ++ (r.set serviceOffset 0x80).drop 2)[i]? = (r.set serviceOffset 0x80)[i]? := by
      rw [List.getElem?_append_right (by rw [length_leBytes]; exact hi), length_leBytes,
        List.getElem?_drop, Nat.add_sub_cancel' hi]
    rw [if_pos h]
    refine ⟨fun hn => absurd (h.symm.trans hn) (by decide), fun _ => rfl, fun _ => ?_, fun _ i hi hne => ?_⟩
    · unfold readByte
      rw [hget _ (by decide), List.getElem?_set_self (by unfold serviceOffset; omega)]
      rfl
    · rw [hget i hi, List.getElem?_set_ne (Ne.symm hne)]
  · rw [if_neg h]
    exact ⟨fun _ => rfl, fun ht => absurd ht h, fun ht => absurd ht h, fun ht => absurd ht h⟩

theorem popReplies_eq (replies : List MailboxReply) :
    popReplies (replies.map (·.data)) = ((replies.map (·.data)).map normalizeReply, []) := by
  induction replies with
  | nil => rfl
  | cons r rest ih =>
    have hr : r.data.isEmpty = false := List.isEmpty_eq_false_iff.mpr r.nonempty
    rw [List.map_cons, popReplies, hr, ih]
    rfl

theorem discardReplies_eq (replies : List MailboxReply) : discardReplies (replies.map (·.data)) = [] := by
  induction replies with
  | nil => rfl
  | cons r rest ih =>
    have hr : r.data.isEmpty = false := List.isEmpty_eq_false_iff.mpr r.nonempty
    rw [List.map_cons, discardReplies, hr]
    exact ih

theorem forall₂_normalizeReply (replies : List Bytes) :
    List.Forall₂ Settled replies (replies.map normalizeReply) := by
  rw [List.forall₂_map_right_iff]
  exact List.forall₂_same.mpr fun r _ => normalizeReply_settled r

section Queue

variable (m : GatewayMessage) (earlier : List MailboxReply) (u : Upstream)

/-- The message before its delegate is called. -/
def GatewayMessage.waiting : GatewayMessage := { m with replies := earlier.map (·.data) }

theorem waiting_queue : ((m.waiting earlier).queue u.replies).replies = (earlier ++ u.queued).map (·.data) := by
  rw [List.map_append]
  rfl

theorem kept_normalizeReplies {result : ProcessingResult} (h : u.result = some result) :
    Kept earlier u (normalizeReplies ((m.waiting earlier).queue u.replies).replies) := by
  unfold normalizeReplies
  rw [waiting_queue, popReplies_eq]
  refine ⟨(earlier.map (·.data)).map normalizeReply, u.replies.map normalizeReply, ?_,
    forall₂_normalizeReply _, ?_⟩
  · rw [List.map_append, List.map_append]
    rfl
  rw [h]
  exact forall₂_normalizeReply _

/-- A delegate that throws leaves its abort alone in the queue. -/
theorem delegate_throws (h : u.result = none) : ∃ m' r, (m.waiting earlier).delegate u = some (.finalize, m') ∧
    m'.replies = [r] ∧ IsAbortReply r := by
  let drained : GatewayMessage := { (m.waiting earlier).queue u.replies with replies := [] }
  obtain ⟨r, habort, hr⟩ := drained.abort_header 0x08000000
  refine ⟨drained.reply r, r, ?_, rfl, ⟨hr.length, hr.service, hr.command⟩⟩
  have hdrained : ({ (m.waiting earlier).queue u.replies with
      replies := discardReplies ((m.waiting earlier).queue u.replies).replies } : GatewayMessage) = drained := by
    rw [waiting_queue, discardReplies_eq]
  unfold GatewayMessage.delegate
  dsimp only
  rw [h, hdrained]
  dsimp only
  rw [habort]
  rfl

theorem kept_singleton {r : Bytes} (h : u.result = none) (hr : IsAbortReply r) :
    Kept earlier u [r] ↔ earlier = [] := by
  unfold Kept
  rw [h]
  constructor
  · rintro ⟨front, own, hqueue, hfront, r', rfl, -⟩
    have hlen := hfront.length_eq
    have hone := congrArg List.length hqueue
    rw [List.length_append, List.length_singleton, List.length_singleton] at hone
    rw [List.length_map] at hlen
    exact List.eq_nil_of_length_eq_zero (by omega)
  · rintro rfl
    exact ⟨[], [r], rfl, .nil, r, rfl, hr⟩

end Queue

/-- Processing a delegated message keeps the replies of other requests unless the delegate throws
while some are waiting.  The segments of a message pass the exception on as it is. -/
theorem replies_kept (m : GatewayMessage) (earlier : List MailboxReply) (u : Upstream) :
    ((∃ result m', (m.waiting earlier).delegate u = some (result, m') ∧ Kept earlier u m'.replies) ↔
      u.result ≠ none ∨ earlier = []) ∧
    (Kept earlier u ((m.waiting earlier).delegateRaw u).2.replies ↔
      u.result ≠ none ∨ List.Forall₂ Settled (earlier.map (·.data)) (earlier.map (·.data)) ∧
        ∃ r, u.replies = [r] ∧ IsAbortReply r) := by
  cases hresult : u.result with
  | some result =>
    have hkept := kept_normalizeReplies m earlier u hresult
    constructor
    · refine iff_of_true ⟨result, { (m.waiting earlier).queue u.replies with
        replies := normalizeReplies ((m.waiting earlier).queue u.replies).replies }, ?_, hkept⟩ (.inl nofun)
      unfold GatewayMessage.delegate
      rw [hresult]
      rfl
    · refine iff_of_true ?_ (.inl nofun)
      unfold GatewayMessage.delegateRaw
      rw [hresult]
      exact hkept
  | none =>
    simp only [ne_eq, not_true_eq_false, false_or]
    constructor
    · obtain ⟨m', r, hrun, hreplies, hr⟩ := delegate_throws m earlier u hresult
      rw [← kept_singleton earlier u hresult hr, ← hreplies]
      constructor
      · rintro ⟨result, m'', hrun', hkept⟩
        rw [hrun] at hrun'
        cases hrun'
        exact hkept
      · exact fun hkept => ⟨_, _, hrun, hkept⟩
    · unfold GatewayMessage.delegateRaw Kept
      rw [hresult]
      dsimp only
      rw [waiting_queue, List.map_append]
      constructor
      · rintro ⟨front, own, hqueue, hfront, hown⟩
        obtain ⟨rfl, rfl⟩ := List.append_inj hqueue hfront.length_eq
        exact ⟨hfront, hown⟩
      · rintro ⟨hsame, hown⟩
        exact ⟨_, _, rfl, hsame, hown⟩

/-- One earlier reply waits while the delegate of another request throws. -/
theorem reply_lost :
    let upload : MailboxReply :=
      ⟨[0x0a, 0, 0, 0, 0, 0x13, 0, 0x30, 0x4b, 0x41, 0x60, 0, 0x37, 0x02, 0, 0], by decide⟩
    let request : GatewayMessage :=
      ⟨[0x0a, 0, 0, 0, 0, 0x23, 0, 0x20, 0x2b, 0x12, 0x1c, 0x01, 0x01, 0x16, 0, 0], false, [], [],
        fun _ _ => none, false⟩
    ¬ ∃ result m', (request.waiting [upload]).delegate ⟨[], none⟩ = some (result, m') ∧
      Kept [upload] ⟨[], none⟩ m'.replies := by
  rintro upload request ⟨result, m', hrun, hkept⟩
  obtain ⟨m'', r, hrun', hreplies, hr⟩ := delegate_throws request [upload] ⟨[], none⟩ rfl
  rw [hrun'] at hrun
  cases hrun
  rw [hreplies] at hkept
  cases (kept_singleton [upload] ⟨[], none⟩ rfl hr).mp hkept

end EthercatSimulator.Slave
