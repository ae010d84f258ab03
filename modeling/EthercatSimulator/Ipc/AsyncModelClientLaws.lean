import EthercatSimulator.Ipc.AsyncModelClient
import Mathlib.Data.List.Pairwise
import Mathlib.Data.List.Range

/-! What every interleaving of the threads and the host keeps. -/

namespace EthercatSimulator.Ipc

open Base

variable {J : Type} {text : JsonText J} {c c' : Client J}

namespace Client

/-- The jobs whose promise is not fulfilled yet, the oldest first. -/
def unresolved (c : Client J) : List Nat := c.worker.ids ++ c.jobs.map Job.id

/-- Every submitted job is fulfilled or waits for it, once, and calls of `send` follow the order of
submission. -/
structure Ledger (c : Client J) : Prop where
  accounted : (c.outcomes.map Prod.fst ++ c.unresolved).Perm (List.range c.submitted)
  ordered : c.unresolved.Pairwise (· < ·)
  bounded : c.jobs.length ≤ 64
  sent : (c.sent.map Prod.fst).Pairwise (· ≤ ·)
  sentFirst : ∀ call ∈ c.sent, call.1 ≤ c.submitted ∧ ∀ id ∈ c.unresolved, call.1 ≤ id

namespace Ledger

theorem lt_submitted (h : c.Ledger) {id : Nat} (hid : id ∈ c.unresolved) : id < c.submitted :=
  List.mem_range.mp (h.accounted.mem_iff.mp (List.mem_append_right _ hid))

/-- The oldest jobs are fulfilled. -/
theorem moved (h : c.Ledger) (n : Nat)
    (hdone : c'.outcomes.map Prod.fst = c.outcomes.map Prod.fst ++ c.unresolved.take n)
    (hopen : c'.unresolved = c.unresolved.drop n) (hjobs : c'.jobs.length ≤ c.jobs.length)
    (hsubmitted : c'.submitted = c.submitted) (hsent : c'.sent = c.sent) : c'.Ledger where
  accounted := by
    rw [hdone, hopen, hsubmitted, List.append_assoc, List.take_append_drop]
    exact h.accounted
  ordered := by
    rw [hopen]
    exact h.ordered.sublist (List.drop_sublist n _)
  bounded := hjobs.trans h.bounded
  sent := by
    rw [hsent]
    exact h.sent
  sentFirst call hcall := by
    rw [hsent] at hcall
    rw [hopen, hsubmitted]
    obtain ⟨hle, hfirst⟩ := h.sentFirst call hcall
    exact ⟨hle, fun id hid => hfirst id (List.mem_of_mem_drop hid)⟩

theorem kept (h : c.Ledger) (hopen : c'.unresolved = c.unresolved) (hdone : c'.outcomes = c.outcomes)
    (hjobs : c'.jobs.length ≤ c.jobs.length) (hsubmitted : c'.submitted = c.submitted)
    (hsent : c'.sent = c.sent) : c'.Ledger := by
  refine h.moved 0 ?_ hopen hjobs hsubmitted hsent
  rw [hdone, List.take_zero, List.append_nil]

/-- A job that is refused at once. -/
theorem refused (h : c.Ledger) (outcome : Outcome J) :
    (resolve { c with submitted := c.submitted + 1 } c.submitted outcome).Ledger where
  accounted := by
    change ((c.outcomes ++ [(c.submitted, outcome)]).map Prod.fst ++ c.unresolved).Perm
      (List.range (c.submitted + 1))
    rw [List.map_append, List.range_succ, List.append_assoc]
    refine (List.perm_append_comm_assoc _ _ _).trans ?_
    exact (@List.perm_append_comm _ [c.submitted] _).trans (h.accounted.append_right _)
  ordered := h.ordered
  bounded := h.bounded
  sent := h.sent
  sentFirst call hcall := ⟨(h.sentFirst call hcall).1.trans (Nat.le_succ _), (h.sentFirst call hcall).2⟩

/-- A job that joins the queue. -/
theorem queued (h : c.Ledger) (hspace : c.jobs.length < 64) (message : J) :
    Ledger { c with submitted := c.submitted + 1, jobs := c.jobs ++ [⟨c.submitted, message⟩] } := by
  have hopen : unresolved { c with
      submitted := c.submitted + 1, jobs := c.jobs ++ [⟨c.submitted, message⟩] } =
      c.unresolved ++ [c.submitted] := by
    unfold unresolved
    rw [List.map_append, ← List.append_assoc]
    rfl
  refine ⟨?_, ?_, ?_, h.sent, fun call hcall => ?_⟩
  · rw [hopen, ← List.append_assoc, List.range_succ]
    exact h.accounted.append_right _
  · rw [hopen, List.pairwise_append]
    refine ⟨h.ordered, List.pairwise_singleton _ _, fun id hid id' hid' => ?_⟩
    rw [List.mem_singleton] at hid'
    exact hid' ▸ h.lt_submitted hid
  · rw [List.length_append]
    exact hspace
  · obtain ⟨hle, hfirst⟩ := h.sentFirst call hcall
    refine ⟨hle.trans (Nat.le_succ _), fun id hid => ?_⟩
    rw [hopen, List.mem_append, List.mem_singleton] at hid
    rcases hid with hid | rfl
    · exact hfirst id hid
    · exact hle

/-- A call of `send` for the job that the worker holds. -/
theorem sends (h : c.Ledger) {job : Job J} (hids : c.worker.ids = [job.id])
    (hworker : c'.worker.ids = c.worker.ids) (hjobs : c'.jobs = c.jobs)
    (houtcomes : c'.outcomes = c.outcomes) (hsubmitted : c'.submitted = c.submitted) {data : Bytes}
    (hsent : c'.sent = c.sent ++ [(job.id, data)]) : c'.Ledger := by
  have hopen : c'.unresolved = c.unresolved := by
    unfold unresolved
    rw [hworker, hjobs]
  have hmem : job.id ∈ c.unresolved := by
    unfold unresolved
    rw [hids]
    exact List.mem_cons_self
  have hhead : ∀ id ∈ c.unresolved, job.id ≤ id := by
    have hordered := h.ordered
    unfold unresolved at hordered ⊢
    rw [hids, List.singleton_append, List.pairwise_cons] at hordered
    rw [hids, List.singleton_append]
    intro id hid
    rcases List.mem_cons.mp hid with rfl | hid
    · exact le_rfl
    · exact (hordered.1 id hid).le
  refine ⟨?_, ?_, ?_, ?_, ?_⟩
  · rw [houtcomes, hopen, hsubmitted]
    exact h.accounted
  · rw [hopen]
    exact h.ordered
  · rw [hjobs]
    exact h.bounded
  · rw [hsent, List.map_append, List.pairwise_append]
    refine ⟨h.sent, List.pairwise_singleton _ _, fun id hid id' hid' => ?_⟩
    obtain ⟨call, hcall, rfl⟩ := List.mem_map.mp hid
    rw [List.map_singleton, List.mem_singleton] at hid'
    exact hid' ▸ (h.sentFirst call hcall).2 _ hmem
  · intro call hcall
    rw [hopen, hsubmitted]
    rw [hsent, List.mem_append, List.mem_singleton] at hcall
    rcases hcall with hcall | rfl
    · exact h.sentFirst call hcall
    · exact ⟨(h.lt_submitted hmem).le, hhead⟩

end Ledger

/-- The connection to the host is lost. -/
def Down (c : Client J) : Prop := (∃ failure, c.worker = .unwinding failure) ∨ c.failure ≠ ""

end Client

/-- The reply to the request `id`: not there yet, on its way, or cut off. -/
inductive Expected (owed : List Nat) (answers : List (Nat × Bytes)) (incoming : Bytes) (closed : Bool)
    (id : Nat) (response : Bytes) : Prop
  | pending (request : owed = [id]) (none : response = []) (empty : incoming = [])
  | answered (rest : Bytes) (request : owed = []) (answer : (id, response ++ rest) ∈ answers)
    (single : newline ∉ response ++ rest) (unread : incoming = rest ++ [newline])
  | cut (closed : closed = true) (read : newline ∉ response) (unread : newline ∉ incoming)

/-- The bytes under way belong to the present request. -/
def Client.Framed (c : Client J) : Prop :=
  match c.worker with
  | .connecting | .waiting | .sending _ _ => c.owed = [] ∧ c.incoming = []
  | .receiving job response => Expected c.owed c.answers c.incoming c.closed job.id response
  | .unwinding _ | .ended => True

structure Coherent (text : JsonText J) (c : Client J) : Prop where
  ledger : c.Ledger
  failed : ∀ outcome ∈ c.outcomes, ∀ what, outcome.2 = .failed what → c.Down
  down : c.failure ≠ "" → c.worker = .ended ∧ c.jobs = []
  answered : ∀ outcome ∈ c.outcomes, ∀ response, outcome.2 = .value response →
    ∃ line, (outcome.1, line) ∈ c.answers ∧ text.parse (line ++ [newline]) = .ok response
  framed : c.Framed

namespace Coherent

theorem start : Coherent text (.start : Client J) where
  ledger := ⟨.refl _, .nil, Nat.zero_le _, .nil, nofun⟩
  failed := nofun
  down := fun h => absurd rfl h
  answered := nofun
  framed := ⟨rfl, rfl⟩

/-- A worker that has not ended has no failure behind it. -/
theorem intact (h : Coherent text c) (hworker : c.worker ≠ .ended) : c.failure = "" := by
  by_contra hne
  exact hworker (h.down hne).1

/-- The answers of the fulfilled jobs, after more jobs have failed. -/
theorem answered_append (h : Coherent text c) {more : List (Nat × Outcome J)}
    (hmore : ∀ outcome ∈ more, ∀ response, outcome.2 ≠ .value response) :
    ∀ outcome ∈ c.outcomes ++ more, ∀ response, outcome.2 = .value response →
      ∃ line, (outcome.1, line) ∈ c.answers ∧ text.parse (line ++ [newline]) = .ok response := by
  intro outcome houtcome response hresponse
  rcases List.mem_append.mp houtcome with hold | hnew
  · exact h.answered outcome hold response hresponse
  · exact absurd hresponse (hmore outcome hnew response)

theorem submit (h : Coherent text c) (message : J) : Coherent text (c.submit message) := by
  unfold Client.submit
  dsimp only
  split_ifs with hfailure hfull
  · exact ⟨h.ledger.refused _, fun _ _ _ _ => .inr hfailure, h.down, h.answered_append (by simp), h.framed⟩
  · refine ⟨h.ledger.refused _, fun outcome houtcome what hwhat => ?_, h.down,
      h.answered_append (by simp), h.framed⟩
    rcases List.mem_append.mp houtcome with hold | hnew
    · exact h.failed outcome hold what hwhat
    · rw [List.mem_singleton.mp hnew] at hwhat
      cases hwhat
  · exact ⟨h.ledger.queued (by omega) message, h.failed, fun hne => absurd hne hfailure, h.answered,
      h.framed⟩

theorem fail (h : Coherent text c) {job : Job J} (hids : c.worker.ids = [job.id])
    (failure : Failure) : Coherent text (c.fail job failure) := by
  have hintact : c.failure = "" := h.intact fun hended => by
    rw [hended] at hids
    cases hids
  refine ⟨?_, fun _ _ _ _ => .inl ⟨failure, rfl⟩, fun hne => absurd hintact hne,
    h.answered_append (by simp), trivial⟩
  refine h.ledger.moved 1 ?_ ?_ le_rfl rfl rfl
  · unfold Client.unresolved
    rw [hids]
    exact List.map_append
  · unfold Client.unresolved
    rw [hids]
    rfl

/-- The whole queue fails. -/
theorem drop (h : Coherent text c) (hids : c.worker.ids = []) {outcome : Outcome J}
    (houtcome : ∀ response, outcome ≠ .value response)
    (hfailed : ∀ what, outcome = .failed what → c.Down) : Coherent text (c.drop outcome) := by
  refine ⟨?_, fun o ho what hwhat => ?_, fun hne => ⟨(h.down hne).1, rfl⟩, ?_, h.framed⟩
  · have hopen : c.unresolved = c.jobs.map Job.id := by
      unfold Client.unresolved
      rw [hids]
      rfl
    refine h.ledger.moved c.unresolved.length ?_ ?_ (Nat.zero_le _) rfl rfl
    · rw [List.take_length, hopen]
      change (c.outcomes ++ c.jobs.map fun job => (job.id, outcome)).map Prod.fst = _
      rw [List.map_append, List.map_map]
      rfl
    · rw [List.drop_length]
      unfold Client.unresolved
      exact congrArg (· ++ []) hids
  · rcases List.mem_append.mp ho with hold | hnew
    · exact h.failed o hold what hwhat
    · obtain ⟨job, _, rfl⟩ := List.mem_map.mp hnew
      exact hfailed what hwhat
  · refine h.answered_append fun o ho response => ?_
    obtain ⟨job, _, rfl⟩ := List.mem_map.mp ho
    exact houtcome response

theorem unwind (h : Coherent text c) {failure : Failure} (hworker : c.worker = .unwinding failure) :
    Coherent text (c.unwind failure) := by
  have hdropped : Coherent text (c.drop (.failed failure.what)) :=
    h.drop (by rw [hworker]; rfl) nofun fun _ _ => .inl ⟨failure, hworker⟩
  have hopen : (c.unwind failure).unresolved = (c.drop (.failed failure.what)).unresolved := by
    unfold Client.unresolved
    change [] ++ _ = c.worker.ids ++ _
    rw [hworker]
    rfl
  exact ⟨hdropped.ledger.kept hopen rfl le_rfl rfl rfl, fun _ _ _ _ => .inr failure.what_ne_empty,
    fun _ => ⟨rfl, rfl⟩, hdropped.answered, trivial⟩

/-- No job has failed for the host while the worker is at work. -/
theorem unfailed (h : Coherent text c) (hworker : c.worker ≠ .ended ∧ ∀ failure, c.worker ≠ .unwinding failure) :
    ∀ outcome ∈ c.outcomes, ∀ what, outcome.2 ≠ .failed what := by
  intro outcome houtcome what hwhat
  rcases h.failed outcome houtcome what hwhat with ⟨failure, hunwinding⟩ | hne
  · exact hworker.2 failure hunwinding
  · exact hne (h.intact hworker.1)

/-- The worker turns to another state without a job. -/
theorem turn (h : Coherent text c) {worker : Worker J} (hids : c.worker.ids = [] ∧ worker.ids = [])
    (hworker : c.worker ≠ .ended ∧ ∀ failure, c.worker ≠ .unwinding failure)
    (hframed : Client.Framed { c with worker := worker }) : Coherent text { c with worker := worker } := by
  have hopen : Client.unresolved { c with worker := worker } = c.unresolved := by
    unfold Client.unresolved
    rw [hids.1, hids.2]
  exact ⟨h.ledger.kept hopen rfl le_rfl rfl rfl,
    fun outcome houtcome what hwhat => absurd hwhat (h.unfailed hworker outcome houtcome what),
    fun hne => absurd (h.intact hworker.1) hne, h.answered, hframed⟩

/-- The worker takes the oldest job. -/
theorem take (h : Coherent text c) {job : Job J} {rest : List (Job J)} (hworker : c.worker = .waiting)
    (hjobs : c.jobs = job :: rest) : Coherent text (c.take text job rest) := by
  have hbusy : c.worker ≠ .ended ∧ ∀ failure, c.worker ≠ .unwinding failure := by
    rw [hworker]
    exact ⟨nofun, nofun⟩
  have hframed := h.framed
  unfold Client.Framed at hframed
  rw [hworker] at hframed
  have htaken : ∀ data, Coherent text { c with jobs := rest, worker := .sending job data } := by
    intro data
    have hopen : Client.unresolved { c with jobs := rest, worker := .sending job data } =
        c.unresolved := by
      unfold Client.unresolved
      rw [hworker, hjobs]
      rfl
    refine ⟨h.ledger.kept hopen rfl ?_ rfl rfl,
      fun outcome houtcome what hwhat => absurd hwhat (h.unfailed hbusy outcome houtcome what),
      fun hne => absurd (h.intact hbusy.1) hne, h.answered, hframed⟩
    rw [hjobs]
    exact Nat.le_succ _
  unfold Client.take
  dsimp only
  cases text.dump job.message with
  | ok data => exact htaken _
  | error what => exact (htaken []).fail rfl (.thrown what)

theorem send (h : Coherent text c) {job : Job J} {data : Bytes} {n : Nat}
    (hworker : c.worker = .sending job data) : Coherent text (c.send job data n) := by
  have hbusy : c.worker ≠ .ended ∧ ∀ failure, c.worker ≠ .unwinding failure := by
    rw [hworker]
    exact ⟨nofun, nofun⟩
  have hids : c.worker.ids = [job.id] := by
    rw [hworker]
    rfl
  have hframed := h.framed
  unfold Client.Framed at hframed
  rw [hworker] at hframed
  unfold Client.send
  dsimp only
  split_ifs with hpart
  · exact ⟨h.ledger.sends hids hids.symm rfl rfl rfl rfl,
      fun outcome houtcome what hwhat => absurd hwhat (h.unfailed hbusy outcome houtcome what),
      fun hne => absurd (h.intact hbusy.1) hne, h.answered, hframed⟩
  · refine ⟨h.ledger.sends hids hids.symm rfl rfl rfl rfl,
      fun outcome houtcome what hwhat => absurd hwhat (h.unfailed hbusy outcome houtcome what),
      fun hne => absurd (h.intact hbusy.1) hne, h.answered, ?_⟩
    refine .pending ?_ rfl hframed.2
    dsimp only
    rw [hframed.1]
    rfl

theorem reply (h : Coherent text c) {id : Nat} {rest : List Nat} {line : Bytes}
    (howed : c.owed = id :: rest) (hopened : c.closed = false) (hline : newline ∉ line) :
    Coherent text (c.reply id rest line) := by
  refine ⟨⟨h.ledger.accounted, h.ledger.ordered, h.ledger.bounded, h.ledger.sent, h.ledger.sentFirst⟩,
    h.failed, h.down, fun outcome houtcome response hresponse => ?_, ?_⟩
  · obtain ⟨line', hanswer, hparse⟩ := h.answered outcome houtcome response hresponse
    exact ⟨line', List.mem_append_left _ hanswer, hparse⟩
  · have hframed := h.framed
    unfold Client.Framed at hframed ⊢
    unfold Client.reply
    dsimp only
    cases hworker : c.worker with
    | connecting | waiting | sending job data =>
      rw [hworker, howed] at hframed
      exact absurd hframed.1 nofun
    | receiving job response =>
      rw [hworker, howed] at hframed
      dsimp only at hframed ⊢
      cases hframed with
      | pending request none empty =>
        obtain ⟨rfl, rfl⟩ := List.cons.inj request
        subst none
        refine .answered line rfl (by simp) (by simpa using hline) ?_
        rw [empty]
        rfl
      | answered rest request answer single unread => cases request
      | cut closed read unread => exact absurd (hopened.symm.trans closed) nofun
    | unwinding failure | ended => trivial

theorem close (h : Coherent text c) {part : Bytes} (hpart : newline ∉ part)
    (hsolicited : c.owed = [] → part = []) :
    Coherent text { c with closed := true, incoming := c.incoming ++ part } := by
  refine ⟨⟨h.ledger.accounted, h.ledger.ordered, h.ledger.bounded, h.ledger.sent, h.ledger.sentFirst⟩,
    h.failed, h.down, h.answered, ?_⟩
  have hframed := h.framed
  unfold Client.Framed at hframed ⊢
  dsimp only
  cases hworker : c.worker with
  | connecting | waiting | sending job data =>
    rw [hworker] at hframed
    exact ⟨hframed.1, by rw [hframed.2, hsolicited hframed.1]; rfl⟩
  | receiving job response =>
    rw [hworker] at hframed
    dsimp only at hframed ⊢
    cases hframed with
    | pending request none empty =>
      subst none
      rw [empty, List.nil_append]
      exact .cut rfl (by simp) hpart
    | answered rest request answer single unread =>
      rw [hsolicited request, List.append_nil]
      exact .answered rest request answer single unread
    | cut closed read unread =>
      refine .cut rfl read ?_
      rw [List.mem_append, not_or]
      exact ⟨unread, hpart⟩
  | unwinding failure | ended => trivial

/-- A line that arrived in full fulfils the present job. -/
theorem fulfil (h : Coherent text c) {job : Job J} (hids : c.worker.ids = [job.id])
    (hfailures : ∀ failure, c.worker ≠ .unwinding failure) {response : J} {line : Bytes}
    (hanswer : (job.id, line) ∈ c.answers) (hparse : text.parse (line ++ [newline]) = .ok response)
    (howed : c.owed = []) : Coherent text { c.resolve job.id (.value response) with
      incoming := [], worker := .waiting } := by
  have hended : c.worker ≠ .ended := fun hended => by
    rw [hended] at hids
    cases hids
  refine ⟨?_, fun outcome houtcome what hwhat => ?_, fun hne => absurd (h.intact hended) hne,
    fun outcome houtcome response' hresponse => ?_, howed, rfl⟩
  · refine h.ledger.moved 1 ?_ ?_ le_rfl rfl rfl
    · unfold Client.unresolved
      rw [hids]
      exact List.map_append
    · unfold Client.unresolved
      rw [hids]
      rfl
  · rcases List.mem_append.mp houtcome with hold | hnew
    · exact absurd hwhat (h.unfailed ⟨hended, hfailures⟩ outcome hold what)
    · rw [List.mem_singleton.mp hnew] at hwhat
      cases hwhat
  · rcases List.mem_append.mp houtcome with hold | hnew
    · exact h.answered outcome hold response' hresponse
    · rw [List.mem_singleton.mp hnew] at hresponse ⊢
      cases hresponse
      exact ⟨line, hanswer, hparse⟩

/-- Bytes that are read, from a reply that is expected. -/
theorem receive (h : Coherent text c) {job : Job J} {response : Bytes} {n : Nat}
    (hworker : c.worker = .receiving job response) (hn : 0 < n) (havailable : n ≤ c.incoming.length) :
    Coherent text (c.receive text job response n) := by
  have hids : c.worker.ids = [job.id] := by
    rw [hworker]
    rfl
  have hbusy : c.worker ≠ .ended ∧ ∀ failure, c.worker ≠ .unwinding failure := by
    rw [hworker]
    exact ⟨nofun, nofun⟩
  have hopen : ∀ read unread, Client.unresolved { c with
      incoming := unread, worker := .receiving job read } = c.unresolved := fun _ _ => by
    unfold Client.unresolved
    rw [hids]
    rfl
  have hmore : ∀ {read unread : Bytes}, Expected c.owed c.answers unread c.closed job.id read →
      Coherent text { c with incoming := unread, worker := .receiving job read } := fun hexpected =>
    ⟨h.ledger.kept (hopen _ _) rfl le_rfl rfl rfl,
      fun outcome houtcome what hwhat => absurd hwhat (h.unfailed hbusy outcome houtcome what),
      fun hne => absurd (h.intact hbusy.1) hne, h.answered, hexpected⟩
  have hpart : ∀ {line : Bytes}, newline ∉ line → ¬ line.getLast? = some newline := fun hline hlast =>
    hline (List.mem_of_getLast? hlast)
  have hframed := h.framed
  unfold Client.Framed at hframed
  rw [hworker] at hframed
  dsimp only at hframed
  unfold Client.receive
  dsimp only
  cases hframed with
  | pending request none empty =>
    rw [empty] at havailable
    exact absurd (hn.trans_le havailable) (Nat.lt_irrefl 0)
  | answered rest request answer single unread =>
    have hsingle := List.mem_append.not.mp single
    rw [not_or] at hsingle
    rw [unread, List.length_append] at havailable
    rw [unread]
    rcases take_line hsingle.2 havailable with ⟨rfl, hcount⟩ | ⟨hle, hnone, hcount⟩
    · have hall : (rest ++ [newline]).take (rest.length + 1) = rest ++ [newline] :=
        List.take_of_length_le (by simp)
      have hdrop : (rest ++ [newline]).drop (rest.length + 1) = [] :=
        List.drop_of_length_le (by simp)
      rw [hcount, hall, hdrop, if_pos (by simp), ← List.append_assoc]
      cases hparse : text.parse (response ++ rest ++ [newline]) with
      | ok value => exact h.fulfil hids hbusy.2 answer hparse request
      | error what =>
        have hfailed := h.fail hids (.thrown what)
        exact ⟨hfailed.ledger.kept rfl rfl le_rfl rfl rfl, hfailed.failed, hfailed.down,
          hfailed.answered, trivial⟩
    · rw [hcount, List.take_append_of_le_length hle, if_neg (hpart ?_)]
      · refine hmore (.answered (rest.drop n) request ?_ ?_ ?_)
        · rwa [List.append_assoc, List.take_append_drop]
        · rwa [List.append_assoc, List.take_append_drop]
        · exact List.drop_append_of_le_length hle
      · rw [List.mem_append, not_or]
        exact ⟨hsingle.1, fun hmem => hsingle.2 (List.mem_of_mem_take hmem)⟩
  | cut closed read unread =>
    have hnone : newline ∉ c.incoming.take n := fun hmem => unread (List.mem_of_mem_take hmem)
    have hcount : lineLength (c.incoming.take n) = n := by
      unfold lineLength
      rw [if_neg hnone, List.length_take, Nat.min_eq_left havailable]
    have hboth : newline ∉ response ++ c.incoming.take n := by
      rw [List.mem_append, not_or]
      exact ⟨read, hnone⟩
    rw [hcount, if_neg (hpart hboth)]
    exact hmore (.cut closed hboth fun hmem => unread (List.mem_of_mem_drop hmem))

/-- Every step of every party keeps the ledger and the framing. -/
theorem step (h : Coherent text c) (hs : Step text c c') : Coherent text c' := by
  have hids : ∀ {job : Job J} {data : Bytes}, c.worker = .sending job data ∨ c.worker = .receiving job data →
      c.worker.ids = [job.id] := by
    rintro job data (hworker | hworker) <;> rw [hworker] <;> rfl
  have hframed := h.framed
  unfold Client.Framed at hframed
  cases hs with
  | submit message alive => exact h.submit message
  | stop => exact ⟨h.ledger.kept rfl rfl le_rfl rfl rfl, h.failed, h.down, h.answered, h.framed⟩
  | destroy stopping ended => exact h.drop (by rw [ended]; rfl) nofun nofun
  | connect at_ =>
    rw [at_] at hframed
    exact h.turn ⟨by rw [at_]; rfl, rfl⟩ (by rw [at_]; exact ⟨nofun, nofun⟩) hframed
  | connectFails failure at_ =>
    exact h.turn ⟨by rw [at_]; rfl, rfl⟩ (by rw [at_]; exact ⟨nofun, nofun⟩) trivial
  | leave at_ stopping =>
    exact h.turn ⟨by rw [at_]; rfl, rfl⟩ (by rw [at_]; exact ⟨nofun, nofun⟩) trivial
  | take job rest at_ running queued => exact h.take at_ queued
  | send job data n at_ some upTo => exact h.send at_
  | sendFails job data failure at_ socket => exact h.fail (hids (.inl at_)) failure
  | receive job response n at_ small some buffer available => exact h.receive at_ some available
  | receiveFails job response failure at_ socket => exact h.fail (hids (.inr at_)) failure
  | overflow job response at_ large => exact h.fail (hids (.inr at_)) .tooLarge
  | unwind failure at_ => exact h.unwind at_
  | reply id rest line owed opened single => exact h.reply owed opened single
  | close part opened cut solicited => exact h.close cut solicited

/-- Once the connection is lost nothing is sent and no job is answered. -/
theorem frozen (h : Coherent text c) (hdown : c.Down) (hs : Step text c c') :
    c'.Down ∧ c'.sent = c.sent ∧ ∃ more, c'.outcomes = c.outcomes ++ more ∧
      ∀ outcome ∈ more, ∀ response, outcome.2 ≠ .value response := by
  have hidle : ∀ {worker : Worker J}, c.worker = worker → worker ≠ .ended →
      (∀ failure, worker ≠ .unwinding failure) → False := by
    rintro worker rfl hended hunwinding
    rcases hdown with ⟨failure, hfailure⟩ | hne
    · exact hunwinding failure hfailure
    · exact hended (h.down hne).1
  have hdrop : ∀ {outcome : Outcome J}, (∀ response, outcome ≠ .value response) →
      ∀ o ∈ c.jobs.map fun job => (job.id, outcome), ∀ response, o.2 ≠ .value response := by
    intro outcome hvalue o ho response
    obtain ⟨job, _, rfl⟩ := List.mem_map.mp ho
    exact hvalue response
  cases hs with
  | submit message alive =>
    unfold Client.submit
    dsimp only
    split_ifs
    · exact ⟨hdown, rfl, _, rfl, by simp⟩
    · exact ⟨hdown, rfl, _, rfl, by simp⟩
    · exact ⟨hdown, rfl, [], (List.append_nil _).symm, nofun⟩
  | stop => exact ⟨hdown, rfl, [], (List.append_nil _).symm, nofun⟩
  | destroy stopping ended => exact ⟨hdown, rfl, _, rfl, hdrop nofun⟩
  | unwind failure at_ => exact ⟨.inr failure.what_ne_empty, rfl, _, rfl, hdrop nofun⟩
  | reply id rest line owed opened single => exact ⟨hdown, rfl, [], (List.append_nil _).symm, nofun⟩
  | close part opened cut solicited => exact ⟨hdown, rfl, [], (List.append_nil _).symm, nofun⟩
  | connect at_ | connectFails _ at_ | leave at_ _ | take _ _ at_ _ _ | send _ _ _ at_ _ _
  | sendFails _ _ _ at_ _ | receive _ _ _ at_ _ _ _ _ | receiveFails _ _ _ at_ _ | overflow _ _ at_ _ =>
    exact (hidle at_ nofun nofun).elim

end Coherent

end EthercatSimulator.Ipc
