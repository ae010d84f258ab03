import EthercatSimulator.Fleet.HostSession
import EthercatSimulator.Ipc.ClientSteps

/-! The slave process and the model host on one socket: every future holds what the fleet answers to its
request in the order of submission. -/

namespace EthercatSimulator.Fleet

open Base Profile Behaviour Adapter Storage Ipc EthercatSimulator.Runtime

variable {J F ρ : Type} [PyFloat F]

/-- The client, the models of the host, and the bytes the host has not read.  `messages` lists what was
submitted, and `turn` counts the answers; neither process keeps them. -/
structure Session (J F ρ : Type) where
  client : Client J
  messages : List J
  inbox : Bytes
  turn : Nat
  models : Host.Models F ρ

namespace Session

def start (models : Host.Models F ρ) : Session J F ρ := ⟨.start, [], [], 0, models⟩

section Steps

variable (fmus : Device → Artifact F ρ) (text : JsonText J) (host : HostText) (moments : Nat → Moment F)

/-- A step of a thread of the slave process, or of the host.  A host whose request raises leaves, as one
that is killed does. -/
inductive Step (s : Session J F ρ) : Session J F ρ → Prop
  | submit (message : J) (alive : s.client.stopping = false) :
    Step s { s with client := s.client.submit message, messages := s.messages ++ [message] }
  | client (c : Client J) (calls : List (Nat × Bytes)) (step : Ipc.Step text s.client c)
    (own : s.client.Own c calls) :
    Step s { s with client := c, inbox := s.inbox ++ calls.flatMap Prod.snd }
  | answer (id : Nat) (rest : List Nat) (line : Bytes) (models : Host.Models F ρ)
    (owed : s.client.owed = id :: rest) (opened : s.client.closed = false)
    (run : Host.answerLine fmus host (moments s.turn) (Host.readLine (maxMessage + 1) s.inbox).1 s.models =
      (.ok (line ++ [newline]), models)) :
    Step s { s with
      client := s.client.reply id rest line, inbox := (Host.readLine (maxMessage + 1) s.inbox).2
      turn := s.turn + 1, models }
  | leave (part : Bytes) (opened : s.client.closed = false) (cut : newline ∉ part)
    (solicited : s.client.owed = [] → part = []) :
    Step s { s with client := { s.client with closed := true, incoming := s.client.incoming ++ part } }

/-- Every interleaving of the threads and the host. -/
def Run (models : Host.Models F ρ) (states : Nat → Session J F ρ) : Prop :=
  states 0 = .start models ∧
    ∀ n, states (n + 1) = states n ∨ Step fmus text host moments (states n) (states (n + 1))

end Steps

/-- A request that the host has answered. -/
structure Handled where
  id : Nat
  message : Message
  reply : HostReply

def inputs (moments : Nat → Moment F) (handled : List Handled) : List (Moment F × Message) :=
  handled.zipIdx.map fun ai => (moments ai.2, ai.1.message)

/-- What was submitted, and what the host has read of it. -/
def Heard (text : JsonText J) (host : HostText) (messages : List J) (a : Handled) : Prop :=
  ∃ message data, messages[a.id]? = some message ∧ text.dump message = .ok data ∧
    host.loads (data ++ [newline]) = .ok a.message

/-- What the host has not read of the present request. -/
inductive Inbox (text : JsonText J) (s : Session J F ρ) : Prop
  | idle (owed : s.client.owed = []) (empty : s.inbox = []) (ids : s.client.worker.sendingIds = [])
  | sending (job : Job J) (data line : Bytes) (worker : s.client.worker = .sending job data)
    (owed : s.client.owed = []) (dumped : text.dump job.message = .ok line) (unsent : data ≠ [])
    (split : s.inbox ++ data = line ++ [newline]) (known : s.messages[job.id]? = some job.message)
  | whole (id : Nat) (message : J) (line : Bytes) (owed : s.client.owed = [id])
    (known : s.messages[id]? = some message) (dumped : text.dump message = .ok line)
    (unread : s.inbox = line ++ [newline])
  | broken (owed : s.client.owed = []) (cut : newline ∉ s.inbox) (dead : ¬ s.client.worker.Live)

/-- The host has answered `handled`, one after the other, and the rest is on its way in order. -/
structure Ordered (fmus : Device → Artifact F ρ) (text : JsonText J) (host : HostText) (moments : Nat → Moment F)
    (models : Host.Models F ρ) (handled : List Handled) (s : Session J F ρ) : Prop where
  coherent : Coherent text s.client
  count : s.messages.length = s.client.submitted
  jobs : ∀ job ∈ s.client.jobs, s.messages[job.id]? = some job.message
  inbox : Inbox text s
  answers : s.client.answers = handled.map fun a => (a.id, host.dumps a.reply)
  heard : ∀ a ∈ handled, Heard text host s.messages a
  run : Host.requests fmus (inputs moments handled) models = (handled.map fun a => .ok a.reply, s.models)
  turn : s.turn = handled.length
  ascending : (handled.map Handled.id ++ s.client.ahead).Pairwise (· < ·)
  known : ∀ id ∈ handled.map Handled.id ++ s.client.ahead, id < s.client.submitted
  accounted : s.client.worker.Live → ∀ id < s.client.submitted,
    id ∈ handled.map Handled.id ++ s.client.ahead ∨ (id, .full) ∈ s.client.outcomes
  earlier : ∀ id value, (id, .value value) ∈ s.client.outcomes → ∀ id' < id,
    id' ∈ handled.map Handled.id ∨ (id', .full) ∈ s.client.outcomes

section Laws

variable {fmus : Device → Artifact F ρ} {text : JsonText J} {host : HostText} {moments : Nat → Moment F}
  {models : Host.Models F ρ} {handled : List Handled} {s s' : Session J F ρ}

theorem known_append {messages : List J} {id : Nat} {message : J} (more : J)
    (h : messages[id]? = some message) : (messages ++ [more])[id]? = some message := by
  obtain ⟨hlt, hget⟩ := List.getElem?_eq_some_iff.mp h
  rw [List.getElem?_append_left hlt]
  exact h

theorem Ordered.start : Ordered fmus text host moments models [] (.start models : Session J F ρ) where
  coherent := .start
  count := rfl
  jobs _ h := absurd h List.not_mem_nil
  inbox := .idle rfl rfl rfl
  answers := rfl
  heard _ h := absurd h List.not_mem_nil
  run := rfl
  turn := rfl
  ascending := List.Pairwise.nil
  known _ h := absurd h List.not_mem_nil
  accounted _ id h := absurd h (Nat.not_lt_zero id)
  earlier _ _ h := absurd h List.not_mem_nil

omit [PyFloat F] in
/-- Nothing of the present request changes. -/
theorem Inbox.kept (h : Inbox text s) {c : Client J} {messages : List J} (hworker : c.worker = s.client.worker)
    (howed : c.owed = s.client.owed)
    (hknown : ∀ (id : Nat) (message : J), s.messages[id]? = some message → messages[id]? = some message) :
    Inbox text { s with client := c, messages := messages } := by
  cases h with
  | idle owed empty ids => exact .idle (howed.trans owed) empty (hworker ▸ ids)
  | sending job data line worker owed dumped unsent split known =>
    exact .sending job data line (hworker.trans worker) (howed.trans owed) dumped unsent split (hknown _ _ known)
  | whole id message line owed known dumped unread =>
    exact .whole id message line (howed.trans owed) (hknown _ _ known) dumped unread
  | broken owed cut dead => exact .broken (howed.trans owed) cut (hworker ▸ dead)

theorem Heard.append {messages : List J} {a : Handled} (h : Heard text host messages a) (more : J) :
    Heard text host (messages ++ [more]) a := by
  obtain ⟨message, data, hknown, hdump, hload⟩ := h
  exact ⟨message, data, known_append more hknown, hdump, hload⟩

namespace Ordered

variable (h : Ordered fmus text host moments models handled s)

include h

/-- A worker that waits, or sends, owes no answer to anyone. -/
theorem owed_nil (hworker : s.client.worker = .waiting ∨ ∃ job data, s.client.worker = .sending job data) :
    s.client.owed = [] := by
  have hframed := h.coherent.framed
  unfold Client.Framed at hframed
  rcases hworker with hworker | ⟨job, data, hworker⟩ <;> rw [hworker] at hframed <;> exact hframed.1

/-- The present request, where the client goes on by itself. -/
theorem inbox_own (hsingle : ∀ message data, text.dump message = .ok data → newline ∉ data) {c : Client J}
    {calls : List (Nat × Bytes)} (ht : Client.Traffic text s.client c calls) :
    Inbox text { s with client := c, inbox := s.inbox ++ calls.flatMap Prod.snd } := by
  have hinbox := h.inbox
  have hnone : s.inbox ++ ([] : List (Nat × Bytes)).flatMap Prod.snd = s.inbox := List.append_nil _
  have howes {job : Job J} {data : Bytes} (hworker : s.client.worker = .sending job data) {id : Nat}
      (howed : s.client.owed = [id]) : False := by
    have hnil := h.owed_nil (.inr ⟨job, data, hworker⟩)
    rw [howed] at hnil
    cases hnil
  cases hinbox with
  | idle owed empty ids =>
    cases ht with
    | same worker owed' => exact .idle (owed'.trans owed) (hnone.trans empty) (worker ▸ ids)
    | silent _ after owed' => exact .idle (owed'.trans owed) (hnone.trans empty) after
    | takes job data waiting queued dumped worker owed' =>
      refine .sending job (data ++ [newline]) data worker (owed'.trans owed) dumped (by simp) ?_ (h.jobs job queued)
      dsimp only
      rw [hnone, empty, List.nil_append]
    | sends job data n before => rw [before] at ids; cases ids
    | asks job data before => rw [before] at ids; cases ids
    | breaks job data before => rw [before] at ids; cases ids
  | sending job data line worker owed dumped unsent split known =>
    cases ht with
    | same worker' owed' =>
      exact .sending job data line (worker'.trans worker) (owed'.trans owed) dumped unsent (by rw [hnone]; exact split) known
    | silent before => rw [worker] at before; cases before
    | takes job' data' waiting => rw [worker] at waiting; cases waiting
    | sends job' data' n before part after owed' =>
      rw [worker] at before
      cases before
      refine .sending job (data.drop n) line after (owed'.trans owed) dumped ?_ ?_ known
      · rw [← List.length_pos_iff, List.length_drop]
        omega
      · dsimp only
        rw [List.flatMap_singleton, List.append_assoc, List.take_append_drop]
        exact split
    | asks job' data' before after owed' =>
      rw [worker] at before
      cases before
      refine .whole job.id job.message line (by rw [owed', owed]; rfl) known dumped ?_
      dsimp only
      rw [List.flatMap_singleton]
      exact split
    | breaks job' data' before after ids owed' =>
      refine .broken (owed'.trans owed) ?_ after
      dsimp only
      rw [hnone]
      intro hmem
      -- Something is left to send, so the newline at the end of the line is.
      obtain ⟨pre, b, rfl⟩ := (List.eq_nil_or_concat' data).resolve_left unsent
      rw [← List.append_assoc] at split
      obtain ⟨hline, _⟩ := List.append_inj' split rfl
      exact hsingle _ _ dumped (hline ▸ List.mem_append_left _ hmem)
  | whole id message line owed known dumped unread =>
    cases ht with
    | same _ owed' => exact .whole id message line (owed'.trans owed) known dumped (hnone.trans unread)
    | silent _ _ owed' => exact .whole id message line (owed'.trans owed) known dumped (hnone.trans unread)
    | takes job data waiting =>
      have hnil := h.owed_nil (.inl waiting)
      rw [owed] at hnil
      cases hnil
    | sends job data n before => exact (howes before owed).elim
    | asks job data before => exact (howes before owed).elim
    | breaks job data before => exact (howes before owed).elim
  | broken owed cut dead =>
    cases ht with
    | same worker owed' => exact .broken (owed'.trans owed) (hnone.symm ▸ cut) (worker ▸ dead)
    | silent _ _ owed' live => exact .broken (owed'.trans owed) (hnone.symm ▸ cut) fun hl => dead (live hl)
    | takes job data waiting => exact absurd (by rw [waiting]; trivial) dead
    | sends job data n before => exact absurd (by rw [before]; trivial) dead
    | asks job data before => exact absurd (by rw [before]; trivial) dead
    | breaks job data before => exact absurd (by rw [before]; trivial) dead

theorem submit (message : J) : Ordered fmus text host moments models handled
    { s with client := s.client.submit message, messages := s.messages ++ [message] } := by
  have hcoherent := h.coherent.submit message
  have hinbox := fun (c : Client J) (hworker : c.worker = s.client.worker) (howed : c.owed = s.client.owed) =>
    h.inbox.kept hworker howed fun _ _ => known_append message
  have hcount : (s.messages ++ [message]).length = s.client.submitted + 1 := by
    rw [List.length_append, h.count]
    rfl
  have hheard : ∀ a ∈ handled, Heard text host (s.messages ++ [message]) a := fun a ha => (h.heard a ha).append message
  rcases s.client.submit_cases message with ⟨outcome, hrefused, hvalue, hsubmit⟩ | hsubmit
  · rw [hsubmit] at hcoherent ⊢
    refine ⟨hcoherent, hcount, fun job hjob => known_append message (h.jobs job hjob), hinbox _ rfl rfl, h.answers,
      hheard, h.run, h.turn, h.ascending, fun id hid => Nat.lt_succ_of_lt (h.known id hid), fun hlive id hid => ?_,
      fun id value hmem id' hid' => ?_⟩
    · rcases Nat.lt_succ_iff_lt_or_eq.mp hid with hlt | rfl
      · exact (h.accounted hlive id hlt).imp_right (List.mem_append_left _)
      · rcases hrefused with rfl | hfailure
        · exact .inr (List.mem_append_right _ List.mem_cons_self)
        · have hworker : s.client.worker.Live := hlive
          rw [(h.coherent.down hfailure).1] at hworker
          exact hworker.elim
    · rcases List.mem_append.mp hmem with hmem | hmem
      · exact (h.earlier id value hmem id' hid').imp_right (List.mem_append_left _)
      · exact absurd (congrArg Prod.snd (List.mem_singleton.mp hmem)).symm (hvalue value)
  · rw [hsubmit] at hcoherent ⊢
    have hahead : handled.map Handled.id ++ Client.ahead { s.client with
        submitted := s.client.submitted + 1, jobs := s.client.jobs ++ [⟨s.client.submitted, message⟩] } =
        (handled.map Handled.id ++ s.client.ahead) ++ [s.client.submitted] := by
      unfold Client.ahead
      simp only [List.map_append, List.append_assoc, List.map_cons, List.map_nil]
    refine ⟨hcoherent, hcount, fun job hjob => ?_, hinbox _ rfl rfl, h.answers, hheard, h.run, h.turn, ?_,
      fun id hid => ?_, fun hlive id hid => ?_, h.earlier⟩
    · rcases List.mem_append.mp hjob with hjob | hjob
      · exact known_append message (h.jobs job hjob)
      · cases List.mem_singleton.mp hjob
        rw [← h.count]
        exact List.getElem?_concat_length
    · rw [hahead, List.pairwise_append]
      refine ⟨h.ascending, List.pairwise_singleton _ _, fun id hid id' hid' => ?_⟩
      exact List.mem_singleton.mp hid' ▸ h.known id hid
    · rw [hahead] at hid
      rcases List.mem_append.mp hid with hid | hid
      · exact Nat.lt_succ_of_lt (h.known id hid)
      · exact List.mem_singleton.mp hid ▸ Nat.lt_succ_self _
    · rw [hahead]
      rcases Nat.lt_succ_iff_lt_or_eq.mp hid with hlt | rfl
      · exact (h.accounted hlive id hlt).imp_left (List.mem_append_left _)
      · exact .inl (List.mem_append_right _ List.mem_cons_self)

theorem own (hsingle : ∀ message data, text.dump message = .ok data → newline ∉ data) {c : Client J}
    {calls : List (Nat × Bytes)} (hstep : Ipc.Step text s.client c) (hown : s.client.Own c calls) :
    Ordered fmus text host moments models handled
      { s with client := c, inbox := s.inbox ++ calls.flatMap Prod.snd } := by
  have hcoherent := h.coherent.step hstep
  have hos := Client.ownStep hstep hown
  obtain ⟨more, houtcomes, hmore⟩ := hos.outcomes
  have hahead : (handled.map Handled.id ++ c.ahead).Sublist (handled.map Handled.id ++ s.client.ahead) :=
    List.Sublist.append (List.Sublist.refl _) hos.ahead
  refine ⟨hcoherent, h.count.trans hown.submitted.symm, fun job hjob => h.jobs job (hos.jobs.subset hjob),
    h.inbox_own hsingle hos.traffic, hown.answers.trans h.answers, h.heard, h.run, h.turn,
    h.ascending.sublist hahead, fun id hid => ?_, fun hlive id hid => ?_, fun id value hmem id' hid' => ?_⟩
  · exact hown.submitted ▸ h.known id (hahead.subset hid)
  · obtain ⟨hlive', hsame⟩ := hos.live hlive
    change id ∈ handled.map Handled.id ++ c.ahead ∨ (id, .full) ∈ c.outcomes
    rw [hsame, houtcomes]
    exact (h.accounted hlive' id (hown.submitted ▸ hid)).imp_right (List.mem_append_left _)
  · change id' ∈ handled.map Handled.id ∨ (id', .full) ∈ c.outcomes
    change (id, .value value) ∈ c.outcomes at hmem
    obtain ⟨line, hline, _⟩ := hcoherent.answered _ hmem value rfl
    rw [hown.answers, h.answers] at hline
    obtain ⟨a, ha, heq⟩ := List.mem_map.mp hline
    cases congrArg Prod.fst heq
    have hhandled : a.id ∈ handled.map Handled.id := List.mem_map_of_mem ha
    rw [houtcomes] at hmem ⊢
    rcases List.mem_append.mp hmem with hmem | hmem
    · exact (h.earlier a.id value hmem id' hid').imp_right (List.mem_append_left _)
    · -- A new answer: what comes before it is not ahead of the host.
      have hlt := hid'.trans (h.known a.id (List.mem_append_left _ hhandled))
      rcases h.accounted (hmore _ hmem value rfl) id' hlt with hmem' | hfull
      · rcases List.mem_append.mp hmem' with hdone | hopen
        · exact .inl hdone
        · have hafter := (List.pairwise_append.mp h.ascending).2.2 a.id hhandled id' hopen
          exact absurd (hid'.trans hafter) (Nat.lt_irrefl _)
      · exact .inr (List.mem_append_left _ hfull)

theorem leave {part : Bytes} (hcut : newline ∉ part)
    (hsolicited : s.client.owed = [] → part = []) : Ordered fmus text host moments models handled
      { s with client := { s.client with closed := true, incoming := s.client.incoming ++ part } } :=
  ⟨h.coherent.close hcut hsolicited, h.count, h.jobs, h.inbox.kept rfl rfl fun _ _ => id, h.answers, h.heard, h.run,
    h.turn, h.ascending, h.known, h.accounted, h.earlier⟩

/-- What the host reads is the request it owes an answer to. -/
theorem answer (hsingle : ∀ message data, text.dump message = .ok data → newline ∉ data) {id : Nat} {rest : List Nat}
    {line : Bytes} {models' : Host.Models F ρ} (howed : s.client.owed = id :: rest)
    (hopened : s.client.closed = false)
    (hrun : Host.answerLine fmus host (moments s.turn) (Host.readLine (maxMessage + 1) s.inbox).1 s.models =
      (.ok (line ++ [newline]), models')) : ∃ a, Ordered fmus text host moments models (handled ++ [a])
      { s with
        client := s.client.reply id rest line, inbox := (Host.readLine (maxMessage + 1) s.inbox).2
        turn := s.turn + 1, models := models' } := by
  obtain ⟨t, rest', hstream, hdispatch⟩ := Host.answerLine_ok hrun
  have hread := Host.readLine_line t.single t.size rest'
  rw [← hstream] at hread
  have hanswer := Host.answerLine_turn fmus t (moments s.turn) s.models
  rw [hread, hanswer, hdispatch] at hrun
  obtain ⟨hline, _⟩ := Prod.mk.inj hrun
  obtain rfl : host.dumps t.reply = line := List.append_cancel_right (Except.ok.inj hline)
  have hnone {job : Job J} {data : Bytes} : s.client.worker ≠ .sending job data := fun hworker => by
    have hnil := h.owed_nil (.inr ⟨job, data, hworker⟩)
    rw [howed] at hnil
    cases hnil
  have hids : s.client.worker.sendingIds = [] := by
    cases hworker : s.client.worker with
    | sending job data => exact absurd hworker hnone
    | connecting | waiting | receiving | unwinding | ended => rfl
  cases h.inbox with
  | idle owed | sending _ _ _ _ owed | broken owed =>
    rw [howed] at owed
    cases owed
  | whole id' message data owed known dumped unread =>
    rw [howed] at owed
    cases owed
    obtain ⟨hdata, hrest⟩ := line_unique (hsingle _ _ dumped) t.single (unread.symm.trans hstream)
    subst hdata
    subst hrest
    have hahead : s.client.ahead = id :: (s.client.reply id [] (host.dumps t.reply)).ahead := by
      unfold Client.ahead
      rw [howed]
      rfl
    have hsplit : (handled ++ [(⟨id, t.message, t.reply⟩ : Handled)]).map Handled.id ++
        (s.client.reply id [] (host.dumps t.reply)).ahead = handled.map Handled.id ++ s.client.ahead := by
      rw [hahead, List.map_append, List.append_assoc]
      rfl
    refine ⟨⟨id, t.message, t.reply⟩, h.coherent.reply howed hopened (host.single _), h.count, h.jobs,
      .idle rfl (congrArg Prod.snd hread) hids, ?_, ?_, ?_, ?_, hsplit ▸ h.ascending, hsplit ▸ h.known,
      fun hlive id' hid' => hsplit ▸ h.accounted hlive id' hid', fun id' value hmem id'' hlt => ?_⟩
    · change s.client.answers ++ [(id, host.dumps t.reply)] = _
      rw [h.answers, List.map_append]
      rfl
    · intro a ha
      rcases List.mem_append.mp ha with ha | ha
      · exact h.heard a ha
      · cases List.mem_singleton.mp ha
        exact ⟨message, t.line, known, dumped, t.loaded⟩
    · have hinputs : inputs moments (handled ++ [⟨id, t.message, t.reply⟩]) =
          inputs moments handled ++ [(moments s.turn, t.message)] := by
        unfold inputs
        rw [List.zipIdx_append, List.map_append, h.turn, Nat.zero_add]
        rfl
      rw [hinputs, Host.requests_append, h.run, hdispatch, List.map_append]
      rfl
    · rw [List.length_append, ← h.turn]
      rfl
    · refine (h.earlier id' value hmem id'' hlt).imp_left fun hdone => ?_
      rw [List.map_append]
      exact List.mem_append_left _ hdone

/-- One step of anyone. -/
theorem step (hsingle : ∀ message data, text.dump message = .ok data → newline ∉ data)
    (hs : Step fmus text host moments s s') : ∃ more, Ordered fmus text host moments models (handled ++ more) s' := by
  cases hs with
  | submit message alive => exact ⟨[], (List.append_nil handled).symm ▸ h.submit message⟩
  | client c calls step own => exact ⟨[], (List.append_nil handled).symm ▸ h.own hsingle step own⟩
  | answer id rest line models' owed opened run =>
    obtain ⟨a, ha⟩ := h.answer hsingle owed opened run
    exact ⟨[a], ha⟩
  | leave part opened cut solicited => exact ⟨[], (List.append_nil handled).symm ▸ h.leave cut solicited⟩

end Ordered

theorem run_ordered (hsingle : ∀ message data, text.dump message = .ok data → newline ∉ data)
    {states : Nat → Session J F ρ} (hrun : Run fmus text host moments models states) (n : Nat) :
    ∃ handled, Ordered fmus text host moments models handled (states n) := by
  induction n with
  | zero => exact ⟨[], hrun.1 ▸ .start⟩
  | succ n ih =>
    obtain ⟨handled, h⟩ := ih
    rcases hrun.2 n with hsame | hs
    · exact ⟨handled, hsame ▸ h⟩
    · obtain ⟨more, hmore⟩ := h.step hsingle hs
      exact ⟨_, hmore⟩

end Laws

/-- However the threads of the slave process and the host interleave, the models stand where the requests
the host has read leave them one after the other, in the order of submission, and a future holds what the
answer to its own request says; what was submitted before it was answered too, or met a full queue. -/
theorem futures_sequential (fmus : Device → Artifact F ρ) (text : JsonText J) (host : HostText)
    (moments : Nat → Moment F) (hsingle : ∀ message data, text.dump message = .ok data → newline ∉ data)
    {models : Host.Models F ρ} {states : Nat → Session J F ρ} (hrun : Run fmus text host moments models states)
    (n : Nat) : ∃ handled : List Handled,
      (handled.map Handled.id).Pairwise (· < ·) ∧
      (∀ a ∈ handled, Heard text host (states n).messages a) ∧
      Host.requests fmus (inputs moments handled) models = (handled.map fun a => .ok a.reply, (states n).models) ∧
      ∀ id value, (id, .value value) ∈ (states n).client.outcomes →
        (∃ a ∈ handled, a.id = id ∧ text.parse (host.dumps a.reply ++ [newline]) = .ok value) ∧
        ∀ id' < id, id' ∈ handled.map Handled.id ∨ (id', .full) ∈ (states n).client.outcomes := by
  obtain ⟨handled, h⟩ := run_ordered hsingle hrun n
  refine ⟨handled, (List.pairwise_append.mp h.ascending).1, h.heard, h.run, fun id value hmem =>
    ⟨?_, h.earlier id value hmem⟩⟩
  obtain ⟨line, hline, hparse⟩ := h.coherent.answered _ hmem value rfl
  rw [h.answers] at hline
  obtain ⟨a, ha, heq⟩ := List.mem_map.mp hline
  cases heq
  exact ⟨a, ha, rfl, hparse⟩

open Host (readLineText objectLineText readText steadyArtifact storeless servoAxis)

/-- The request of `readText`, as the slave process submits it. -/
def readMessage : Json :=
  .object [("index", .int 0x6081), ("op", .string "read"), ("slave_index", .int 0), ("subindex", .int 0)]

def readJob : Job Json := ⟨0, readMessage⟩

def readJson : JsonText Json where
  dump _ := .ok readLineText
  parse _ := .ok (.object [("data", .string "00000000")])

/-- A request that is answered. -/
def readRun (models : Host.Models ExtRat Unit) (n : Nat) : Session Json ExtRat Unit :=
  let submitted := Client.start.submit readMessage
  let connected : Client Json := { submitted with worker := .waiting }
  let taken := connected.take readJson readJob []
  let sent := taken.send readJob (readLineText ++ [newline]) (readLineText.length + 1)
  let answered := sent.reply 0 [] objectLineText
  let after := (Host.dispatchRequest steadyArtifact storeless ⟨some 0, .read 0x6081 0⟩ models).2
  [.start models, ⟨submitted, [readMessage], [], 0, models⟩, ⟨connected, [readMessage], [], 0, models⟩,
    ⟨taken, [readMessage], [], 0, models⟩, ⟨sent, [readMessage], readLineText ++ [newline], 0, models⟩,
    ⟨answered, [readMessage], [], 1, after⟩].getD n
    ⟨answered.receive readJson readJob [] (objectLineText.length + 1), [readMessage], [], 1, after⟩

theorem readRun_run (initial : Bytes) :
    Run steadyArtifact readJson readText (fun _ => storeless) [servoAxis 0 initial]
      (readRun [servoAxis 0 initial]) := by
  refine ⟨rfl, fun n => ?_⟩
  rcases n with _ | _ | _ | _ | _ | _ | n
  · exact .inr (.submit readMessage rfl)
  · exact .inr (.client _ [] (.connect rfl) ⟨rfl, rfl, rfl, rfl⟩)
  · exact .inr (.client _ [] (.take readJob [] rfl rfl rfl) ⟨rfl, rfl, rfl, rfl⟩)
  · exact .inr (.client _ [(0, readLineText ++ [newline])]
      (.send readJob (readLineText ++ [newline]) (readLineText.length + 1) rfl (by decide +kernel) (by decide +kernel))
      ⟨rfl, rfl, rfl, rfl⟩)
  · have hread := Host.readLine_line (show newline ∉ readLineText by decide +kernel) (by decide +kernel) []
    have hreply : (Host.dispatchRequest steadyArtifact storeless ⟨some 0, .read 0x6081 0⟩ [servoAxis 0 initial]).1 =
        .ok (.axis (.object "00000000")) := rfl
    let t : Host.Turn readText :=
      ⟨readLineText, ⟨some 0, .read 0x6081 0⟩, .axis (.object "00000000"), by decide +kernel, by decide +kernel,
        Host.readText_loads⟩
    have hanswer := Host.answerLine_turn steadyArtifact t storeless [servoAxis 0 initial]
    refine .inr (.answer 0 [] objectLineText _ rfl rfl ?_)
    change Host.answerLine steadyArtifact readText storeless
      (Host.readLine (maxMessage + 1) (readLineText ++ newline :: [])).1 [servoAxis 0 initial] = _
    rw [hread]
    refine hanswer.trans ?_
    rw [show Host.dispatchRequest steadyArtifact storeless t.message [servoAxis 0 initial] = (_, _) from
      Prod.ext hreply rfl]
    rfl
  · have havailable : objectLineText.length + 1 ≤ ([] ++ (objectLineText ++ [newline])).length := by
      simp
    exact .inr (.client _ [] (.receive readJob [] (objectLineText.length + 1) rfl (by decide +kernel) (by decide +kernel)
      (by decide +kernel) havailable) ⟨rfl, rfl, rfl, rfl⟩)
  · exact .inl rfl

theorem futures_sequential_read : ∃ initial,
    openModel (fKrCmmt ExtRat) (Servo.construct .linear) = (.ok initial, Servo.construct .linear) ∧
      ∃ handled : List Handled,
        Host.requests steadyArtifact (inputs (fun _ => storeless) handled) [servoAxis 0 initial] =
          (handled.map fun a => .ok a.reply, (readRun [servoAxis 0 initial] 6).models) ∧
        ∃ a ∈ handled, a.id = 0 ∧ readJson.parse (readText.dumps a.reply ++ [newline]) =
          .ok (.object [("data", .string "00000000")]) := by
  obtain ⟨initial, hopen⟩ := openModel_fKr (F := ExtRat) .linear
  have hsingle : ∀ message data, readJson.dump message = .ok data → newline ∉ data := by
    intro _ data hdata
    cases hdata
    decide +kernel
  obtain ⟨handled, _, _, hmodels, hvalues⟩ :=
    futures_sequential steadyArtifact readJson readText (fun _ => storeless) hsingle (readRun_run initial) 6
  exact ⟨initial, hopen, handled, hmodels, (hvalues 0 _ (List.mem_singleton_self _)).1⟩

end Session

end EthercatSimulator.Fleet
