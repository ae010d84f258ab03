import EthercatSimulator.Ipc.AsyncModelClientLaws

/-! What the client does by itself between two submissions and two answers. -/

namespace EthercatSimulator.Ipc

open Base

variable {J : Type} {text : JsonText J} {c c' : Client J} {calls : List (Nat × Bytes)}

namespace Worker

/-- The job whose request is being sent. -/
def sendingIds : Worker J → List Nat
  | sending job _ => [job.id]
  | connecting | waiting | receiving _ _ | unwinding _ | ended => []

/-- The worker may still answer jobs. -/
def Live : Worker J → Prop
  | connecting | waiting | sending _ _ | receiving _ _ => True
  | unwinding _ | ended => False

end Worker

namespace Client

/-- The jobs the host has not answered and may still see, in the order it will. -/
def ahead (c : Client J) : List Nat := c.owed ++ c.worker.sendingIds ++ c.jobs.map Job.id

/-- A step of neither `submit` nor the host, with the calls of `send`. -/
structure Own (c c' : Client J) (calls : List (Nat × Bytes)) : Prop where
  sent : c'.sent = c.sent ++ calls
  submitted : c'.submitted = c.submitted
  answers : c'.answers = c.answers
  closed : c'.closed = c.closed

/-- What such a step does to the bytes on their way to the host. -/
inductive Traffic (text : JsonText J) (c c' : Client J) : List (Nat × Bytes) → Prop
  | same (worker : c'.worker = c.worker) (owed : c'.owed = c.owed) : Traffic text c c' []
  | silent (before : c.worker.sendingIds = []) (after : c'.worker.sendingIds = []) (owed : c'.owed = c.owed)
    (live : c'.worker.Live → c.worker.Live) : Traffic text c c' []
  | takes (job : Job J) (data : Bytes) (waiting : c.worker = .waiting) (queued : job ∈ c.jobs)
    (dumped : text.dump job.message = .ok data) (sending : c'.worker = .sending job (data ++ [newline]))
    (owed : c'.owed = c.owed) : Traffic text c c' []
  | sends (job : Job J) (data : Bytes) (n : Nat) (before : c.worker = .sending job data) (part : n < data.length)
    (after : c'.worker = .sending job (data.drop n)) (owed : c'.owed = c.owed) :
    Traffic text c c' [(job.id, data.take n)]
  | asks (job : Job J) (data : Bytes) (before : c.worker = .sending job data)
    (after : c'.worker = .receiving job []) (owed : c'.owed = c.owed ++ [job.id]) :
    Traffic text c c' [(job.id, data)]
  | breaks (job : Job J) (data : Bytes) (before : c.worker = .sending job data) (after : ¬ c'.worker.Live)
    (ids : c'.worker.sendingIds = []) (owed : c'.owed = c.owed) : Traffic text c c' []

structure OwnStep (text : JsonText J) (c c' : Client J) (calls : List (Nat × Bytes)) : Prop where
  ahead : c'.ahead.Sublist c.ahead
  jobs : c'.jobs.Sublist c.jobs
  live : c'.worker.Live → c.worker.Live ∧ c'.ahead = c.ahead
  outcomes : ∃ more, c'.outcomes = c.outcomes ++ more ∧ ∀ o ∈ more, ∀ value, o.2 = .value value → c.worker.Live
  traffic : Traffic text c c' calls

theorem ownStep_failed {job : Job J} {failure : Failure} (hlive : c.worker.Live)
    (hsending : c.worker.sendingIds = [] ∨ ∃ data, c.worker = .sending job data) :
    OwnStep text c (c.fail job failure) [] where
  ahead := by
    unfold ahead
    refine List.Sublist.append ?_ (List.Sublist.refl _)
    change (c.owed ++ []).Sublist _
    rw [List.append_nil]
    exact List.sublist_append_left _ _
  jobs := List.Sublist.refl _
  live h := h.elim
  outcomes := ⟨_, rfl, fun _ _ _ _ => hlive⟩
  traffic := by
    rcases hsending with h | ⟨data, h⟩
    · exact .silent h rfl rfl False.elim
    · exact .breaks job data h id rfl rfl

theorem ownStep_dropped {outcome : Outcome J} (houtcome : ∀ value, outcome ≠ .value value) {worker : Worker J}
    {failure : String} (hworker : ¬ worker.Live) (hids : worker.sendingIds = []) (hsending : c.worker.sendingIds = []) :
    OwnStep text c { c.drop outcome with failure, worker } [] where
  ahead := by
    unfold ahead
    change (c.owed ++ worker.sendingIds ++ []).Sublist _
    rw [hids, hsending, List.append_nil, List.append_nil]
    exact List.sublist_append_left _ _
  jobs := List.nil_sublist _
  live h := (hworker h).elim
  outcomes := by
    refine ⟨_, rfl, fun o ho value hvalue => ?_⟩
    obtain ⟨job, _, rfl⟩ := List.mem_map.mp ho
    exact absurd hvalue (houtcome value)
  traffic := .silent hsending hids rfl fun h => (hworker h).elim

/-- The worker turns to another state without a job. -/
theorem ownStep_turned {worker : Worker J} (hsending : c.worker.sendingIds = []) (hids : worker.sendingIds = [])
    (hlive : worker.Live → c.worker.Live) : OwnStep text c { c with worker := worker } [] := by
  have hahead : ahead { c with worker := worker } = c.ahead := by
    unfold ahead
    rw [hids, hsending]
  exact ⟨hahead ▸ List.Sublist.refl _, List.Sublist.refl _, fun h => ⟨hlive h, hahead⟩,
    ⟨[], (List.append_nil _).symm, nofun⟩, .silent hsending hids rfl hlive⟩

/-- A submission joins the queue, or is refused: by a full queue, or after the loss of the connection. -/
theorem submit_cases (c : Client J) (message : J) :
    (∃ outcome : Outcome J, (outcome = .full ∨ c.failure ≠ "") ∧ (∀ value, outcome ≠ .value value) ∧
      c.submit message = { c with
        submitted := c.submitted + 1, outcomes := c.outcomes ++ [(c.submitted, outcome)] }) ∨
    c.submit message = { c with
      submitted := c.submitted + 1, jobs := c.jobs ++ [⟨c.submitted, message⟩] } := by
  unfold submit
  dsimp only
  split_ifs with hfailure hfull
  · exact .inl ⟨.failed c.failure, .inr hfailure, nofun, rfl⟩
  · exact .inl ⟨.full, .inl rfl, nofun, rfl⟩
  · exact .inr rfl

theorem no_calls {sent : List (Nat × Bytes)} (h : sent = sent ++ calls) : calls = [] :=
  List.self_eq_append_right.mp h

theorem ownStep (hs : Step text c c') (h : c.Own c' calls) : OwnStep text c c' calls := by
  have hkept {worker : Worker J} (hworker : c.worker = worker) {ids : List Nat} (hids : worker.sendingIds = ids) :
      c.worker.sendingIds = ids := by
    rw [hworker, hids]
  have hlive {worker : Worker J} (hworker : c.worker = worker) (hl : worker.Live) : c.worker.Live := by
    rw [hworker]
    exact hl
  cases hs with
  | submit message =>
    have hsubmitted := h.submitted
    unfold submit at hsubmitted
    dsimp only at hsubmitted
    split_ifs at hsubmitted <;> exact absurd hsubmitted (Nat.succ_ne_self _)
  | stop =>
    cases no_calls h.sent
    exact ⟨List.Sublist.refl _, List.Sublist.refl _, fun hl => ⟨hl, rfl⟩, ⟨[], (List.append_nil _).symm, nofun⟩,
      .same rfl rfl⟩
  | destroy stopping ended =>
    cases no_calls h.sent
    have hdropped : OwnStep text c { c.drop .broken with failure := c.failure, worker := c.worker } [] :=
      ownStep_dropped nofun (by rw [ended]; exact id) (hkept ended rfl) (hkept ended rfl)
    exact hdropped
  | connect at_ =>
    cases no_calls h.sent
    exact ownStep_turned (hkept at_ rfl) rfl fun _ => hlive at_ trivial
  | connectFails failure at_ =>
    cases no_calls h.sent
    exact ownStep_turned (hkept at_ rfl) rfl False.elim
  | leave at_ stopping =>
    cases no_calls h.sent
    exact ownStep_turned (hkept at_ rfl) rfl False.elim
  | take job rest at_ running queued =>
    have hids : c.worker.sendingIds = [] := hkept at_ rfl
    have hrest : rest.Sublist c.jobs := queued ▸ List.sublist_cons_self _ _
    have hsent := h.sent
    unfold take at hsent ⊢
    dsimp only at hsent ⊢
    cases hdump : text.dump job.message with
    | ok data =>
      rw [hdump] at hsent
      cases no_calls hsent
      have hahead : ahead { c with jobs := rest, worker := .sending job (data ++ [newline]) } = c.ahead := by
        unfold ahead
        rw [hids, queued, List.append_nil]
        exact List.append_assoc c.owed [job.id] _
      exact ⟨hahead ▸ List.Sublist.refl _, hrest, fun _ => ⟨hlive at_ trivial, hahead⟩,
        ⟨[], (List.append_nil _).symm, nofun⟩,
        .takes job data at_ (queued ▸ List.mem_cons_self) hdump rfl rfl⟩
    | error what =>
      rw [hdump] at hsent
      cases no_calls hsent
      have hfailed : OwnStep text c (c.fail job (.thrown what)) [] :=
        ownStep_failed (hlive at_ trivial) (.inl (hkept at_ rfl))
      refine ⟨?_, hrest, False.elim, hfailed.outcomes, .silent (hkept at_ rfl) rfl rfl False.elim⟩
      refine List.Sublist.trans ?_ hfailed.ahead
      exact List.Sublist.append (List.Sublist.refl _) (hrest.map _)
  | send job data n at_ some upTo =>
    have hids := hkept at_ rfl
    have hsent := h.sent
    unfold send at hsent ⊢
    dsimp only at hsent ⊢
    split_ifs at hsent ⊢ with hpart
    · cases List.append_cancel_left hsent
      have hahead : ahead { c with
          sent := c.sent ++ [(job.id, data.take n)], worker := .sending job (data.drop n) } = c.ahead := by
        unfold ahead
        rw [hids]
        rfl
      exact ⟨hahead ▸ List.Sublist.refl _, List.Sublist.refl _, fun _ => ⟨hlive at_ trivial, hahead⟩,
        ⟨[], (List.append_nil _).symm, nofun⟩, .sends job data n at_ hpart rfl rfl⟩
    · cases List.append_cancel_left hsent
      rw [List.take_of_length_le (Nat.not_lt.mp hpart)]
      have hahead : ahead { c with sent := c.sent ++ [(job.id, data)], worker := .receiving job []
                                   owed := c.owed ++ [job.id] } = c.ahead := by
        unfold ahead
        rw [hids]
        exact congrArg (· ++ _) (List.append_nil _)
      exact ⟨hahead ▸ List.Sublist.refl _, List.Sublist.refl _, fun _ => ⟨hlive at_ trivial, hahead⟩,
        ⟨[], (List.append_nil _).symm, nofun⟩, .asks job data at_ rfl rfl⟩
  | sendFails job data failure at_ socket =>
    cases no_calls h.sent
    exact ownStep_failed (hlive at_ trivial) (.inr ⟨data, at_⟩)
  | receive job response n at_ small some buffer available =>
    have hids := hkept at_ rfl
    have hsent := h.sent
    unfold receive at hsent ⊢
    dsimp only at hsent ⊢
    split_ifs at hsent ⊢ with hend
    · cases hparse : text.parse (response ++ c.incoming.take (lineLength (c.incoming.take n))) with
      | ok value =>
        rw [hparse] at hsent
        cases no_calls hsent
        have hturned : OwnStep text c { c with worker := .waiting } [] :=
          ownStep_turned hids rfl fun _ => hlive at_ trivial
        exact ⟨hturned.ahead, hturned.jobs, hturned.live, ⟨_, rfl, fun _ _ _ _ => hlive at_ trivial⟩,
          .silent hids rfl rfl fun _ => hlive at_ trivial⟩
      | error what =>
        rw [hparse] at hsent
        cases no_calls hsent
        have hfailed : OwnStep text c (c.fail job (.thrown what)) [] :=
          ownStep_failed (hlive at_ trivial) (.inl hids)
        exact ⟨hfailed.ahead, hfailed.jobs, False.elim, hfailed.outcomes, .silent hids rfl rfl False.elim⟩
    · cases no_calls hsent
      have hturned : OwnStep text c { c with worker := .receiving job response } [] :=
        ownStep_turned hids rfl fun _ => hlive at_ trivial
      exact ⟨hturned.ahead, hturned.jobs, hturned.live, ⟨[], (List.append_nil _).symm, nofun⟩,
        .silent hids rfl rfl fun _ => hlive at_ trivial⟩
  | receiveFails job response failure at_ socket =>
    cases no_calls h.sent
    exact ownStep_failed (hlive at_ trivial) (.inl (hkept at_ rfl))
  | overflow job response at_ large =>
    cases no_calls h.sent
    exact ownStep_failed (hlive at_ trivial) (.inl (hkept at_ rfl))
  | unwind failure at_ =>
    cases no_calls h.sent
    exact ownStep_dropped nofun id rfl (hkept at_ rfl)
  | reply id rest line owed opened single => cases no_calls h.answers.symm
  | close part opened cut solicited =>
    have hclosed : true = c.closed := h.closed
    rw [opened] at hclosed
    cases hclosed

end Client

end EthercatSimulator.Ipc
