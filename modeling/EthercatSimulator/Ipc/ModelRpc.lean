import EthercatSimulator.Base.Progress
import EthercatSimulator.Ipc.AsyncModelClientLaws
import EthercatSimulator.Ipc.Json

/-! Runs of the client of the model host: each request gets its own answer, once. -/

namespace EthercatSimulator.Ipc

open Base

variable {J : Type} {text : JsonText J} {c c' : Client J}

/-- Where the worker stands with its present job, counted down. -/
def Worker.rank : Worker J → Nat
  | connecting => 5
  | waiting => 4
  | sending _ _ => 3
  | receiving _ _ => 2
  | unwinding _ => 1
  | ended => 0

theorem Worker.rank_le (worker : Worker J) : worker.rank ≤ 5 := by
  cases worker <;> simp [rank]

namespace Client

/-- The worker has nothing to do. -/
def Idle (c : Client J) : Prop := c.worker = .waiting ∧ c.jobs = [] ∨ c.worker = .ended

/-- What one step of a client that is not being destroyed does to the jobs that wait for it: more
jobs may join them while the worker goes on, the oldest one is fulfilled, or all are. -/
inductive Serves (c c' : Client J) : Prop
  | waits (more : List Nat) (unresolved : c'.unresolved = c.unresolved ++ more)
    (rank : c'.worker.rank ≤ c.worker.rank)
  | fulfils (id : Nat) (unresolved : c.unresolved = id :: c'.unresolved)
    (done : id ∈ c'.outcomes.map Prod.fst)
  | drops (done : ∀ id ∈ c.unresolved, id ∈ c'.outcomes.map Prod.fst)

theorem mem_resolved (outcomes : List (Nat × Outcome J)) (id : Nat) (outcome : Outcome J) :
    id ∈ (outcomes ++ [(id, outcome)]).map Prod.fst :=
  List.mem_map_of_mem (List.mem_append_right _ (List.mem_singleton_self (id, outcome)))

theorem serves_resolved {job : Job J} (hids : c.worker.ids = [job.id]) (hids' : c'.worker.ids = [])
    (hjobs : c'.jobs = c.jobs) (hdone : job.id ∈ c'.outcomes.map Prod.fst) : c.Serves c' := by
  refine .fulfils job.id ?_ hdone
  unfold unresolved
  rw [hids, hids', hjobs]
  rfl

theorem serves_of_step (hc : c.stopping = false) (hc' : c'.stopping = false) (hs : Step text c c') :
    c.Serves c' := by
  have hkept : ∀ {c'' : Client J}, c''.worker.ids = c.worker.ids → c''.jobs = c.jobs →
      c''.worker.rank ≤ c.worker.rank → c.Serves c'' := by
    intro c'' hids hjobs hrank
    refine .waits [] ?_ hrank
    unfold unresolved
    rw [hids, hjobs, List.append_nil]
  cases hs with
  | submit message alive =>
    unfold submit
    dsimp only
    split_ifs
    · exact hkept rfl rfl le_rfl
    · exact hkept rfl rfl le_rfl
    · refine .waits [c.submitted] ?_ le_rfl
      unfold unresolved
      rw [List.map_append, ← List.append_assoc]
      rfl
  | stop => cases hc'
  | destroy stopping ended => exact absurd (hc.symm.trans stopping) nofun
  | connect at_ | connectFails failure at_ =>
    refine hkept ?_ rfl ?_
    · rw [at_]
      rfl
    · rw [at_]
      simp [Worker.rank]
  | leave at_ stopping => exact absurd (hc.symm.trans stopping) nofun
  | take job rest at_ running queued =>
    have hopen : c.unresolved = job.id :: rest.map Job.id := by
      unfold unresolved
      rw [at_, queued]
      rfl
    unfold take
    dsimp only
    cases text.dump job.message with
    | ok data =>
      refine .waits [] (hopen.symm.trans (List.append_nil _).symm) ?_
      rw [at_]
      simp [Worker.rank]
    | error what => exact .fulfils job.id hopen (mem_resolved _ _ _)
  | send job data n at_ some upTo =>
    unfold send
    dsimp only
    split_ifs
    · refine hkept ?_ rfl ?_
      · rw [at_]
        rfl
      · rw [at_]
        simp [Worker.rank]
    · refine hkept ?_ rfl ?_
      · rw [at_]
        rfl
      · rw [at_]
        simp [Worker.rank]
  | sendFails job data failure at_ socket =>
    exact serves_resolved (by rw [at_]; rfl) rfl rfl (mem_resolved _ _ _)
  | receive job response n at_ small some buffer available =>
    have hids : c.worker.ids = [job.id] := by
      rw [at_]
      rfl
    unfold receive
    dsimp only
    split_ifs
    · cases text.parse _ with
      | ok value => exact serves_resolved hids rfl rfl (mem_resolved _ _ _)
      | error what => exact serves_resolved hids rfl rfl (mem_resolved _ _ _)
    · refine hkept hids.symm rfl ?_
      rw [at_]
      simp [Worker.rank]
  | receiveFails job response failure at_ socket =>
    exact serves_resolved (by rw [at_]; rfl) rfl rfl (mem_resolved _ _ _)
  | overflow job response at_ large =>
    exact serves_resolved (by rw [at_]; rfl) rfl rfl (mem_resolved _ _ _)
  | unwind failure at_ =>
    refine .drops fun id hid => ?_
    unfold unresolved at hid
    rw [at_] at hid
    obtain ⟨job, hjob, rfl⟩ := List.mem_map.mp (show id ∈ c.jobs.map Job.id from hid)
    exact List.mem_map_of_mem (List.mem_append_right _ (List.mem_map_of_mem hjob))
  | reply id rest line owed opened single => exact hkept rfl rfl le_rfl
  | close part opened cut solicited => exact hkept rfl rfl le_rfl

/-- Outcomes are final, and only a job that meets a full queue is refused for it, alone. -/
theorem outcomes_of_step (hs : Step text c c') : ∃ more, c'.outcomes = c.outcomes ++ more ∧
    ∀ id, (id, .full) ∈ more → 64 ≤ c.jobs.length ∧ c' = { c with
      submitted := c.submitted + 1, outcomes := c.outcomes ++ [(c.submitted, .full)] } := by
  have hkept : ∀ {c'' : Client J}, c''.outcomes = c.outcomes → ∃ more, c''.outcomes = c.outcomes ++ more ∧
      ∀ id, (id, .full) ∈ more → 64 ≤ c.jobs.length ∧ c'' = { c with
        submitted := c.submitted + 1, outcomes := c.outcomes ++ [(c.submitted, .full)] } := fun h =>
    ⟨[], by rw [h, List.append_nil], nofun⟩
  have hdrop : ∀ (outcome : Outcome J), outcome ≠ .full → ∀ {id : Nat} {P : Prop},
      (id, Outcome.full) ∈ (c.jobs.map fun job => (job.id, outcome)) → P := by
    intro outcome hfull id P hmem
    obtain ⟨job, _, heq⟩ := List.mem_map.mp hmem
    exact absurd (congrArg Prod.snd heq) hfull
  cases hs with
  | submit message alive =>
    unfold submit
    dsimp only
    split_ifs with hfailure hfull
    · exact ⟨_, rfl, by simp⟩
    · exact ⟨_, rfl, fun _ _ => ⟨hfull, rfl⟩⟩
    · exact hkept rfl
  | take job rest at_ running queued =>
    unfold take
    dsimp only
    cases text.dump job.message with
    | ok data => exact hkept rfl
    | error what => exact ⟨_, rfl, by simp⟩
  | send job data n at_ some upTo =>
    unfold send
    dsimp only
    split_ifs <;> exact hkept rfl
  | receive job response n at_ small some buffer available =>
    unfold receive
    dsimp only
    split_ifs
    · cases text.parse _ with
      | ok value => exact ⟨_, rfl, by simp⟩
      | error what => exact ⟨_, rfl, by simp⟩
    · exact hkept rfl
  | destroy stopping ended => exact ⟨_, rfl, fun _ => hdrop .broken nofun⟩
  | unwind failure at_ => exact ⟨_, rfl, fun _ => hdrop (.failed failure.what) nofun⟩
  | sendFails | receiveFails | overflow => exact ⟨_, rfl, by simp⟩
  | stop | connect | connectFails | leave | reply | close => exact hkept rfl

/-- A worker ends when the client is destroyed, or with a failure. -/
theorem ended_of_step (h : c.worker = .ended → c.stopping = true ∨ c.failure ≠ "")
    (hs : Step text c c') : c'.worker = .ended → c'.stopping = true ∨ c'.failure ≠ "" := by
  cases hs with
  | submit message alive =>
    unfold submit
    dsimp only
    split_ifs <;> exact h
  | stop => exact fun _ => .inl rfl
  | destroy stopping ended => exact fun _ => .inl stopping
  | leave at_ stopping => exact fun _ => .inl stopping
  | take job rest at_ running queued =>
    unfold take
    dsimp only
    cases text.dump job.message <;> exact nofun
  | send job data n at_ some upTo =>
    unfold send
    dsimp only
    split_ifs <;> exact nofun
  | receive job response n at_ small some buffer available =>
    unfold receive
    dsimp only
    split_ifs
    · cases text.parse _ <;> exact nofun
    · exact nofun
  | unwind failure at_ => exact fun _ => .inr failure.what_ne_empty
  | reply | close => exact h
  | connect | connectFails | sendFails | receiveFails | overflow => exact nofun

end Client

/-- Every interleaving of the threads and the host, from the construction of the client on. -/
def Run (text : JsonText J) (states : Nat → Client J) : Prop :=
  states 0 = .start ∧ ∀ n, states (n + 1) = states n ∨ Step text (states n) (states (n + 1))

/-- A worker that has something to do goes on in the end: it is scheduled, and its attempt to
connect or its present request returns or times out. -/
def Lively (states : Nat → Client J) : Prop :=
  ∀ n, ¬ (states n).Idle → ∃ m, n ≤ m ∧ (states m).worker.rank ≠ (states n).worker.rank

namespace Run

variable {states : Nat → Client J}

theorem coherent (h : Run text states) (n : Nat) : Coherent text (states n) := by
  induction n with
  | zero =>
    rw [h.1]
    exact .start
  | succ n ih =>
    rcases h.2 n with hsame | hs
    · rw [hsame]
      exact ih
    · exact ih.step hs

theorem ended (h : Run text states) (n : Nat) :
    (states n).worker = .ended → (states n).stopping = true ∨ (states n).failure ≠ "" := by
  induction n with
  | zero =>
    rw [h.1]
    exact nofun
  | succ n ih =>
    rcases h.2 n with hsame | hs
    · rw [hsame]
      exact ih
    · exact Client.ended_of_step ih hs

/-- From the loss of the connection on. -/
theorem frozen (h : Run text states) {n m : Nat} (hnm : n ≤ m) (hdown : (states n).Down) :
    (states m).Down ∧ (states m).sent = (states n).sent ∧
      ∃ more, (states m).outcomes = (states n).outcomes ++ more ∧
        ∀ outcome ∈ more, ∀ response, outcome.2 ≠ .value response := by
  induction m, hnm using Nat.le_induction with
  | base => exact ⟨hdown, rfl, [], (List.append_nil _).symm, nofun⟩
  | succ m hm ih =>
    obtain ⟨hd, hsent, more, hmore, hnone⟩ := ih
    rcases h.2 m with hsame | hs
    · rw [hsame]
      exact ⟨hd, hsent, more, hmore, hnone⟩
    · obtain ⟨hd', hsent', more', hmore', hnone'⟩ := (h.coherent m).frozen hd hs
      refine ⟨hd', hsent'.trans hsent, more ++ more', ?_, fun outcome ho => ?_⟩
      · rw [hmore', hmore, List.append_assoc]
      · exact (List.mem_append.mp ho).elim (hnone outcome) (hnone' outcome)

/-- Every submitted job is fulfilled in the end. -/
theorem fulfilled (h : Run text states) (hlives : ∀ n, (states n).stopping = false)
    (hlively : Lively states) {n id : Nat} (hid : id < (states n).submitted) :
    ∃ m, n ≤ m ∧ id ∈ (states m).outcomes.map Prod.fst := by
  have hknown : id ∈ (states n).outcomes.map Prod.fst ++ (states n).unresolved :=
    (h.coherent n).ledger.accounted.mem_iff.mpr (List.mem_range.mpr hid)
  rcases List.mem_append.mp hknown with hdone | hopen
  · exact ⟨n, le_rfl, hdone⟩
  have hadvances : Advances states (fun c => id ∈ c.unresolved) (fun c => id ∈ c.outcomes.map Prod.fst)
      (fun c => 6 * c.unresolved.idxOf id + c.worker.rank) (fun c => c.worker.rank) := by
    intro n hn
    rcases h.2 n with hsame | hs
    · rw [hsame]
      exact .inr ⟨hn, .inr ⟨rfl, rfl⟩⟩
    · cases Client.serves_of_step (hlives n) (hlives (n + 1)) hs with
      | waits more unresolved rank =>
        have hopen' : id ∈ (states (n + 1)).unresolved := by
          rw [unresolved]
          exact List.mem_append_left more hn
        refine .inr ⟨hopen', ?_⟩
        dsimp only
        rw [unresolved, List.idxOf_append_of_mem hn]
        omega
      | fulfils oldest unresolved done =>
        rw [unresolved] at hn
        rcases eq_or_ne id oldest with rfl | hne
        · exact .inl done
        · refine .inr ⟨(List.mem_cons.mp hn).resolve_left hne, .inl ?_⟩
          have hrank := (states (n + 1)).worker.rank_le
          dsimp only
          rw [unresolved, List.idxOf_cons_ne _ hne.symm]
          omega
      | drops done => exact .inl (done id hn)
  refine hadvances.eventually (fun n hn => hlively n fun hidle => ?_) hopen
  have hempty : (states n).unresolved = [] := by
    unfold Client.unresolved
    rcases hidle with ⟨hwaiting, hjobs⟩ | hended
    · rw [hwaiting, hjobs]
      rfl
    · have hfailure := (h.ended n hended).resolve_left (by rw [hlives n]; nofun)
      rw [hended, ((h.coherent n).down hfailure).2]
      rfl
  rw [hempty] at hn
  exact absurd hn List.not_mem_nil

end Run

/-- Each job is answered at most once and with the line for its own request, the jobs are sent in
their order, the queue stays within 64 jobs and only a full queue refuses a job for itself, a lost
connection sends and answers nothing more, and every job is fulfilled in the end. -/
theorem model_rpc (text : JsonText J) (states : Nat → Client J) (hrun : Run text states) :
    (∀ n, ((states n).outcomes.map Prod.fst).Nodup) ∧
    (∀ n id response, (id, .value response) ∈ (states n).outcomes →
      ∃ line, (id, line) ∈ (states n).answers ∧ text.parse (line ++ [newline]) = .ok response) ∧
    (∀ n, ((states n).sent.map Prod.fst).Pairwise (· ≤ ·)) ∧
    (∀ n, (states n).jobs.length ≤ 64) ∧
    (∀ n id, (id, .full) ∈ (states (n + 1)).outcomes → (id, .full) ∉ (states n).outcomes →
      64 ≤ (states n).jobs.length ∧ states (n + 1) = { states n with
        submitted := (states n).submitted + 1
        outcomes := (states n).outcomes ++ [((states n).submitted, .full)] }) ∧
    (∀ n m, n ≤ m → (∃ id what, (id, .failed what) ∈ (states n).outcomes) →
      (states m).sent = (states n).sent ∧ ∀ id response,
        (id, .value response) ∈ (states m).outcomes → (id, .value response) ∈ (states n).outcomes) ∧
    ((∀ n, (states n).stopping = false) → Lively states →
      (∀ n, ∀ id < (states n).submitted, ∃ m, n ≤ m ∧ id ∈ (states m).outcomes.map Prod.fst) ∧
      ∀ n m, n ≤ m → (∃ id what, (id, .failed what) ∈ (states n).outcomes) →
        ∀ id < (states m).submitted, id ∉ (states n).outcomes.map Prod.fst →
          ∃ k outcome, (id, outcome) ∈ (states k).outcomes ∧ ∀ response, outcome ≠ .value response) := by
  refine ⟨fun n => ?_, fun n id response hmem => (hrun.coherent n).answered _ hmem response rfl,
    fun n => (hrun.coherent n).ledger.sent, fun n => (hrun.coherent n).ledger.bounded,
    fun n id hmem hnew => ?_, fun n m hnm hfailed => ?_, fun hlives hlively =>
      ⟨fun n id hid => hrun.fulfilled hlives hlively hid, fun n m hnm hfailed id hid hopen => ?_⟩⟩
  · have hnodup := (hrun.coherent n).ledger.accounted.nodup_iff.mpr List.nodup_range
    exact (List.nodup_append.mp hnodup).1
  · rcases hrun.2 n with hsame | hs
    · rw [hsame] at hmem
      exact absurd hmem hnew
    · obtain ⟨more, hmore, hfull⟩ := Client.outcomes_of_step hs
      rw [hmore] at hmem
      exact hfull id ((List.mem_append.mp hmem).resolve_left hnew)
  · obtain ⟨id, what, hmem⟩ := hfailed
    obtain ⟨-, hsent, more, hmore, hnone⟩ :=
      hrun.frozen hnm ((hrun.coherent n).failed _ hmem what rfl)
    refine ⟨hsent, fun id response hvalue => ?_⟩
    rw [hmore] at hvalue
    exact (List.mem_append.mp hvalue).resolve_right fun h => hnone _ h response rfl
  · obtain ⟨id', what, hmem⟩ := hfailed
    obtain ⟨k, hk, hdone⟩ := hrun.fulfilled hlives hlively hid
    obtain ⟨⟨_, outcome⟩, houtcome, rfl⟩ := List.mem_map.mp hdone
    obtain ⟨-, -, more, hmore, hnone⟩ :=
      hrun.frozen (hnm.trans hk) ((hrun.coherent n).failed _ hmem what rfl)
    refine ⟨k, outcome, houtcome, ?_⟩
    rw [hmore] at houtcome
    rcases List.mem_append.mp houtcome with hold | hnew
    · exact absurd (List.mem_map_of_mem hold) hopen
    · exact hnone _ hnew

/-- The JSON texts of an idle request and of an empty reply. -/
def idleRequest : Bytes :=
  [0x7b, 0x22, 0x6f, 0x70, 0x22, 0x3a, 0x22, 0x69, 0x64, 0x6c, 0x65, 0x22, 0x7d]

def emptyReply : Bytes := [0x7b, 0x7d]

def idleText : JsonText Json where
  dump _ := .ok idleRequest
  parse _ := .ok (.object [])

def idleJob : Job Json := ⟨0, .object [("op", .string "idle")]⟩

/-- A request that is answered. -/
def idleRun : Nat → Client Json :=
  let submitted := Client.start.submit idleJob.message
  let connected : Client Json := { submitted with worker := .waiting }
  let taken := connected.take idleText idleJob []
  let sent := taken.send idleJob (idleRequest ++ [newline]) 14
  let answered := sent.reply 0 [] emptyReply
  fun
    | 0 => .start
    | 1 => submitted
    | 2 => connected
    | 3 => taken
    | 4 => sent
    | 5 => answered
    | _ => answered.receive idleText idleJob [] 3

theorem idleRun_run : Run idleText idleRun := by
  refine ⟨rfl, fun n => ?_⟩
  match n with
  | 0 => exact .inr (.submit _ rfl)
  | 1 => exact .inr (.connect rfl)
  | 2 => exact .inr (.take _ _ rfl rfl rfl)
  | 3 => exact .inr (.send idleJob (idleRequest ++ [newline]) 14 rfl (by decide) (by decide))
  | 4 => exact .inr (.reply 0 [] emptyReply rfl rfl (by decide))
  | 5 => exact .inr (.receive idleJob [] 3 rfl (by decide) (by decide) (by decide) (by decide))
  | n + 6 => exact .inl rfl

theorem idleRun_lively : Lively idleRun := by
  intro n hidle
  match n with
  | 0 | 1 => exact ⟨2, by omega, by decide⟩
  | 2 => exact ⟨3, by omega, by decide⟩
  | 3 => exact ⟨4, by omega, by decide⟩
  | 4 | 5 => exact ⟨6, by omega, by decide⟩
  | n + 6 => exact absurd (.inl ⟨rfl, rfl⟩) hidle

theorem model_rpc_idle : ∃ m, 1 ≤ m ∧ 0 ∈ (idleRun m).outcomes.map Prod.fst :=
  ((model_rpc idleText idleRun idleRun_run).2.2.2.2.2.2 (fun n => match n with
    | 0 | 1 | 2 | 3 | 4 | 5 | _ + 6 => rfl) idleRun_lively).1 1 0 (by decide)

end EthercatSimulator.Ipc
