import EthercatSimulator.Base.Lines

/-! The client of the model host: the network thread submits jobs, one worker thread owns the
socket and answers them. -/

namespace EthercatSimulator.Ipc

open Base

/-- Why the worker gives up.  What the JSON library and `std::stoi` throw has a text of its own. -/
inductive Failure
  | badTimeout | pathTooLong | noSocket | cannotConnect
  | timeout | disconnected | sendFailed | closed | readFailed | tooLarge
  | thrown (what : { text : String // text ≠ "" })

def Failure.what : Failure → String
  | badTimeout => "DEVICE_SIMULATOR_MODEL_TIMEOUT_MS must be 10..5000"
  | pathTooLong => "Socket path too long"
  | noSocket => "Cannot create model socket"
  | cannotConnect => "Cannot connect to model service"
  | timeout => "MODEL_RESPONSE_TIMEOUT"
  | disconnected => "MODEL_HOST_DISCONNECTED"
  | sendFailed => "Model service send failed"
  | closed => "Model service closed or timed out"
  | readFailed => "Model service read failed"
  | tooLarge => "Model response too large"
  | thrown what => what

theorem Failure.what_ne_empty (f : Failure) : f.what ≠ "" := by
  cases f with
  | thrown what => exact what.2
  | _ => decide

/-- `dump` and `parse` of the JSON library. -/
structure JsonText (J : Type) where
  dump : J → Except { text : String // text ≠ "" } Bytes
  parse : Bytes → Except { text : String // text ≠ "" } J

/-- A job and its number among all submitted jobs. -/
structure Job (J : Type) where
  id : Nat
  message : J

/-- What a future becomes. -/
inductive Outcome (J : Type)
  | value (response : J)
  | failed (what : String)
  | full
  | broken

/-- Where the worker thread stands. -/
inductive Worker (J : Type)
  | connecting
  | waiting
  | sending (job : Job J) (rest : Bytes)
  | receiving (job : Job J) (response : Bytes)
  | unwinding (failure : Failure)
  | ended

/-- `AsyncModelClient` with its socket and the host behind it.  `outcomes` records the promises that
were fulfilled, `sent` the calls of `send`, and `answers` the replies of the host. -/
structure Client (J : Type) where
  jobs : List (Job J)
  stopping : Bool
  failure : String
  worker : Worker J
  submitted : Nat
  outcomes : List (Nat × Outcome J)
  sent : List (Nat × Bytes)
  owed : List Nat
  answers : List (Nat × Bytes)
  incoming : Bytes
  closed : Bool

namespace Client

variable {J : Type}

def start : Client J where
  jobs := []
  stopping := false
  failure := ""
  worker := .connecting
  submitted := 0
  outcomes := []
  sent := []
  owed := []
  answers := []
  incoming := []
  closed := false

variable (c : Client J)

def resolve (id : Nat) (outcome : Outcome J) : Client J :=
  { c with outcomes := c.outcomes ++ [(id, outcome)] }

/-- `set_exception` of every job in the queue, which ends with them. -/
def drop (outcome : Outcome J) : Client J :=
  { c with outcomes := c.outcomes ++ c.jobs.map fun job => (job.id, outcome), jobs := [] }

def submit (message : J) : Client J :=
  let job : Job J := ⟨c.submitted, message⟩
  let c := { c with submitted := c.submitted + 1 }
  if c.failure ≠ "" then c.resolve job.id (.failed c.failure)
  else if 64 ≤ c.jobs.length then c.resolve job.id .full
  else { c with jobs := c.jobs ++ [job] }

/-- The promise of the present job fails, and the exception goes on. -/
def fail (job : Job J) (failure : Failure) : Client J :=
  { c.resolve job.id (.failed failure.what) with worker := .unwinding failure }

/-- The handler at the end of the worker thread. -/
def unwind (failure : Failure) : Client J :=
  { c.drop (.failed failure.what) with failure := failure.what, worker := .ended }

/-- The worker takes a job from the queue and encodes it. -/
def take (text : JsonText J) (job : Job J) (rest : List (Job J)) : Client J :=
  let c := { c with jobs := rest }
  match text.dump job.message with
  | .ok data => { c with worker := .sending job (data ++ [newline]) }
  | .error what => c.fail job (.thrown what)

/-- `send` accepts `n` bytes; the host has the request when it has them all. -/
def send (job : Job J) (data : Bytes) (n : Nat) : Client J :=
  let c := { c with sent := c.sent ++ [(job.id, data.take n)] }
  if n < data.length then { c with worker := .sending job (data.drop n) }
  else { c with worker := .receiving job [], owed := c.owed ++ [job.id] }

/-- `recv` with `MSG_PEEK` shows `n` bytes; what belongs to the line is consumed. -/
def receive (text : JsonText J) (job : Job J) (response : Bytes) (n : Nat) : Client J :=
  let count := lineLength (c.incoming.take n)
  let response := response ++ c.incoming.take count
  let c := { c with incoming := c.incoming.drop count }
  if response.getLast? = some newline then
    match text.parse response with
    | .ok value => { c.resolve job.id (.value value) with worker := .waiting }
    | .error what => c.fail job (.thrown what)
  else { c with worker := .receiving job response }

/-- The host answers the oldest request with one line. -/
def reply (id : Nat) (rest : List Nat) (line : Bytes) : Client J :=
  { c with
    owed := rest, answers := c.answers ++ [(id, line)], incoming := c.incoming ++ (line ++ [newline]) }

end Client

namespace Worker

variable {J : Type}

def ids : Worker J → List Nat
  | sending job _ | receiving job _ => [job.id]
  | connecting | waiting | unwinding _ | ended => []

end Worker

/-- What `poll`, `send` and `recv` report while a request is under way. -/
def Failure.ofSocket : Failure → Prop
  | timeout | disconnected | sendFailed | closed | readFailed => True
  | _ => False

/-- One step of the network thread, of the worker thread, or of the host. -/
inductive Step {J : Type} (text : JsonText J) (c : Client J) : Client J → Prop
  | submit (message : J) (alive : c.stopping = false) : Step text c (c.submit message)
  | stop : Step text c { c with stopping := true }
  | destroy (stopping : c.stopping = true) (ended : c.worker = .ended) : Step text c (c.drop .broken)
  | connect (at_ : c.worker = .connecting) : Step text c { c with worker := .waiting }
  | connectFails (failure : Failure) (at_ : c.worker = .connecting) :
    Step text c { c with worker := .unwinding failure }
  | leave (at_ : c.worker = .waiting) (stopping : c.stopping = true) :
    Step text c { c with worker := .ended }
  | take (job : Job J) (rest : List (Job J)) (at_ : c.worker = .waiting)
    (running : c.stopping = false) (queued : c.jobs = job :: rest) : Step text c (c.take text job rest)
  | send (job : Job J) (data : Bytes) (n : Nat) (at_ : c.worker = .sending job data) (some : 0 < n)
    (upTo : n ≤ data.length) : Step text c (c.send job data n)
  | sendFails (job : Job J) (data : Bytes) (failure : Failure) (at_ : c.worker = .sending job data)
    (socket : failure.ofSocket) : Step text c (c.fail job failure)
  | receive (job : Job J) (response : Bytes) (n : Nat) (at_ : c.worker = .receiving job response)
    (small : response.length ≤ 1024 * 1024) (some : 0 < n) (buffer : n ≤ 4096)
    (available : n ≤ c.incoming.length) : Step text c (c.receive text job response n)
  | receiveFails (job : Job J) (response : Bytes) (failure : Failure)
    (at_ : c.worker = .receiving job response) (socket : failure.ofSocket) :
    Step text c (c.fail job failure)
  | overflow (job : Job J) (response : Bytes) (at_ : c.worker = .receiving job response)
    (large : 1024 * 1024 < response.length) : Step text c (c.fail job .tooLarge)
  | unwind (failure : Failure) (at_ : c.worker = .unwinding failure) : Step text c (c.unwind failure)
  | reply (id : Nat) (rest : List Nat) (line : Bytes) (owed : c.owed = id :: rest)
    (opened : c.closed = false) (single : newline ∉ line) : Step text c (c.reply id rest line)
  | close (part : Bytes) (opened : c.closed = false) (cut : newline ∉ part)
    (solicited : c.owed = [] → part = []) :
    Step text c { c with closed := true, incoming := c.incoming ++ part }

end EthercatSimulator.Ipc
