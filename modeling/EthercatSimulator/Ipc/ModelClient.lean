import EthercatSimulator.Base.Exec
import EthercatSimulator.Ipc.AsyncModelClient

/-! The blocking client of a model host: one request, and one line that answers it. -/

namespace EthercatSimulator.Ipc.ModelClient

open Base

inductive Poll
  | ready | timeout | disconnected

/-- The kernel between the client and the host: what its calls report in the `i`-th turn of a loop.
A call that reports no bytes has failed. -/
structure Kernel where
  poll : Nat → Poll
  /-- How many of the bytes offered are accepted. -/
  send : Nat → Nat → Nat
  /-- How many of the bytes unread have arrived and fit into the buffer. -/
  peek : Nat → Nat → Nat
  /-- How many of the bytes requested are consumed. -/
  recv : Nat → Nat → Nat
  send_le : ∀ i size, send i size ≤ size
  peek_le : ∀ i unread, peek i unread ≤ min 4096 unread
  recv_le : ∀ i count, recv i count ≤ count

/-- Nothing times out or fails, and what arrives in the end is shown in some pieces. -/
structure Kernel.Delivers (k : Kernel) : Prop where
  poll : ∀ i, k.poll i = .ready
  send : ∀ i size, 0 < size → 0 < k.send i size
  peek : ∀ i unread, 0 < unread → 0 < k.peek i unread
  recv : ∀ i count, 0 < count → 0 < k.recv i count

/-- The bytes that the host offers and the client has not consumed, the bytes sent, and the turns taken. -/
structure Socket where
  unread : Bytes
  sent : Bytes
  turns : Nat

abbrev SocketM := Exec Failure Socket

def maxResponse : Nat := 1024 * 1024

namespace Kernel

variable (k : Kernel)

def ready : SocketM Unit := do
  let s ← Exec.get
  match k.poll s.turns with
  | .ready => pure ()
  | .timeout => Exec.raise .timeout
  | .disconnected => Exec.raise .disconnected

/-- One turn of the loop that sends; it leaves the bytes that are not sent yet. -/
def sendPart (data : Bytes) : SocketM Bytes := do
  k.ready
  let s ← Exec.get
  let n := k.send s.turns data.length
  Exec.require (0 < n) .sendFailed
  Exec.modify fun s => { s with sent := s.sent ++ data.take n, turns := s.turns + 1 }
  return data.drop n

/-- One turn of the loop that receives: it peeks, and consumes what belongs to the line. -/
def receivePart (response : Bytes) : SocketM Bytes := do
  k.ready
  let s ← Exec.get
  let n := k.peek s.turns s.unread.length
  Exec.require (0 < n) .closed
  let used := k.recv s.turns (lineLength (s.unread.take n))
  Exec.require (0 < used) .readFailed
  Exec.modify fun s => { s with unread := s.unread.drop used, turns := s.turns + 1 }
  return response ++ s.unread.take used

theorem ready_cases (s : Socket) :
    k.ready s = (.ok (), s) ∧ k.poll s.turns = .ready ∨ ∃ e, k.ready s = (.error e, s) ∧ k.poll s.turns ≠ .ready := by
  unfold ready
  rw [Exec.run_bind_ok (Exec.run_get s)]
  cases hpoll : k.poll s.turns with
  | ready => exact .inl ⟨rfl, rfl⟩
  | timeout => exact .inr ⟨.timeout, rfl, nofun⟩
  | disconnected => exact .inr ⟨.disconnected, rfl, nofun⟩

/-- A turn of the loop that sends hands over a part of the data, or nothing. -/
theorem sendPart_cases (data : Bytes) (s : Socket) :
    (∃ n, 0 < n ∧ n ≤ data.length ∧
      k.sendPart data s = (.ok (data.drop n), { s with sent := s.sent ++ data.take n, turns := s.turns + 1 })) ∨
    ∃ e, k.sendPart data s = (.error e, s) ∧ ¬ (k.poll s.turns = .ready ∧ 0 < k.send s.turns data.length) := by
  unfold sendPart
  rcases k.ready_cases s with ⟨hready, hpoll⟩ | ⟨e, hready, hpoll⟩
  · rw [Exec.run_bind_ok hready, Exec.run_bind_ok (Exec.run_get s)]
    by_cases hn : 0 < k.send s.turns data.length
    · refine .inl ⟨_, hn, k.send_le _ _, ?_⟩
      rw [Exec.require, if_pos hn]
      rfl
    · refine .inr ⟨.sendFailed, ?_, fun h => hn h.2⟩
      rw [Exec.require, if_neg hn]
      rfl
  · refine .inr ⟨e, ?_, fun h => hpoll h.1⟩
    rw [Exec.run_bind_error hready]

/-- A turn of the loop that receives consumes a part of the line, or nothing. -/
theorem receivePart_cases (response : Bytes) (s : Socket) :
    (∃ part unread, s.unread = part ++ unread ∧ part ≠ [] ∧ part.length ≤ 4096 ∧ newline ∉ part.dropLast ∧
      k.receivePart response s = (.ok (response ++ part), { s with unread, turns := s.turns + 1 })) ∨
    ∃ e, k.receivePart response s = (.error e, s) ∧ ¬ (k.Delivers ∧ s.unread ≠ []) := by
  unfold receivePart
  rcases k.ready_cases s with ⟨hready, hpoll⟩ | ⟨e, hready, hpoll⟩
  · rw [Exec.run_bind_ok hready, Exec.run_bind_ok (Exec.run_get s)]
    have hpeek := k.peek_le s.turns s.unread.length
    by_cases hn : 0 < k.peek s.turns s.unread.length
    · generalize k.peek s.turns s.unread.length = n at hpeek hn ⊢
      have hpeeked : (Exec.require (0 < n) .closed : SocketM Unit) s = (.ok (), s) := by
        rw [Exec.require, if_pos hn]
        rfl
      rw [Exec.run_bind_ok hpeeked]
      have hlength : lineLength (s.unread.take n) ≤ n :=
        Nat.le_trans (lineLength_le _) (List.length_take_le _ _)
      have hne : s.unread.take n ≠ [] := by
        rw [← List.length_pos_iff, List.length_take]
        omega
      have hrecv := k.recv_le s.turns (lineLength (s.unread.take n))
      by_cases hused : 0 < k.recv s.turns (lineLength (s.unread.take n))
      · generalize k.recv s.turns (lineLength (s.unread.take n)) = used at hrecv hused ⊢
        have htake : (s.unread.take n).take used = s.unread.take used := by
          rw [List.take_take, Nat.min_eq_left (Nat.le_trans hrecv hlength)]
        refine .inl ⟨s.unread.take used, s.unread.drop used, (List.take_append_drop _ _).symm, ?_, ?_, ?_, ?_⟩
        · rw [← List.length_pos_iff, List.length_take]
          omega
        · rw [List.length_take]
          omega
        · exact htake ▸ notMem_dropLast_take hrecv
        · rw [Exec.require, if_pos hused]
          rfl
      · refine .inr ⟨.readFailed, ?_, fun h => hused (h.1.recv _ _ (lineLength_pos hne))⟩
        rw [Exec.require, if_neg hused]
        rfl
    · refine .inr ⟨.closed, ?_, fun h => hn (h.1.peek _ _ (List.length_pos_iff.mpr h.2))⟩
      rw [Exec.require, if_neg hn]
      rfl
  · refine .inr ⟨e, ?_, fun h => hpoll (h.1.poll _)⟩
    rw [Exec.run_bind_error hready]

theorem sendPart_shorter {k : Kernel} {data rest : Bytes} {s s' : Socket} (hne : data ≠ [])
    (h : k.sendPart data s = (.ok rest, s')) : rest.length < data.length := by
  rcases k.sendPart_cases data s with ⟨n, hn, _, heq⟩ | ⟨e, heq, _⟩
  · cases heq.symm.trans h
    rw [List.length_drop]
    exact Nat.sub_lt (List.length_pos_iff.mpr hne) hn
  · cases heq.symm.trans h

theorem receivePart_longer {k : Kernel} {response response' : Bytes} {s s' : Socket}
    (h : k.receivePart response s = (.ok response', s')) : response.length < response'.length := by
  rcases k.receivePart_cases response s with ⟨part, unread, _, hne, _, _, heq⟩ | ⟨e, heq, _⟩
  · cases heq.symm.trans h
    rw [List.length_append]
    exact Nat.lt_add_of_pos_right (List.length_pos_iff.mpr hne)
  · cases heq.symm.trans h

/-- `while(sent<data.size())` -/
def sendAll (data : Bytes) (s : Socket) : Except Failure Unit × Socket :=
  if _hne : data = [] then (.ok (), s)
  else
    match _h : k.sendPart data s with
    | (.ok rest, s') => sendAll rest s'
    | (.error e, s') => (.error e, s')
termination_by data.length
decreasing_by exact sendPart_shorter _hne _h

/-- `while(response.size()<=1024*1024)`, to the bytes that are parsed -/
def receive (response : Bytes) (s : Socket) : Except Failure Bytes × Socket :=
  if _hsize : response.length ≤ maxResponse then
    match _h : k.receivePart response s with
    | (.ok response', s') =>
      if response'.getLast? = some newline then (.ok response', s') else receive response' s'
    | (.error e, s') => (.error e, s')
  else (.error .tooLarge, s)
termination_by maxResponse + 1 - response.length
decreasing_by
  have hlonger := receivePart_longer _h
  omega

def request {J : Type} (text : JsonText J) (message : J) : SocketM J := do
  let data ← Exec.ofExcept ((text.dump message).mapError .thrown)
  k.sendAll (data ++ [newline])
  let response ← k.receive []
  Exec.ofExcept ((text.parse response).mapError .thrown)

end Kernel

/-! One turn after the other. -/

variable {k : Kernel}

theorem sendAll_next {data rest : Bytes} {s s' : Socket} (hne : data ≠ [])
    (h : k.sendPart data s = (.ok rest, s')) : k.sendAll data s = k.sendAll rest s' := by
  rw [Kernel.sendAll, dif_neg hne]
  split
  · next heq =>
    cases h.symm.trans heq
    rfl
  · next heq => cases h.symm.trans heq

theorem receive_next {response response' : Bytes} {s s' : Socket} (hsize : response.length ≤ maxResponse)
    (h : k.receivePart response s = (.ok response', s')) :
    k.receive response s =
      if response'.getLast? = some newline then (.ok response', s') else k.receive response' s' := by
  rw [Kernel.receive, dif_pos hsize]
  split
  · next heq =>
    cases h.symm.trans heq
    rfl
  · next heq => cases h.symm.trans heq

theorem receive_fails {response : Bytes} {s s' : Socket} {e : Failure} (hsize : response.length ≤ maxResponse)
    (h : k.receivePart response s = (.error e, s')) : k.receive response s = (.error e, s') := by
  rw [Kernel.receive, dif_pos hsize]
  split
  · next heq => cases h.symm.trans heq
  · next heq =>
    cases h.symm.trans heq
    rfl

theorem receive_tooLarge {response : Bytes} {s : Socket} (hsize : maxResponse < response.length) :
    k.receive response s = (.error .tooLarge, s) := by
  rw [Kernel.receive, dif_neg (Nat.not_le.mpr hsize)]

/-- All of the data is sent, and nothing else is touched. -/
theorem sendAll_ok (hk : k.Delivers) (data : Bytes) (s : Socket) :
    ∃ turns, k.sendAll data s = (.ok (), { s with sent := s.sent ++ data, turns }) := by
  induction hlength : data.length using Nat.strongRecOn generalizing data s with
  | ind length ih =>
    by_cases hne : data = []
    · subst hne
      refine ⟨s.turns, ?_⟩
      rw [Kernel.sendAll, dif_pos rfl, List.append_nil]
    · rcases k.sendPart_cases data s with ⟨n, hn, hle, hpart⟩ | ⟨e, _, hfails⟩
      · rw [sendAll_next hne hpart]
        have hshorter : (data.drop n).length < length := hlength ▸ Kernel.sendPart_shorter hne hpart
        obtain ⟨turns, hrest⟩ := ih _ hshorter (data.drop n) _ rfl
        refine ⟨turns, hrest.trans ?_⟩
        rw [List.append_assoc, List.take_append_drop]
      · exact absurd ⟨hk.poll _, hk.send _ _ (List.length_pos_iff.mpr hne)⟩ hfails

/-- Whatever is sent, and whether or not it is, no byte is read. -/
theorem sendAll_unread (data : Bytes) (s : Socket) : (k.sendAll data s).2.unread = s.unread := by
  induction hlength : data.length using Nat.strongRecOn generalizing data s with
  | ind length ih =>
    by_cases hne : data = []
    · rw [Kernel.sendAll, dif_pos hne]
    · rcases k.sendPart_cases data s with ⟨n, hn, hle, hpart⟩ | ⟨e, hpart, _⟩
      · rw [sendAll_next hne hpart]
        exact ih _ (hlength ▸ Kernel.sendPart_shorter hne hpart) (data.drop n) _ rfl
      · rw [Kernel.sendAll, dif_neg hne]
        split
        · next heq => cases hpart.symm.trans heq
        · next heq =>
          cases hpart.symm.trans heq
          rfl

/-- A line that fits is consumed with its newline, and nothing of what follows it. -/
theorem receive_line (hk : k.Delivers) {rest tail response : Bytes} {s : Socket} (hresponse : newline ∉ response)
    (htail : newline ∉ tail) (hsize : response.length + tail.length ≤ maxResponse)
    (hunread : s.unread = tail ++ newline :: rest) :
    ∃ turns, k.receive response s =
      (.ok (response ++ tail ++ [newline]), { s with unread := rest, turns }) := by
  induction hlength : tail.length using Nat.strongRecOn generalizing tail response s with
  | ind length ih =>
    rcases k.receivePart_cases response s with ⟨part, unread, hparts, hne, _, hpart, hok⟩ | ⟨e, _, hfails⟩
    · rw [receive_next (by omega) hok]
      obtain ⟨pre, b, rfl⟩ := (List.eq_nil_or_concat' part).resolve_left hne
      rw [List.dropLast_concat] at hpart
      rw [hunread, List.append_assoc, List.singleton_append] at hparts
      rw [← List.append_assoc, List.getLast?_concat]
      by_cases hb : b = newline
      · -- The last piece: what comes before the newline is all that was left of the line.
        subst hb
        obtain ⟨rfl, rfl⟩ := line_unique htail hpart hparts
        rw [if_pos rfl]
        exact ⟨_, rfl⟩
      · have hmore : newline ∉ pre ++ [b] := by
          intro hmem
          rcases List.mem_append.mp hmem with hmem | hmem
          · exact hpart hmem
          · exact hb (List.mem_singleton.mp hmem).symm
        have hstream : (pre ++ [b]) ++ unread = tail ++ newline :: rest := by simpa using hparts.symm
        obtain ⟨tail', rfl, hrest⟩ := split_line hmore hstream
        rw [if_neg fun h => hb (Option.some.inj h)]
        rw [List.length_append, List.length_append, List.length_singleton] at hsize hlength
        have hresponse' : newline ∉ response ++ pre ++ [b] := by
          rw [List.append_assoc]
          exact fun h => (List.mem_append.mp h).elim hresponse hmore
        have hsize' : (response ++ pre ++ [b]).length + tail'.length ≤ maxResponse := by
          rw [List.length_append, List.length_append, List.length_singleton]
          omega
        obtain ⟨turns, hreceive⟩ := ih _ (by omega) (s := { s with unread, turns := s.turns + 1 }) hresponse'
          (fun h => htail (List.mem_append_right _ h)) hsize' hrest rfl
        refine ⟨turns, hreceive.trans ?_⟩
        simp only [List.append_assoc]
    · exact absurd ⟨hk, by rw [hunread]; simp⟩ hfails

/-- What one answer takes from the stream: at most one buffer beyond the limit, and nothing after a newline. -/
structure Consumed (s s' : Socket) (response consumed : Bytes) : Prop where
  unread : s.unread = consumed ++ s'.unread
  size : response.length + consumed.length ≤ maxResponse + 4096
  line : newline ∉ consumed.dropLast

theorem receive_consumed (response : Bytes) (s : Socket) (hresponse : response.length ≤ maxResponse + 4096) :
    ∃ consumed, Consumed s (k.receive response s).2 response consumed := by
  induction hlength : maxResponse + 1 - response.length using Nat.strongRecOn generalizing response s with
  | ind length ih =>
    have hnone : Consumed s s response [] := ⟨rfl, by simpa using hresponse, List.not_mem_nil⟩
    by_cases hsize : response.length ≤ maxResponse
    · rcases k.receivePart_cases response s with ⟨part, unread, hparts, hne, hbuffer, hpart, hok⟩ | ⟨e, hfails, _⟩
      · have hpositive := List.length_pos_iff.mpr hne
        rw [receive_next hsize hok]
        by_cases hend : (response ++ part).getLast? = some newline
        · rw [if_pos hend]
          exact ⟨part, hparts, by omega, hpart⟩
        · rw [if_neg hend]
          obtain ⟨consumed, h⟩ := ih _ (by rw [List.length_append]; omega) (response ++ part)
            { s with unread, turns := s.turns + 1 } (by rw [List.length_append]; omega) rfl
          refine ⟨part ++ consumed, by rw [hparts, List.append_assoc, ← h.unread], ?_, ?_⟩
          · have hconsumed := h.size
            rw [List.length_append] at hconsumed ⊢
            omega
          · -- The part does not end the line, or the loop would have stopped there.
            have hinner : newline ∉ part := by
              obtain ⟨pre, b, rfl⟩ := (List.eq_nil_or_concat' part).resolve_left hne
              rw [List.dropLast_concat] at hpart
              rw [← List.append_assoc, List.getLast?_concat, Option.some.injEq] at hend
              exact fun hmem => (List.mem_append.mp hmem).elim hpart fun h => hend (List.mem_singleton.mp h).symm
            intro hmem
            by_cases hconsumed : consumed = []
            · rw [hconsumed, List.append_nil] at hmem
              exact hpart hmem
            · rw [List.dropLast_append_of_ne_nil hconsumed] at hmem
              exact (List.mem_append.mp hmem).elim hinner h.line
      · rw [receive_fails hsize hfails]
        exact ⟨[], hnone⟩
    · rw [receive_tooLarge (Nat.not_le.mp hsize)]
      exact ⟨[], hnone⟩

section Request

variable {J : Type} {text : JsonText J} {message : J}

theorem request_line (hk : k.Delivers) {data line rest : Bytes} {s : Socket} (hdump : text.dump message = .ok data)
    (hline : newline ∉ line) (hsize : line.length ≤ maxResponse) (hunread : s.unread = line ++ newline :: rest) :
    ∃ turns, k.request text message s = ((text.parse (line ++ [newline])).mapError .thrown,
      { unread := rest, sent := s.sent ++ data ++ [newline], turns }) := by
  obtain ⟨sends, hsend⟩ := sendAll_ok hk (data ++ [newline]) s
  have hempty : ([] : Bytes).length + line.length ≤ maxResponse := by simpa using hsize
  obtain ⟨turns, hreceive⟩ := receive_line hk (s := { s with sent := s.sent ++ (data ++ [newline]), turns := sends })
    List.not_mem_nil hline hempty hunread
  refine ⟨turns, ?_⟩
  rw [Kernel.request, Exec.run_ofExcept_bind, hdump]
  change (do k.sendAll (data ++ [newline]); _ : SocketM J) s = _
  rw [Exec.run_bind_ok hsend, Exec.run_bind_ok hreceive, Exec.run_ofExcept, List.nil_append, List.append_assoc]

theorem request_consumed (s : Socket) : ∃ consumed, Consumed s (k.request text message s).2 [] consumed := by
  have hnone : Consumed s s [] [] := ⟨rfl, by decide, List.not_mem_nil⟩
  rw [Kernel.request, Exec.run_ofExcept_bind]
  cases text.dump message with
  | error what => exact ⟨[], hnone⟩
  | ok data =>
    change ∃ consumed, Consumed s ((do k.sendAll (data ++ [newline]); _ : SocketM J) s).2 [] consumed
    have hunread := sendAll_unread (k := k) (data ++ [newline]) s
    cases hsend : k.sendAll (data ++ [newline]) s with
    | mk r s₁ =>
      rw [hsend] at hunread
      cases r with
      | error e =>
        rw [Exec.run_bind_error hsend]
        exact ⟨[], hunread.symm, by decide, List.not_mem_nil⟩
      | ok =>
        rw [Exec.run_bind_ok hsend]
        obtain ⟨consumed, h⟩ := receive_consumed (k := k) [] s₁ (by decide)
        refine ⟨consumed, ?_, h.size, h.line⟩
        cases hreceive : k.receive [] s₁ with
        | mk r s₂ =>
          rw [hreceive] at h
          cases r with
          | error e =>
            rw [Exec.run_bind_error hreceive]
            exact hunread.symm.trans h.unread
          | ok response =>
            rw [Exec.run_bind_ok hreceive, Exec.run_ofExcept]
            exact hunread.symm.trans h.unread

/-- A message, the line that answers it, and what the line says. -/
structure Exchange (text : JsonText J) where
  message : J
  line : Bytes
  value : J
  dumped : ∃ data, text.dump message = .ok data
  single : newline ∉ line
  size : line.length ≤ maxResponse
  parsed : text.parse (line ++ [newline]) = .ok value

/-- Requests in a row each get their own line, and nothing of the stream is lost between them. -/
theorem requests_lines (hk : k.Delivers) (exchanges : List (Exchange text)) {rest : Bytes} {s : Socket}
    (hunread : s.unread = (exchanges.flatMap fun e => e.line ++ [newline]) ++ rest) :
    ∃ s', (exchanges.mapM fun e => k.request text e.message) s = (.ok (exchanges.map Exchange.value), s') ∧
      s'.unread = rest := by
  induction exchanges generalizing s with
  | nil => exact ⟨s, rfl, hunread⟩
  | cons e exchanges ih =>
    obtain ⟨data, hdump⟩ := e.dumped
    have hstream : s.unread = e.line ++ newline :: ((exchanges.flatMap fun e => e.line ++ [newline]) ++ rest) := by
      rw [hunread, List.flatMap_cons]
      simp only [List.append_assoc, List.cons_append, List.nil_append]
    obtain ⟨turns, hrequest⟩ := request_line hk hdump e.single e.size hstream
    rw [e.parsed] at hrequest
    obtain ⟨s', hrequests, hrest⟩ := ih (s := ⟨_, s.sent ++ data ++ [newline], turns⟩) rfl
    refine ⟨s', ?_, hrest⟩
    rw [List.mapM_cons, Exec.run_bind_ok hrequest, Exec.run_bind_ok hrequests]
    rfl

end Request

/-- A request consumes the line that answers it and no byte more, however the kernel cuts the stream, and
its loop goes on with every turn and never far beyond the limit. -/
theorem request_framed {J : Type} (k : Kernel) (text : JsonText J) (message : J) :
    (k.Delivers → ∀ (s : Socket) (data line rest : Bytes), text.dump message = .ok data → newline ∉ line →
      line.length ≤ maxResponse → s.unread = line ++ newline :: rest →
      ∃ turns, k.request text message s = ((text.parse (line ++ [newline])).mapError .thrown,
        { unread := rest, sent := s.sent ++ data ++ [newline], turns })) ∧
    (k.Delivers → ∀ (response : Bytes) (s : Socket), s.unread ≠ [] →
      ∃ part s', k.receivePart response s = (.ok (response ++ part), s') ∧ part ≠ [] ∧
        s.unread = part ++ s'.unread) ∧
    ∀ s, ∃ consumed, Consumed s (k.request text message s).2 [] consumed := by
  refine ⟨fun hk s data line rest hdump hline hsize hunread => request_line hk hdump hline hsize hunread,
    fun hk response s hne => ?_, request_consumed⟩
  rcases k.receivePart_cases response s with ⟨part, unread, hparts, hpart, _, _, hok⟩ | ⟨e, _, hfails⟩
  · exact ⟨part, _, hok, hpart, hparts⟩
  · exact absurd ⟨hk, hne⟩ hfails

/-- A kernel that shows and accepts as much as it can, and hands out one byte at a time. -/
def dripping : Kernel where
  poll _ := .ready
  send _ size := size
  peek _ unread := min 4096 unread
  recv _ count := min 1 count
  send_le _ _ := Nat.le_refl _
  peek_le _ _ := Nat.le_refl _
  recv_le _ _ := Nat.min_le_right _ _

theorem dripping_delivers : dripping.Delivers where
  poll _ := rfl
  send _ _ h := h
  peek _ unread h := by
    change 0 < min 4096 unread
    omega
  recv _ count h := by
    change 0 < min 1 count
    omega

/-- JSON texts as they are. -/
def plainText : JsonText Bytes := ⟨.ok, .ok⟩

theorem request_framed_dripping :
    (∃ turns, dripping.request plainText [0x31] ⟨[0x32, 0x33, newline, 0x34, newline], [], 0⟩ =
      (.ok [0x32, 0x33, newline], ⟨[0x34, newline], [0x31, newline], turns⟩)) ∧
    ∃ part s', dripping.receivePart [] ⟨[0x32, newline], [], 0⟩ = (.ok part, s') ∧ part ≠ [] := by
  obtain ⟨hline, hturn, _⟩ := request_framed dripping plainText [0x31]
  constructor
  · exact hline dripping_delivers ⟨[0x32, 0x33, newline, 0x34, newline], [], 0⟩ [0x31] [0x32, 0x33] [0x34, newline] rfl
      (by decide) (by decide) rfl
  · obtain ⟨part, s', hok, hne, _⟩ := hturn dripping_delivers [] ⟨[0x32, newline], [], 0⟩ (by decide)
    exact ⟨part, s', hok, hne⟩

end EthercatSimulator.Ipc.ModelClient
