import EthercatSimulator.Fleet.HostLaws
import EthercatSimulator.Ipc.Hex

/-! Sessions of the model host: line by line, each answered with one line, until one is not. -/

namespace EthercatSimulator.Fleet.Host

open Base Profile Behaviour Adapter Storage Ipc EthercatSimulator.Runtime

variable {F ρ : Type} [PyFloat F] {fmus : Device → Artifact F ρ} {text : HostText} {moments : Nat → Moment F}

/-- A line that was answered. -/
structure Turn (text : HostText) where
  line : Bytes
  message : Message
  reply : HostReply
  single : newline ∉ line
  size : line.length < maxMessage
  loaded : text.loads (line ++ [newline]) = .ok message

/-- The requests of the turns, from request number `turn` on. -/
def inputsOf (moments : Nat → Moment F) (turn : Nat) : List (Turn text) → List (Moment F × Message)
  | [] => []
  | t :: rest => (moments turn, t.message) :: inputsOf moments (turn + 1) rest

/-- What is read of the turns, and what is written. -/
def heard (turns : List (Turn text)) : Bytes := turns.flatMap fun t => t.line ++ [newline]

def written (turns : List (Turn text)) : Bytes := turns.flatMap fun t => text.dumps t.reply ++ [newline]

theorem heard_cons (t : Turn text) (rest : List (Turn text)) (tail : Bytes) :
    heard (t :: rest) ++ tail = t.line ++ newline :: (heard rest ++ tail) := by
  unfold heard
  rw [List.flatMap_cons]
  simp only [List.append_assoc, List.cons_append, List.nil_append]

theorem written_cons (t : Turn text) (rest : List (Turn text)) :
    written (t :: rest) = (text.dumps t.reply ++ [newline]) ++ written rest := List.flatMap_cons

theorem readLine_line {line : Bytes} (hline : newline ∉ line) (hsize : line.length < maxMessage) (rest : Bytes) :
    readLine (maxMessage + 1) (line ++ newline :: rest) = (line ++ [newline], rest) := by
  have hlength : lineLength (line ++ newline :: rest) = line.length + 1 := by
    unfold lineLength
    rw [if_pos (by simp), List.idxOf_append_of_notMem hline]
    simp
  have hmin : min (line.length + 1) (maxMessage + 1) = (line ++ [newline]).length := by
    rw [List.length_append, List.length_singleton]
    omega
  have hsplit : line ++ newline :: rest = (line ++ [newline]) ++ rest := by simp
  unfold readLine
  rw [hlength, hmin, hsplit, List.take_left, List.drop_left]

/-- What is read is a line, or ends the session. -/
theorem line_of_readLine {stream : Bytes} (hsize : (readLine (maxMessage + 1) stream).1.length ≤ maxMessage)
    (hend : (readLine (maxMessage + 1) stream).1.getLast? = some newline) :
    ∃ line rest, newline ∉ line ∧ line.length < maxMessage ∧ stream = line ++ newline :: rest := by
  have hmin : min (lineLength stream) (maxMessage + 1) ≤ lineLength stream := Nat.min_le_left _ _
  have hinner := notMem_dropLast_take hmin
  have hread : (readLine (maxMessage + 1) stream).1 = stream.take (min (lineLength stream) (maxMessage + 1)) := rfl
  rw [hread] at hsize hend
  obtain ⟨line, hline⟩ : ∃ line, stream.take (min (lineLength stream) (maxMessage + 1)) = line ++ [newline] := by
    refine ⟨_, (List.dropLast_append_getLast? newline hend).symm⟩
  rw [hline, List.dropLast_concat] at hinner
  rw [hline, List.length_append, List.length_singleton] at hsize
  refine ⟨line, stream.drop (min (lineLength stream) (maxMessage + 1)), hinner, by omega, ?_⟩
  rw [← List.singleton_append, ← List.append_assoc, ← hline, List.take_append_drop]

theorem answerLine_turn (fmus : Device → Artifact F ρ) (t : Turn text) (m : Moment F) (models : Models F ρ) :
    answerLine fmus text m (t.line ++ [newline]) models =
      ((dispatchRequest fmus m t.message models).1.map fun reply => text.dumps reply ++ [newline],
        (dispatchRequest fmus m t.message models).2) := by
  have hvalid : (Exec.require ((t.line ++ [newline]).length ≤ maxMessage ∧
      (t.line ++ [newline]).getLast? = some newline) invalidLength : PyM (Models F ρ) Unit) models = (.ok (), models) := by
    have hsize : (t.line ++ [newline]).length ≤ maxMessage := by
      rw [List.length_append, List.length_singleton]
      exact t.size
    rw [Exec.require, if_pos ⟨hsize, List.getLast?_concat⟩]
    rfl
  unfold answerLine
  rw [Exec.run_bind_ok hvalid, t.loaded, Exec.run_ofExcept_bind]
  dsimp only
  rw [Exec.run_bind]
  obtain ⟨reply | e, models'⟩ := dispatchRequest fmus m t.message models <;> rfl

omit [PyFloat F] in
theorem after_after (s : Served F ρ) (output output' : Bytes) :
    (s.after output).after output' = s.after (output' ++ output) := by
  unfold Served.after
  rw [List.append_assoc]

theorem serve_turn {t : Turn text} {turn : Nat} {rest : Bytes} {models models' : Models F ρ}
    (h : dispatchRequest fmus (moments turn) t.message models = (.ok t.reply, models')) :
    serve fmus text moments turn (t.line ++ newline :: rest) models =
      (serve fmus text moments (turn + 1) rest models').after (text.dumps t.reply ++ [newline]) := by
  have hanswer := answerLine_turn fmus t (moments turn) models
  rw [h] at hanswer
  have hread := readLine_line t.single t.size rest
  rw [serve, dif_neg (by simp)]
  split
  · next heq =>
    rw [hread, hanswer] at heq
    cases heq
    rw [hread]
  · next heq =>
    rw [hread, hanswer] at heq
    cases heq

theorem serve_nil (turn : Nat) (models : Models F ρ) : serve fmus text moments turn [] models = ⟨[], none, models⟩ := by
  rw [serve, dif_pos rfl]

theorem requests_cons (input : Moment F × Message) (rest : List (Moment F × Message)) (models : Models F ρ) :
    requests fmus (input :: rest) models =
      ((dispatchRequest fmus input.1 input.2 models).1 ::
        (requests fmus rest (dispatchRequest fmus input.1 input.2 models).2).1,
        (requests fmus rest (dispatchRequest fmus input.1 input.2 models).2).2) := rfl

theorem requests_append (inputs : List (Moment F × Message)) (input : Moment F × Message) (models : Models F ρ) :
    requests fmus (inputs ++ [input]) models =
      ((requests fmus inputs models).1 ++ [(dispatchRequest fmus input.1 input.2 (requests fmus inputs models).2).1],
        (dispatchRequest fmus input.1 input.2 (requests fmus inputs models).2).2) := answers_append _ _ _ _

/-- Lines whose requests are answered are each answered by a line. -/
theorem serve_heard {turns : List (Turn text)} {turn : Nat} {models models' : Models F ρ} (tail : Bytes)
    (h : requests fmus (inputsOf moments turn turns) models = (turns.map fun t => .ok t.reply, models')) :
    serve fmus text moments turn (heard turns ++ tail) models =
      (serve fmus text moments (turn + turns.length) tail models').after (written turns) := by
  induction turns generalizing turn models with
  | nil =>
    cases h
    rfl
  | cons t rest ih =>
    rw [inputsOf, requests_cons, List.map_cons, Prod.mk.injEq, List.cons.injEq] at h
    obtain ⟨⟨hreply, hreplies⟩, hmodels⟩ := h
    rw [heard_cons, serve_turn (Prod.ext hreply rfl), ih (Prod.ext hreplies hmodels), written_cons,
      after_after, List.length_cons, Nat.add_assoc, Nat.add_comm 1]

theorem answerLine_ok {m : Moment F} {stream : Bytes} {models models' : Models F ρ} {response : Bytes}
    (h : answerLine fmus text m (readLine (maxMessage + 1) stream).1 models = (.ok response, models')) :
    ∃ (t : Turn text) (rest : Bytes), stream = t.line ++ newline :: rest ∧
      dispatchRequest fmus m t.message models = (.ok t.reply, models') := by
  obtain ⟨_, models₁, hvalid, h⟩ := Exec.run_bind_eq_ok.mp h
  rcases Exec.require_cases ((readLine (maxMessage + 1) stream).1.length ≤ maxMessage ∧
    (readLine (maxMessage + 1) stream).1.getLast? = some newline) invalidLength models with
    ⟨⟨hsize, hend⟩, hok⟩ | ⟨_, herror⟩
  · cases hok.symm.trans hvalid
    obtain ⟨message, models₂, hload, h⟩ := Exec.run_bind_eq_ok.mp h
    rw [Exec.run_ofExcept, Prod.mk.injEq] at hload
    obtain ⟨hload, rfl⟩ := hload
    obtain ⟨reply, models₃, hreply, h⟩ := Exec.run_bind_eq_ok.mp h
    cases h
    obtain ⟨line, rest, hline, hlength, rfl⟩ := line_of_readLine hsize hend
    rw [readLine_line hline hlength] at hload
    exact ⟨⟨line, message, reply, hline, hlength, hload⟩, rest, rfl, hreply⟩
  · cases herror.symm.trans hvalid

/-- Whatever the client sends, the host has answered the lines before some point of the stream, each with
one line; there it has come to the end, or to a line that raises, and it has looked at nothing after it. -/
theorem serve_failClosed (fmus : Device → Artifact F ρ) (text : HostText) (moments : Nat → Moment F) (stream : Bytes)
    (models : Models F ρ) : ∃ (turns : List (Turn text)) (tail : Bytes) (models' : Models F ρ),
      stream = heard turns ++ tail ∧
      requests fmus (inputsOf moments 0 turns) models = (turns.map fun t => .ok t.reply, models') ∧
      (serve fmus text moments 0 stream models).output = written turns ∧
      ((tail = [] ∧ (serve fmus text moments 0 stream models).failure = none ∧
          (serve fmus text moments 0 stream models).models = models') ∨
        ∃ e, tail ≠ [] ∧ (serve fmus text moments 0 stream models).failure = some e ∧
          answerLine fmus text (moments turns.length) (readLine (maxMessage + 1) tail).1 models' =
            (.error e, (serve fmus text moments 0 stream models).models)) := by
  suffices h : ∀ turn, ∃ (turns : List (Turn text)) (tail : Bytes) (models' : Models F ρ),
      stream = heard turns ++ tail ∧
      requests fmus (inputsOf moments turn turns) models = (turns.map fun t => .ok t.reply, models') ∧
      (tail = [] ∨ ∃ e models'', tail ≠ [] ∧ answerLine fmus text (moments (turn + turns.length))
        (readLine (maxMessage + 1) tail).1 models' = (.error e, models'')) by
    obtain ⟨turns, tail, models', rfl, hrequests, hend⟩ := h 0
    rw [serve_heard tail hrequests]
    refine ⟨turns, tail, models', rfl, hrequests, ?_⟩
    rw [Nat.zero_add] at hend ⊢
    rcases hend with rfl | ⟨e, models'', hne, herror⟩
    · rw [serve_nil]
      exact ⟨List.append_nil _, .inl ⟨rfl, rfl, rfl⟩⟩
    · have hfails : serve fmus text moments turns.length tail models' = ⟨[], some e, models''⟩ := by
        rw [serve, dif_neg hne]
        split
        · next heq => cases herror.symm.trans heq
        · next heq =>
          cases herror.symm.trans heq
          rfl
      rw [hfails]
      exact ⟨List.append_nil _, .inr ⟨e, hne, rfl, herror⟩⟩
  induction hlength : stream.length using Nat.strongRecOn generalizing stream models with
  | ind length ih =>
    intro turn
    by_cases hne : stream = []
    · subst hne
      exact ⟨[], [], models, rfl, rfl, .inl rfl⟩
    · cases hanswer : answerLine fmus text (moments turn) (readLine (maxMessage + 1) stream).1 models with
      | mk r models₁ =>
        cases r with
        | error e => exact ⟨[], stream, models, rfl, rfl, .inr ⟨e, models₁, hne, hanswer⟩⟩
        | ok response =>
          obtain ⟨t, rest, rfl, hreply⟩ := answerLine_ok hanswer
          rw [List.length_append, List.length_cons] at hlength
          obtain ⟨turns, tail, models', rfl, hrequests, hend⟩ := ih rest.length (by omega) rest models₁ rfl (turn + 1)
          refine ⟨t :: turns, tail, models', (heard_cons t turns tail).symm, ?_, ?_⟩
          · rw [inputsOf, requests_cons, hreply, hrequests]
            rfl
          · rw [List.length_cons, Nat.add_comm turns.length, ← Nat.add_assoc]
            exact hend

theorem turns_of_asked (fmus : Device → Artifact F ρ) (moments : Nat → Moment F) {asked : List (Bytes × Message)}
    {models : Models F ρ} (h : InOrder models)
    (hasked : ∀ lm ∈ asked, newline ∉ lm.1 ∧ lm.1.length < maxMessage ∧ text.loads (lm.1 ++ [newline]) = .ok lm.2 ∧
      Proper models.length lm.2) (turn : Nat) : ∃ (turns : List (Turn text)) (models' : Models F ρ),
        (turns.map fun t => (t.line, t.message)) = asked ∧
        requests fmus (inputsOf moments turn turns) models = (turns.map fun t => .ok t.reply, models') := by
  induction asked generalizing models turn with
  | nil => exact ⟨[], models, rfl, rfl⟩
  | cons lm rest ih =>
    obtain ⟨hline, hsize, hload, hproper⟩ := hasked lm List.mem_cons_self
    have heq := dispatchRequest_eq fmus (moments turn) lm.2 models
    obtain ⟨reply, hreply⟩ := answer_proper fmus (moments turn, lm.2) hproper rfl h
    have hlength : (dispatchRequest fmus (moments turn) lm.2 models).2.length = models.length := by
      rw [heq]
      exact Family.act_length ..
    have hvalid : InOrder (dispatchRequest fmus (moments turn) lm.2 models).2 := by
      rw [heq]
      exact answer_inOrder fmus _ _ models h
    obtain ⟨turns, models', hturns, hrequests⟩ := ih hvalid
      (fun lm' hlm' => hlength ▸ hasked lm' (List.mem_cons_of_mem _ hlm')) (turn + 1)
    refine ⟨⟨lm.1, lm.2, reply, hline, hsize, hload⟩ :: turns, models', by rw [List.map_cons, hturns], ?_⟩
    rw [inputsOf, requests_cons, hrequests, heq, hreply]
    rfl

/-- A host that is asked for nothing but the operations of the protocol answers every line, in order, each
with one line, and ends when the client closes the socket. -/
theorem serve_answers (fmus : Device → Artifact F ρ) (text : HostText) (moments : Nat → Moment F)
    {models : Models F ρ} (h : InOrder models) {asked : List (Bytes × Message)}
    (hasked : ∀ lm ∈ asked, newline ∉ lm.1 ∧ lm.1.length < maxMessage ∧ text.loads (lm.1 ++ [newline]) = .ok lm.2 ∧
      Proper models.length lm.2) : ∃ (turns : List (Turn text)) (models' : Models F ρ),
        (turns.map fun t => (t.line, t.message)) = asked ∧
        requests fmus (inputsOf moments 0 turns) models = (turns.map fun t => .ok t.reply, models') ∧
        serve fmus text moments 0 (asked.flatMap fun lm => lm.1 ++ [newline]) models = ⟨written turns, none, models'⟩ := by
  obtain ⟨turns, models', rfl, hrequests⟩ := turns_of_asked fmus moments h hasked 0
  refine ⟨turns, models', rfl, hrequests, ?_⟩
  have hserve := serve_heard [] hrequests
  rw [List.append_nil, serve_nil] at hserve
  rw [List.flatMap_map]
  refine hserve.trans ?_
  unfold Served.after
  rw [List.append_nil]

/-- A request for the profile velocity, and the answer to it. -/
def readLineText : Bytes := utf8 "\x7b\"index\":24705,\"op\":\"read\",\"slave_index\":0,\"subindex\":0\x7d"

def objectLineText : Bytes := utf8 "\x7b\"data\":\"00000000\"\x7d"

/-- The library, as far as these two texts go. -/
def readText : HostText where
  loads raw :=
    if raw = readLineText ++ [newline] then .ok ⟨some 0, .read 0x6081 0⟩ else .error (valueError "Expecting value")
  dumps reply := if reply = .axis (.object "00000000") then objectLineText else []
  single reply := by
    split
    · decide +kernel
    · exact List.not_mem_nil

theorem readText_loads : readText.loads (readLineText ++ [newline]) = .ok ⟨some 0, .read 0x6081 0⟩ := by
  rw [readText]
  dsimp only
  rw [if_pos rfl]

theorem serve_answers_read : ∃ initial,
    openModel (fKrCmmt ExtRat) (Servo.construct .linear) = (.ok initial, Servo.construct .linear) ∧
      ∃ (turns : List (Turn readText)) (models' : Models ExtRat Unit),
        (turns.map fun t => (t.line, t.message)) = [(readLineText, ⟨some 0, .read 0x6081 0⟩)] ∧
        serve steadyArtifact readText (fun _ => storeless) 0 (readLineText ++ [newline]) [servoAxis 0 initial] =
          ⟨written turns, none, models'⟩ := by
  obtain ⟨initial, hrun⟩ := openModel_fKr (F := ExtRat) .linear
  have horder : InOrder [servoAxis 0 initial] := by
    intro model hmodel
    cases List.mem_singleton.mp hmodel
    exact Axis.start_valid ..
  have hasked : ∀ lm ∈ [(readLineText, (⟨some 0, .read 0x6081 0⟩ : Message))], newline ∉ lm.1 ∧
      lm.1.length < maxMessage ∧ readText.loads (lm.1 ++ [newline]) = .ok lm.2 ∧
      Proper [servoAxis 0 initial].length lm.2 := by
    intro lm hlm
    cases List.mem_singleton.mp hlm
    exact ⟨by decide +kernel, by decide +kernel, readText_loads, trivial⟩
  obtain ⟨turns, models', hturns, _, hserve⟩ := serve_answers steadyArtifact readText (fun _ => storeless) horder
    hasked
  refine ⟨initial, hrun, turns, models', hturns, ?_⟩
  rw [← hserve]
  rfl

end EthercatSimulator.Fleet.Host
