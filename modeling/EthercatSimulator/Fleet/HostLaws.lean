import EthercatSimulator.Base.Family
import EthercatSimulator.Fleet.CycleTimes
import EthercatSimulator.Fleet.Host
import EthercatSimulator.Runtime.Run

/-! The axes of a host do not meet, and a host that is asked properly answers every line. -/

namespace EthercatSimulator.Fleet.Host

open Base Profile Behaviour Adapter Storage EthercatSimulator.Runtime

variable {F ρ : Type} [PyFloat F] (fmus : Device → Artifact F ρ)

/-- The axis a message goes to, in a fleet of `n`. -/
def address (n : Nat) (message : Message) : Option Nat :=
  if message.request = .describe then none
  else message.slaveIndex.bind fun i => if 0 ≤ i ∧ i < n then some i.toNat else none

theorem address_some {n i : Nat} {message : Message} (h : address n message = some i) :
    message.request ≠ .describe ∧ i < n := by
  unfold address at h
  split at h
  · cases h
  · next hdescribe =>
    obtain ⟨j, _, hj⟩ := Option.bind_eq_some_iff.mp h
    split at hj
    · cases hj
      exact ⟨hdescribe, by omega⟩
    · cases hj

/-- The answer to a message that goes to no axis. -/
def unaddressed (message : Message) : Except Exc HostReply :=
  if message.request = .describe then .ok .contracts
  else if isAccess message.request then .ok (.abort 0x06090030 indexRequired.message)
  else .error indexRequired

/-- `dispatch_request` at one axis. -/
def ask (input : Moment F × Message) : PyM (HostAxis F ρ) HostReply :=
  abortAccess input.2.request (HostAxis.dispatch fmus input.1 input.2.request)

/-- The requests to a fleet of `n` axes, as a family of axes answers them. -/
def answer (n : Nat) (input : Moment F × Message) (models : Models F ρ) : Except Exc HostReply × Models F ρ :=
  Family.act (fun input => address n input.2) (ask fmus) (fun input => unaddressed input.2) input models

theorem abortAccess_eq {σ τ : Type} (request : Request) {x : PyM σ HostReply} {y : PyM τ HostReply} {s : σ} {t : τ}
    (h : (x s).1 = (y t).1) : (abortAccess request x s).1 = (abortAccess request y t).1 ∧
      (abortAccess request x s).2 = (x s).2 := by
  unfold abortAccess
  split
  · unfold Exec.handle
    generalize hx : x s = p at h
    generalize y t = q at h
    obtain ⟨r, s'⟩ := p
    obtain ⟨r', t'⟩ := q
    dsimp only at h
    subst h
    cases r with
    | ok reply => exact ⟨rfl, rfl⟩
    | error e =>
      dsimp only
      split
      · exact ⟨rfl, rfl⟩
      · split <;> exact ⟨rfl, rfl⟩
  · exact ⟨h, rfl⟩

/-- A message reaches one axis, which answers it as it would alone, or none. -/
theorem dispatchRequest_eq (m : Moment F) (message : Message) (models : Models F ρ) :
    dispatchRequest fmus m message models = answer fmus models.length (m, message) models := by
  unfold dispatchRequest answer Family.act address unaddressed
  by_cases hdescribe : message.request = .describe
  · have hrun : dispatch fmus m message models = (.ok .contracts, models) := by
      unfold dispatch
      rw [if_pos hdescribe]
    simp only [if_pos hdescribe]
    rw [hdescribe]
    exact hrun
  · simp only [if_neg hdescribe]
    have hrefused (hrun : dispatch fmus m message models = (.error indexRequired, models)) :
        abortAccess message.request (dispatch fmus m message) models =
          (if isAccess message.request then .ok (.abort 0x06090030 indexRequired.message)
            else .error indexRequired, models) := by
      unfold abortAccess
      split
      · unfold Exec.handle
        rw [hrun]
        rfl
      · exact hrun
    cases hindex : message.slaveIndex with
    | none =>
      refine hrefused ?_
      unfold dispatch
      rw [if_neg hdescribe, hindex]
    | some i =>
      rw [Option.bind_some]
      by_cases hi : 0 ≤ i ∧ i < models.length
      · have hget : models[i.toNat]? = some (models.get ⟨i.toNat, by omega⟩) := List.getElem?_eq_getElem (by omega)
        rw [if_pos hi]
        dsimp only
        rw [hget]
        generalize hmodel : models.get ⟨i.toNat, by omega⟩ = model
        have hrun : dispatch fmus m message models = ((model.dispatch fmus m message.request).1,
            models.set i.toNat (model.dispatch fmus m message.request).2) := by
          unfold dispatch
          rw [if_neg hdescribe, hindex]
          dsimp only
          rw [dif_pos hi, hmodel]
        obtain ⟨hreply, hmodels⟩ := abortAccess_eq message.request (x := dispatch fmus m message)
          (y := HostAxis.dispatch fmus m message.request) (s := models) (t := model) (by rw [hrun])
        obtain ⟨_, hstate⟩ := abortAccess_eq message.request (x := HostAxis.dispatch fmus m message.request)
          (y := HostAxis.dispatch fmus m message.request) (s := model) rfl
        refine Prod.ext hreply ?_
        rw [hmodels, hrun]
        change _ = models.set i.toNat (ask fmus (m, message) model).2
        unfold ask
        rw [hstate]
      · rw [if_neg hi]
        refine hrefused ?_
        unfold dispatch
        rw [if_neg hdescribe, hindex]
        dsimp only
        rw [dif_neg hi]

/-- A request to an axis of the fleet. -/
theorem dispatchRequest_axis (m : Moment F) {request : Request} (hreq : request ≠ .describe) {models : Models F ρ}
    {i : Nat} {model : HostAxis F ρ} (hi : models[i]? = some model) :
    dispatchRequest fmus m ⟨some i, request⟩ models =
      ((ask fmus (m, ⟨some i, request⟩) model).1, models.set i (ask fmus (m, ⟨some i, request⟩) model).2) := by
  obtain ⟨hlt, _⟩ := List.getElem?_eq_some_iff.mp hi
  have haddress : address models.length ⟨some (i : Int), request⟩ = some i := by
    unfold address
    rw [if_neg hreq, Option.bind_some, if_pos ⟨Int.natCast_nonneg i, Int.ofNat_lt.mpr hlt⟩]
    rfl
  rw [dispatchRequest_eq]
  unfold answer Family.act
  dsimp only
  rw [haddress]
  dsimp only
  rw [hi]

/-- The answers to requests in the order they come, and the models after them. -/
def requests (inputs : List (Moment F × Message)) (models : Models F ρ) :
    List (Except Exc HostReply) × Models F ρ :=
  answers (fun input => dispatchRequest fmus input.1 input.2) inputs models

theorem requests_eq (inputs : List (Moment F × Message)) (models : Models F ρ) :
    requests fmus inputs models = answers (answer fmus models.length) inputs models := by
  refine answers_congr (P := fun models' => models'.length = models.length) (answer fmus models.length)
    (fun input models' h => ?_) (fun input models' h => ?_) inputs rfl
  · exact (Family.act_length ..).trans h
  · rw [← h]
    exact dispatchRequest_eq fmus input.1 input.2 models'

/-- However the requests to the axes of a fleet are mixed, each axis answers and ends as if it were asked
its own requests alone. -/
theorem axes_isolated (inputs : List (Moment F × Message)) (models : Models F ρ) (i : Nat) (model : HostAxis F ρ)
    (hi : models[i]? = some model) :
    let addressed := fun input : Moment F × Message => address models.length input.2
    let mine := answers (ask fmus) (Family.own addressed i inputs) model
    (requests fmus inputs models).2[i]? = some mine.2 ∧
      Family.ownAnswers addressed i inputs (requests fmus inputs models).1 = mine.1 := by
  intro addressed mine
  rw [requests_eq]
  exact Family.answers_own _ _ _ inputs hi

/-- A virtual servo that holds `initial`. -/
def servoAxis (slaveIndex : Nat) (initial : Bytes) : HostAxis ExtRat Unit where
  device := ⟨"cia402-drive", .fKrCmmt, .linear, "axis-" ++ toString slaveIndex⟩
  axis := Axis.start slaveIndex (Servo.construct .linear : Servo ExtRat) initial false

def steadyArtifact : Device → Artifact ExtRat Unit := fun _ => ⟨steadyRunner, .ok ()⟩

/-- A moment without a store. -/
def storeless : Moment ExtRat := ⟨ExtRat.num 0, 0, fun _ => .ok ()⟩

theorem axes_isolated_two : ∃ initial,
    openModel (fKrCmmt ExtRat) (Servo.construct .linear) = (.ok initial, Servo.construct .linear) ∧
      (requests steadyArtifact [(storeless, ⟨some 1, .idle⟩), (storeless, ⟨some 0, .read 0x6081 0⟩)]
        [servoAxis 0 initial, servoAxis 1 initial]).2[0]? =
      some (answers (ask steadyArtifact) [(storeless, ⟨some 0, .read 0x6081 0⟩)] (servoAxis 0 initial)).2 := by
  obtain ⟨initial, hrun⟩ := openModel_fKr (F := ExtRat) .linear
  refine ⟨initial, hrun, ?_⟩
  exact (axes_isolated steadyArtifact [(storeless, ⟨some 1, .idle⟩), (storeless, ⟨some 0, .read 0x6081 0⟩)]
    [servoAxis 0 initial, servoAxis 1 initial] 0 (servoAxis 0 initial) rfl).1

/-! A host that is asked properly does not end. -/

/-- A request of the protocol: it names an axis of the fleet, where its rejection would not be an answer. -/
def Proper (n : Nat) (message : Message) : Prop :=
  match message.request with
  | .read _ _ | .write _ _ _ | .describe => True
  | .cycle _ | .idle => (address n message).isSome
  | .other _ => False

/-- What an SDO request may raise has an abort code. -/
def Abortable (e : Exc) : Prop := e.isDeviceRejected ∨ e.isKeyError ∨ e.isValueError ∨ e.isOSError

omit [PyFloat F] in
theorem access_raises {σ : Type} {m : Moment F} (saveCommand : Bool) (inner : PyM (Axis F σ) Reply) (a : Axis F σ) :
    (Axis.access m saveCommand inner).Post a fun r _ => ∀ e, r = .error e → Abortable e := by
  apply Exec.Post.handle
  · exact fun _ _ => nofun
  · intro e _
    split
    · next hos =>
      split
      · intro e' he
        cases he
        exact .inr (.inr (.inr hos))
      · exact fun _ => nofun
    · split
      · next hcaller =>
        intro e' he
        cases he
        rcases Bool.or_eq_true_iff.mp hcaller with hcaller | hvalue
        · rcases Bool.or_eq_true_iff.mp hcaller with hrejected | hkey
          · exact .inl hrejected
          · exact .inr (.inl hkey)
        · exact .inr (.inr (.inl hvalue))
      · exact fun _ => nofun

theorem dispatch_raises {σ : Type} {A : DriveAdapter F σ} {m : Moment F} {request : Request}
    (h : isAccess request = true) (a : Axis F σ) :
    (Axis.dispatch A m request).Post a fun r _ => ∀ e, r = .error e → Abortable e := by
  apply Exec.post_modify_bind
  cases request with
  | cycle | idle | describe | other => cases h
  | read index subindex =>
    apply Exec.post_get_bind
    split
    · exact fun _ => nofun
    · split
      · exact fun _ => nofun
      · exact access_raises _ _ _
  | write index subindex data =>
    apply Exec.post_get_bind
    split
    · exact fun _ => nofun
    · exact access_raises _ _ _

theorem abortAccess_ok {σ : Type} {request : Request} {x : PyM σ HostReply} {s : σ} {reply : HostReply}
    (h : (x s).1 = .ok reply) : (abortAccess request x s).1 = .ok reply := by
  unfold abortAccess
  split
  · unfold Exec.handle
    generalize x s = p at h
    obtain ⟨r, s'⟩ := p
    cases h
    rfl
  · exact h

theorem abortAccess_error {σ : Type} {request : Request} (haccess : isAccess request = true) {x : PyM σ HostReply}
    {s : σ} {e : Exc} (h : (x s).1 = .error e) (he : Abortable e) :
    ∃ code message, (abortAccess request x s).1 = .ok (.abort code message) := by
  unfold abortAccess
  rw [if_pos haccess]
  unfold Exec.handle
  generalize x s = p at h
  obtain ⟨r, s'⟩ := p
  cases h
  dsimp only
  by_cases hcaller : (e.isDeviceRejected || e.isKeyError || e.isValueError) = true
  · rw [if_pos hcaller]
    exact ⟨_, _, rfl⟩
  · have hos : e.isOSError = true := by
      unfold Abortable at he
      simp only [Bool.or_eq_true, not_or] at hcaller
      tauto
    rw [if_neg hcaller, if_pos hos]
    exact ⟨_, _, rfl⟩

/-! One axis. -/

theorem ask_state (input : Moment F × Message) (model : HostAxis F ρ) : (ask fmus input model).2 =
    { model with axis := (Axis.dispatch (registry (fmus model.device) model.device.modelType).adapter
      input.1 input.2.request model.axis).2 } :=
  (abortAccess_eq input.2.request (x := HostAxis.dispatch fmus input.1 input.2.request)
    (y := HostAxis.dispatch fmus input.1 input.2.request) (s := model) rfl).2

section Ask

variable {fmus} {input : Moment F × Message} {model : HostAxis F ρ}

theorem ask_ok {reply : Reply} (h : (Axis.dispatch (registry (fmus model.device) model.device.modelType).adapter
    input.1 input.2.request model.axis).1 = .ok reply) : (ask fmus input model).1 = .ok (.axis reply) := by
  refine abortAccess_ok ?_
  change Except.map _ (Axis.dispatch _ input.1 input.2.request model.axis).1 = _
  rw [h]
  rfl

variable (fmus input model) in
theorem ask_error (haccess : isAccess input.2.request = true) {e : Exc}
    (h : (Axis.dispatch (registry (fmus model.device) model.device.modelType).adapter input.1 input.2.request
      model.axis).1 = .error e) : ∃ code message, (ask fmus input model).1 = .ok (.abort code message) := by
  refine abortAccess_error haccess (e := e) ?_ (dispatch_raises haccess model.axis e h)
  change Except.map _ (Axis.dispatch _ input.1 input.2.request model.axis).1 = _
  rw [h]
  rfl

end Ask

/-- The guard of every axis is in order. -/
def InOrder (models : Models F ρ) : Prop := ∀ model ∈ models, model.axis.faultState.Valid

theorem ask_valid (input : Moment F × Message) {model : HostAxis F ρ} (hv : model.axis.faultState.Valid) :
    (ask fmus input model).2.axis.faultState.Valid := by
  rw [ask_state]
  exact Axis.dispatch_valid input.1 input.2.request model.axis hv

theorem ask_answers {input : Moment F × Message} {model : HostAxis F ρ} (hv : model.axis.faultState.Valid)
    (hreq : isAccess input.2.request = true ∨ input.2.request.isProcessData = true) :
    ∃ reply, (ask fmus input model).1 = .ok reply := by
  cases hrun : (Axis.dispatch (registry (fmus model.device) model.device.modelType).adapter
      input.1 input.2.request model.axis).1 with
  | ok reply => exact ⟨_, ask_ok hrun⟩
  | error e =>
    rcases hreq with haccess | hprocess
    · obtain ⟨_, _, hanswer⟩ := ask_error fmus input model haccess hrun
      exact ⟨_, hanswer⟩
    · obtain ⟨_, hreply, _⟩ := (Axis.dispatch_processed (m := input.1)
        (A := (registry (fmus model.device) model.device.modelType).adapter) hprocess model.axis hv).reply
      cases hreply.symm.trans hrun

theorem answer_inOrder (n : Nat) (input : Moment F × Message) (models : Models F ρ) (h : InOrder models) :
    InOrder (answer fmus n input models).2 :=
  Family.act_all _ _ _ (fun input _ => ask_valid fmus input) input h

theorem answer_proper {n : Nat} (input : Moment F × Message) (hproper : Proper n input.2) {models : Models F ρ}
    (hn : models.length = n) (h : InOrder models) : ∃ reply, (answer fmus n input models).1 = .ok reply := by
  have hmissed : address n input.2 = none → ∃ reply, (unaddressed input.2) = .ok reply := by
    intro hnone
    unfold unaddressed
    unfold Proper at hproper
    cases hreq : input.2.request with
    | read | write | describe => exact ⟨_, rfl⟩
    | cycle | idle | other =>
      rw [hreq] at hproper
      first | exact hproper.elim | (rw [hnone] at hproper; cases hproper)
  unfold answer Family.act
  split
  · next hnone => exact hmissed hnone
  · next i hi =>
    split
    · next hget =>
      have hlt : i < models.length := hn ▸ (address_some (n := n) hi).2
      rw [List.getElem?_eq_getElem hlt] at hget
      cases hget
    · next model hmodel =>
      refine ask_answers fmus (h _ (List.mem_of_getElem? hmodel)) ?_
      unfold Proper at hproper
      cases hreq : input.2.request with
      | read | write => exact .inl rfl
      | cycle | idle => exact .inr rfl
      | describe => exact absurd hreq (address_some (n := n) hi).1
      | other =>
        rw [hreq] at hproper
        exact hproper.elim

end EthercatSimulator.Fleet.Host
