import EthercatSimulator.Base.Channel
import EthercatSimulator.Fleet.Protocol
import EthercatSimulator.Slave.HostFailure

/-! The input images of the slave process follow the axes of the model host. -/

namespace EthercatSimulator.Fleet

open Base Profile Diagnostics Behaviour Adapter Storage Ipc Slave EthercatSimulator.Runtime

variable {F σ ρ : Type} [PyFloat F]

/-! What an axis publishes. -/

theorem execute_image {A : DriveAdapter F σ} (h : OdAccess A) {disabling : Bool} {frame output : Bytes} {dt : F}
    {s s' : σ} (hrun : A.execute disabling frame dt s = (.ok output, s')) :
    odToTxpdoPayload (h.od s') = .ok output := by
  obtain ⟨_, _, _, hcycle⟩ := Exec.run_bind_eq_ok.mp hrun
  obtain ⟨_, _, _, hstep⟩ := Exec.run_bind_eq_ok.mp hcycle
  obtain ⟨_, t, _, hinputs⟩ := Exec.run_bind_eq_ok.mp hstep
  rw [h.readInputs] at hinputs
  obtain ⟨houtput, rfl⟩ := Prod.mk.inj hinputs
  exact houtput

/-- After process data that leaves the axis in order, it publishes what its objects encode to. -/
theorem normal_image {A : DriveAdapter F σ} (h : OdAccess A) {m : Moment F} {request : Request}
    (hreq : request.isProcessData = true) {a : Axis F σ} (hv : a.faultState.Valid) :
    let b := (Axis.dispatch A m request a).2
    b.faultState.phase = .normal → odToTxpdoPayload (h.od b.adapter) = .ok b.faultState.responseData := by
  intro b hnormal
  have hmodelled : Axis.Modelled A m { a with calls := [] } request b := Axis.dispatch_modelled hreq hv
  have hvalid : b.faultState.Valid := Axis.dispatch_valid m request a hv
  have hfault : b.faultState.fault = none := hvalid.fault_none (by rw [hnormal]; nofun) (by rw [hnormal]; nofun)
  have hlast : b.faultState.responseData = b.faultState.last := by
    unfold AxisFault.responseData
    rw [hfault]
  have hdetected {g : AxisFault} {code : Code} {detail : String} (hg : b.faultState = g.detect m.time code detail) :
      False := AxisFault.detect_fault g m.time code detail false (hg ▸ hfault)
  rw [hlast]
  cases hmodelled with
  | restart hrestart =>
    have hnone := hvalid.restart_of_fault_none hfault
    rw [hrestart] at hnone
    cases hnone
  | refused _ _ _ _ detected => exact (hdetected detected).elim
  | rejected _ _ _ _ _ _ _ _ _ detected => exact (hdetected detected).elim
  | held _ _ phase abnormal => exact absurd (phase.symm.trans hnormal) abnormal
  | executed _ _ _ _ _ _ output ran acc =>
    rw [acc.last]
    exact execute_image h ran.run
  | unread _ _ _ _ detected => exact (hdetected detected).elim
  | polled output _ _ run acc =>
    rw [acc.last]
    rw [h.readInputs] at run
    obtain ⟨houtput, hadapter⟩ := Prod.mk.inj run
    rw [← hadapter]
    exact houtput

/-- What an axis publishes is as long as an input image: its objects while it is in order, and the fault over
the last valid image while one is latched. -/
structure HostAxis.Publishes (fmus : Device → Artifact F ρ) (model : HostAxis F ρ) (image : Bytes) : Prop where
  length : image.length = txSize
  normal : model.axis.faultState.phase = .normal → odToTxpdoPayload (model.od fmus) = .ok image
  fault : model.axis.faultState.fault ≠ none → ShowsFault model.axis.faultState.last image

section Axes

variable {fmus : Device → Artifact F ρ} {format : Format}

theorem publishes_ask (m : Moment F) (message : Message) (hreq : message.request.isProcessData = true)
    {before : HostAxis F ρ} (hmodel : before.Reachable fmus format) :
    let out := Host.ask fmus (m, message) before
    out.2.Reachable fmus format ∧ ∃ reply, out.1 = .ok (.axis reply) ∧
      reply.data = some (hexText out.2.axis.faultState.responseData) ∧
      out.2.Publishes fmus out.2.axis.faultState.responseData := by
  intro out
  have hstate : out.2 = _ := Host.ask_state fmus (m, message) before
  have hv := (reachable_shown (registryOd _ _) hmodel).1
  have hprocessed := Axis.dispatch_processed (m := m)
    (A := (registry (fmus before.device) before.device.modelType).adapter) hreq before.axis hv
  have hafter := Drive.Reachable.dispatched m message.request hmodel
  obtain ⟨reply, hreply, hdata⟩ := hprocessed.reply
  have himage := normal_image (registryOd (fmus before.device) before.device.modelType).toOdAccess (m := m) hreq hv
  rw [hstate]
  refine ⟨hafter, reply, Host.ask_ok hreply, hdata, ?_, himage, showsFault_responseData⟩
  have hlast := reachable_last (registryOd _ _) hafter
  exact (AxisFault.length_responseData (hlast ▸ by decide)).trans hlast

theorem reachable_dispatchRequest (m : Moment F) (message : Message) {models : Host.Models F ρ}
    (h : ∀ model ∈ models, model.Reachable fmus format) :
    ∀ model ∈ (Host.dispatchRequest fmus m message models).2, model.Reachable fmus format := by
  rw [Host.dispatchRequest_eq]
  refine Family.act_all _ _ _ (P := fun model => HostAxis.Reachable fmus format model) (fun input model hmodel => ?_) _ h
  rw [Host.ask_state fmus input model]
  exact Drive.Reachable.dispatched input.1 input.2.request hmodel

theorem length_dispatchRequest (fmus : Device → Artifact F ρ) (m : Moment F) (message : Message)
    (models : Host.Models F ρ) : (Host.dispatchRequest fmus m message models).2.length = models.length := by
  rw [Host.dispatchRequest_eq]
  exact Family.act_length ..

end Axes

/-! The main loop and the host. -/

/-- A request of the main loop that the host has answered, and the axis as it left it. -/
structure Turnaround (F ρ : Type) [PyFloat F] where
  reply : HostReply
  after : HostAxis F ρ

def Turnaround.image (t : Turnaround F ρ) : Bytes := t.after.axis.faultState.responseData

/-- The slave process with the model host behind its client: `turnarounds` are the answers to the first of
the requests that the loop has submitted, and `lost` tells whether the client has failed. -/
structure Plant (F ρ : Type) [PyFloat F] where
  process : Process
  models : Host.Models F ρ
  turnarounds : List (Turnaround F ρ)
  lost : Bool

namespace Plant

def start (slaves : List SimulatedSlave) (models : Host.Models F ρ) : Plant F ρ := ⟨.start true slaves, models, [], false⟩

def channel (s : Plant F ρ) : Channel Nat Json (Turnaround F ρ) := ⟨s.process.submitted, s.turnarounds⟩

/-- What the future of the last request of a slave holds. -/
inductive Sees (p : Presentation) (s : Plant F ρ) (i : Nat) : Future → Prop
  | unready : Sees p s i .unready
  | value (t : Turnaround F ρ) (settled : s.channel.settled i = some t) : Sees p s i (.value (p.hostReply t.reply))
  | exception (what : String) (lost : s.lost = true) : Sees p s i (.exception what)

section Runs

variable (fmus : Device → Artifact F ρ) (p : Presentation)

/-- The loop takes a step, the host answers the next request of the loop or some other request of the
protocol, or the client fails. -/
inductive Step (s : Plant F ρ) : Plant F ρ → Prop
  | loop (e : Slave.Surroundings) (failure : e.failure ≠ "" → s.lost = true)
    (future : ∀ second i, s.process.place = .refresh second i → s.Sees p i e.glimpse.future) :
    Step s { s with process := s.process.advance e }
  | answer (m : Moment F) (i : Nat) (json : Json) (message : Message) (reply : HostReply) (models : Host.Models F ρ)
    (after : HostAxis F ρ) (next : s.channel.next = some (i, json)) (read : messageOf json = some message)
    (run : Host.dispatchRequest fmus m message s.models = (.ok reply, models)) (answered : models[i]? = some after) :
    Step s { s with models, turnarounds := s.turnarounds ++ [⟨reply, after⟩] }
  | access (m : Moment F) (message : Message) (op : isAccess message.request = true ∨ message.request = .describe) :
    Step s { s with models := (Host.dispatchRequest fmus m message s.models).2 }
  | lose : Step s { s with lost := true }

/-- Every interleaving of the loop and the host. -/
def Run (slaves : List SimulatedSlave) (models : Host.Models F ρ) (states : Nat → Plant F ρ) : Prop :=
  states 0 = start slaves models ∧ ∀ n, states (n + 1) = states n ∨ Step fmus p (states n) (states (n + 1))

end Runs

/-- How many answers a slave has consumed. -/
def shown (s : Plant F ρ) (i : Nat) (slave : SimulatedSlave) : Nat := s.channel.askedBy i - slave.pending.toNat

/-- As long as the host has not failed, a slave shows the answer to its last request, or while that is pending
to the one before. -/
structure Shows (s : Plant F ρ) (i : Nat) (initial : Bytes) (hostFailed : Bool) (slave : SimulatedSlave) : Prop where
  txSize : slave.txSize = Profile.txSize
  asked : slave.pending = true → 0 < s.channel.askedBy i
  image : hostFailed = false →
    (initial :: (s.channel.answersTo i).map Turnaround.image)[s.shown i slave]? = some (slave.input.take Profile.txSize)

/-- What holds in every run. -/
structure Follows (fmus : Device → Artifact F ρ) (format : Format) (initial : List SimulatedSlave) (s : Plant F ρ) :
    Prop where
  fleet : s.process.fleet = true
  causal : s.channel.Causal
  reachable : ∀ model ∈ s.models, model.Reachable fmus format
  models : s.models.length = initial.length
  slaves : s.process.slaves.length = initial.length
  spoken : ∀ a ∈ s.process.submitted, a.1 < initial.length ∧
    ∃ request, request.isProcessData = true ∧ messageOf a.2 = some ⟨some a.1, request⟩
  answered : ∀ t ∈ s.turnarounds, t.after.Reachable fmus format ∧ t.after.Publishes fmus t.image ∧
    ∃ reply, t.reply = .axis reply ∧ reply.data = some (hexText t.image)
  shows : ∀ (i : Nat) (slave before : SimulatedSlave), s.process.slaves[i]? = some slave → initial[i]? = some before →
    s.Shows i (before.input.take Profile.txSize) s.process.hostFailed slave
  failed : s.process.hostFailed = true → s.lost = true

section Laws

variable {fmus : Device → Artifact F ρ} {format : Format} {p : Presentation} {initial : List SimulatedSlave}
  {s : Plant F ρ}

theorem Follows.start {models : Host.Models F ρ} (hmodels : ∀ model ∈ models, model.Reachable fmus format)
    (hlength : models.length = initial.length)
    (hslaves : ∀ slave ∈ initial, slave.txSize = Profile.txSize ∧ slave.pending = false) :
    (start initial models).Follows fmus format initial where
  fleet := rfl
  causal := Nat.le_refl 0
  reachable := hmodels
  models := hlength
  slaves := rfl
  spoken _ h := absurd h List.not_mem_nil
  answered _ h := absurd h List.not_mem_nil
  shows i slave before hslave hbefore := by
    cases hslave.symm.trans hbefore
    obtain ⟨hsize, hpending⟩ := hslaves slave (List.mem_of_getElem? hslave)
    refine ⟨hsize, fun h => ?_, fun _ => ?_⟩
    · rw [hpending] at h
      cases h
    · unfold shown
      rw [hpending]
      rfl
  failed h := by cases h

/-! The answer that a slave consumes. -/

theorem validated_reply {t : Turnaround F ρ} (h : ∃ reply, t.reply = .axis reply ∧ reply.data = some (hexText t.image))
    (hlength : t.image.length = Profile.txSize) : validated (p.hostReply t.reply) Profile.txSize = .ok t.image := by
  obtain ⟨reply, hreply, hdata⟩ := h
  have hdecoded : decode (hexText t.image) Profile.txSize = .ok t.image := decodeHex_eq_ok.mpr ⟨rfl, hlength⟩
  rw [hreply]
  cases reply with
  | output data cycles =>
    cases hdata
    exact hdecoded
  | guard response cycles =>
    have hresponse : response.data = hexText t.image := Option.some.inj hdata
    refine Eq.trans ?_ hdecoded
    rw [← hresponse]
    rfl
  | object data =>
    cases hdata
    exact hdecoded
  | done | sdoAbort | contract => cases hdata

section Refresh

variable {i : Nat} {image : Bytes} {slave : SimulatedSlave} (h : s.Shows i image s.process.hostFailed slave)
  (hanswered : ∀ t ∈ s.turnarounds, t.after.Publishes fmus t.image ∧
    ∃ reply, t.reply = .axis reply ∧ reply.data = some (hexText t.image))

include h hanswered

theorem Shows.consume {future : Future} (hsees : s.Sees p i future) :
    let out := slave.consume s.process.hostFailed future
    s.Shows i image out.1 out.2 ∧ (out.1 = true → s.process.hostFailed = true ∨ s.lost = true) := by
  have hsettled {hostFailed : Bool} {slave' : SimulatedSlave} (hsize : slave'.txSize = slave.txSize)
      (hpending : slave'.pending = false)
      (himage : hostFailed = false → ∃ t, s.channel.settled i = some t ∧ slave'.input.take Profile.txSize = t.image) :
      s.Shows i image hostFailed slave' := by
    refine ⟨hsize.trans h.txSize, fun hp => ?_, fun hhealthy => ?_⟩
    · rw [hpending] at hp
      cases hp
    · obtain ⟨t, hsettled, htake⟩ := himage hhealthy
      unfold shown
      rw [hpending, htake]
      exact Channel.getElem?_settled hsettled Turnaround.image image
  unfold SimulatedSlave.consume
  split
  · cases hsees with
    | unready => exact ⟨h, .inl⟩
    | exception what lost => exact ⟨hsettled rfl rfl nofun, fun _ => .inr lost⟩
    | value t settled =>
      dsimp only
      split
      · next hfailed =>
        exact ⟨hsettled rfl rfl (by rw [hfailed]; nofun), .inl⟩
      · obtain ⟨hpublishes, hreply⟩ := hanswered t (Channel.settled_mem settled)
        have hvalid : validated (p.hostReply t.reply) slave.txSize = .ok t.image := by
          rw [h.txSize]
          exact validated_reply hreply hpublishes.length
        rw [hvalid]
        refine ⟨hsettled rfl rfl fun _ => ⟨t, settled, ?_⟩, .inl⟩
        exact List.take_left' hpublishes.length
  · exact ⟨h, .inl⟩

theorem Shows.refresh {glimpse : Glimpse} (hsees : s.Sees p i glimpse.future) :
    let out := slave.refresh s.process.hostFailed glimpse
    s.Shows i image out.1 out.2 ∧ (out.1 = true → s.process.hostFailed = true ∨ s.lost = true) := by
  obtain ⟨hconsumed, hfailed⟩ := h.consume hanswered hsees
  refine ⟨?_, hfailed⟩
  unfold SimulatedSlave.refresh
  dsimp only
  cases hout : (slave.consume s.process.hostFailed glimpse.future).1 with
  | false =>
    rw [hout] at hconsumed
    split <;> exact ⟨hconsumed.txSize, hconsumed.asked, hconsumed.image⟩
  | true => split <;> exact ⟨hconsumed.txSize, hconsumed.asked, nofun⟩

end Refresh

/-! The steps. -/

/-- The loop goes on without a request or an answer. -/
theorem Follows.turn (h : s.Follows fmus format initial) {q : Process} (fleet : q.fleet = s.process.fleet)
    (submitted : q.submitted = s.process.submitted) (slaves : q.slaves = s.process.slaves)
    (failed : q.hostFailed = false → s.process.hostFailed = false)
    (lost : q.hostFailed = true → s.process.hostFailed = true ∨ s.lost = true) :
    Follows fmus format initial { s with process := q } := by
  have hchannel : channel { s with process := q } = s.channel := by
    unfold channel
    rw [submitted]
  have hshown (i : Nat) (slave : SimulatedSlave) : shown { s with process := q } i slave = s.shown i slave := by
    unfold shown
    rw [hchannel]
  refine ⟨fleet.trans h.fleet, hchannel ▸ h.causal, h.reachable, h.models, ?_, ?_, h.answered, ?_, ?_⟩
  · exact (congrArg List.length slaves).trans h.slaves
  · exact fun a ha => h.spoken a (submitted ▸ ha)
  · intro i slave before hslave hbefore
    have hshows := h.shows i slave before (slaves ▸ hslave) hbefore
    refine ⟨hshows.txSize, hchannel ▸ hshows.asked, fun hhealthy => ?_⟩
    rw [hchannel, hshown]
    exact hshows.image (failed hhealthy)
  · exact fun hfailed => (lost hfailed).elim h.failed id

/-- A slave is refreshed. -/
theorem Follows.refresh (h : s.Follows fmus format initial) {i : Nat} {slave : SimulatedSlave}
    (hslave : s.process.slaves[i]? = some slave) {glimpse : Glimpse} (hsees : s.Sees p i glimpse.future)
    {place : Place} : Follows fmus format initial { s with
      process := { s.process.setSlave i (slave.refresh s.process.hostFailed glimpse).2 with
        hostFailed := (slave.refresh s.process.hostFailed glimpse).1, place } } := by
  obtain ⟨hlt, _⟩ := List.getElem?_eq_some_iff.mp hslave
  obtain ⟨before, hbefore⟩ : ∃ before, initial[i]? = some before :=
    ⟨_, List.getElem?_eq_getElem (h.slaves ▸ hlt)⟩
  have hanswered (t : Turnaround F ρ) (ht : t ∈ s.turnarounds) := (h.answered t ht).2
  obtain ⟨hshown, hfailed⟩ := (h.shows i slave before hslave hbefore).refresh hanswered hsees
  have hstays : s.process.hostFailed = true → (slave.refresh s.process.hostFailed glimpse).1 = true := fun hold => by
    rw [hold]
    exact slave.refresh_failed glimpse
  refine ⟨h.fleet, h.causal, h.reachable, h.models, ?_, h.spoken, h.answered, ?_, ?_⟩
  · exact List.length_set.trans h.slaves
  · intro j slave' before' hslave' hbefore'
    change (s.process.slaves.set i _)[j]? = some slave' at hslave'
    rw [List.getElem?_set] at hslave'
    split_ifs at hslave' with hij
    · subst hij
      cases hslave'
      cases hbefore.symm.trans hbefore'
      exact ⟨hshown.txSize, hshown.asked, hshown.image⟩
    · have hother := h.shows j slave' before' hslave' hbefore'
      refine ⟨hother.txSize, hother.asked, fun hhealthy => hother.image ?_⟩
      exact Bool.eq_false_iff.mpr fun hold => Bool.false_ne_true (hhealthy.symm.trans (hstays hold))
  · exact fun hnow => (hfailed hnow).elim h.failed id

/-- A slave makes a request. -/
theorem Follows.submit (h : s.Follows fmus format initial) {i : Nat} {slave : SimulatedSlave}
    (hslave : s.process.slaves[i]? = some slave) (hidle : slave.pending = false) {members : List (String × Json)}
    {request : Request} (hreq : request.isProcessData = true)
    (hread : messageOf (s.process.message i members) = some ⟨some i, request⟩) {place : Place} :
    Follows fmus format initial { s with
      process := { (s.process.submit i members).setSlave i { slave with pending := true } with place } } := by
  obtain ⟨hlt, _⟩ := List.getElem?_eq_some_iff.mp hslave
  have hi : i < initial.length := h.slaves ▸ hlt
  set s' : Plant F ρ := { s with
    process := { (s.process.submit i members).setSlave i { slave with pending := true } with place } }
  have hchannel : s'.channel = s.channel.ask i (s.process.message i members) := rfl
  refine ⟨h.fleet, ?_, h.reachable, h.models, ?_, ?_, h.answered, ?_, h.failed⟩
  · rw [hchannel]
    exact h.causal.ask _ _
  · exact List.length_set.trans h.slaves
  · intro a ha
    rcases List.mem_append.mp ha with ha | ha
    · exact h.spoken a ha
    · cases List.mem_singleton.mp ha
      exact ⟨hi, request, hreq, hread⟩
  · intro j slave' before' hslave' hbefore'
    change (s.process.slaves.set i _)[j]? = some slave' at hslave'
    rw [List.getElem?_set] at hslave'
    split_ifs at hslave' with hij
    · subst hij
      cases hslave'
      have hshown := h.shows i slave before' hslave hbefore'
      refine ⟨hshown.txSize, fun _ => ?_, fun hhealthy => ?_⟩
      · rw [hchannel, Channel.askedBy_ask, if_pos rfl]
        exact Nat.succ_pos _
      · have himage := hshown.image hhealthy
        unfold shown at himage ⊢
        rw [hidle] at himage
        rw [hchannel, Channel.answersTo_ask h.causal, Channel.askedBy_ask, if_pos rfl]
        exact himage
    · have hother := h.shows j slave' before' hslave' hbefore'
      refine ⟨hother.txSize, fun hp => ?_, fun hhealthy => ?_⟩
      · rw [hchannel, Channel.askedBy_ask]
        exact Nat.lt_add_right _ (hother.asked hp)
      · unfold shown
        rw [hchannel, Channel.answersTo_ask h.causal, Channel.askedBy_ask, if_neg hij]
        exact hother.image hhealthy

theorem messageOf_cycle (q : Process) (i : Nat) (data : String) (hfleet : q.fleet = true) :
    messageOf (q.message i [("op", .string "cycle"), ("data", .string data)]) = some ⟨some i, .cycle (some data)⟩ := by
  unfold Process.message
  rw [hfleet]
  rfl

theorem messageOf_idle (q : Process) (i : Nat) (hfleet : q.fleet = true) :
    messageOf (q.message i [("op", .string "idle")]) = some ⟨some i, .idle⟩ := by
  unfold Process.message
  rw [hfleet]
  rfl

theorem Follows.request (h : s.Follows fmus format initial) {i : Nat} {slave : SimulatedSlave}
    (hslave : s.process.slaves[i]? = some slave) (r : Routine) {place : Place} : Follows fmus format initial { s with
      process := { s.process.request i slave r with place } } := by
  have hidle {op : Prop} [Decidable op] {reached : Bool}
      (hcond : (!s.process.hostFailed && !slave.pending && decide op && reached) = true) : slave.pending = false := by
    simp only [Bool.and_eq_true, Bool.not_eq_true'] at hcond
    exact hcond.1.1.2
  unfold Process.request
  split_ifs with hcycle hrest
  · exact h.submit hslave (hidle hcycle) rfl (messageOf_cycle _ i _ h.fleet)
  · rw [← Bool.and_true (_ && _ && _)] at hrest
    exact h.submit hslave (hidle hrest) rfl (messageOf_idle _ i h.fleet)
  · exact h.turn rfl rfl rfl id .inl

theorem Follows.loop (h : s.Follows fmus format initial) (e : Slave.Surroundings) (hfailure : e.failure ≠ "" → s.lost = true)
    (hsees : ∀ second i, s.process.place = .refresh second i → s.Sees p i e.glimpse.future) :
    Follows fmus format initial { s with process := s.process.advance e } := by
  unfold Process.advance
  cases hplace : s.process.place with
  | pump second =>
    refine h.turn rfl rfl rfl (fun hhealthy => (Bool.or_eq_false_iff.mp hhealthy).1) fun hfailed => ?_
    rcases Bool.or_eq_true_iff.mp hfailed with hold | hnew
    · exact .inl hold
    · exact .inr (hfailure (of_decide_eq_true hnew))
  | refresh second i =>
    dsimp only
    cases hslave : s.process.slaves[i]? with
    | some slave => exact h.refresh hslave (hsees second i hplace)
    | none => exact h.turn rfl rfl rfl id .inl
  | read => exact h.turn rfl rfl rfl id .inl
  | route =>
    dsimp only
    cases e.frame with
    | dropped | routed => exact h.turn rfl rfl rfl id .inl
  | routine i =>
    dsimp only
    cases hslave : s.process.slaves[i]? with
    | some slave =>
      dsimp only
      split_ifs
      · exact h.turn rfl rfl rfl id .inl
      · exact h.request hslave e.routine
    | none => exact h.turn rfl rfl rfl id .inl
  | ended => exact h

/-- The host answers the next request of the loop. -/
theorem Follows.answer (h : s.Follows fmus format initial) {m : Moment F} {i : Nat} {json : Json} {message : Message}
    {reply : HostReply} {models : Host.Models F ρ} {after : HostAxis F ρ} (hnext : s.channel.next = some (i, json))
    (hread : messageOf json = some message)
    (hrun : Host.dispatchRequest fmus m message s.models = (.ok reply, models)) (hafter : models[i]? = some after) :
    Follows fmus format initial { s with models, turnarounds := s.turnarounds ++ [⟨reply, after⟩] } := by
  obtain ⟨hi, request, hreq, hspoken⟩ := h.spoken (i, json) (List.mem_of_getElem? hnext)
  cases hread.symm.trans hspoken
  dsimp only at hi hread hrun
  have hlt : i < s.models.length := h.models ▸ hi
  obtain ⟨model, hmodel⟩ : ∃ model, s.models[i]? = some model := ⟨_, List.getElem?_eq_getElem hlt⟩
  obtain ⟨hreachable, reply', hreply, hdata, hpublishes⟩ :=
    publishes_ask m ⟨some i, request⟩ hreq (h.reachable _ (List.mem_of_getElem? hmodel))
  rw [Host.dispatchRequest_axis fmus m (by rintro rfl; cases hreq) hmodel, hreply] at hrun
  obtain ⟨hreply', rfl⟩ := Prod.mk.inj hrun
  cases hreply'
  rw [List.getElem?_set_self hlt] at hafter
  cases hafter
  set t : Turnaround F ρ := ⟨.axis reply', (Host.ask fmus (m, ⟨some i, request⟩) model).2⟩
  have hchannel : channel { s with models := s.models.set i t.after, turnarounds := s.turnarounds ++ [t] } =
      s.channel.answer t := rfl
  refine ⟨h.fleet, ?_, ?_, List.length_set.trans h.models, h.slaves, h.spoken, ?_, ?_, h.failed⟩
  · rw [hchannel]
    exact Channel.Causal.answer hnext t
  · intro model' hmem
    rcases List.mem_or_eq_of_mem_set hmem with hmem | rfl
    · exact h.reachable model' hmem
    · exact hreachable
  · intro t' ht'
    rcases List.mem_append.mp ht' with ht' | ht'
    · exact h.answered t' ht'
    · cases List.mem_singleton.mp ht'
      exact ⟨hreachable, hpublishes, reply', rfl, hdata⟩
  · intro j slave before hslave hbefore
    have hshown := h.shows j slave before hslave hbefore
    refine ⟨hshown.txSize, hshown.asked, fun hhealthy => ?_⟩
    have himage := hshown.image hhealthy
    rw [hchannel, Channel.answersTo_answer hnext, List.map_append, ← List.cons_append]
    exact (List.getElem?_append_left (List.getElem?_eq_some_iff.mp himage).1).trans himage

theorem Follows.step (h : s.Follows fmus format initial) {s' : Plant F ρ} (hstep : s.Step fmus p s') :
    s'.Follows fmus format initial := by
  cases hstep with
  | loop e failure future => exact h.loop e failure future
  | answer m i json message reply models after next read run answered => exact h.answer next read run answered
  | access m message op =>
    refine ⟨h.fleet, h.causal, reachable_dispatchRequest m message h.reachable, ?_, h.slaves, h.spoken, h.answered,
      fun i slave before hslave hbefore => ?_, h.failed⟩
    · exact (length_dispatchRequest fmus m message s.models).trans h.models
    · have hshown := h.shows i slave before hslave hbefore
      exact ⟨hshown.txSize, hshown.asked, hshown.image⟩
  | lose =>
    refine ⟨h.fleet, h.causal, h.reachable, h.models, h.slaves, h.spoken, h.answered,
      fun i slave before hslave hbefore => ?_, fun _ => rfl⟩
    have hshown := h.shows i slave before hslave hbefore
    exact ⟨hshown.txSize, hshown.asked, hshown.image⟩

theorem Run.follows {models : Host.Models F ρ} {states : Nat → Plant F ρ}
    (hrun : Run fmus p initial models states) (hmodels : ∀ model ∈ models, model.Reachable fmus format)
    (hlength : models.length = initial.length)
    (hslaves : ∀ slave ∈ initial, slave.txSize = Profile.txSize ∧ slave.pending = false) (n : Nat) :
    (states n).Follows fmus format initial := by
  induction n with
  | zero =>
    rw [hrun.1]
    exact .start hmodels hlength hslaves
  | succ n ih =>
    rcases hrun.2 n with heq | hstep
    · rw [heq]
      exact ih
    · exact ih.step hstep

/-! No slave goes back to an earlier answer. -/

theorem pending_of_refresh {slave : SimulatedSlave} {hostFailed : Bool} {glimpse : Glimpse}
    (h : (slave.refresh hostFailed glimpse).2.pending = true) : slave.pending = true := by
  have hrefreshed : (slave.refresh hostFailed glimpse).2.pending = (slave.consume hostFailed glimpse.future).2.pending := by
    unfold SimulatedSlave.refresh
    dsimp only
    split <;> split <;> rfl
  by_contra hidle
  have hconsumed : (slave.consume hostFailed glimpse.future).2 = slave := by
    unfold SimulatedSlave.consume
    rw [if_neg hidle]
  rw [hrefreshed, hconsumed] at h
  exact hidle h

theorem shown_loop (s : Plant F ρ) (e : Slave.Surroundings) {i : Nat} {slave : SimulatedSlave}
    (hslave : s.process.slaves[i]? = some slave) : ∃ slave', (s.process.advance e).slaves[i]? = some slave' ∧
      s.shown i slave ≤ shown { s with process := s.process.advance e } i slave' := by
  have hset {slave₁ slave₂ : SimulatedSlave} {j : Nat} (hj : s.process.slaves[j]? = some slave₁) {asked : Nat}
      (hasked : s.channel.askedBy i ≤ asked)
      (hown : j = i → s.shown i slave₁ ≤ asked - slave₂.pending.toNat) :
      ∃ slave', (s.process.slaves.set j slave₂)[i]? = some slave' ∧ s.shown i slave ≤ asked - slave'.pending.toNat := by
    rw [List.getElem?_set]
    split_ifs with hij hlt
    · subst hij
      cases hslave.symm.trans hj
      exact ⟨slave₂, rfl, hown rfl⟩
    · subst hij
      exact absurd (List.getElem?_eq_some_iff.mp hslave).1 hlt
    · exact ⟨slave, hslave, Nat.sub_le_sub_right hasked _⟩
  have hsame : ∃ slave', s.process.slaves[i]? = some slave' ∧ s.shown i slave ≤ s.shown i slave' :=
    ⟨slave, hslave, Nat.le_refl _⟩
  unfold Process.advance
  cases hplace : s.process.place with
  | pump | read | ended => exact hsame
  | route => cases e.frame <;> exact hsame
  | refresh second j =>
    dsimp only
    cases hj : s.process.slaves[j]? with
    | none => exact hsame
    | some slave₁ =>
      refine hset hj (Nat.le_refl _) fun _ => Nat.sub_le_sub_left ?_ _
      exact Bool.toNat_le_toNat pending_of_refresh
  | routine j =>
    dsimp only
    cases hj : s.process.slaves[j]? with
    | none => exact hsame
    | some slave₁ =>
      dsimp only
      split
      · exact hsame
      · have hsubmit (members : List (String × Json)) (hidle : slave₁.pending = false) :
            ∃ slave', (s.process.slaves.set j { slave₁ with pending := true })[i]? = some slave' ∧
              s.shown i slave ≤ (s.channel.ask j (s.process.message j members)).askedBy i - slave'.pending.toNat := by
          rw [Channel.askedBy_ask]
          refine hset hj (Nat.le_add_right _ _) ?_
          rintro rfl
          unfold shown
          rw [hidle, if_pos rfl]
          exact Nat.le_refl _
        unfold Process.request
        split_ifs with hcycle hrest
        · exact hsubmit _ (by simp only [Bool.and_eq_true, Bool.not_eq_true'] at hcycle; exact hcycle.1.1.2)
        · exact hsubmit _ (by simp only [Bool.and_eq_true, Bool.not_eq_true'] at hrest; exact hrest.1.2)
        · exact hsame

theorem shown_step {s' : Plant F ρ} (hstep : s.Step fmus p s') {i : Nat} {slave : SimulatedSlave}
    (hslave : s.process.slaves[i]? = some slave) :
    ∃ slave', s'.process.slaves[i]? = some slave' ∧ s.shown i slave ≤ s'.shown i slave' := by
  cases hstep with
  | loop e => exact shown_loop s e hslave
  | answer | access | lose => exact ⟨slave, hslave, Nat.le_refl _⟩

theorem Run.shown_le {models : Host.Models F ρ} {states : Nat → Plant F ρ} (hrun : Run fmus p initial models states)
    {n m : Nat} (hnm : n ≤ m) {i : Nat} {slave : SimulatedSlave} (hslave : (states n).process.slaves[i]? = some slave) :
    ∃ slave', (states m).process.slaves[i]? = some slave' ∧ (states n).shown i slave ≤ (states m).shown i slave' := by
  induction m, hnm using Nat.le_induction with
  | base => exact ⟨slave, hslave, Nat.le_refl _⟩
  | succ m _ ih =>
    obtain ⟨slave', hslave', hle⟩ := ih
    rcases hrun.2 m with heq | hstep
    · rw [heq]
      exact ⟨slave', hslave', hle⟩
    · obtain ⟨slave'', hslave'', hle'⟩ := shown_step hstep hslave'
      exact ⟨slave'', hslave'', hle.trans hle'⟩

end Laws

def oneSlave : SimulatedSlave where
  input := List.replicate txSize 0
  esc := List.replicate txSize 0
  pending := false
  txSize := Profile.txSize
  rxSize := Profile.rxSize

/-- The loop, up to the pump after the first request. -/
def polling (n : Nat) : Process := runOf Process.advance (.start true [oneSlave]) (fun _ => Process.waiting) n

/-- The answer of the first axis. -/
def polled (models : Host.Models ExtRat Unit) : Except Exc HostReply × Host.Models ExtRat Unit :=
  Host.dispatchRequest Host.steadyArtifact Host.storeless ⟨some 0, .idle⟩ models

def undescribed : Presentation := ⟨fun _ => "", .null, .null⟩

def seeing (p : Presentation) (t : Turnaround ExtRat Unit) : Slave.Surroundings :=
  { Process.waiting with glimpse := ⟨.value (p.hostReply t.reply), .preOp⟩ }

def polledRun (p : Presentation) (models : Host.Models ExtRat Unit) (t : Turnaround ExtRat Unit) (n : Nat) :
    Plant ExtRat Unit :=
  if n ≤ 11 then ⟨polling n, models, [], false⟩
  else if n = 12 then ⟨polling 11, (polled models).2, [t], false⟩
  else ⟨(polling 11).advance (seeing p t), (polled models).2, [t], false⟩

theorem polledRun_run (p : Presentation) {models : Host.Models ExtRat Unit} {t : Turnaround ExtRat Unit}
    (hreply : (polled models).1 = .ok t.reply) (hafter : (polled models).2[0]? = some t.after) :
    Run Host.steadyArtifact p [oneSlave] models (polledRun p models t) := by
  refine ⟨rfl, fun n => ?_⟩
  rcases lt_trichotomy n 11 with hn | rfl | hn
  · refine .inr ?_
    unfold polledRun
    rw [if_pos (by omega), if_pos (by omega)]
    exact .loop Process.waiting (absurd rfl) fun _ _ _ => .unready
  · refine .inr (.answer Host.storeless 0 _ ⟨some 0, .idle⟩ t.reply (polled models).2 t.after rfl rfl ?_ hafter)
    exact Prod.ext hreply rfl
  · rcases Nat.lt_or_eq_of_le hn with hn | rfl
    · refine .inl ?_
      unfold polledRun
      rw [if_neg (by omega), if_neg (by omega), if_neg (by omega), if_neg (by omega)]
    · refine .inr (.loop (seeing p t) (absurd rfl) fun second i hplace => ?_)
      have hi : i = 0 := by
        cases hplace
        rfl
      subst hi
      exact .value t rfl

end Plant

end EthercatSimulator.Fleet
