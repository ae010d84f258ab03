import EthercatSimulator.Fleet.CycleTimes
import EthercatSimulator.Fleet.WireForms

/-! SDO requests to an axis with nothing latched: none faults it, and a write is exact or a no-op. -/

namespace EthercatSimulator.Fleet

open Base Profile Diagnostics Behaviour Adapter Storage EthercatSimulator.Runtime ExtRat

/-- The object a save reports itself in, with the value it takes. -/
def savedValue (key : Key) : Option Int := Axis.saveOutcome.lookup key

/-- What a write of `payload` to `key` leaves in the other objects: a save the store has taken reports
itself in some. -/
def besideWrite {F : Type} (hasStore : Bool) (key : Key) (payload : Bytes) (od : Od F) (key' : Key) : Value F :=
  if hasStore ∧ key = Key.parameterSaveCommand ∧ payload = [0x01] then (savedValue key').elim (od key') .int
  else od key'

/-- A request with the outcome `r` wrote exactly `data` to the object, or changed no value. -/
inductive ExactWrite {F σ : Type} [PyFloat F] (A : DriveAdapter F σ) (od : σ → Od F) (a : Axis F σ)
    (index subindex : Nat) (data : Option String) : Except Exc Reply → Axis F σ → Prop
  | refused (e : Exc) (b : Axis F σ) (faultState : b.faultState = a.faultState)
    (unchanged : od b.adapter = od a.adapter) : ExactWrite A od a index subindex data (.error e) b
  | written (text : String) (payload : Bytes) (b : Axis F σ) (data_eq : data = some text)
    (payload_eq : fromHex text = some payload) (faultState : b.faultState = a.faultState)
    (readBack : ∀ m', (Axis.dispatch A m' (.read index subindex) b).1 = .ok (.object (hexText payload)))
    (others : ∀ key ≠ (index, subindex), od b.adapter key =
      besideWrite a.hasStore (index, subindex) payload (od a.adapter) key) :
    ExactWrite A od a index subindex data (.ok .done) b

section

variable {F σ : Type} [PyFloat F] {A : DriveAdapter F σ} {m : Moment F} {a : Axis F σ}

omit [PyFloat F] in
theorem savedValue_some {key : Key} {n : Int} (h : savedValue key = some n) : (key, n) ∈ Axis.saveOutcome := by
  obtain ⟨before, rest, hsplit, _⟩ := List.lookup_eq_some_iff.mp h
  exact hsplit ▸ List.mem_append_right _ List.mem_cons_self

theorem savedValue_none {key : Key} (h : savedValue key = none) : key ∉ Axis.saveOutcome.map Prod.fst := by
  intro hmem
  obtain ⟨kn, hkn, rfl⟩ := List.mem_map.mp hmem
  have hall : ∀ kn ∈ Axis.saveOutcome, savedValue kn.1 ≠ none := by decide
  exact hall kn hkn h

theorem exactWrite_post (h : OdAccess A) (hrestart : a.faultState.restartRequired = false)
    (hreadable : Readable (h.od a.adapter)) (index subindex : Nat) (data : Option String) :
    (Axis.dispatch A m (.write index subindex data)).Post a (ExactWrite A h.od a index subindex data) := by
  refine (Axis.write_post (m := m) h hrestart hreadable.values hreadable.saveCommand index subindex data).mono ?_
  rintro r b ⟨hfault, _, hexact⟩
  rcases hexact with ⟨e, rfl, hod⟩ | ⟨text, payload, hdata, hpayload, rfl, hwritten⟩
  · exact .refused e b hfault hod
  · refine .written text payload b hdata hpayload hfault (fun m' => ?_) fun key hkey => ?_
    · obtain ⟨d, hd, haccess⟩ := hwritten.writable
      have hwired : ∀ d, definition (index, subindex) = some d →
          Encodable d.dataType (h.od b.adapter (index, subindex)) := fun d hd => ⟨payload, by
        have hread := hwritten.read
        unfold bridgeReadSdo at hread
        rw [hd] at hread
        exact hread⟩
      have hstatus : (index, subindex) ≠ Key.statusword := by
        intro hstatus
        rw [hstatus] at hd
        cases hd
        exact haccess rfl
      obtain ⟨_, hread⟩ := Axis.read_post (m := m') h (hfault ▸ hrestart) hwired
      obtain ⟨_, hreply, hbytes⟩ := hread d hd
      obtain ⟨raw, rfl, hraw⟩ := hbytes hstatus
      cases hraw.symm.trans hwritten.read
      exact hreply
    · unfold besideWrite
      by_cases hsaved : a.hasStore ∧ (index, subindex) = Key.parameterSaveCommand ∧ payload = [0x01]
      · have hsave : (a.hasStore && decide ((index, subindex) = Key.parameterSaveCommand ∧ payload = [0x01])) = true := by
          simpa using hsaved
        rw [if_pos hsaved]
        cases hvalue : savedValue key with
        | some n => exact hwritten.outcome hsave _ (savedValue_some hvalue)
        | none => exact hwritten.other key hkey fun _ => savedValue_none hvalue
      · have hplain : (a.hasStore && decide ((index, subindex) = Key.parameterSaveCommand ∧ payload = [0x01])) ≠ true := by
          simpa using hsaved
        rw [if_neg hsaved]
        exact hwritten.other key hkey fun hsave => absurd hsave hplain

end

variable {format : Format} {device : Device}

/-- With no fault latched, a write request to either drive is exact or a no-op, whatever the store
answers, and latches no fault. -/
theorem sdo_write_exact {F : Type} [PyFloat F] (format : Format) (device : Device) (m : Moment F)
    (index subindex : Nat) (data : Option String) :
    (∀ a, (fKrDrive F).Reachable format device a → a.faultState.fault = none →
      (Axis.dispatch (fKrCmmt F) m (.write index subindex data)).Post a
        (ExactWrite (fKrCmmt F) (·.od) a index subindex data)) ∧
    ∀ ρ (R : Runner F ρ), ∀ a, (copleyDrive R).Reachable format device a → a.faultState.fault = none →
      (Axis.dispatch (copley R) m (.write index subindex data)).Post a
        (ExactWrite (copley R) (·.od) a index subindex data) := by
  constructor
  · intro a ha hfault
    have hrestart := (fKr_wired ha).1.restart_of_fault_none hfault
    exact exactWrite_post (FKrCmmt.odAccess F) hrestart (fKr_readable ha hfault) index subindex data
  · intro ρ R a ha hfault
    have hrestart := (reachable_shown (copleyOd R) ha).1.restart_of_fault_none hfault
    exact exactWrite_post (Copley.odAccess R) hrestart (copley_readable ha hfault) index subindex data

/-- The two drives, opened without a store. -/
theorem reachable_steady (format : Format) (device : Device) (hmode : device.mode = .linear) :
    ∃ a, (copleyDrive steadyRunner).Reachable format device a ∧ a.faultState.fault = none := by
  have hopens : Copley.construct steadyRunner .linear () = .ok steadyDrive := by
    have hok : (Copley.initialise steadyRunner (Copley.configured .linear ())).1 = .ok () := by
      decide +kernel
    have hrun : Copley.initialise steadyRunner (Copley.configured .linear ()) = (.ok (), steadyDrive) :=
      Prod.ext hok rfl
    rw [Copley.construct, hrun]
  have hopen : (openModel (copley steadyRunner) steadyDrive).1.toOption.isSome := by decide +kernel
  cases hinitial : (openModel (copley steadyRunner) steadyDrive).1 with
  | error e =>
    rw [hinitial] at hopen
    cases hopen
  | ok initial =>
    exact ⟨_, .opened 0 ⟨(), hmode ▸ hopens⟩ (Prod.ext hinitial (openModel_copley steadyRunner steadyDrive)), rfl⟩

/-- A moment whose store takes every save. -/
def takingMoment : Moment ExtRat := ⟨num 0, 0, fun _ => .ok ()⟩

theorem sdo_write_exact_opened :
    let format : Format := ⟨fun _ => [], fun _ => .ok .null, fun _ => ""⟩
    let device : Device := ⟨"", .fKrCmmt, .linear, ""⟩
    (∃ a, (fKrDrive ExtRat).Reachable format device a ∧
      (Axis.dispatch (fKrCmmt ExtRat) takingMoment (.write 0x6081 0 (some "e8030000"))).Post a
        (ExactWrite (fKrCmmt ExtRat) (·.od) a 0x6081 0 (some "e8030000"))) ∧
    ∃ a, (copleyDrive steadyRunner).Reachable format device a ∧
      (Axis.dispatch (copley steadyRunner) takingMoment (.write 0x6081 0 (some "e8030000"))).Post a
        (ExactWrite (copley steadyRunner) (·.od) a 0x6081 0 (some "e8030000")) := by
  intro format device
  obtain ⟨hservo, hcopley⟩ := sdo_write_exact format device takingMoment 0x6081 0 (some "e8030000")
  constructor
  · obtain ⟨initial, hrun⟩ := openModel_fKr (F := ExtRat) device.mode
    have hreach : (fKrDrive ExtRat).Reachable format device (Axis.start 0 (Servo.construct device.mode) initial false) :=
      .opened 0 rfl hrun
    exact ⟨_, hreach, hservo _ hreach rfl⟩
  · obtain ⟨a, hreach, hfault⟩ := reachable_steady format device rfl
    exact ⟨a, hreach, hcopley Unit steadyRunner a hreach hfault⟩

/-- Reading any object of an axis with no fault latched gives its bytes, and no SDO request of any kind
latches one. -/
theorem sdo_never_faults {F : Type} [PyFloat F] (format : Format) (device : Device) (m : Moment F) :
    (∀ a, (fKrDrive F).Reachable format device a → a.faultState.fault = none →
      (∀ kd ∈ definitions, ∃ text, (Axis.dispatch (fKrCmmt F) m (.read kd.1.1 kd.1.2) a).1 = .ok (.object text)) ∧
      ∀ request, request.isProcessData = false →
        (Axis.dispatch (fKrCmmt F) m request a).2.faultState = a.faultState) ∧
    ∀ ρ (R : Runner F ρ), ∀ a, (copleyDrive R).Reachable format device a → a.faultState.fault = none →
      (∀ kd ∈ definitions, ∃ text, (Axis.dispatch (copley R) m (.read kd.1.1 kd.1.2) a).1 = .ok (.object text)) ∧
      ∀ request, request.isProcessData = false →
        (Axis.dispatch (copley R) m request a).2.faultState = a.faultState := by
  have hboth {σ : Type} {A : DriveAdapter F σ} (h : OdAccess A) {a : Axis F σ}
      (hrestart : a.faultState.restartRequired = false) (hreadable : Readable (h.od a.adapter)) :
      (∀ kd ∈ definitions, ∃ text, (Axis.dispatch A m (.read kd.1.1 kd.1.2) a).1 = .ok (.object text)) ∧
        ∀ request, request.isProcessData = false → (Axis.dispatch A m request a).2.faultState = a.faultState := by
    refine ⟨fun kd hkd => ?_, fun request hreq =>
      Axis.sdo_faultState h hrestart hreadable.values hreadable.saveCommand hreq⟩
    obtain ⟨text, hread, _⟩ := (Axis.read_post (m := m) h hrestart (hreadable.values kd.1)).2 kd.2
      (definitions_nodup kd hkd)
    exact ⟨text, hread⟩
  constructor
  · intro a ha hfault
    exact hboth (FKrCmmt.odAccess F) ((fKr_wired ha).1.restart_of_fault_none hfault) (fKr_readable ha hfault)
  · intro ρ R a ha hfault
    exact hboth (Copley.odAccess R) ((reachable_shown (copleyOd R) ha).1.restart_of_fault_none hfault)
      (copley_readable ha hfault)

theorem sdo_never_faults_opened :
    let format : Format := ⟨fun _ => [], fun _ => .ok .null, fun _ => ""⟩
    let device : Device := ⟨"", .fKrCmmt, .linear, ""⟩
    (∃ a, (fKrDrive ExtRat).Reachable format device a ∧
      (Axis.dispatch (fKrCmmt ExtRat) takingMoment (.write 0x2005 1 (some "01")) a).2.faultState = a.faultState) ∧
    ∃ a, (copleyDrive steadyRunner).Reachable format device a ∧
      (Axis.dispatch (copley steadyRunner) takingMoment (.write 0x2005 1 (some "01")) a).2.faultState =
        a.faultState := by
  intro format device
  obtain ⟨hservo, hcopley⟩ := sdo_never_faults format device takingMoment
  constructor
  · obtain ⟨initial, hrun⟩ := openModel_fKr (F := ExtRat) device.mode
    have hreach : (fKrDrive ExtRat).Reachable format device (Axis.start 0 (Servo.construct device.mode) initial false) :=
      .opened 0 rfl hrun
    exact ⟨_, hreach, (hservo _ hreach rfl).2 _ rfl⟩
  · obtain ⟨a, hreach, hfault⟩ := reachable_steady format device rfl
    exact ⟨a, hreach, (hcopley Unit steadyRunner a hreach hfault).2 _ rfl⟩

end EthercatSimulator.Fleet
