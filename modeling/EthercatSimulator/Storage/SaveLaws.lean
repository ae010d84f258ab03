import EthercatSimulator.Storage.ParameterStore

/-! What one `save` leaves on the file system, whichever of its calls raise. -/

namespace EthercatSimulator.Storage

open Base Profile EthercatSimulator.Runtime

namespace Volume

/-- The volume after the steps. -/
def after (v : Volume) (steps : List (FileStep String UInt8)) : Volume :=
  ⟨FileStep.applyAll v.files steps, v.steps ++ steps⟩

variable {v : Volume}

theorem after_nil : v.after [] = v := by
  unfold after
  rw [List.append_nil]
  rfl

theorem after_after (steps steps' : List (FileStep String UInt8)) :
    (v.after steps).after steps' = v.after (steps ++ steps') := by
  unfold after
  rw [FileStep.applyAll_append, List.append_assoc]

theorem run_perform (step : FileStep String UInt8) : perform step v = (.ok (), v.after [step]) := rfl

theorem run_performAll (steps : List (FileStep String UInt8)) :
    performAll steps v = (.ok (), v.after steps) := by
  induction steps generalizing v with
  | nil => rw [after_nil]; rfl
  | cons step rest ih =>
    have hrest := ih (v := v.after [step])
    rw [after_after, List.singleton_append] at hrest
    exact hrest

end Volume

namespace Disk

variable {d : Disk} {v : Volume}

/-- None of the calls raises. -/
def Spares (d : Disk) (calls : List FileCall) : Prop := ∀ c ∈ calls, d.raises c = none

instance (d : Disk) (calls : List FileCall) : Decidable (d.Spares calls) :=
  inferInstanceAs (Decidable (∀ c ∈ calls, d.raises c = none))

theorem Spares.mono {calls calls' : List FileCall} (h : d.Spares calls) (hsub : calls' ⊆ calls) :
    d.Spares calls' := fun c hc => h c (hsub hc)

theorem spares_append {calls calls' : List FileCall} :
    d.Spares (calls ++ calls') ↔ d.Spares calls ∧ d.Spares calls' := List.forall_mem_append

theorem spares_cons {c : FileCall} {calls : List FileCall} :
    d.Spares (c :: calls) ↔ d.raises c = none ∧ d.Spares calls := List.forall_mem_cons

/-- From `v`, `x` takes steps of which `Q` holds, and it returns just if none of the calls raises. -/
def Does (d : Disk) (v : Volume) (x : PyM Volume Unit) (calls : List FileCall)
    (Q : List (FileStep String UInt8) → Prop) : Prop :=
  ∃ steps, (x v).2 = v.after steps ∧ ((x v).1 = .ok () ↔ d.Spares calls) ∧ Q steps

variable {x y : PyM Volume Unit} {calls calls' : List FileCall}
  {P Q Q' : List (FileStep String UInt8) → Prop}

theorem does_call (c : FileCall) : d.Does v (d.call c) [c] (· = []) := by
  unfold Does call Spares
  cases hraises : d.raises c with
  | none => exact ⟨[], Volume.after_nil.symm, iff_of_true rfl (by simp [hraises]), rfl⟩
  | some e => exact ⟨[], Volume.after_nil.symm, iff_of_false nofun (by simp [hraises]), rfl⟩

theorem does_performAll (steps : List (FileStep String UInt8)) :
    d.Does v (Volume.performAll steps) [] (· = steps) := by
  unfold Does
  rw [Volume.run_performAll]
  exact ⟨steps, rfl, iff_of_true rfl nofun, rfl⟩

theorem does_perform (step : FileStep String UInt8) : d.Does v (Volume.perform step) [] (· = [step]) :=
  ⟨[step], rfl, iff_of_true rfl nofun, rfl⟩

theorem Does.mono (h : d.Does v x calls Q) (hcalls : d.Spares calls ↔ d.Spares calls')
    (hQ : ∀ steps, Q steps → P steps) : d.Does v x calls' P := by
  obtain ⟨steps, hstate, hresult, hsteps⟩ := h
  exact ⟨steps, hstate, hresult.trans hcalls, hQ _ hsteps⟩

/-- What is begun is taken where a call raises. -/
theorem Does.seq (hx : d.Does v x calls Q)
    (hy : ∀ steps, Q steps → d.Spares calls → d.Does (v.after steps) y calls' Q') :
    d.Does v (x >>= fun _ => y) (calls ++ calls') fun steps =>
      (¬ d.Spares calls ∧ Q steps) ∨
        (d.Spares calls ∧ ∃ begun rest, Q begun ∧ Q' rest ∧ steps = begun ++ rest) := by
  obtain ⟨steps, hstate, hresult, hsteps⟩ := hx
  unfold Does
  rw [spares_append, Exec.run_bind]
  match hrun : x v with
  | (.ok (), v') =>
    rw [hrun] at hstate hresult
    obtain rfl : v' = v.after steps := hstate
    have hspares := hresult.mp rfl
    obtain ⟨rest, hstate', hresult', hrest⟩ := hy steps hsteps hspares
    refine ⟨steps ++ rest, hstate'.trans (Volume.after_after ..), ?_, .inr ⟨hspares, _, _, hsteps, hrest, rfl⟩⟩
    exact hresult'.trans (and_iff_right hspares).symm
  | (.error e, v') =>
    rw [hrun] at hstate hresult
    have hraises : ¬ d.Spares calls := fun h => nomatch hresult.mpr h
    exact ⟨steps, hstate, iff_of_false nofun fun h => hraises h.1, .inl ⟨hraises, hsteps⟩⟩

theorem Does.ensuring (hx : d.Does v x calls Q)
    (hy : ∀ steps, Q steps → d.Does (v.after steps) y calls' Q') :
    d.Does v (x.ensuring y) (calls ++ calls') fun steps =>
      ∃ begun rest, Q begun ∧ Q' rest ∧ steps = begun ++ rest := by
  obtain ⟨steps, hstate, hresult, hsteps⟩ := hx
  obtain ⟨rest, hstate', hresult', hrest⟩ := hy steps hsteps
  have hrun := Exec.run_ensuring x y v
  rw [hstate] at hrun
  unfold Does
  rw [spares_append, hrun]
  match hy : y (v.after steps) with
  | (.ok (), v') =>
    rw [hy] at hstate' hresult'
    refine ⟨steps ++ rest, hstate'.trans (Volume.after_after ..), ?_, _, _, hsteps, hrest, rfl⟩
    exact hresult.trans (and_iff_left (hresult'.mp rfl)).symm
  | (.error e, v') =>
    rw [hy] at hstate' hresult'
    refine ⟨steps ++ rest, hstate'.trans (Volume.after_after ..), ?_, _, _, hsteps, hrest, rfl⟩
    exact iff_of_false nofun fun h => nomatch hresult'.mpr h.2

/-! The stages of `save`. -/

variable (name : String) (text : Bytes)

/-- The calls that write the temporary file. -/
def streamCalls : List FileCall := [.fdopen, .write, .flush, .fsync, .close]

theorem writeText_does : d.Does v (d.writeText name text) [.write, .flush, .fsync] fun steps =>
    steps <+: text.map (.append name) ∧
      (d.Spares [.write, .flush] → steps = text.map (.append name)) := by
  have hwhole : (text.take d.written).map (FileStep.append name) ++ (text.drop d.written).map (.append name) =
      text.map (.append name) := by
    rw [← List.map_append, List.take_append_drop]
  have hbegun : (text.take d.written).map (FileStep.append name) <+: text.map (.append name) :=
    ⟨_, hwhole⟩
  have hseq := (does_performAll (d := d) (v := v) ((text.take d.written).map (.append name))).seq
    fun _ _ _ => (does_call .write).seq fun _ _ _ => (does_call .flush).seq fun _ _ _ =>
      (does_performAll ((text.drop d.written).map (.append name))).seq fun _ _ _ => does_call .fsync
  refine hseq.mono Iff.rfl fun steps hsteps => ?_
  rcases hsteps with ⟨hraise, -⟩ | ⟨-, begun, rest, rfl, hrest, rfl⟩
  · exact absurd nofun hraise
  rcases hrest with ⟨hraise, rfl⟩ | ⟨hwrite, _, rest, rfl, hrest, rfl⟩
  · rw [List.append_nil]
    exact ⟨hbegun, fun h => absurd (h.mono (by decide)) hraise⟩
  rcases hrest with ⟨hraise, rfl⟩ | ⟨hflush, _, rest, rfl, hrest, rfl⟩
  · rw [List.append_nil]
    exact ⟨hbegun, fun h => absurd (h.mono (by decide)) hraise⟩
  rcases hrest with ⟨hraise, -⟩ | ⟨-, _, rest, rfl, rfl, rfl⟩
  · exact absurd nofun hraise
  rw [List.append_nil, hwhole]
  exact ⟨List.prefix_rfl, fun _ => rfl⟩

theorem writeStream_does : d.Does v (d.writeStream name text) streamCalls fun steps =>
    steps <+: text.map (.append name) ∧ (d.Spares streamCalls → steps = text.map (.append name)) := by
  have hseq := (does_call (d := d) (v := v) .fdopen).seq fun _ _ _ =>
    (writeText_does name text).ensuring fun _ _ => does_call .close
  refine hseq.mono Iff.rfl fun steps hsteps => ?_
  rcases hsteps with ⟨hraise, rfl⟩ | ⟨_, _, rest, rfl, ⟨body, _, hbody, rfl, rfl⟩, rfl⟩
  · exact ⟨List.nil_prefix, fun h => absurd (h.mono (by decide)) hraise⟩
  · rw [List.append_nil, List.nil_append]
    exact ⟨hbody.1, fun h => hbody.2 (h.mono (by decide))⟩

/-- The calls up to the replacement, once the temporary file is there. -/
def replaceCalls : List FileCall := streamCalls ++ [.replace]

def syncCalls (posix : Bool) : List FileCall :=
  if posix then [.openDirectory, .fsyncDirectory, .closeDirectory] else []

theorem syncDirectory_does (posix : Bool) :
    d.Does v (Exec.when posix d.syncDirectory) (syncCalls posix) (· = []) := by
  cases posix with
  | false => exact does_performAll []
  | true =>
    have hseq := (does_call (d := d) (v := v) .openDirectory).seq fun _ _ _ =>
      (does_call .fsyncDirectory).ensuring fun _ _ => does_call .closeDirectory
    refine hseq.mono Iff.rfl fun steps hsteps => ?_
    rcases hsteps with ⟨_, rfl⟩ | ⟨_, _, _, rfl, ⟨_, _, rfl, rfl, rfl⟩, rfl⟩ <;> rfl

theorem replaceFile_does (source target : String) :
    d.Does v (d.replaceFile source target) [.replace] fun steps =>
      (¬ d.Spares [.replace] ∧ steps = []) ∨ (d.Spares [.replace] ∧ steps = [.replace source target]) := by
  refine ((does_call .replace).seq fun _ _ _ => does_perform (.replace source target)).mono Iff.rfl
    fun steps hsteps => ?_
  rcases hsteps with ⟨hraise, rfl⟩ | ⟨hspares, _, _, rfl, rfl, rfl⟩
  · exact .inl ⟨hraise, rfl⟩
  · exact .inr ⟨hspares, rfl⟩

theorem replaceSnapshot_does (store : ParameterStore) (temporary target : String) :
    d.Does v (store.replaceSnapshot d temporary target text) (replaceCalls ++ syncCalls store.posix)
      fun steps => steps <+: text.map (.append temporary) ++ [.replace temporary target] ∧
        (.replace temporary target ∈ steps ↔ d.Spares replaceCalls) := by
  have hnot : ∀ steps : List (FileStep String UInt8), steps <+: text.map (.append temporary) →
      .replace temporary target ∉ steps := fun steps hbegin hmem => by
    obtain ⟨b, _, hb⟩ := List.mem_map.mp (hbegin.subset hmem)
    cases hb
  have hseq := (writeStream_does (d := d) (v := v) temporary text).seq fun _ _ _ =>
    (replaceFile_does temporary target).seq fun _ _ _ => syncDirectory_does store.posix
  refine hseq.mono (by unfold replaceCalls; rw [List.append_assoc]) fun steps hsteps => ?_
  unfold replaceCalls
  rw [spares_append]
  rcases hsteps with ⟨hraise, hbegin, -⟩ | ⟨hstream, written, rest, ⟨-, hwhole⟩, hrest, rfl⟩
  · exact ⟨hbegin.trans (List.prefix_append ..), iff_of_false (hnot _ hbegin) fun h => hraise h.1⟩
  obtain rfl := hwhole hstream
  have hbegun : rest = [] ∧ ¬ d.Spares [.replace] ∨
      rest = [.replace temporary target] ∧ d.Spares [.replace] := by
    rcases hrest with ⟨hraise, ⟨_, rfl⟩ | ⟨hspares, rfl⟩⟩ |
      ⟨hspares, _, _, ⟨hraise, rfl⟩ | ⟨_, rfl⟩, rfl, rfl⟩
    · exact .inl ⟨rfl, hraise⟩
    · exact absurd hspares hraise
    · exact absurd hspares hraise
    · exact .inr ⟨rfl, hspares⟩
  rcases hbegun with ⟨rfl, hraise⟩ | ⟨rfl, hspares⟩
  · rw [List.append_nil]
    exact ⟨List.prefix_append .., iff_of_false (hnot _ List.prefix_rfl) fun h => hraise h.2⟩
  · exact ⟨List.prefix_rfl, iff_of_true (List.mem_append_right _ (List.mem_singleton.mpr rfl))
      ⟨hstream, hspares⟩⟩

theorem unlink_does : d.Does v (d.unlink name) [.unlink] fun steps => steps = [] ∨ steps = [.unlink name] := by
  refine ((does_call .unlink).seq fun _ _ _ => does_perform (.unlink name)).mono Iff.rfl
    fun steps hsteps => ?_
  rcases hsteps with ⟨_, rfl⟩ | ⟨_, _, _, rfl, rfl, rfl⟩
  · exact .inl rfl
  · exact .inr rfl

def temporaryName (d : Disk) (target : String) : String := "." ++ target ++ d.suffix

/-- The temporary name is free, and no call raises up to the replacement. -/
def Replaces (d : Disk) (files : Files String UInt8) (target : String) : Prop :=
  d.raises .mkstemp = none ∧ files (d.temporaryName target) = none ∧ d.Spares replaceCalls

instance (d : Disk) (files : Files String UInt8) (target : String) : Decidable (d.Replaces files target) :=
  inferInstanceAs (Decidable (_ ∧ _ ∧ _))

/-- No call raises after the replacement. -/
def Finishes (d : Disk) (posix : Bool) : Prop := d.Spares (syncCalls posix ++ [.unlink])

instance (d : Disk) (posix : Bool) : Decidable (d.Finishes posix) :=
  inferInstanceAs (Decidable (d.Spares _))

theorem mkstemp_run (target : String) :
    ((d.mkstemp ("." ++ target)) v = (.ok (d.temporaryName target), v.after [.create (d.temporaryName target)]) ∧
        d.raises .mkstemp = none ∧ v.files (d.temporaryName target) = none) ∨
      (∃ e, (d.mkstemp ("." ++ target)) v = (.error e, v)) ∧
        ¬ (d.raises .mkstemp = none ∧ v.files (d.temporaryName target) = none) := by
  unfold mkstemp call
  cases hraises : d.raises .mkstemp with
  | some e => exact .inr ⟨⟨e, rfl⟩, nofun⟩
  | none =>
    by_cases hfree : v.files (d.temporaryName target) = none
    · refine .inl ⟨?_, rfl, hfree⟩
      change (Exec.require (v.files (d.temporaryName target) = none) fileExists >>= fun _ => _) v = _
      unfold Exec.require
      rw [if_pos hfree]
      rfl
    · refine .inr ⟨⟨fileExists, ?_⟩, fun h => hfree h.2⟩
      change (Exec.require (v.files (d.temporaryName target) = none) fileExists >>= fun _ => _) v = _
      unfold Exec.require
      rw [if_neg hfree]
      rfl

theorem writeSnapshot_spec (store : ParameterStore) (target : String) :
    ∃ steps, (store.writeSnapshot d target text v).2 = v.after steps ∧
      ((store.writeSnapshot d target text v).1 = .ok () ↔
        d.Replaces v.files target ∧ d.Finishes store.posix) ∧
      Attempted (d.temporaryName target) target text steps ∧
      (Replaced (d.temporaryName target) target steps ↔ d.Replaces v.files target) := by
  have hnone : ∀ begun : List (FileStep String UInt8), begun = [] →
      Attempted (d.temporaryName target) target text begun ∧
        ¬ Replaced (d.temporaryName target) target begun := fun _ h =>
    h ▸ ⟨⟨[], List.nil_prefix, .inl rfl⟩, nofun⟩
  unfold ParameterStore.writeSnapshot
  rw [Exec.run_bind]
  rcases mkstemp_run (d := d) (v := v) target with ⟨hrun, hfree⟩ | ⟨⟨e, hrun⟩, hraise⟩
  · rw [hrun]
    have hrest := (replaceSnapshot_does (d := d) (v := v.after [.create (d.temporaryName target)]) text store
      (d.temporaryName target) target).ensuring fun _ _ => unlink_does (d.temporaryName target)
    obtain ⟨steps, hstate, hresult, begun, rest, ⟨hbegin, hreplaced⟩, hunlink, rfl⟩ := hrest
    have hreplaces : d.Replaces v.files target ↔ d.Spares replaceCalls :=
      ⟨fun h => h.2.2, fun h => ⟨hfree.1, hfree.2, h⟩⟩
    refine ⟨_, hstate.trans (Volume.after_after ..), hresult.trans ?_, ?_, ?_⟩
    · rw [hreplaces, spares_append, spares_append, and_assoc]
      unfold Finishes
      rw [spares_append]
    · refine ⟨.create (d.temporaryName target) :: begun, ?_, ?_⟩
      · unfold replacing writing
        rw [List.cons_append, List.cons_prefix_cons]
        exact ⟨rfl, hbegin⟩
      · rcases hunlink with rfl | rfl
        · rw [List.append_nil]
          exact .inl rfl
        · exact .inr rfl
    · rw [hreplaces, ← hreplaced]
      unfold Replaced
      rw [List.mem_append, List.mem_append]
      constructor
      · rintro (hmem | hmem | hmem)
        · cases List.mem_singleton.mp hmem
        · exact hmem
        · rcases hunlink with rfl | rfl
          · cases hmem
          · cases List.mem_singleton.mp hmem
      · exact fun hmem => .inr (.inl hmem)
  · rw [hrun]
    obtain ⟨hattempted, hnot⟩ := hnone [] rfl
    exact ⟨[], Volume.after_nil.symm, iff_of_false nofun fun h => hraise ⟨h.1.1, h.1.2.1⟩, hattempted,
      iff_of_false hnot fun h => hraise ⟨h.1, h.2.1⟩⟩

end Disk

theorem Disk.temporaryName_ne (d : Disk) (target : String) : target ≠ d.temporaryName target := by
  intro h
  have hlength := congrArg String.length h
  unfold Disk.temporaryName at hlength
  rw [String.length_append, String.length_append] at hlength
  change target.length = 1 + target.length + d.suffix.length at hlength
  omega

namespace ParameterStore

variable (store : ParameterStore) (format : Format) (device : Device) (d : Disk)
  (values : Except Exc (List (Key × Bytes)))

/-- The text that takes the place of the snapshot, where a save comes so far. -/
def replacement (files : Files String UInt8) : Option Bytes :=
  match values with
  | .ok values => if store.locked ∧ d.Replaces files device.path then
      some (format.dump (snapshot format device values)) else none
  | .error _ => none

theorem replacement_of_unlocked (h : store.locked = false) (files : Files String UInt8) :
    store.replacement format device d values files = none := by
  unfold replacement
  cases values with
  | ok values => exact if_neg fun hc => Bool.false_ne_true (h.symm.trans hc.1)
  | error e => rfl

/-- The steps of a save, and when they replace the snapshot. -/
structure Trace (v : Volume) (steps : List (FileStep String UInt8)) (content : Bytes) : Prop where
  state : (store.saveValues format device d values v).2 = v.after steps
  result : (store.saveValues format device d values v).1 = .ok () ↔
    store.replacement format device d values v.files ≠ none ∧ d.Finishes store.posix
  attempted : Attempted (d.temporaryName device.path) device.path content steps
  replaced : Replaced (d.temporaryName device.path) device.path steps ↔
    store.replacement format device d values v.files ≠ none
  content : ∀ text, store.replacement format device d values v.files = some text → text = content

theorem saveValues_trace (v : Volume) :
    ∃ steps content, store.Trace format device d values v steps content := by
  have hnothing : (store.saveValues format device d values v).2 = v →
      (store.saveValues format device d values v).1 ≠ .ok () →
      store.replacement format device d values v.files = none →
      store.Trace format device d values v [] [] := fun hstate hresult hnone => by
    refine ⟨hstate.trans Volume.after_nil.symm, ?_, ⟨[], List.nil_prefix, .inl rfl⟩, ?_, ?_⟩
    · rw [hnone]
      exact iff_of_false hresult fun h => h.1 rfl
    · rw [hnone]
      exact iff_of_false nofun fun h => h rfl
    · rw [hnone]
      nofun
  cases hlocked : store.locked with
  | false =>
    have hrun : store.saveValues format device d values v =
        (.error (runtimeError "Parameter storage lock is required"), v) := by
      unfold saveValues Exec.require
      rw [if_neg (by rw [hlocked]; nofun)]
      rfl
    exact ⟨[], [], hnothing (by rw [hrun]) (by rw [hrun]; nofun)
      (store.replacement_of_unlocked format device d values hlocked v.files)⟩
  | true =>
    have hrun : store.saveValues format device d values v =
        (Exec.ofExcept values >>= fun values =>
          store.writeSnapshot d device.path (format.dump (snapshot format device values))) v := by
      unfold saveValues Exec.require
      rw [if_pos hlocked]
      rfl
    cases values with
    | error e => exact ⟨[], [], hnothing (by rw [hrun]; rfl) (by rw [hrun]; nofun) rfl⟩
    | ok values =>
      obtain ⟨steps, hstate, hresult, hattempted, hreplaced⟩ := Disk.writeSnapshot_spec (d := d) (v := v)
        (format.dump (snapshot format device values)) store device.path
      have hreplacement : store.replacement format device d (.ok values) v.files =
          if d.Replaces v.files device.path then some (format.dump (snapshot format device values))
          else none := by
        unfold replacement
        simp only [hlocked, true_and]
      have hiff : store.replacement format device d (.ok values) v.files ≠ none ↔
          d.Replaces v.files device.path := by
        rw [hreplacement]
        split_ifs with hreplaces
        · exact iff_of_true nofun hreplaces
        · exact iff_of_false (fun h => h rfl) hreplaces
      refine ⟨steps, format.dump (snapshot format device values), ?_, ?_, hattempted,
        hreplaced.trans hiff.symm, fun text htext => ?_⟩
      · rw [hrun]
        exact hstate
      · rw [hrun, hiff]
        exact hresult
      · rw [hreplacement] at htext
        split_ifs at htext
        exact (Option.some.inj htext).symm

theorem replacement_eq_some {files : Files String UInt8} {text : Bytes} :
    store.replacement format device d values files = some text ↔
      store.locked = true ∧ d.Replaces files device.path ∧
        ∃ saved, values = .ok saved ∧ text = format.dump (snapshot format device saved) := by
  unfold replacement
  cases values with
  | error e => exact iff_of_false nofun fun ⟨_, _, _, h, _⟩ => nomatch h
  | ok saved =>
    dsimp only
    split_ifs with h
    · constructor
      · rintro ⟨⟩
        exact ⟨h.1, h.2, saved, rfl, rfl⟩
      · rintro ⟨_, _, _, ⟨⟩, rfl⟩
        rfl
    · exact iff_of_false nofun fun ⟨hlocked, hreplaces, _⟩ => h ⟨hlocked, hreplaces⟩

variable {store format device d values}

/-- Of all files but the temporary one a save that is killed changes the snapshot alone. -/
theorem Trace.killed {v : Volume} {steps killed : List (FileStep String UInt8)} {content : Bytes}
    (h : store.Trace format device d values v steps content) (hkilled : killed <+: steps) {name : String}
    (hname : name ≠ d.temporaryName device.path) :
    FileStep.applyAll v.files killed name =
      if name = device.path ∧ Replaced (d.temporaryName device.path) device.path killed then
        store.replacement format device d values v.files
      else v.files name := by
  rw [(h.attempted.of_prefix hkilled).apply_other v.files hname]
  split_ifs with hreplaced
  · have hsome := h.replaced.mp (hkilled.subset hreplaced.2)
    cases hreplacement : store.replacement format device d values v.files with
    | none => exact absurd hreplacement hsome
    | some text => rw [h.content text hreplacement]
  · rfl

/-- A save that returns has put its text in place and left the other files alone. -/
theorem saveValues_ok {v v' : Volume} (h : store.saveValues format device d values v = (.ok (), v')) :
    ∃ saved, values = .ok saved ∧ d.Replaces v.files device.path ∧
      v'.files device.path = some (format.dump (snapshot format device saved)) ∧
      ∀ name, name ≠ d.temporaryName device.path → name ≠ device.path → v'.files name = v.files name := by
  obtain ⟨steps, content, htrace⟩ := store.saveValues_trace format device d values v
  have hsome := (htrace.result.mp (by rw [h])).1
  have hstate := htrace.state
  rw [h] at hstate
  subst hstate
  obtain ⟨text, htext⟩ := Option.ne_none_iff_exists'.mp hsome
  obtain ⟨-, hreplaces, saved, hvalues, rfl⟩ := (store.replacement_eq_some format device d values).mp htext
  refine ⟨saved, hvalues, hreplaces, ?_, fun name htemporary htarget => ?_⟩
  · refine (htrace.killed List.prefix_rfl (d.temporaryName_ne device.path)).trans ?_
    rw [if_pos ⟨rfl, htrace.replaced.mpr hsome⟩, htext]
  · refine (htrace.killed List.prefix_rfl htemporary).trans ?_
    rw [if_neg fun hc => htarget hc.1]

end ParameterStore

end EthercatSimulator.Storage
