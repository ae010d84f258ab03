import EthercatSimulator.Runtime.FmiRunner

/-! A failure of the FMU is final, its time is that of the steps it completed, and its resources
are given back once. -/

namespace EthercatSimulator.Runtime.FmiRunner

open Base

variable {F σ : Type}

/-! The calls of the FMU. -/

def Call.isTransfer : Call F → Bool
  | .set _ | .get _ | .doStep _ _ => true
  | _ => false

def Call.isTerminate : Call F → Bool
  | .terminate _ => true
  | _ => false

def Call.isFree : Call F → Bool
  | .freeInstance _ => true
  | _ => false

theorem transfer_neither {c : Call F} (hc : c.isTransfer) : ¬ c.isTerminate ∧ ¬ c.isFree := by
  cases c <;> simp_all [Call.isTransfer, Call.isTerminate, Call.isFree]

/-- It raised, or it is a step that reports an event, a termination or an early return. -/
def Call.failed : Call F → Bool
  | .set outcome | .terminate outcome | .freeInstance outcome => !outcome.isOk
  | .get outcome => !outcome.isOk
  | .doStep _ (.ok report) => report.unsupported
  | .doStep _ (.error _) => true

/-- The length of a step that completed. -/
def Call.completed : Call F → Option F
  | .doStep dt (.ok report) => if report.unsupported then none else some dt
  | _ => none

/-- The sum of the completed steps. -/
def elapsed [PyFloat F] (calls : List (Call F)) : F := (calls.filterMap Call.completed).foldl (· + ·) 0

theorem elapsed_append [PyFloat F] (calls : List (Call F)) (c : Call F) :
    elapsed (calls ++ [c]) = match c.completed with
      | some dt => elapsed calls + dt
      | none => elapsed calls := by
  unfold elapsed
  rw [List.filterMap_append, List.foldl_append]
  cases h : c.completed <;> simp [h]

theorem calling_run {α : Type} (call : Except Exc α → Call F) (x : PyM σ α) (r : Runner F σ) :
    calling call x r = ((x r.native).1,
      { r with native := (x r.native).2, calls := r.calls ++ [call (x r.native).1] }) := by
  unfold calling
  have hattempt : (onNative x).attempt r = (.ok (x r.native).1, { r with native := (x r.native).2 }) := rfl
  rw [Exec.run_bind_ok hattempt, Exec.run_bind_ok (Exec.run_modify ..), Exec.run_ofExcept]

/-! What an operation can do. -/

abbrev Runner.Usable (r : Runner F σ) : Prop := r.initialized ∧ ¬ r.failed

theorem check_cases (r : Runner F σ) :
    (r.Usable ∧ check r = (.ok (), r)) ∨ (¬ r.Usable ∧ check r = (.error closedOrFailed, r)) :=
  Exec.require_cases ..

theorem variableOf_cases (name : String) (r : Runner F σ) :
    (∃ v, r.variableByName.lookup name = some v ∧ variableOf name r = (.ok v, r)) ∨
      (r.variableByName.lookup name = none ∧ ∃ e, variableOf name r = (.error e, r)) := by
  unfold variableOf
  rw [Exec.run_bind, Exec.run_get]
  dsimp only
  cases r.variableByName.lookup name with
  | some v => exact .inl ⟨v, rfl, rfl⟩
  | none => exact .inr ⟨rfl, _, rfl⟩

theorem bound_cases (N : Native F σ) (type : VariableType) (r : Runner F σ) :
    bound N type r = (.ok (), r) ∨ bound N type r = (.error attributeError, r) := by
  rcases Exec.require_cases (r.fmu ∧ N.bound type) attributeError r with ⟨-, h⟩ | ⟨-, h⟩
  · exact .inl h
  · exact .inr h

theorem latching_run {α : Type} (x : PyM (Runner F σ) α) (r : Runner F σ) :
    (latching x r).2 = match x r with
      | (.ok _, s) => s
      | (.error _, s) => { s with failed := true } := by
  unfold latching Exec.handle
  match x r with
  | (.ok _, s) => rfl
  | (.error _, s) => rfl

variable [PyFloat F]

/-- What becomes of the runner when a value is transferred or a step is made. -/
inductive Effect (r : Runner F σ) : Runner F σ → Prop
  | idle : Effect r r
  | latch (hr : r.Usable) : Effect r { r with failed := true }
  | transfer (hr : r.Usable) {c : Call F} (hc : c.isTransfer) (native : σ) {failed : Bool}
      (hfailed : c.failed → failed) {time : F} (htime : time = match c.completed with
        | some dt => r.time + dt
        | none => r.time) :
      Effect r { r with native, calls := r.calls ++ [c], failed, time }

variable (N : Native F σ)

section Effect

variable {N} {α : Type} {r : Runner F σ}

theorem effect_check {x : Unit → PyM (Runner F σ) α} (h : r.Usable → Effect r (x () r).2) :
    Effect r ((check >>= x) r).2 := by
  rcases check_cases r with ⟨hr, hcheck⟩ | ⟨-, hcheck⟩
  · rw [Exec.run_bind_ok hcheck]
    exact h hr
  · rw [Exec.run_bind_error hcheck]
    exact .idle

theorem effect_variableOf {name : String} {x : Variable → PyM (Runner F σ) α} (h : ∀ v, Effect r (x v r).2) :
    Effect r ((variableOf name >>= x) r).2 := by
  rcases variableOf_cases name r with ⟨v, -, hv⟩ | ⟨-, e, hv⟩
  · rw [Exec.run_bind_ok hv]
    exact h v
  · rw [Exec.run_bind_error hv]
    exact .idle

theorem effect_bound {type : VariableType} {x : Unit → PyM (Runner F σ) α} (hr : r.Usable)
    (h : Effect r (latching (x ()) r).2) : Effect r (latching (bound N type >>= x) r).2 := by
  rw [latching_run] at h ⊢
  rcases bound_cases N type r with hbound | hbound
  · rw [Exec.run_bind_ok hbound]
    exact h
  · rw [Exec.run_bind_error hbound]
    exact .latch hr

end Effect

theorem set_effect (name : String) (value : Value F) (r : Runner F σ) : Effect r (set N name value r).2 := by
  refine effect_check fun hr => effect_variableOf fun v => ?_
  rw [Exec.run_ofExcept_bind]
  cases validate v name value with
  | error e => exact .idle
  | ok _ =>
    refine effect_bound hr ?_
    rw [latching_run, calling_run]
    cases (N.set v.type v.valueReference value r.native).1 with
    | error e => exact .transfer hr rfl _ (fun _ => rfl) rfl
    | ok _ => exact .transfer hr rfl _ (by nofun) rfl

theorem get_effect (name : String) (r : Runner F σ) : Effect r (get N name r).2 := by
  refine effect_check fun hr => effect_variableOf fun v => effect_bound hr ?_
  rw [latching_run, Exec.run_bind, calling_run]
  match (N.get v.type v.valueReference r.native).1 with
  | .error e => exact .transfer hr rfl _ (fun _ => rfl) rfl
  | .ok [] => exact .transfer hr rfl _ (fun _ => rfl) rfl
  | .ok (value :: rest) => exact .transfer hr rfl _ (by nofun) rfl

theorem step_effect (dt : F) (r : Runner F σ) : Effect r (step N dt r).2 := by
  refine effect_check fun hr => ?_
  rcases Exec.require_cases (isFinite dt ∧ ¬ dt ≤ 0) (valueError "FMU step must be finite and positive") r with
    ⟨-, hdt⟩ | ⟨-, hdt⟩
  swap
  · rw [Exec.run_bind_error hdt]
    exact .idle
  rw [Exec.run_bind_ok hdt, latching_run, Exec.run_bind_ok (Exec.run_get r)]
  rcases Exec.require_cases (r.fmu : Prop) attributeError r with ⟨-, hfmu⟩ | ⟨-, hfmu⟩
  swap
  · rw [Exec.run_bind_error hfmu]
    exact .latch hr
  rw [Exec.run_bind_ok hfmu, Exec.run_bind, calling_run]
  match (N.doStep r.time dt r.native).1 with
  | .error e => exact .transfer hr rfl _ (fun _ => rfl) rfl
  | .ok report =>
    dsimp only
    cases hreport : report.unsupported with
    | true => exact .transfer hr rfl _ (fun _ => rfl) (by simp [Call.completed, hreport])
    | false => exact .transfer hr rfl _ (by simp [Call.failed, hreport]) (by simp [Call.completed, hreport])

/-! Closing. -/

omit [PyFloat F] in
theorem when_calling (c : Prop) [Decidable c] (call : Except Exc Unit → Call F) (x : PyM σ Unit)
    (r : Runner F σ) : ∃ native made,
    (Exec.when c (calling call x) r).2 = { r with native, calls := r.calls ++ made } ∧
      (made = [] ∨ c ∧ ∃ outcome, made = [call outcome]) := by
  unfold Exec.when
  split
  · rename_i hc
    rw [calling_run]
    exact ⟨_, _, rfl, .inr ⟨hc, _, rfl⟩⟩
  · exact ⟨r.native, [], by rw [List.append_nil]; rfl, .inl rfl⟩

omit [PyFloat F] in
/-- What is released is terminated unless it failed, and its instance freed. -/
theorem release_state (r : Runner F σ) : ∃ native ended freed,
    (release N r).2 = { r with native, calls := r.calls ++ ended ++ freed } ∧
      (ended = [] ∨ r.Usable ∧ ∃ outcome, ended = [.terminate outcome]) ∧
      (freed = [] ∨ ∃ outcome, freed = [.freeInstance outcome]) := by
  unfold release
  rw [Exec.run_bind_ok (Exec.run_get _), Exec.run_ensuring_state, Exec.run_bind_ok (Exec.run_get _)]
  obtain ⟨native, ended, hterminate, hended⟩ :=
    when_calling (r.initialized ∧ ¬ r.failed) .terminate N.terminate r
  rw [hterminate]
  obtain ⟨native', freed, hfree, hfreed⟩ :=
    when_calling (N.component native) .freeInstance N.freeInstance
      { r with native, calls := r.calls ++ ended }
  rw [hfree]
  exact ⟨native', ended, freed, rfl, hended, hfreed.imp_right And.right⟩

omit [PyFloat F] in
theorem close_state (r : Runner F σ) : ∃ native ended freed,
    (close N r).2 = { r with native, fmu := false, initialized := false, calls := r.calls ++ ended ++ freed } ∧
      (ended = [] ∨ r.fmu ∧ r.Usable ∧ ∃ outcome, ended = [.terminate outcome]) ∧
      (freed = [] ∨ r.fmu ∧ ∃ outcome, freed = [.freeInstance outcome]) := by
  unfold close
  rw [Exec.run_bind_ok (Exec.run_get r), Exec.run_bind_ok (Exec.run_modify ..), Exec.run_ensuring_state]
  unfold Exec.when
  split
  · rename_i hfmu
    obtain ⟨native, ended, freed, hrelease, hended, hfreed⟩ := release_state N { r with fmu := false }
    rw [hrelease]
    exact ⟨_, ended, freed, rfl, hended.imp_right fun h => ⟨hfmu, h⟩, hfreed.imp_right fun h => ⟨hfmu, h⟩⟩
  · refine ⟨(N.cleanup r.native).2, [], [], ?_, .inl rfl, .inl rfl⟩
    rw [List.append_nil, List.append_nil]
    rfl

/-! Runs. -/

/-- What holds of a runner in all its life. -/
structure Sound (r : Runner F σ) : Prop where
  working : r.Usable → ∀ c ∈ r.calls, ¬ c.failed
  final : r.calls.Pairwise fun c c' => c.failed → ¬ c'.isTransfer ∧ ¬ c'.isTerminate
  time : r.time = elapsed r.calls
  held : r.fmu → ∀ c ∈ r.calls, ¬ c.isTerminate ∧ ¬ c.isFree
  terminated : r.calls.countP Call.isTerminate ≤ 1
  freed : r.calls.countP Call.isFree ≤ 1

theorem sound_of_fresh {r : Runner F σ} (hcalls : r.calls = []) (htime : r.time = 0) : Sound r := by
  have hnone : ∀ c, c ∉ r.calls := by rw [hcalls]; nofun
  refine ⟨fun _ c hc => absurd hc (hnone c), ?_, ?_, fun _ c hc => absurd hc (hnone c), ?_, ?_⟩ <;> rw [hcalls]
  · exact .nil
  · exact htime
  · exact Nat.zero_le _
  · exact Nat.zero_le _

theorem Effect.sound {r r' : Runner F σ} (h : Effect r r') (hr : Sound r) : Sound r' := by
  cases h with
  | idle => exact hr
  | latch hu => exact ⟨fun h => absurd rfl h.2, hr.final, hr.time, hr.held, hr.terminated, hr.freed⟩
  | @transfer hu c hc native failed hfailed time htime =>
    obtain ⟨hterminate, hfree⟩ := transfer_neither hc
    refine ⟨fun h c' hc' => ?_, ?_, ?_, fun h c' hc' => ?_, ?_, ?_⟩
    · rcases List.mem_append.mp hc' with hc' | hc'
      · exact hr.working hu c' hc'
      · cases List.mem_singleton.mp hc'
        exact fun hc => h.2 (hfailed hc)
    · refine List.pairwise_append.mpr ⟨hr.final, List.pairwise_singleton _ _, fun c' hc' _ _ hfails => ?_⟩
      exact absurd hfails (hr.working hu c' hc')
    · rw [elapsed_append, ← hr.time]
      exact htime
    · rcases List.mem_append.mp hc' with hc' | hc'
      · exact hr.held h c' hc'
      · cases List.mem_singleton.mp hc'
        exact ⟨hterminate, hfree⟩
    · rw [List.countP_append, List.countP_singleton, if_neg hterminate]
      exact hr.terminated
    · rw [List.countP_append, List.countP_singleton, if_neg hfree]
      exact hr.freed

omit [PyFloat F] in
theorem countP_append_le {p : Call F → Bool} {calls made : List (Call F)} (hcalls : calls.countP p ≤ 1)
    (hmade : made.countP p ≤ 1) (h : made ≠ [] → ∀ c ∈ calls, ¬ p c) : (calls ++ made).countP p ≤ 1 := by
  rw [List.countP_append]
  by_cases hnil : made = []
  · rw [hnil]
    exact hcalls
  · rw [List.countP_eq_zero.mpr (h hnil), Nat.zero_add]
    exact hmade

/-- A held FMU has not been closed, so that what a close does it does for the first time. -/
theorem close_sound {r : Runner F σ} (hr : Sound r) : Sound (close N r).2 := by
  obtain ⟨native, ended, freed, hclose, hended, hfreed⟩ := close_state N r
  rw [hclose, List.append_assoc]
  have hheld : ended ++ freed ≠ [] → r.fmu := by
    rcases hended with rfl | ⟨hfmu, -⟩
    · rcases hfreed with rfl | ⟨hfmu, -⟩
      · exact fun h => absurd rfl h
      · exact fun _ => hfmu
    · exact fun _ => hfmu
  have hmade : ∀ c ∈ ended ++ freed, ¬ c.isTransfer ∧ (c.isTerminate → r.Usable) ∧ c.completed = none := by
    intro c hc
    rcases List.mem_append.mp hc with hc | hc
    · rcases hended with rfl | ⟨-, hu, outcome, rfl⟩
      · cases hc
      · cases List.mem_singleton.mp hc
        exact ⟨nofun, fun _ => hu, rfl⟩
    · rcases hfreed with rfl | ⟨-, outcome, rfl⟩
      · cases hc
      · cases List.mem_singleton.mp hc
        exact ⟨nofun, nofun, rfl⟩
  have hcompleted : (ended ++ freed).filterMap Call.completed = [] :=
    List.filterMap_eq_nil_iff.mpr fun c hc => (hmade c hc).2.2
  have hended' : ended = [] ∨ ∃ outcome, ended = [.terminate outcome] := hended.imp_right fun h => h.2.2
  have hfreed' : freed = [] ∨ ∃ outcome, freed = [.freeInstance outcome] := hfreed.imp_right And.right
  refine ⟨fun h => absurd h.1 (by simp), ?_, ?_, nofun, ?_, ?_⟩
  · refine List.pairwise_append.mpr ⟨hr.final, ?_, fun c hc c' hc' hfails => ?_⟩
    · rcases hended' with rfl | ⟨_, rfl⟩ <;> rcases hfreed' with rfl | ⟨_, rfl⟩ <;>
        simp [Call.isTransfer, Call.isTerminate]
    · obtain ⟨htransfer, hterminate, -⟩ := hmade c' hc'
      exact ⟨htransfer, fun h => hr.working (hterminate h) c hc hfails⟩
  · unfold elapsed
    rw [List.filterMap_append, hcompleted, List.append_nil]
    exact hr.time
  · refine countP_append_le hr.terminated ?_ fun h c hc => (hr.held (hheld h) c hc).1
    rcases hended' with rfl | ⟨_, rfl⟩ <;> rcases hfreed' with rfl | ⟨_, rfl⟩ <;>
      simp [List.countP_cons, Call.isTerminate]
  · refine countP_append_le hr.freed ?_ fun h c hc => (hr.held (hheld h) c hc).2
    rcases hended' with rfl | ⟨_, rfl⟩ <;> rcases hfreed' with rfl | ⟨_, rfl⟩ <;>
      simp [List.countP_cons, Call.isFree]

theorem map_state {S α β : Type} (f : α → β) (x : PyM S α) (s : S) : ((f <$> x) s).2 = (x s).2 := by
  rw [map_eq_pure_bind, Exec.run_bind]
  match x s with
  | (.ok a, s') => rfl
  | (.error e, s') => rfl

theorem exec_sound (op : Op F) {r : Runner F σ} (hr : Sound r) : Sound (op.exec N r).2 := by
  cases op <;> unfold Op.exec <;> rw [map_state]
  case set name value => exact (set_effect N name value r).sound hr
  case get name => exact (get_effect N name r).sound hr
  case step dt => exact (step_effect N dt r).sound hr
  case close => exact close_sound N hr

theorem run_sound (ops : List (Op F)) {r : Runner F σ} (hr : Sound r) : Sound (run N ops r) := by
  induction ops generalizing r with
  | nil => exact hr
  | cons op rest ih => exact ih (exec_sound N op hr)

/-! The constructor. -/

abbrev Untouched : Runner F σ → Runner F σ → Prop := Exec.Fixes fun r => (r.calls, r.time)

omit [PyFloat F] in
theorem onNative_untouched {α : Type} (x : PyM σ α) : (onNative x : PyM (Runner F σ) α).Keeps Untouched :=
  fun _ => rfl

omit [PyFloat F] in
theorem openFmu_untouched (signature : Signature) : (openFmu N signature).Keeps Untouched := by
  unfold openFmu
  refine .bind (onNative_untouched _) fun md => .bind (Exec.keeps_require _ _) fun _ => ?_
  refine .bind (fun _ => rfl) fun _ => .bind (Exec.keeps_ofExcept _) fun _ => ?_
  refine .bind (onNative_untouched _) fun _ => .bind (onNative_untouched _) fun _ => ?_
  refine .bind (fun _ => rfl) fun _ => .bind (onNative_untouched _) fun _ => ?_
  exact .bind (onNative_untouched _) fun _ => .bind (onNative_untouched _) fun _ _ => rfl

omit [PyFloat F] in
/-- A runner is made, or there is no folder, or what was opened is closed. -/
theorem construct_cases (signature : Signature) (r : Runner F σ) : ∃ r', Untouched r r' ∧
    (construct N signature r = (.ok (), r') ∨
      (∃ e, construct N signature r = (.error e, r') ∧ r'.initialized = r.initialized) ∨
      ∃ e, construct N signature r = (.error e, (close N r').2)) := by
  unfold construct
  have hfolder : onNative N.openFolder r = ((N.openFolder r.native).1, { r with native := (N.openFolder r.native).2 }) :=
    rfl
  cases houtcome : (N.openFolder r.native).1 with
  | error e =>
    rw [houtcome] at hfolder
    exact ⟨{ r with native := (N.openFolder r.native).2 }, rfl, .inr (.inl ⟨e, Exec.run_bind_error hfolder _, rfl⟩)⟩
  | ok _ =>
    rw [houtcome] at hfolder
    rw [Exec.run_bind_ok hfolder]
    have hopen := openFmu_untouched N signature { r with native := (N.openFolder r.native).2 }
    unfold Exec.handle
    match hresult : openFmu N signature { r with native := (N.openFolder r.native).2 } with
    | (.ok _, r') =>
      rw [hresult] at hopen
      exact ⟨r', hopen, .inl rfl⟩
    | (.error e, r') =>
      rw [hresult] at hopen
      refine ⟨r', hopen, .inr (.inr ?_)⟩
      dsimp only
      cases hclose : close N r' with
      | mk outcome r'' =>
        cases outcome with
        | ok _ => exact ⟨e, Exec.run_bind_ok hclose _⟩
        | error e' => exact ⟨e', Exec.run_bind_error hclose _⟩

theorem construct_sound (signature : Signature) (native : σ) :
    Sound (construct N signature ({ native, time := 0 } : Runner F σ)).2 := by
  obtain ⟨r, hr, hconstruct⟩ := construct_cases N signature ({ native, time := 0 } : Runner F σ)
  have hsound : Sound r := sound_of_fresh (Prod.mk.inj hr).1 (Prod.mk.inj hr).2
  rcases hconstruct with h | ⟨e, h, -⟩ | ⟨e, h⟩ <;> rw [h]
  · exact hsound
  · exact hsound
  · exact close_sound N hsound

theorem life_sound (signature : Signature) (native : σ) (ops : List (Op F)) : Sound (life N signature native ops) := by
  have hsound := construct_sound N signature native
  unfold life
  match hresult : construct N signature ({ native, time := 0 } : Runner F σ) with
  | (.ok _, r) =>
    rw [hresult] at hsound
    exact run_sound N ops hsound
  | (.error e, r) =>
    rw [hresult] at hsound
    exact hsound

/-! After a close. -/

omit [PyFloat F] in
theorem close_ends (r : Runner F σ) : (close N r).2.initialized = false := by
  obtain ⟨_, _, _, hclose, -⟩ := close_state N r
  rw [hclose]

theorem exec_close (r : Runner F σ) : (Op.close.exec N r).2.initialized = false := by
  unfold Op.exec
  rw [map_state]
  exact close_ends N r

theorem Effect.initialized {r r' : Runner F σ} (h : Effect r r') : r'.initialized = r.initialized := by
  cases h <;> rfl

theorem exec_initialized (op : Op F) {r : Runner F σ} (hr : r.initialized = false) :
    (op.exec N r).2.initialized = false := by
  cases op with
  | set name value =>
    unfold Op.exec
    rw [map_state]
    exact (set_effect N name value r).initialized.trans hr
  | get name =>
    unfold Op.exec
    rw [map_state]
    exact (get_effect N name r).initialized.trans hr
  | step dt =>
    unfold Op.exec
    rw [map_state]
    exact (step_effect N dt r).initialized.trans hr
  | close => exact exec_close N r

theorem run_initialized (ops : List (Op F)) {r : Runner F σ} (hr : r.initialized = false) :
    (run N ops r).initialized = false := by
  induction ops generalizing r with
  | nil => exact hr
  | cons op rest ih => exact ih (exec_initialized N op hr)

theorem run_closed {ops : List (Op F)} (h : .close ∈ ops) (r : Runner F σ) : (run N ops r).initialized = false := by
  induction ops generalizing r with
  | nil => cases h
  | cons op rest ih =>
    rcases List.mem_cons.mp h with hop | hrest
    · subst hop
      exact run_initialized N rest (exec_close N r)
    · exact ih hrest _

theorem life_closed (signature : Signature) (native : σ) {ops : List (Op F)} (h : .close ∈ ops) :
    (life N signature native ops).initialized = false := by
  obtain ⟨r, -, hconstruct⟩ := construct_cases N signature ({ native, time := 0 } : Runner F σ)
  unfold life
  rcases hconstruct with hr | ⟨e, hr, hinitialized⟩ | ⟨e, hr⟩ <;> rw [hr]
  · exact run_closed N h r
  · exact hinitialized
  · exact close_ends N r

/-! Calls that raise before the FMU is called. -/

theorem map_error {S α β : Type} {f : α → β} {x : PyM S α} {s s' : S} {e : Exc} (h : x s = (.error e, s')) :
    (f <$> x) s = (.error e, s') := by
  rw [map_eq_pure_bind, Exec.run_bind_error h]

theorem unusable_raises {r : Runner F σ} (hr : ¬ r.Usable) {op : Op F} (hop : op ≠ .close) :
    op.exec N r = (.error closedOrFailed, r) := by
  have hcheck : check r = (.error closedOrFailed, r) := ((check_cases r).resolve_left fun h => hr h.1).2
  cases op with
  | close => exact absurd rfl hop
  | set name value => exact map_error (Exec.run_bind_error hcheck _)
  | get name => exact map_error (Exec.run_bind_error hcheck _)
  | step dt => exact map_error (Exec.run_bind_error hcheck _)

/-- Arguments that are refused. -/
inductive Rejected (variableByName : List (String × Variable)) : Op F → Prop
  | setUnknown {name : String} (hname : variableByName.lookup name = none) (value : Value F) :
      Rejected variableByName (.set name value)
  | getUnknown {name : String} (hname : variableByName.lookup name = none) : Rejected variableByName (.get name)
  | notWritable {name : String} {v : Variable} (hname : variableByName.lookup name = some v)
      (hinput : v.causality ≠ .input) (hparameter : v.causality ≠ .parameter) (value : Value F) :
      Rejected variableByName (.set name value)
  | nonfinite (name : String) {x : F} (hx : isFinite x = false) : Rejected variableByName (.set name (.float x))
  | outOfRange {name : String} {v : Variable} (hname : variableByName.lookup name = some v) {format : Bool × Nat}
      (hformat : v.type.integer = some format) {value : Value F}
      (hvalue : ∀ n, value.integral = some n → n < (range format).1 ∨ (range format).2 < n) :
      Rejected variableByName (.set name value)
  | notBoolean {name : String} {v : Variable} (hname : variableByName.lookup name = some v)
      (htype : v.type = .boolean) {value : Value F} (hvalue : ∀ b, value ≠ .bool b) :
      Rejected variableByName (.set name value)
  | nonfiniteStep {dt : F} (hdt : isFinite dt = false) : Rejected variableByName (.step dt)
  | nonpositiveStep {dt : F} (hdt : dt ≤ 0) : Rejected variableByName (.step dt)

/-- What passes. -/
theorem validate_ok {v : Variable} {name : String} {value : Value F} (h : validate v name value = .ok ()) :
    v.causality ∈ [.input, .parameter] ∧ isNonfinite value = false ∧
      (∀ format, v.type.integer = some format → inRange format value) ∧ (v.type = .boolean → isBool value) := by
  unfold validate at h
  by_cases hcausality : v.causality ∈ [.input, .parameter]
  swap
  · rw [if_pos hcausality] at h
    cases h
  rw [if_neg (not_not.mpr hcausality)] at h
  cases hfinite : isNonfinite value with
  | true =>
    rw [if_pos hfinite] at h
    cases h
  | false =>
    rw [hfinite, if_neg Bool.false_ne_true] at h
    refine ⟨hcausality, rfl, ?_⟩
    have hbool : ∀ {e : Exc}, (if v.type = .boolean ∧ ¬ isBool value then throw e else pure ()) = (.ok () : Except Exc Unit) →
        v.type = .boolean → isBool value := by
      intro e hif htype
      by_contra hvalue
      rw [if_pos ⟨htype, hvalue⟩] at hif
      cases hif
    cases hinteger : v.type.integer with
    | none =>
      rw [hinteger] at h
      exact ⟨nofun, hbool h⟩
    | some format =>
      rw [hinteger] at h
      by_cases hrange : inRange format value
      · refine ⟨fun _ hformat => Option.some.inj hformat ▸ hrange, ?_⟩
        simp only [hrange] at h
        exact hbool h
      · simp only [hrange] at h
        cases h

theorem validate_rejects {variableByName : List (String × Variable)} {name : String} {value : Value F}
    (h : Rejected variableByName (.set name value)) {v : Variable} (hv : variableByName.lookup name = some v) :
    ∃ e, validate v name value = .error e := by
  cases hresult : validate v name value with
  | error e => exact ⟨e, rfl⟩
  | ok _ =>
    obtain ⟨hcausality, hfinite, hinteger, hboolean⟩ := validate_ok hresult
    exfalso
    cases h with
    | setUnknown hname => cases hname.symm.trans hv
    | notWritable hname hinput hparameter =>
      cases hname.symm.trans hv
      rcases List.mem_cons.mp hcausality with h | h
      · exact hinput h
      · exact hparameter (List.mem_singleton.mp h)
    | nonfinite _ hx =>
      have htrue := Bool.not_eq_eq_eq_not.mp hfinite
      cases hx.symm.trans htrue
    | outOfRange hname hformat hvalue =>
      cases hname.symm.trans hv
      have hrange := hinteger _ hformat
      unfold inRange at hrange
      cases hn : value.integral with
      | none =>
        rw [hn] at hrange
        cases hrange
      | some n =>
        rw [hn] at hrange
        have hbounds := of_decide_eq_true hrange
        rcases hvalue n hn with h | h <;> omega
    | notBoolean hname htype hvalue =>
      cases hname.symm.trans hv
      have hbool := hboolean htype
      cases value with
      | bool b => exact hvalue b rfl
      | _ => cases hbool

theorem rejected_raises {r : Runner F σ} {op : Op F} (h : Rejected r.variableByName op) :
    ∃ e, op.exec N r = (.error e, r) := by
  rcases check_cases r with ⟨-, hcheck⟩ | ⟨-, hcheck⟩
  swap
  · cases op with
    | close => cases h
    | set name value => exact ⟨_, map_error (Exec.run_bind_error hcheck _)⟩
    | get name => exact ⟨_, map_error (Exec.run_bind_error hcheck _)⟩
    | step dt => exact ⟨_, map_error (Exec.run_bind_error hcheck _)⟩
  cases op with
  | close => cases h
  | set name value =>
    suffices hset : ∃ e, set N name value r = (.error e, r) from hset.imp fun _ => map_error
    unfold set
    rw [Exec.run_bind_ok hcheck]
    rcases variableOf_cases name r with ⟨v, hname, hv⟩ | ⟨-, e, hv⟩
    · obtain ⟨e, hvalidate⟩ := validate_rejects h hname
      rw [Exec.run_bind_ok hv, Exec.run_ofExcept_bind, hvalidate]
      exact ⟨e, rfl⟩
    · exact ⟨e, Exec.run_bind_error hv _⟩
  | get name =>
    suffices hget : ∃ e, get N name r = (.error e, r) from hget.imp fun _ => map_error
    unfold get
    rw [Exec.run_bind_ok hcheck]
    rcases variableOf_cases name r with ⟨v, hname, -⟩ | ⟨-, e, hv⟩
    · cases h with
      | getUnknown hunknown => cases hunknown.symm.trans hname
    · exact ⟨e, Exec.run_bind_error hv _⟩
  | step dt =>
    suffices hstep : ∃ e, step N dt r = (.error e, r) from hstep.imp fun _ => map_error
    unfold step
    rw [Exec.run_bind_ok hcheck]
    rcases Exec.require_cases (isFinite dt ∧ ¬ dt ≤ 0) (valueError "FMU step must be finite and positive") r with
      ⟨⟨hfinite, hpositive⟩, -⟩ | ⟨-, hdt⟩
    · cases h with
      | nonfiniteStep hdt => cases hfinite.symm.trans hdt
      | nonpositiveStep hdt => exact absurd hdt hpositive
    · exact ⟨_, Exec.run_bind_error hdt _⟩

/-- Over a whole life: a failure is final, the time is that of the completed steps, what is refused does
nothing, a close ends it, and the FMU is terminated and freed at most once. -/
theorem life_lawful (signature : Signature) (native : σ) (ops : List (Op F)) :
    (life N signature native ops).calls.Pairwise (fun c c' => c.failed → ¬ c'.isTransfer ∧ ¬ c'.isTerminate) ∧
      (life N signature native ops).time = elapsed (life N signature native ops).calls ∧
      (life N signature native ops).calls.countP Call.isTerminate ≤ 1 ∧
      (life N signature native ops).calls.countP Call.isFree ≤ 1 ∧
      (∀ op : Op F, Rejected (life N signature native ops).variableByName op →
        ∃ e, op.exec N (life N signature native ops) = (.error e, life N signature native ops)) ∧
      (Op.close ∈ ops → ∀ op : Op F, op ≠ .close →
        ∃ e, op.exec N (life N signature native ops) = (.error e, life N signature native ops)) := by
  have hsound := life_sound N signature native ops
  refine ⟨hsound.final, hsound.time, hsound.terminated, hsound.freed, fun op => rejected_raises N, fun h op hop => ?_⟩
  have hunusable : ¬ (life N signature native ops).Usable := by
    rintro ⟨hinitialized, -⟩
    cases hinitialized.symm.trans (life_closed N signature native h)
  exact ⟨_, unusable_raises N hunusable hop⟩

end EthercatSimulator.Runtime.FmiRunner
