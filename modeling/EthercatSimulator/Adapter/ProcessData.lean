import EthercatSimulator.Adapter.CopleyLaws

/-! Frames and SDO writes of both adapters: a frame is taken as a whole or not at all, and the mode of
operation stays one the adapter knows. -/

namespace EthercatSimulator.Adapter

open Base Profile Diagnostics Behaviour EthercatSimulator.Runtime PyFloat

/-! Where the objects of a frame lie. -/

section Layout

variable {F : Type} {objects : List PdoObject} {payload : Bytes}

def frameSize (objects : List PdoObject) : Nat := (objects.map (·.byteLength)).sum

/-- The bytes of object `i` of the layout. -/
def sliceAt (objects : List PdoObject) (payload : Bytes) (i : Nat) (o : PdoObject) : Bytes :=
  (payload.drop (frameSize (objects.take i))).take o.byteLength

def mappedKey : PdoObject → Option Key
  | .mapped key _ _ => some key
  | .padding _ => none

/-- Every mapped object has the value of its slice, and the others have the value they had. -/
structure Spread (objects : List PdoObject) (payload : Bytes) (od od' : Od F) : Prop where
  mapped : ∀ (i : Nat) key t default, objects[i]? = some (.mapped key t default) →
    decodeOdValue t (sliceAt objects payload i (.mapped key t default)) = .ok (od' key)
  other : ∀ key, key ∉ objects.filterMap mappedKey → od' key = od key

theorem rxpdoObject_mapped (key : Key) {t : DataType} {raw : Bytes} (default : Int)
    (hlen : raw.length = t.size) (od : Od F) : ∃ v, decodeOdValue t raw = .ok v ∧
      rxpdoObject (.mapped key t default) raw od = (.ok (), od.write key v) := by
  obtain ⟨v, hv⟩ := decodeOdValue_ok (F := F) hlen
  refine ⟨v, hv, ?_⟩
  unfold rxpdoObject
  dsimp only
  rw [hv]
  rfl

theorem rxpdoFrom_cons {o : PdoObject} {rest : List PdoObject} {offset : Nat} {od od' : Od F}
    (hlen : offset + o.byteLength ≤ payload.length)
    (ho : rxpdoObject o ((payload.drop offset).take o.byteLength) od = (.ok (), od')) :
    rxpdoFrom payload (o :: rest) offset od = rxpdoFrom payload rest (offset + o.byteLength) od' := by
  have hrequire : (Exec.require (offset + o.byteLength ≤ payload.length)
      (payloadTooSmall (offset + o.byteLength) payload.length) : PyM (Od F) Unit) od = (.ok (), od) := by
    rw [Exec.require, if_pos hlen]
    rfl
  rw [rxpdoFrom]
  exact (Exec.run_bind_ok hrequire _).trans (Exec.run_bind_ok ho _)

theorem sliceAt_succ (o : PdoObject) (rest : List PdoObject) (payload : Bytes) (offset i : Nat) (o' : PdoObject) :
    sliceAt (o :: rest) (payload.drop offset) (i + 1) o' =
      sliceAt rest (payload.drop (offset + o.byteLength)) i o' := by
  unfold sliceAt frameSize
  rw [List.take_succ_cons, List.map_cons, List.sum_cons, List.drop_drop, List.drop_drop, Nat.add_assoc]

/-- A frame that is long enough is spread over the objects of a layout that names each of them once. -/
theorem rxpdoFrom_spread (hdistinct : (objects.filterMap mappedKey).Nodup) {offset : Nat}
    (hlen : offset + frameSize objects ≤ payload.length) (od : Od F) : ∃ od',
      rxpdoFrom payload objects offset od = (.ok (), od') ∧ Spread objects (payload.drop offset) od od' := by
  induction objects generalizing offset od with
  | nil => exact ⟨od, rfl, fun i key t default h => by simp at h, fun _ _ => rfl⟩
  | cons o rest ih =>
    have hsize : frameSize (o :: rest) = o.byteLength + frameSize rest := List.sum_cons
    have hobject : offset + o.byteLength ≤ payload.length := by omega
    cases o with
    | padding n =>
      have hrest : offset + n + frameSize rest ≤ payload.length := by
        have : (PdoObject.padding n).byteLength = n := rfl
        omega
      obtain ⟨od', hrun, hspread⟩ := ih hdistinct hrest od
      refine ⟨od', (rxpdoFrom_cons (o := .padding n) hobject rfl).trans hrun, fun i key t default h => ?_,
        hspread.other⟩
      cases i with
      | zero => cases h
      | succ i =>
        rw [sliceAt_succ]
        exact hspread.mapped i key t default h
    | mapped key t default =>
      have hkeys : (PdoObject.mapped key t default :: rest).filterMap mappedKey =
          key :: rest.filterMap mappedKey := rfl
      rw [hkeys, List.nodup_cons] at hdistinct
      have hraw : ((payload.drop offset).take t.size).length = t.size := by
        have : (PdoObject.mapped key t default).byteLength = t.size := rfl
        rw [List.length_take, List.length_drop]
        omega
      obtain ⟨v, hv, hwrite⟩ := rxpdoObject_mapped key default hraw od
      have hrest : offset + t.size + frameSize rest ≤ payload.length := by
        have : (PdoObject.mapped key t default).byteLength = t.size := rfl
        omega
      obtain ⟨od', hrun, hspread⟩ := ih hdistinct.2 hrest (od.write key v)
      refine ⟨od', (rxpdoFrom_cons hobject hwrite).trans hrun, fun i key' t' default' h => ?_, fun key' hkey => ?_⟩
      · cases i with
        | zero =>
          cases h
          rw [hspread.other key hdistinct.1, od.write_same]
          exact hv
        | succ i =>
          rw [sliceAt_succ]
          exact hspread.mapped i key' t' default' h
      · rw [hkeys, List.mem_cons, not_or] at hkey
        exact (hspread.other key' hkey.2).trans (od.write_of_ne v hkey.1)

theorem rxpdoPayloadToOd_spread (hlen : payload.length = rxSize) (od : Od F) : ∃ od',
    rxpdoPayloadToOd payload od = (.ok (), od') ∧ Spread rxpdoObjects payload od od' :=
  have hframe : 0 + frameSize rxpdoObjects ≤ payload.length := by
    rw [Nat.zero_add, hlen]
    exact le_rfl
  rxpdoFrom_spread (by decide) hframe od

end Layout

/-! The mode of operation. -/

section Modes

variable {F : Type} {modes : List Int} {od od' : Od F}

/-- No mode is selected, or one of `modes`. -/
def Allowed (modes : List Int) (od : Od F) : Prop :=
  ∃ n, od Key.modeOfOperation = .int n ∧ (n = 0 ∨ n ∈ modes)

theorem decode_int8 {raw : Bytes} {v : Value F} (h : decodeOdValue .int8 raw = .ok v) :
    (raw.take 1).length = 1 ∧ v = .int (leInt (raw.take 1)) := by
  unfold decodeOdValue at h
  dsimp only at h
  split at h
  · rename_i hlen
    cases h
    exact ⟨hlen, rfl⟩
  · cases h

/-- A small integer has the sign and the value of its lowest byte. -/
theorem leInt_take_one {payload : Bytes} (hlen : (payload.take 1).length = 1) (hlow : -128 ≤ leInt payload)
    (hhigh : leInt payload < 128) : leInt (payload.take 1) = leInt payload := by
  cases payload with
  | nil => cases hlen
  | cons b bs =>
    have hbyte : leInt [b] % 256 = b.toNat := by
      have hmod := leInt_mod [b]
      rw [List.length_singleton, pow_one] at hmod
      exact hmod
    have hall : leInt (b :: bs) % 256 = b.toNat := by
      have hmod := leInt_mod (b :: bs)
      rw [List.length_cons, pow_succ] at hmod
      have hdvd : (256 : Int) ∣ 256 ^ bs.length * 256 := Dvd.intro_left _ rfl
      rw [← Int.emod_emod_of_dvd _ hdvd, hmod]
      have hb := b.toNat_lt
      unfold leNat
      omega
    have hbounds := leInt_bounds [b]
    rw [List.length_singleton, pow_one] at hbounds
    change leInt [b] = _
    omega

theorem Allowed.sdo (h : Allowed modes od) {key : Key} {payload : Bytes}
    (hwrite : bridgeWriteSdo od key payload = .ok od')
    (hmode : key = Key.modeOfOperation → ∀ v : Value F, decodeOdValue .int8 payload = .ok v →
      ∃ n, v = .int n ∧ (n = 0 ∨ n ∈ modes)) : Allowed modes od' := by
  obtain ⟨d, v, hd, -, hv, rfl⟩ := bridgeWriteSdo_ok hwrite
  unfold Allowed
  by_cases hkey : key = Key.modeOfOperation
  · subst hkey
    cases hd
    rw [od.write_same]
    exact hmode rfl v hv
  · rw [od.write_of_ne v (Ne.symm hkey)]
    exact h

end Modes

/-- A call that writes to the dictionary. -/
inductive Write
  | frame (payload : Bytes)
  | sdo (key : Key) (payload : Bytes)

section Adapters

variable {F σ : Type}

/-- A refused call leaves the adapter as the call left it. -/
def written (A : DriveAdapter F σ) (s : σ) : Write → σ
  | .frame payload => (A.applyOutputs payload s).2
  | .sdo key payload => (A.writeSdo key payload s).2

/-- A frame is spread over the objects, or the dictionary stays as it is. -/
def WholeFrames (A : DriveAdapter F σ) (od : σ → Od F) : Prop := ∀ payload s,
  match A.applyOutputs payload s with
  | (.ok (), s') => Spread rxpdoObjects payload (od s) (od s')
  | (.error _, s') => od s' = od s

/-- What a frame makes of the dictionary, where it is refused unless it selects one of `modes`. -/
def FrameOutcome (modes : List Int) (payload : Bytes) (od : Od F) (r : Except Exc Unit) (od' : Od F) : Prop :=
  (∃ e, r = .error e ∧ od' = od) ∨ r = .ok () ∧ Spread rxpdoObjects payload od od' ∧ Allowed modes od'

variable {A : DriveAdapter F σ} {od : σ → Od F} {modes : List Int}

theorem wholeFrames_of (h : ∀ payload s, (A.applyOutputs payload).Post s fun r s' =>
    FrameOutcome modes payload (od s) r (od s')) : WholeFrames A od := by
  intro payload s
  have houtcome := h payload s
  unfold Exec.Post at houtcome
  generalize A.applyOutputs payload s = p at houtcome
  obtain ⟨r, s'⟩ := p
  rcases houtcome with ⟨e, rfl, hod⟩ | ⟨rfl, hspread, -⟩
  · exact hod
  · exact hspread

theorem written_allowed (hframe : ∀ payload s, (A.applyOutputs payload).Post s fun r s' =>
      FrameOutcome modes payload (od s) r (od s'))
    (hsdo : ∀ key payload s, Allowed modes (od s) → Allowed modes (od (A.writeSdo key payload s).2))
    {s : σ} (h : Allowed modes (od s)) (writes : List Write) : Allowed modes (od (writes.foldl (written A) s)) := by
  induction writes generalizing s with
  | nil => exact h
  | cons w writes ih =>
    cases w with
    | frame payload =>
      rcases hframe payload s with ⟨e, -, hod⟩ | ⟨-, -, hallowed⟩
      · exact ih (hod ▸ h)
      · exact ih hallowed
    | sdo key payload => exact ih (hsdo key payload s h)

end Adapters

/-! The virtual servo. -/

namespace FKrCmmt

variable {F : Type} [PyFloat F] {s : Servo F}

omit [PyFloat F] in
theorem validateMode_post (mode : Int) (s : Servo F) :
    (validateMode mode).Post s fun r _ => r = .ok () → mode = 0 ∨ mode ∈ supportedModes :=
  Exec.post_require (fun h _ => h) fun _ => nofun

omit [PyFloat F] in
theorem validateModes_post (payload : Bytes) (objects : List PdoObject) (offset : Nat) (s : Servo F) :
    (validateModes payload objects offset).Post s fun r _ => r = .ok () →
      ∀ (i : Nat) t default, objects[i]? = some (.mapped Key.modeOfOperation t default) →
        let n := leInt (sliceAt objects (payload.drop offset) i (.mapped Key.modeOfOperation t default))
        n = 0 ∨ n ∈ supportedModes := by
  induction objects generalizing offset s with
  | nil => exact fun _ i t default hi => by simp at hi
  | cons o rest ih =>
    cases o with
    | padding n =>
      refine (ih (offset + n) s).mono fun r _ hrest hok i t default hi => ?_
      cases i with
      | zero => cases hi
      | succ i =>
        rw [sliceAt_succ]
        exact hrest hok i t default hi
    | mapped key t' default' =>
      have hobject : (Exec.when (key = Key.modeOfOperation)
          (validateMode (leInt ((payload.drop offset).take t'.size)))).Post s fun r _ => r = .ok () →
            key = Key.modeOfOperation →
              leInt ((payload.drop offset).take t'.size) = 0 ∨
                leInt ((payload.drop offset).take t'.size) ∈ supportedModes := by
        apply Exec.post_when
        · exact fun _ => (validateMode_post _ s).mono fun _ _ h hok _ => h hok
        · exact fun hne _ hkey => absurd hkey hne
      apply Exec.Post.bind
      · refine hobject.mono fun r s' hfirst _ hr => ?_
        refine (ih (offset + t'.size) s').mono fun _ _ hrest hok i t default hi => ?_
        cases i with
        | zero =>
          cases hi
          exact hfirst hr rfl
        | succ i =>
          rw [sliceAt_succ]
          exact hrest hok i t default hi
      · exact hobject.mono fun _ _ _ e _ hok => nomatch hok

omit [PyFloat F] in
theorem applyOutputs_outcome (payload : Bytes) (s : Servo F) : (applyOutputs payload).Post s fun r s' =>
    FrameOutcome supportedModes payload s.od r s'.od := by
  have hkeeps : (validateModes payload rxpdoObjects 0).Post s fun _ s' => s' = s :=
    validateModes_keeps payload rxpdoObjects 0 s
  have hmodes := (validateModes_post payload rxpdoObjects 0 s).and hkeeps
  apply Exec.post_require_bind
  · intro hlen
    apply Exec.Post.bind
    · apply hmodes.mono
      rintro r s' ⟨hallowed, rfl⟩ _ hok
      apply Exec.post_zoom
      obtain ⟨od', hrun, hspread⟩ := rxpdoPayloadToOd_spread hlen s'.od
      unfold Exec.Post
      rw [hrun]
      refine .inr ⟨rfl, hspread, ?_⟩
      have hmode := decode_int8 (hspread.mapped 1 Key.modeOfOperation .int8 8 rfl)
      have hslice := hallowed hok 1 .int8 8 rfl
      have htake (o : PdoObject) : (sliceAt rxpdoObjects payload 1 o).take o.byteLength = sliceAt rxpdoObjects payload 1 o :=
        List.take_of_length_le (List.length_take_le _ _)
      exact ⟨_, hmode.2, (htake (.mapped Key.modeOfOperation .int8 8)).symm ▸ hslice⟩
    · apply hmodes.mono
      rintro r s' ⟨-, rfl⟩ e rfl
      exact .inl ⟨e, rfl, rfl⟩
  · exact fun _ => .inl ⟨_, rfl, rfl⟩

omit [PyFloat F] in
theorem writeSdo_allowed (key : Key) (payload : Bytes) (s : Servo F) (h : Allowed supportedModes s.od) :
    Allowed supportedModes (writeSdo key payload s).2.od := by
  have hmode : (Exec.when (key = Key.modeOfOperation) (validateMode (leInt payload))).Post s
      fun r s' => s' = s ∧ (r = .ok () → key = Key.modeOfOperation →
        leInt payload = 0 ∨ leInt payload ∈ supportedModes) := by
    apply Exec.post_when
    · exact fun _ => Exec.post_require (fun hmode => ⟨rfl, fun _ _ => hmode⟩) fun _ => ⟨rfl, nofun⟩
    · exact fun hne => ⟨rfl, fun _ hkey => absurd hkey hne⟩
  change (writeSdo key payload).Post s fun _ s' => Allowed supportedModes s'.od
  apply Exec.Post.bind
  · apply hmode.mono
    rintro r _ ⟨rfl, hallowed⟩ _ hok
    apply Exec.post_get_bind
    apply Exec.Post.bind
    · apply Exec.post_ofExcept
      intro od' hod
      refine h.sdo hod fun hkey v hv => ?_
      obtain ⟨hlen, rfl⟩ := decode_int8 hv
      have hn := hallowed hok hkey
      have hbounds : -128 ≤ leInt payload ∧ leInt payload < 128 := by
        rcases hn with hzero | hmem
        · omega
        · revert hmem
          generalize leInt payload = n
          simp only [supportedModes, List.mem_cons, List.not_mem_nil, or_false]
          omega
      exact ⟨_, rfl, (leInt_take_one hlen hbounds.1 hbounds.2).symm ▸ hn⟩
    · apply Exec.post_ofExcept
      exact fun _ _ => h
  · apply hmode.mono
    rintro _ _ ⟨rfl, -⟩ _ _
    exact h

end FKrCmmt

/-! The adapter of the FMU. -/

namespace Copley

variable {F ρ : Type} [PyFloat F]

theorem validateObjects_ok {payload : Bytes} {objects : List PdoObject} {offset : Nat}
    (h : validateObjects F payload objects offset = .ok ()) {i : Nat} {k : Key} {t : DataType} {default : Int}
    (hi : objects[i]? = some (.mapped k t default)) : ∃ v : Value F,
      decodeOdValue t (sliceAt objects (payload.drop offset) i (.mapped k t default)) = .ok v ∧
        validateInput k.1 v = .ok () := by
  induction objects generalizing offset i with
  | nil => simp at hi
  | cons o rest ih =>
    unfold validateObjects at h
    obtain ⟨_, hfirst, hrest⟩ := bind_ok.mp h
    cases i with
    | zero =>
      cases hi
      exact bind_ok.mp hfirst
    | succ i =>
      rw [sliceAt_succ]
      exact ih hrest hi

theorem validate_mode {v : Value F} (h : validate 0x6060 v = .ok ()) :
    v.same (.int 0) = true ∨ v.same (.int 1) = true := by
  unfold validate at h
  by_contra hneither
  rw [not_or, Bool.not_eq_true, Bool.not_eq_true] at hneither
  rw [hneither.1, hneither.2, if_pos ⟨rfl, rfl⟩] at h
  cases h

theorem mode_of_validate {n : Int} (h : validate 0x6060 (.int n : Value F) = .ok ()) :
    n = 0 ∨ n ∈ supportedModes := by
  rcases validate_mode h with h | h
  · exact .inl (of_decide_eq_true h)
  · exact .inr (List.mem_singleton.mpr (of_decide_eq_true h))

theorem applyOutputs_outcome (payload : Bytes) (s : Copley F ρ) : (applyOutputs payload).Post s fun r s' =>
    FrameOutcome supportedModes payload s.od r s'.od := by
  apply Exec.post_require_bind
  · intro hlen
    apply Exec.Post.bind
    · apply Exec.post_ofExcept
      intro _ hvalid
      apply Exec.post_zoom
      obtain ⟨od', hrun, hspread⟩ := rxpdoPayloadToOd_spread hlen s.od
      unfold Exec.Post
      rw [hrun]
      refine .inr ⟨rfl, hspread, ?_⟩
      have hmode := hspread.mapped 1 Key.modeOfOperation .int8 8 rfl
      obtain ⟨v, hv, hinput⟩ := validateObjects_ok hvalid (i := 1) (k := Key.modeOfOperation) (t := .int8) rfl
      obtain ⟨_, hvalidate, -⟩ := bind_ok.mp hinput
      cases hv.symm.trans hmode
      obtain ⟨-, hn⟩ := decode_int8 hv
      rw [hn] at hvalidate
      exact ⟨_, hn, mode_of_validate hvalidate⟩
    · apply Exec.post_ofExcept
      exact fun e _ => .inl ⟨e, rfl, rfl⟩
  · exact fun _ => .inl ⟨_, rfl, rfl⟩

theorem writeSdo_allowed (key : Key) (payload : Bytes) (s : Copley F ρ) (h : Allowed supportedModes s.od) :
    Allowed supportedModes (writeSdo key payload s).2.od := by
  change (writeSdo key payload).Post s fun _ s' => Allowed supportedModes s'.od
  apply Exec.post_require_bind
  · intro _
    cases hd : definition key with
    | none => exact h
    | some d =>
      apply Exec.post_require_bind
      · intro _
        apply Exec.Post.bind
        · apply Exec.post_ofExcept
          intro value hvalue
          apply Exec.post_require_bind
          · intro _
            apply Exec.Post.bind
            · apply Exec.post_ofExcept
              intro _ hvalid
              apply Exec.post_get_bind
              apply Exec.Post.bind
              · apply Exec.post_ofExcept
                intro od' hod
                refine h.sdo hod fun hkey v hv => ?_
                subst hkey
                cases hd
                cases hvalue.symm.trans hv
                obtain ⟨-, rfl⟩ := decode_int8 hv
                exact ⟨_, rfl, mode_of_validate hvalid⟩
              · apply Exec.post_ofExcept
                exact fun _ _ => h
            · apply Exec.post_ofExcept
              exact fun _ _ => h
          · exact fun _ => h
        · apply Exec.post_ofExcept
          exact fun _ _ => h
      · exact fun _ => h
  · exact fun _ => h

omit [PyFloat F] in
theorem keeps_mode {key : Key} (h : key ≠ Key.modeOfOperation) (v : Value F) :
    (write key v : PyM (Copley F ρ) Unit).Keeps (Exec.Fixes fun s => s.od Key.modeOfOperation) :=
  fun s => s.od.write_of_ne v h.symm

omit [PyFloat F] in
theorem onRunner_mode {α : Type} (x : PyM ρ α) :
    (onRunner x : PyM (Copley F ρ) α).Keeps (Exec.Fixes fun s => s.od Key.modeOfOperation) := fun _ => rfl

variable {R : Runner F ρ}

theorem refresh_mode : (refresh R).Keeps (Exec.Fixes fun s => s.od Key.modeOfOperation) := by
  refine .bind (onRunner_mode _) fun _ => .bind (keeps_mode (by decide) _) fun _ => ?_
  refine .bind (onRunner_mode _) fun _ => .bind (keeps_mode (by decide) _) fun _ => ?_
  refine .bind (onRunner_mode _) fun _ => .bind (keeps_mode (by decide) _) fun _ => ?_
  refine .bind (onRunner_mode _) fun _ => .bind (keeps_mode (by decide) _) fun _ => ?_
  refine .bind (onRunner_mode _) fun _ => .bind Exec.keeps_get fun _ => ?_
  exact .bind (Exec.keeps_ofExcept _) fun _ => keeps_mode (by decide) _

theorem initialise_mode : (initialise R).Keeps (Exec.Fixes fun s => s.od Key.modeOfOperation) := by
  refine .bind Exec.keeps_get fun _ => .bind (onRunner_mode _) fun _ => ?_
  refine .bind (Exec.keeps_ofExcept _) fun _ => .bind (keeps_mode (by decide) _) fun _ => ?_
  refine .bind (onRunner_mode _) fun _ => .bind (Exec.keeps_ofExcept _) fun _ => ?_
  exact .bind (keeps_mode (by decide) _) fun _ => .bind (keeps_mode (by decide) _) fun _ => refresh_mode

theorem construct_allowed {axisMode : AxisMode} {runner : ρ} {s : Copley F ρ}
    (h : construct R axisMode runner = .ok s) : Allowed supportedModes s.od := by
  have hkept := initialise_mode (R := R) (configured axisMode runner)
  unfold construct at h
  generalize initialise R (configured axisMode runner) = p at h hkept
  obtain ⟨r, s'⟩ := p
  cases r with
  | error e => cases h
  | ok _ =>
    cases h
    refine ⟨1, Eq.trans hkept ?_, .inr (List.mem_singleton.mpr rfl)⟩
    unfold configured
    dsimp only
    rw [Od.write_of_ne _ _ (by decide), Od.write_same]

end Copley

/-- What both adapters promise their callers. -/
structure Guarded {F σ : Type} (A : DriveAdapter F σ) (od : σ → Od F) (modes : List Int) : Prop where
  whole : WholeFrames A od
  allowed : ∀ s (writes : List Write), Allowed modes (od s) → Allowed modes (od (writes.foldl (written A) s))

/-- Frames are taken as a whole or not at all, and no sequence of frames and SDO writes selects a mode
the adapter does not know. -/
theorem adapters_guarded {F ρ : Type} [PyFloat F] (R : Runner F ρ) :
    Guarded (fKrCmmt F) Servo.od FKrCmmt.supportedModes ∧ Guarded (copley R) Copley.od Copley.supportedModes ∧
      (∀ axisMode, Allowed FKrCmmt.supportedModes (Servo.construct axisMode : Servo F).od) ∧
      ∀ axisMode runner s, Copley.construct R axisMode runner = .ok s → Allowed Copley.supportedModes s.od := by
  refine ⟨⟨wholeFrames_of FKrCmmt.applyOutputs_outcome, fun s writes h => ?_⟩,
    ⟨wholeFrames_of Copley.applyOutputs_outcome, fun s writes h => ?_⟩, fun axisMode => ?_, ?_⟩
  · exact written_allowed (A := fKrCmmt F) FKrCmmt.applyOutputs_outcome FKrCmmt.writeSdo_allowed h writes
  · exact written_allowed (A := copley R) Copley.applyOutputs_outcome Copley.writeSdo_allowed h writes
  · exact ⟨8, by cases axisMode <;> rfl, by decide⟩
  · exact fun axisMode runner s => Copley.construct_allowed

end EthercatSimulator.Adapter
