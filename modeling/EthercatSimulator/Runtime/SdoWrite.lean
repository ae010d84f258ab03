import EthercatSimulator.Runtime.ModelLaws
import EthercatSimulator.Profile.Sound

/-! An SDO write takes effect as a whole or not at all. -/

namespace EthercatSimulator.Runtime

open Base Profile Diagnostics

/-- The caller's own mistakes, which the boundary around SDO access hands back. -/
def Expected (e : Exc) : Prop := e.isOSError = false ∧ (e.isDeviceRejected || e.isKeyError || e.isValueError) = true

/-- An adapter whose objects live in one dictionary. -/
structure OdAccess {F σ : Type} [PyFloat F] (A : DriveAdapter F σ) where
  od : σ → Od F
  readInputs : ∀ s, A.readInputs s = (odToTxpdoPayload (od s), s)
  readSdo : ∀ key size s, A.readSdo key size s = (bridgeReadSdo (od s) key, s)
  writeSdo : ∀ key payload s, (A.writeSdo key payload).Post s fun r s' =>
    (∃ e, r = .error e ∧ s' = s ∧
      ((∀ d, definition key = some d → payload.length = d.dataType.size) → Expected e)) ∨
    r = .ok () ∧ bridgeWriteSdo (od s) key payload = .ok (od s')
  saveCommand : ∀ b s, (A.writeSdo Key.parameterSaveCommand [b]).Runs s
  odRead : ∀ key s, A.odRead key s = (.ok ((od s).read key), s)
  odWriteRole : ∀ key v s, ∃ s', A.odWriteRole key v s = (.ok (), s') ∧ od s' = (od s).write key v
  validateParameters : ∀ s, (A.validateParameters s).2 = s

/-- SDO access keeps what decoding gives, and what the outcome of a save has. -/
theorem OdAccess.sdoCalls {F σ : Type} [PyFloat F] {A : DriveAdapter F σ} (h : OdAccess A)
    {P : Key → Definition → Value F → Prop} (hP : Takes P)
    (houtcome : ∀ kn ∈ Axis.saveOutcome, ∀ d, definition kn.1 = some d → P kn.1 d (.int kn.2)) :
    Axis.SdoCalls A (Exec.Preserves fun s => (h.od s).Meets P) where
  readSdo key size s hs := by
    rw [h.readSdo]
    exact hs
  writeSdo key payload s hs := by
    rcases h.writeSdo key payload s with ⟨_, _, heq, _⟩ | ⟨_, hwrite⟩
    · rw [heq]
      exact hs
    · exact hs.bridgeWrite hP hwrite
  odRead key s hs := by
    rw [h.odRead]
    exact hs
  odWriteRole kn hkn s hs := by
    obtain ⟨s', hrun, hod⟩ := h.odWriteRole kn.1 (.int kn.2) s
    rw [hrun]
    exact (congrArg (Od.Meets P) hod).mpr (hs.write _ _ (houtcome kn hkn))
  validateParameters s hs := by
    rw [h.validateParameters]
    exact hs

namespace Axis

variable {F σ : Type} [PyFloat F] {A : DriveAdapter F σ} {m : Moment F} {a : Axis F σ}

omit [PyFloat F] in
/-- Calls that move the model by two relations move it by what both give. -/
theorem SdoCalls.both {R R' Q : σ → σ → Prop} (h : SdoCalls A R) (h' : SdoCalls A R')
    (hboth : ∀ s s', R s s' → R' s s' → Q s s') : SdoCalls A Q where
  readSdo key size s := hboth _ _ (h.readSdo key size s) (h'.readSdo key size s)
  writeSdo key payload s := hboth _ _ (h.writeSdo key payload s) (h'.writeSdo key payload s)
  odRead key s := hboth _ _ (h.odRead key s) (h'.odRead key s)
  odWriteRole kn hkn s := hboth _ _ (h.odWriteRole kn hkn s) (h'.odWriteRole kn hkn s)
  validateParameters s := hboth _ _ (h.validateParameters s) (h'.validateParameters s)

/-- `b` is `a` with the model `s`, as far as SDO access looks. -/
structure Holds (a : Axis F σ) (s : σ) (b : Axis F σ) : Prop where
  adapter : b.adapter = s
  faultState : b.faultState = a.faultState
  hasStore : b.hasStore = a.hasStore

omit [PyFloat F] in
theorem Holds.refl (a : Axis F σ) : a.Holds a.adapter a := ⟨rfl, rfl, rfl⟩

omit [PyFloat F] in
theorem Holds.trans {s t : σ} {b c : Axis F σ} (h : a.Holds s b) (h' : b.Holds t c) : a.Holds t c :=
  ⟨h'.adapter, h'.faultState.trans h.faultState, h'.hasStore.trans h.hasStore⟩

omit [PyFloat F] in
theorem holds_call {α : Type} {log : Except Exc α → Call F} {x : PyM σ α} {Q : Except Exc α → σ → Prop}
    (h : x.Post a.adapter Q) : (call log x).Post a fun r b => ∃ s, Q r s ∧ a.Holds s b :=
  ⟨(x a.adapter).2, h, rfl, rfl, rfl⟩

/-- What one write leaves, the outcome of a save included. -/
structure Written (od : Od F) (key : Key) (payload : Bytes) (saved : Bool) (od' : Od F) : Prop where
  read : bridgeReadSdo od' key = .ok payload
  writable : ∃ d, definition key = some d ∧ d.access ≠ .ro
  other : ∀ key' ≠ key, (saved = true → key' ∉ saveOutcome.map Prod.fst) → od' key' = od key'
  outcome : saved = true → ∀ kn ∈ saveOutcome, od' kn.1 = .int kn.2

theorem written_of_bridge {od od' : Od F} {key : Key} {payload : Bytes}
    (hlen : ∀ d, definition key = some d → payload.length = d.dataType.size)
    (h : bridgeWriteSdo od key payload = .ok od') : Written od key payload false od' := by
  obtain ⟨d, v, hd, haccess, hv, rfl⟩ := bridgeWriteSdo_ok h
  refine ⟨?_, ⟨d, hd, haccess⟩, fun key' hne _ => od.write_of_ne v hne, nofun⟩
  unfold bridgeReadSdo Od.read
  rw [hd]
  dsimp only
  rw [od.write_same]
  exact encode_of_decode (hlen d hd) hv

theorem saveOutcome_nodup : (saveOutcome.map Prod.fst).Nodup := by decide

/-- The outcome of a save is none of the objects a master writes. -/
theorem saveOutcome_ro : ∀ kn ∈ saveOutcome, (definition kn.1).map (·.access) = some .ro := by decide

theorem Written.saved {od od' : Od F} {key : Key} {payload : Bytes} (h : Written od key payload false od') :
    Written od key payload true (od'.writeAll (saveOutcome.map fun kn => (kn.1, .int kn.2))) := by
  have hkeys : (saveOutcome.map fun kn => (kn.1, (.int kn.2 : Value F))).map Prod.fst = saveOutcome.map Prod.fst := by
    rw [List.map_map]
    rfl
  have hother : ∀ key' ∉ saveOutcome.map Prod.fst,
      od'.writeAll (saveOutcome.map fun kn => (kn.1, .int kn.2)) key' = od' key' := fun key' hkey' =>
    od'.writeAll_of_ne fun kv hkv hsame => hkey' (hkeys ▸ hsame ▸ List.mem_map_of_mem hkv)
  obtain ⟨d, hd, haccess⟩ := h.writable
  have hfree : key ∉ saveOutcome.map Prod.fst := by
    intro hmem
    obtain ⟨kn, hkn, rfl⟩ := List.mem_map.mp hmem
    have hro := saveOutcome_ro kn hkn
    rw [hd] at hro
    exact haccess (Option.some.inj hro)
  refine ⟨?_, ⟨d, hd, haccess⟩, fun key' hne hkey' => ?_, fun _ kn hkn => ?_⟩
  · have hread := h.read
    unfold bridgeReadSdo Od.read at hread ⊢
    rw [hother key hfree]
    exact hread
  · rw [hother key' (hkey' rfl)]
    exact h.other key' hne nofun
  · exact od'.writeAll_mem (hkeys ▸ saveOutcome_nodup) (List.mem_map_of_mem hkn)

/-! The parts of a write. -/

theorem readPrevious_post (h : OdAccess A) {key : Key} {d : Definition} (hd : definition key = some d)
    (hvalue : Encodable d.dataType (h.od a.adapter key)) (size : Nat) (rights : Access) :
    (readPrevious A key size rights).Post a fun r b => ∃ previous, r = .ok previous ∧ a.Holds a.adapter b ∧
      (rights ≠ .wo → ∃ raw, previous = some raw ∧ bridgeReadSdo (h.od a.adapter) key = .ok raw) := by
  obtain ⟨raw, hraw⟩ := hvalue
  have hread : bridgeReadSdo (h.od a.adapter) key = .ok raw := by
    unfold bridgeReadSdo Od.read
    rw [hd]
    exact hraw
  unfold readPrevious
  split
  · next hwo => exact ⟨none, rfl, .refl a, fun hne => absurd hwo hne⟩
  · have hrun : readSdo A key size a =
        (.ok raw, { a with adapter := a.adapter, calls := a.calls ++ [.readSdo key] }) := by
      unfold readSdo call
      rw [h.readSdo, hread]
    change ((readSdo A key size) >>= fun raw => pure (some raw)).Post a _
    unfold Exec.Post
    rw [Exec.run_bind_ok hrun]
    exact ⟨some raw, rfl, ⟨rfl, rfl, rfl⟩, fun _ => ⟨raw, rfl, hread⟩⟩

theorem writeSdo_post (h : OdAccess A) {key : Key} {payload : Bytes}
    (hlen : ∀ d, definition key = some d → payload.length = d.dataType.size) :
    (writeSdo A key payload).Post a fun r b => ∃ s, a.Holds s b ∧
      ((∃ e, r = .error e ∧ Expected e ∧ s = a.adapter) ∨
        r = .ok () ∧ bridgeWriteSdo (h.od a.adapter) key payload = .ok (h.od s)) :=
  (holds_call (h.writeSdo key payload a.adapter)).mono fun _ _ ⟨s, hcases, hholds⟩ =>
    ⟨s, hholds, hcases.imp_left fun ⟨e, he, hs, hexpected⟩ => ⟨e, he, hexpected hlen, hs⟩⟩

/-- A value that was read is written back as it was. -/
theorem restorePrevious_post (h : OdAccess A) {od : Od F} {n : Int} {v : Value F} {raw : Bytes}
    (hn : od Key.parameterSaveCommand = .int n) (hraw : bridgeReadSdo od Key.parameterSaveCommand = .ok raw)
    (hod : h.od a.adapter = od.write Key.parameterSaveCommand v) :
    (restorePrevious A Key.parameterSaveCommand (some raw)).Post a fun r b =>
      r = .ok () ∧ ∃ s, a.Holds s b ∧ h.od s = od := by
  have hencode : encodeOdValue .uint8 (.int n : Value F) = .ok raw := by
    rw [← hn]
    exact hraw
  have hlen : raw.length = 1 := length_of_encode hencode
  obtain ⟨b, rfl⟩ := List.length_eq_one_iff.mp hlen
  have hwrite := h.writeSdo Key.parameterSaveCommand [b] a.adapter
  obtain ⟨_, hruns⟩ := h.saveCommand b a.adapter
  have hdecode : decodeOdValue .uint8 [b] = .ok (.int n : Value F) := decode_of_encode (by decide) hencode
  unfold restorePrevious writeSdo
  refine (holds_call (hwrite.and (Q := fun r _ => r = .ok ()) hruns)).mono ?_
  rintro r c ⟨s, ⟨hcases, rfl⟩, hholds⟩
  refine ⟨rfl, s, hholds, ?_⟩
  rcases hcases with ⟨e, he, _⟩ | ⟨_, hwritten⟩
  · cases he
  · obtain ⟨d, w, hd, _, hw, hs⟩ := bridgeWriteSdo_ok hwritten
    cases hd
    cases hdecode.symm.trans hw
    rw [hs, hod, ← hn]
    funext key
    by_cases hkey : key = Key.parameterSaveCommand
    · rw [hkey, Od.write_same]
    · rw [Od.write_of_ne _ _ hkey, Od.write_of_ne _ _ hkey]

omit [PyFloat F] in
theorem storeSave_holds (hread : ∀ key size, (A.readSdo key size).Keeps (Exec.Fixes id))
    (hvalidate : A.validateParameters.Keeps (Exec.Fixes id)) (a : Axis F σ) :
    (storeSave A m).Post a fun _ b => a.Holds a.adapter b := by
  have hvalues : (parameterValues A).Keeps (Exec.Fixes id) := by
    unfold parameterValues
    induction A.persistentRoles with
    | nil => exact Exec.keeps_pure _
    | cons key keys ih =>
      rw [List.mapM_cons]
      refine .bind ?_ fun _ => .bind ih fun _ => Exec.keeps_pure _
      split
      · exact Exec.keeps_raise _
      · exact .bind (hread _ _) fun _ => Exec.keeps_pure _
  have hsave : (do
      A.validateParameters
      let values ← parameterValues A
      Exec.ofExcept (m.save values) : PyM σ Unit).Keeps (Exec.Fixes id) :=
    .bind hvalidate fun _ => .bind hvalues fun _ => Exec.keeps_ofExcept _
  exact ⟨hsave a.adapter, rfl, rfl⟩

/-- A save changes no object, and what it raises is the caller's. -/
theorem selectedSave_post (h : OdAccess A) : (selectedSave A m).Post a fun r b =>
    a.Holds a.adapter b ∧ ∀ e, r = .error e → e.isOSError = true ∨ Expected e := by
  have hread (key : Key) (size : Nat) : (A.readSdo key size).Keeps (Exec.Fixes id) := fun s => by
    rw [h.readSdo]
    rfl
  have hstore := storeSave_holds (m := m) hread (fun s => h.validateParameters s)
  have hsaved (b : Axis F σ) (hb : a.Holds a.adapter b) : a.Holds a.adapter (b.saveSucceeded m) := by
    obtain ⟨d, printed, heq⟩ := b.saveSucceeded_eq (m := m)
    rw [heq]
    exact ⟨hb.adapter, hb.faultState, hb.hasStore⟩
  have hfailed (message : String) (b : Axis F σ) (hb : a.Holds a.adapter b) :
      a.Holds a.adapter (b.saveFailed m message) := by
    obtain ⟨d, printed, heq⟩ := b.saveFailed_eq (m := m) message
    rw [heq]
    exact ⟨hb.adapter, hb.faultState, hb.hasStore⟩
  have hselected (b : Axis F σ) (hb : a.Holds a.adapter b) : (saveParameters A m).Post b fun r c =>
      a.Holds a.adapter c ∧ ∀ e, r = .error e → e.isOSError = true ∨ Expected e := by
    have hkept : (storeSave A m).Post b fun _ c => a.Holds a.adapter c :=
      (hstore b).mono fun _ c hc => hb.adapter ▸ hb.trans hc
    have hhandled : ((storeSave A m).handle fun e => do
        Exec.modify (saveFailed m e.message)
        Exec.raise ⟨.osError, e.message⟩).Post b fun r c =>
          a.Holds a.adapter c ∧ ∀ e, r = .error e → e.isOSError = true := by
      apply Exec.Post.handle
      · exact hkept.mono fun _ c hc _ _ => ⟨hc, nofun⟩
      · refine hkept.mono fun _ c hc e _ => ⟨hfailed e.message c hc, fun e' he' => ?_⟩
        cases he'
        rfl
    apply Exec.Post.bind
    · exact hhandled.mono fun _ c hc _ _ => ⟨hsaved c hc.1, nofun⟩
    · exact hhandled.mono fun _ c hc e he => ⟨hc.1, fun e' he' => .inl (hc.2 e' (by cases he'; exact he))⟩
  have hcalled : (call (fun _ => .odRead Key.parameterSaveSelection)
      (A.odRead Key.parameterSaveSelection) : PyM (Axis F σ) _).Post a fun r b =>
        (∃ v, r = .ok v) ∧ a.Holds a.adapter b := by
    refine (holds_call (Q := fun r s => (∃ v, r = .ok v) ∧ s = a.adapter) ?_).mono ?_
    · unfold Exec.Post
      rw [h.odRead]
      exact ⟨⟨_, rfl⟩, rfl⟩
    · rintro r b ⟨s, ⟨hv, rfl⟩, hb⟩
      exact ⟨hv, hb⟩
  apply Exec.Post.bind
  · refine hcalled.mono fun _ b ⟨_, hb⟩ v _ => ?_
    apply Exec.post_require_bind
    · exact fun _ => hselected b hb
    · intro _
      refine ⟨hb, fun e he => .inr ?_⟩
      cases he
      exact ⟨rfl, rfl⟩
  · rintro e he
    obtain ⟨⟨v, hv⟩, _⟩ := hcalled
    rw [hv] at he
    cases he

theorem writeRole_post (h : OdAccess A) (key : Key) (n : Int) : (writeRole A key n).Post a fun r b =>
    r = .ok () ∧ ∃ s, a.Holds s b ∧ h.od s = (h.od a.adapter).write key (.int n) := by
  have hwritten : (A.odWriteRole key (.int n)).Post a.adapter fun r s' =>
      r = .ok () ∧ h.od s' = (h.od a.adapter).write key (.int n) := by
    obtain ⟨s, hrun, hs⟩ := h.odWriteRole key (.int n) a.adapter
    unfold Exec.Post
    rw [hrun]
    exact ⟨rfl, hs⟩
  exact (holds_call hwritten).mono fun _ b ⟨s', ⟨hr, hod⟩, hb⟩ => ⟨hr, s', hb, hod⟩

theorem saveOutcome_post (h : OdAccess A) : (do
      writeRole A Key.parameterSaveStatus 0
      writeRole A Key.parameterSaveReturnCode 0
      writeRole A Key.parameterSaveReturnValue 1 : PyM (Axis F σ) Unit).Post a fun r b =>
    r = .ok () ∧ ∃ s, a.Holds s b ∧
      h.od s = (h.od a.adapter).writeAll (saveOutcome.map fun kn => (kn.1, .int kn.2)) := by
  have hnext {b : Axis F σ} {s : σ} {od : Od F} (hb : a.Holds s b) (hs : h.od s = od) (key : Key) (n : Int) :
      (writeRole A key n).Post b fun r c => r = .ok () ∧ ∃ s, a.Holds s c ∧ h.od s = od.write key (.int n) :=
    (writeRole_post h key n).mono fun _ c ⟨hr, t, hc, ht⟩ =>
      ⟨hr, t, hb.trans hc, by rw [ht, hb.adapter, hs]⟩
  have hfirst := hnext (Holds.refl a) rfl Key.parameterSaveStatus 0
  apply Exec.Post.bind
  · refine hfirst.mono fun _ b ⟨_, s, hb, hs⟩ _ _ => ?_
    have hsecond := hnext hb hs Key.parameterSaveReturnCode 0
    apply Exec.Post.bind
    · refine hsecond.mono fun _ c ⟨_, t, hc, ht⟩ _ _ => ?_
      exact hnext hc ht Key.parameterSaveReturnValue 1
    · refine hsecond.mono fun _ c ⟨hr, _⟩ e he => ?_
      rw [hr] at he
      cases he
  · refine hfirst.mono fun _ b ⟨hr, _⟩ e he => ?_
    rw [hr] at he
    cases he

/-- A described write is exact, or a no-op that raises what is the caller's. -/
theorem describedWrite_post (h : OdAccess A) {key : Key} {d : Definition} (hd : definition key = some d)
    (hvalue : Encodable d.dataType (h.od a.adapter key)) (hwo : d.access ≠ .wo)
    (hsave : ∃ n, h.od a.adapter Key.parameterSaveCommand = .int n) {payload : Bytes}
    (hlen : payload.length = d.dataType.size) :
    (describedWrite A m key payload d.access).Post a fun r b => ∃ s, a.Holds s b ∧
      ((∃ e, r = .error e ∧ h.od s = h.od a.adapter ∧
          (Expected e ∨ e.isOSError = true ∧ key = Key.parameterSaveCommand)) ∨
        r = .ok () ∧ Written (h.od a.adapter) key payload
          (a.hasStore && decide (key = Key.parameterSaveCommand ∧ payload = [0x01])) (h.od s)) := by
  have hsize : ∀ d', definition key = some d' → payload.length = d'.dataType.size := by
    intro d' hd'
    rw [hd] at hd'
    cases hd'
    exact hlen
  have hread := readPrevious_post h hd hvalue payload.length d.access
  apply Exec.Post.bind
  · refine hread.mono ?_
    rintro _ b ⟨previous, rfl, hb, hprevious⟩ _ ⟨⟩
    obtain ⟨raw, rfl, hraw⟩ := hprevious hwo
    have hwrite := writeSdo_post (a := b) h hsize
    rw [hb.adapter] at hwrite
    apply Exec.Post.bind
    · refine hwrite.mono ?_
      rintro _ c ⟨s, hc, hcases⟩ _ rfl
      obtain ⟨_, hwritten⟩ := hcases.resolve_left fun ⟨e, he, _⟩ => nomatch he
      have hexact := written_of_bridge hsize hwritten
      have hac := hb.trans hc
      apply Exec.post_get_bind
      apply Exec.post_when
      · rintro ⟨hstore, rfl, rfl⟩
        obtain ⟨n, hn⟩ := hsave
        obtain ⟨_, v, _, _, _, hv⟩ := bridgeWriteSdo_ok hwritten
        have hselected := selectedSave_post (m := m) (a := c) h
        have hhandled : ((selectedSave A m).handle fun e => do
            restorePrevious A Key.parameterSaveCommand (some raw)
            Exec.raise e).Post c fun r c' =>
              (r = .ok () ∧ c.Holds s c') ∨ ∃ e t, r = .error e ∧ c.Holds t c' ∧
                h.od t = h.od a.adapter ∧ (e.isOSError = true ∨ Expected e) := by
          apply Exec.Post.handle
          · exact hselected.mono fun _ c' ⟨hc', _⟩ _ _ => .inl ⟨rfl, hc.adapter ▸ hc'⟩
          · refine hselected.mono fun _ c' ⟨hc', hexpected⟩ e he => ?_
            rw [hc.adapter] at hc'
            have hrestore := restorePrevious_post (a := c') h hn hraw (hc'.adapter ▸ hv)
            apply Exec.Post.bind
            · refine hrestore.mono fun _ c'' ⟨_, t, hc'', ht⟩ _ _ => ?_
              exact .inr ⟨e, t, rfl, hc'.trans hc'', ht, hexpected e he⟩
            · refine hrestore.mono fun _ _ ⟨hr, _⟩ e' he' => ?_
              rw [hr] at he'
              cases he'
        apply Exec.Post.bind
        · refine hhandled.mono fun r c' hcases _ hr => ?_
          rcases hcases with ⟨_, hc'⟩ | ⟨e, t, he, _⟩
          · refine (saveOutcome_post (a := c') h).mono fun _ c'' ⟨hr', t, hc'', ht⟩ => ?_
            refine ⟨t, (hac.trans hc').trans hc'', .inr ⟨hr', ?_⟩⟩
            have hstore : a.hasStore = true := hb.hasStore.symm.trans (hc.hasStore.symm.trans hstore)
            rw [hstore, ht, hc'.adapter]
            exact hexact.saved
          · rw [hr] at he
            cases he
        · refine hhandled.mono fun r c' hcases e hr => ?_
          rcases hcases with ⟨hok, _⟩ | ⟨e', t, he, hc', ht, hexpected⟩
          · rw [hok] at hr
            cases hr
          · rw [hr] at he
            cases he
            exact ⟨t, hac.trans hc', .inl ⟨e, rfl, ht, hexpected.symm.imp_right fun h => ⟨h, rfl⟩⟩⟩
      · intro hplain
        refine ⟨s, hac, .inr ⟨rfl, ?_⟩⟩
        have hunsaved : (a.hasStore && decide (key = Key.parameterSaveCommand ∧ payload = [0x01])) = false := by
          rw [hac.hasStore] at hplain
          simpa using hplain
        rw [hunsaved]
        exact hexact
    · refine hwrite.mono ?_
      rintro _ c ⟨s, hc, hcases⟩ e rfl
      rcases hcases with ⟨e', he, hexpected, rfl⟩ | ⟨hok, _⟩
      · cases he
        exact ⟨_, hb.trans hc, .inl ⟨e, rfl, rfl, .inl hexpected⟩⟩
      · cases hok
  · refine hread.mono ?_
    rintro _ b ⟨previous, rfl, _⟩ e he
    cases he

/-! The requests. -/

theorem definitions_readable : ∀ kd ∈ definitions, kd.2.access ≠ .wo := by decide

/-- What a write request does to an axis whose objects all have a wire form. -/
structure WriteOutcome (h : OdAccess A) (a : Axis F σ) (key : Key) (data : Option String)
    (r : Except Exc Reply) (b : Axis F σ) : Prop where
  faultState : b.faultState = a.faultState
  hasStore : b.hasStore = a.hasStore
  exact : (∃ e, r = .error e ∧ h.od b.adapter = h.od a.adapter) ∨
    ∃ text payload, data = some text ∧ fromHex text = some payload ∧ r = .ok .done ∧
      Written (h.od a.adapter) key payload
        (a.hasStore && decide (key = Key.parameterSaveCommand ∧ payload = [0x01])) (h.od b.adapter)

theorem innerWrite_post (h : OdAccess A)
    (hvalues : ∀ key d, definition key = some d → Encodable d.dataType (h.od a.adapter key))
    (hsave : ∃ n, h.od a.adapter Key.parameterSaveCommand = .int n) (key : Key) (data : Option String) :
    (innerWrite A m key data).Post a fun r b => WriteOutcome h a key data r b ∧
      ∀ e, r = .error e → Expected e ∨ e.isOSError = true ∧ key = Key.parameterSaveCommand := by
  have hraise : ∀ e : Exc, Expected e → (Exec.raise e : PyM (Axis F σ) Reply).Post a fun r b =>
      WriteOutcome h a key data r b ∧
        ∀ e, r = .error e → Expected e ∨ e.isOSError = true ∧ key = Key.parameterSaveCommand := by
    intro e he
    refine ⟨⟨rfl, rfl, .inl ⟨e, rfl, rfl⟩⟩, fun e' he' => ?_⟩
    cases he'
    exact .inl he
  unfold innerWrite
  cases hd : definition key with
  | none => exact hraise _ ⟨rfl, rfl⟩
  | some d =>
    cases data with
    | none => exact hraise _ ⟨rfl, rfl⟩
    | some text =>
      dsimp only
      cases htext : fromHex text with
      | none => exact hraise _ ⟨rfl, rfl⟩
      | some payload =>
        apply Exec.post_require_bind
        · intro hlen
          have hwrite := describedWrite_post (m := m) h hd (hvalues key d hd)
            (definitions_readable _ (mem_definitions hd)) hsave hlen
          apply Exec.Post.bind
          · refine hwrite.mono ?_
            rintro _ b ⟨s, hb, hcases⟩ _ rfl
            obtain ⟨_, hwritten⟩ := hcases.resolve_left fun ⟨e, he, _⟩ => nomatch he
            exact ⟨⟨hb.faultState, hb.hasStore, .inr ⟨text, payload, rfl, htext, rfl, hb.adapter.symm ▸ hwritten⟩⟩,
              nofun⟩
          · refine hwrite.mono ?_
            rintro _ b ⟨s, hb, hcases⟩ e rfl
            rcases hcases with ⟨e', he, hod, hexpected⟩ | ⟨hok, _⟩
            · cases he
              refine ⟨⟨hb.faultState, hb.hasStore, .inl ⟨e, rfl, hb.adapter.symm ▸ hod⟩⟩, fun e' he' => ?_⟩
              cases he'
              exact hexpected
            · cases hok
        · exact fun _ => hraise _ ⟨rfl, rfl⟩

theorem write_post (h : OdAccess A) (hrestart : a.faultState.restartRequired = false)
    (hvalues : ∀ key d, definition key = some d → Encodable d.dataType (h.od a.adapter key))
    (hsave : ∃ n, h.od a.adapter Key.parameterSaveCommand = .int n) (index subindex : Nat)
    (data : Option String) : (dispatch A m (.write index subindex data)).Post a
      (WriteOutcome h a (index, subindex) data) := by
  apply Exec.post_modify_bind
  apply Exec.post_get_bind
  rw [if_neg (by simpa using hrestart)]
  have hinner := innerWrite_post (m := m) (a := { a with calls := [] }) h hvalues hsave (index, subindex) data
  apply Exec.Post.handle
  · exact hinner.mono fun _ b ⟨hout, _⟩ _ hr => ⟨hout.faultState, hout.hasStore, hr ▸ hout.exact⟩
  · refine hinner.mono fun r b ⟨hout, herror⟩ e hr => ?_
    subst hr
    have hraised : (Exec.raise e : PyM (Axis F σ) Reply).Post b (WriteOutcome h a (index, subindex) data) :=
      ⟨hout.faultState, hout.hasStore, hout.exact⟩
    rcases herror e rfl with ⟨hos, hexpected⟩ | ⟨hos, hkey⟩
    · rw [if_neg (by simp [hos]), if_pos hexpected]
      exact hraised
    · rw [if_pos hos, if_pos (by simpa using hkey)]
      exact hraised

/-- Reading a value with a wire form gives it; an object that is not there is the caller's mistake. -/
theorem innerRead_post (h : OdAccess A) {key : Key}
    (hvalue : ∀ d, definition key = some d → Encodable d.dataType (h.od a.adapter key)) :
    (innerRead A key).Post a fun r b => a.Holds a.adapter b ∧ (∀ e, r = .error e → Expected e) ∧
      ∀ d, definition key = some d → ∃ raw, bridgeReadSdo (h.od a.adapter) key = .ok raw ∧
        r = .ok (.object (hexText raw)) := by
  unfold innerRead
  cases hd : definition key with
  | none =>
    refine ⟨.refl a, fun e he => ?_, nofun⟩
    cases he
    exact ⟨rfl, rfl⟩
  | some d =>
    obtain ⟨raw, hraw⟩ := hvalue d hd
    have hread : bridgeReadSdo (h.od a.adapter) key = .ok raw := by
      unfold bridgeReadSdo Od.read
      rw [hd]
      exact hraw
    apply Exec.post_require_bind
    · intro _
      have hrun : readSdo A key d.dataType.size a =
          (.ok raw, { a with adapter := a.adapter, calls := a.calls ++ [.readSdo key] }) := by
        unfold readSdo call
        rw [h.readSdo, hread]
      unfold Exec.Post
      rw [Exec.run_bind_ok hrun]
      exact ⟨⟨rfl, rfl, rfl⟩, nofun, fun _ _ => ⟨raw, hread, rfl⟩⟩
    · exact fun hwo => absurd (definitions_readable _ (mem_definitions hd)) hwo

/-- A read leaves guard and values alone, and gives the bytes of any object but the statusword, which
the guard answers for while it is not in phase `normal`. -/
theorem read_post (h : OdAccess A) (hrestart : a.faultState.restartRequired = false)
    {index subindex : Nat} (hvalue : ∀ d, definition (index, subindex) = some d →
      Encodable d.dataType (h.od a.adapter (index, subindex))) : (dispatch A m (.read index subindex)).Post a fun r b =>
      a.Holds a.adapter b ∧ ∀ d, definition (index, subindex) = some d → ∃ text, r = .ok (.object text) ∧
        ((index, subindex) ≠ Key.statusword → ∃ raw, text = hexText raw ∧
          bridgeReadSdo (h.od a.adapter) (index, subindex) = .ok raw) := by
  apply Exec.post_modify_bind
  apply Exec.post_get_bind
  split
  · next hguard => exact ⟨⟨rfl, rfl, rfl⟩, fun _ _ => ⟨_, rfl, fun hne => absurd hguard.1 hne⟩⟩
  · rw [if_neg (by simpa using hrestart)]
    have hinner := innerRead_post (a := { a with calls := [] }) h hvalue
    have hforget : a.Holds a.adapter { a with calls := [] } := ⟨rfl, rfl, rfl⟩
    apply Exec.Post.handle
    · refine hinner.mono ?_
      rintro _ b ⟨hb, _, hread⟩ reply rfl
      refine ⟨hforget.trans hb, fun d hd => ?_⟩
      obtain ⟨raw, hraw, hreply⟩ := hread d hd
      cases hreply
      exact ⟨_, rfl, fun _ => ⟨raw, rfl, hraw⟩⟩
    · refine hinner.mono ?_
      rintro _ b ⟨hb, hexpected, hread⟩ e rfl
      obtain ⟨hos, hcaller⟩ := hexpected e rfl
      rw [if_neg (by simp [hos]), if_pos hcaller]
      refine ⟨hforget.trans hb, fun d hd => ?_⟩
      obtain ⟨_, _, hreply⟩ := hread d hd
      cases hreply

/-- No SDO request faults an axis whose objects all have a wire form. -/
theorem sdo_faultState (h : OdAccess A) (hrestart : a.faultState.restartRequired = false)
    (hvalues : ∀ key d, definition key = some d → Encodable d.dataType (h.od a.adapter key))
    (hsave : ∃ n, h.od a.adapter Key.parameterSaveCommand = .int n) {request : Request}
    (hreq : request.isProcessData = false) :
    (dispatch A m request).Post a fun _ b => b.faultState = a.faultState := by
  cases request with
  | cycle | idle => cases hreq
  | read index subindex => exact (read_post h hrestart (hvalues (index, subindex))).mono fun _ _ hb => hb.1.faultState
  | write index subindex data =>
    exact (write_post h hrestart hvalues hsave index subindex data).mono fun _ _ hb => hb.faultState
  | describe => rfl
  | other op => rfl

end Axis

end EthercatSimulator.Runtime
