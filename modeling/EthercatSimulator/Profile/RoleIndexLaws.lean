import EthercatSimulator.Profile.RoleIndex

/-! The role index answers as the scan does. -/

namespace EthercatSimulator.Profile.RoleIndex

open Base

variable {F : Type} {α β : Type}

/-! Matches. -/

/-- The definitions an index has for a role. -/
def Index.found (index : Index F) (role : Option String) : List (RoleDefinition F) :=
  (index.lookup role).getD []

theorem found_addDefinition (index : Index F) (d : RoleDefinition F) (role : Option String) :
    Index.found (addDefinition index d) role = index.found role ++ matchesOf role [d] := by
  unfold Index.found addDefinition matchesOf
  rw [Dict.lookup_set]
  by_cases h : role = d.role
  · subst h
    simp
  · simp [h, Ne.symm h]

theorem found_rebuild (od : RoleOd F) (role : Option String) :
    Index.found (rebuild od) role = matchesOf role od.definitions := by
  have hfold : ∀ (definitions : List (RoleDefinition F)) (index : Index F),
      Index.found (definitions.foldl addDefinition index) role = index.found role ++ matchesOf role definitions := by
    intro definitions
    induction definitions with
    | nil => exact fun index => (List.append_nil _).symm
    | cons d rest ih =>
      intro index
      rw [List.foldl_cons, ih, found_addDefinition, List.append_assoc]
      unfold matchesOf
      rw [← List.filter_append, List.singleton_append]
  exact hfold od.definitions []

/-- An index that is built has the definitions the scan finds. -/
def IndexedOd.Current (s : IndexedOd F) : Prop :=
  ∀ index, s.index = some index → ∀ role, Index.found index role = matchesOf role s.od.definitions

theorem install_current (od : RoleOd F) : (install od).Current := by
  intro index hindex role
  cases hindex
  exact found_rebuild od role

/-! Programs that do the same with and without the index. -/

/-- While the index is current, `x` does what `y` does, and keeps it current. -/
def Agrees (x : PyM (IndexedOd F) α) (y : PyM (RoleOd F) α) : Prop :=
  ∀ s : IndexedOd F, s.Current → y s.od = ((x s).1, (x s).2.od) ∧ (x s).2.Current

theorem agrees_pure (a : α) : Agrees (F := F) (pure a) (pure a) := fun _ h => ⟨rfl, h⟩

theorem Agrees.bind {x : PyM (IndexedOd F) α} {y : PyM (RoleOd F) α} {f : α → PyM (IndexedOd F) β}
    {g : α → PyM (RoleOd F) β} (hx : Agrees x y) (hf : ∀ a, Agrees (f a) (g a)) : Agrees (x >>= f) (y >>= g) := by
  intro s hs
  obtain ⟨hrun, hcurrent⟩ := hx s hs
  rw [Exec.run_bind, Exec.run_bind, hrun]
  match hresult : x s with
  | (.ok a, s') =>
    rw [hresult] at hcurrent
    exact hf a s' hcurrent
  | (.error e, s') =>
    rw [hresult] at hcurrent
    exact ⟨rfl, hcurrent⟩

theorem Agrees.map {x : PyM (IndexedOd F) α} {y : PyM (RoleOd F) α} (f : α → β) (hx : Agrees x y) :
    Agrees (f <$> x) (f <$> y) := by
  have hbind := hx.bind fun a => agrees_pure (f a)
  rwa [← map_eq_pure_bind, ← map_eq_pure_bind] at hbind

/-- What leaves the definitions alone need not touch the index. -/
theorem agrees_onIndexed {y : PyM (RoleOd F) α} (hy : y.Keeps (Exec.Fixes RoleOd.definitions)) :
    Agrees (onIndexed y) y := by
  intro s hs
  refine ⟨rfl, fun index hindex role => ?_⟩
  have hdefinitions : (onIndexed y s).2.od.definitions = s.od.definitions := hy s.od
  rw [hdefinitions]
  exact hs index hindex role

/-- What is invalidated may do anything. -/
theorem agrees_invalidateAfter {x : PyM (IndexedOd F) α} {y : PyM (RoleOd F) α}
    (h : ∀ s : IndexedOd F, y s.od = ((x s).1, (x s).2.od)) : Agrees (invalidateAfter x) y := by
  intro s _
  have hrun : invalidateAfter x s = ((x s).1, { (x s).2 with index := none }) := Exec.run_ensuring ..
  rw [hrun]
  exact ⟨h s, nofun⟩

theorem agrees_definitionByRole (role : Option String) :
    Agrees (F := F) (indexedByRole role) (definitionByRole role) := by
  intro s hs
  have hfound : ((s.index.getD (rebuild s.od)).lookup role).getD [] = matchesOf role s.od.definitions := by
    cases hindex : s.index with
    | none => exact found_rebuild s.od role
    | some index => exact hs index hindex role
  have hindexed : indexedByRole role s = (single role (matchesOf role s.od.definitions),
      { s with index := some (s.index.getD (rebuild s.od)) }) := by
    rw [← hfound]
    exact Exec.run_ofExcept ..
  have hscan : definitionByRole role s.od = (single role (matchesOf role s.od.definitions), s.od) :=
    Exec.run_ofExcept ..
  rw [hindexed, hscan]
  refine ⟨rfl, fun index hsome role' => ?_⟩
  cases hsome
  cases hindex : s.index with
  | none => exact found_rebuild s.od role'
  | some index => exact hs index hindex role'

/-! The calls. -/

theorem entryOf_fixes (key : Key) : (entryOf key : PyM (RoleOd F) _).Keeps (Exec.Fixes RoleOd.definitions) := by
  refine .bind Exec.keeps_get fun od => ?_
  cases od.entries.lookup key with
  | none => exact Exec.keeps_raise _
  | some entry => exact Exec.keeps_pure _

theorem read_fixes (key : Key) : (read key : PyM (RoleOd F) _).Keeps (Exec.Fixes RoleOd.definitions) :=
  .bind (entryOf_fixes key) fun _ => Exec.keeps_pure _

theorem writeInternal_fixes (key : Key) (value : Arg F) :
    (writeInternal key value).Keeps (Exec.Fixes RoleOd.definitions) := by
  intro od
  unfold writeInternal entryOf
  rw [Exec.run_bind, Exec.run_bind, Exec.run_get]
  dsimp only
  cases hentry : od.entries.lookup key with
  | none => rfl
  | some entry => exact Dict.map_set (f := RoleEntry.definition) hentry rfl

theorem write_fixes (key : Key) (value : Arg F) : (write key value).Keeps (Exec.Fixes RoleOd.definitions) :=
  .bind (writeInternal_fixes key value) fun _ _ => rfl

variable [PyFloat F] (py : TextConversion F)

/-- A definition update does to the dictionary what it does without the index. -/
theorem mirrors_define (key : Key) (kw : Keywords F) :
    ((indexed F).define py key kw).Mirrors IndexedOd.od ((plain F).define py key kw) := by
  intro s
  have hrun : (indexed F).define py key kw s = ((onIndexed (define py key kw) s).1,
      { (onIndexed (define py key kw) s).2 with index := none }) := Exec.run_ensuring ..
  rw [hrun]
  rfl

theorem agrees_define (key : Key) (kw : Keywords F) :
    Agrees ((indexed F).define py key kw) ((plain F).define py key kw) :=
  agrees_invalidateAfter fun _ => rfl

theorem agrees_overlay (key : Key) (kw : Keywords F) :
    Agrees ((indexed F).overlay py key kw) ((plain F).overlay py key kw) := by
  refine agrees_invalidateAfter ?_
  refine @Exec.Mirrors.bind _ _ _ _ _ IndexedOd.od _ _ _ _ (fun _ => rfl) fun current => ?_
  cases current with
  | some current => exact fun _ => rfl
  | none => exact fun s => (mirrors_define py key kw s)

theorem agrees_call (c : Call F) : Agrees ((indexed F).call py c) ((plain F).call py c) := by
  cases c with
  | define key kw => exact (agrees_define py key kw).map _
  | overlay key kw => exact (agrees_overlay py key kw).map _
  | write key value => exact (agrees_onIndexed (write_fixes key value)).map _
  | writeRole role value =>
    exact ((agrees_definitionByRole role).bind fun d => agrees_onIndexed (write_fixes _ value)).map _
  | writeInternal key value => exact (agrees_onIndexed (writeInternal_fixes key value)).map _
  | readRole role => exact ((agrees_definitionByRole role).bind fun d => agrees_onIndexed (read_fixes _)).map _
  | definitionByRole role => exact (agrees_definitionByRole role).map _

theorem run_cons {S : Type} (M : Methods F S) (c : Call F) (rest : List (Call F)) (s : S) :
    M.run py (c :: rest) s =
      ((M.call py c s).1 :: (M.run py rest (M.call py c s).2).1, (M.run py rest (M.call py c s).2).2) := rfl

theorem agrees_run (calls : List (Call F)) {s : IndexedOd F} (hs : s.Current) :
    (plain F).run py calls s.od = (((indexed F).run py calls s).1, ((indexed F).run py calls s).2.od) := by
  induction calls generalizing s with
  | nil => rfl
  | cons c rest ih =>
    obtain ⟨hcall, hcurrent⟩ := agrees_call py c s hs
    rw [run_cons, run_cons, hcall]
    dsimp only
    rw [ih hcurrent]

theorem run_append {S : Type} (M : Methods F S) (before after : List (Call F)) (s : S) :
    M.run py (before ++ after) s =
      ((M.run py before s).1 ++ (M.run py after (M.run py before s).2).1, (M.run py after (M.run py before s).2).2) := by
  induction before generalizing s with
  | nil => rfl
  | cons c rest ih =>
    rw [List.cons_append, run_cons, run_cons, ih]
    rfl

/-- Wherever the index is installed, the calls after it answer, and leave the dictionary, as the scan does. -/
theorem install_unobservable (before after : List (Call F)) (od : RoleOd F) :
    let (answers, installed) := (plain F).run py before od
    let (later, final) := (indexed F).run py after (install installed)
    (plain F).run py (before ++ after) od = (answers ++ later, final.od) := by
  have hafter := agrees_run py after (install_current ((plain F).run py before od).2)
  dsimp only
  rw [run_append]
  exact congrArg (fun r => (((plain F).run py before od).1 ++ r.1, r.2)) hafter

end EthercatSimulator.Profile.RoleIndex
