import EthercatSimulator.Adapter.FKrCmmt
import EthercatSimulator.Storage.SaveLaws

/-! Writers that are killed, and what a load finds after them. -/

namespace EthercatSimulator.Storage

open Base Profile EthercatSimulator.Runtime

/-- A save by some model, whose writer is killed after the first `killed` steps. -/
structure Attempt where
  F : Type
  σ : Type
  store : ParameterStore
  device : Device
  disk : Disk
  adapter : DriveAdapter F σ
  model : σ
  killed : Nat

namespace Attempt

variable (format : Format) (a : Attempt)

/-- The steps that were taken. -/
def steps (files : Files String UInt8) : List (FileStep String UInt8) :=
  (a.store.save format a.device a.disk a.adapter a.model ⟨files, []⟩).2.steps.take a.killed

def run (files : Files String UInt8) : Files String UInt8 := FileStep.applyAll files (a.steps format files)

/-- The name and the text of the snapshot, if `os.replace` has completed. -/
def completed (files : Files String UInt8) : List (String × Bytes) :=
  if Replaced (a.disk.temporaryName a.device.path) a.device.path (a.steps format files) then
    ((a.store.replacement format a.device a.disk (savedValues a.adapter a.model).1 files).map
      fun text => (a.device.path, text)).toList
  else []

end Attempt

variable (format : Format)

/-- The files after the attempts. -/
def filesAfter (files : Files String UInt8) (attempts : List Attempt) : Files String UInt8 :=
  attempts.foldl (fun files a => a.run format files) files

/-- The snapshots whose `os.replace` completed, the latest last. -/
def completed : Files String UInt8 → List Attempt → List (String × Bytes)
  | _, [] => []
  | files, a :: rest => a.completed format files ++ completed (a.run format files) rest

/-- The last of them under a name, or else what was there before. -/
def lastSnapshot (files : Files String UInt8) (attempts : List Attempt) (name : String) : Option Bytes :=
  ((completed format files attempts).reverse.lookup name).or (files name)

variable {format}

theorem completed_cons (files : Files String UInt8) (a : Attempt) (rest : List Attempt) :
    completed format files (a :: rest) =
      a.completed format files ++ completed format (a.run format files) rest := rfl

/-- A parameter set is never kept under a temporary name. -/
theorem fileName_ne_temporaryName {parameterSet : String} (h : isName parameterSet = true) (d : Disk)
    (target : String) : fileName parameterSet ≠ d.temporaryName target := by
  intro heq
  have hchars := congrArg String.toList heq
  unfold fileName Disk.temporaryName at hchars
  rw [String.toList_append, String.toList_append, String.toList_append] at hchars
  unfold isName at h
  cases hlist : parameterSet.toList with
  | nil =>
    rw [hlist] at h
    cases h
  | cons c cs =>
    rw [hlist] at h hchars
    have hc : c = '.' := (List.cons.inj hchars).1
    subst hc
    exact absurd h (by simp [isAsciiAlnum])

theorem Attempt.run_eq (format : Format) (a : Attempt) (files : Files String UInt8) {name : String}
    (hname : name ≠ a.disk.temporaryName a.device.path) :
    a.run format files name = ((a.completed format files).reverse.lookup name).or (files name) := by
  obtain ⟨steps, content, htrace⟩ :=
    a.store.saveValues_trace format a.device a.disk (savedValues a.adapter a.model).1 ⟨files, []⟩
  have hsteps : a.steps format files = steps.take a.killed := by
    unfold Attempt.steps ParameterStore.save
    rw [htrace.state]
    rfl
  have hrun := htrace.killed (List.take_prefix a.killed steps) hname
  unfold Attempt.run Attempt.completed
  rw [hsteps, hrun]
  by_cases hreplaced : Replaced (a.disk.temporaryName a.device.path) a.device.path (steps.take a.killed)
  · have hsome := htrace.replaced.mp ((List.take_prefix a.killed steps).subset hreplaced)
    obtain ⟨text, htext⟩ := Option.ne_none_iff_exists'.mp hsome
    rw [if_pos hreplaced, htext]
    change _ = (List.lookup name [(a.device.path, text)]).or _
    by_cases hpath : name = a.device.path
    · rw [if_pos ⟨hpath, hreplaced⟩, hpath, List.lookup_cons_self]
      rfl
    · rw [if_neg fun h => hpath h.1, List.lookup_cons, beq_false_of_ne hpath]
      rfl
  · rw [if_neg fun h => hreplaced h.2, if_neg hreplaced]
    rfl

theorem filesAfter_eq {parameterSet : String} (hname : isName parameterSet = true)
    (files : Files String UInt8) (attempts : List Attempt) :
    filesAfter format files attempts (fileName parameterSet) =
      lastSnapshot format files attempts (fileName parameterSet) := by
  unfold lastSnapshot
  induction attempts generalizing files with
  | nil => rfl
  | cons a rest ih =>
    have hrun := a.run_eq format files (fileName_ne_temporaryName hname a.disk a.device.path)
    refine (ih (a.run format files)).trans ?_
    rw [completed_cons, hrun, List.reverse_append, List.lookup_append, Option.or_assoc]

/-- After any attempts a load finds the last snapshot that was put in its place, or what was there
before. -/
theorem crash_consistency {F σ : Type} [PyFloat F] (A : DriveAdapter F σ) (P : ParameterAccess F σ)
    (files : Files String UInt8) (attempts : List Attempt) {device : Device}
    (hname : isName device.parameterSet = true) :
    load format device A P (filesAfter format files attempts) =
      loadFound format device A P (lastSnapshot format files attempts device.path) := by
  unfold load Device.path
  rw [filesAfter_eq hname]

/-- A save of a servo as it is constructed, with a text of three bytes. -/
def constructedSave (suffix : String) (killed : Nat) : Attempt where
  F := ExtRat
  σ := Behaviour.Servo ExtRat
  store := ⟨true, true⟩
  device := ⟨"cia402-drive", .fKrCmmt, .linear, "axis-0"⟩
  disk := ⟨suffix, fun _ => none, 0⟩
  adapter := Adapter.fKrCmmt ExtRat
  model := Behaviour.Servo.construct .linear
  killed := killed

def shortFormat : Format := ⟨fun _ => [0x7B, 0x20, 0x7D], fun _ => .ok .null, fun _ => ""⟩

def constructedAccess : ParameterAccess ExtRat (Behaviour.Servo ExtRat) where
  write key v s := s.write key v
  validate _ := .ok ()

/-- The first writer is killed after two of the three bytes, the second one after the replacement. -/
theorem crash_consistency_killed :
    load shortFormat (constructedSave "" 0).device (Adapter.fKrCmmt ExtRat) constructedAccess
        (filesAfter shortFormat (fun _ => none) [constructedSave "a1" 3]) =
      loadFound shortFormat (constructedSave "" 0).device (Adapter.fKrCmmt ExtRat) constructedAccess none ∧
    load shortFormat (constructedSave "" 0).device (Adapter.fKrCmmt ExtRat) constructedAccess
        (filesAfter shortFormat (fun _ => none) [constructedSave "a1" 3, constructedSave "b2" 5]) =
      loadFound shortFormat (constructedSave "" 0).device (Adapter.fKrCmmt ExtRat) constructedAccess
        (some [0x7B, 0x20, 0x7D]) := by
  have hlast : lastSnapshot shortFormat (fun _ => none) [constructedSave "a1" 3] "axis-0.json" = none ∧
      lastSnapshot shortFormat (fun _ => none) [constructedSave "a1" 3, constructedSave "b2" 5]
        "axis-0.json" = some [0x7B, 0x20, 0x7D] := by
    decide +kernel
  have hname : isName (constructedSave "" 0).device.parameterSet = true := by decide
  exact ⟨(crash_consistency _ _ _ _ hname).trans (congrArg _ hlast.1),
    (crash_consistency _ _ _ _ hname).trans (congrArg _ hlast.2)⟩

end EthercatSimulator.Storage
