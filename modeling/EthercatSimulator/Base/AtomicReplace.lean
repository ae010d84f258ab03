import Mathlib.Logic.Function.Basic

/-! Files by name, and the replacement of a file by way of a temporary one: wherever it stops, the
file is the old one or the whole new one. -/

namespace EthercatSimulator.Base

variable {N B : Type}

abbrev Files (N B : Type) := N → Option (List B)

inductive FileStep (N B : Type)
  | create (name : N)
  | append (name : N) (b : B)
  | replace (source target : N)
  | unlink (name : N)
  deriving DecidableEq

namespace FileStep

variable [DecidableEq N]

def apply (files : Files N B) : FileStep N B → Files N B
  | create name => Function.update files name (some [])
  | append name b => Function.update files name ((files name).map (· ++ [b]))
  | replace source target =>
    match files source with
    | none => files
    | some content => Function.update (Function.update files source none) target (some content)
  | unlink name => Function.update files name none

def applyAll (files : Files N B) (steps : List (FileStep N B)) : Files N B := steps.foldl apply files

theorem apply_replace {files : Files N B} {source target : N} {content : List B}
    (h : files source = some content) : apply files (.replace source target) =
      Function.update (Function.update files source none) target (some content) := by
  unfold apply
  dsimp only
  rw [h]

theorem applyAll_append (files : Files N B) (steps steps' : List (FileStep N B)) :
    applyAll files (steps ++ steps') = applyAll (applyAll files steps) steps' := List.foldl_append

/-- The step writes to no other file than `name`. -/
def Local (name : N) : FileStep N B → Prop
  | create name' | append name' _ | unlink name' => name' = name
  | replace _ _ => False

theorem apply_of_local {name name' : N} (h : name' ≠ name) {step : FileStep N B} (hstep : step.Local name)
    (files : Files N B) : apply files step name' = files name' := by
  cases step with
  | create | append | unlink =>
    cases hstep
    exact Function.update_of_ne h ..
  | replace => exact hstep.elim

theorem applyAll_of_local {name name' : N} (h : name' ≠ name) {steps : List (FileStep N B)}
    (hsteps : ∀ step ∈ steps, step.Local name) (files : Files N B) :
    applyAll files steps name' = files name' := by
  induction steps generalizing files with
  | nil => rfl
  | cons step steps ih =>
    have hrest := ih (fun step hstep => hsteps step (List.mem_cons_of_mem _ hstep)) (apply files step)
    exact hrest.trans (apply_of_local h (hsteps step List.mem_cons_self) files)

end FileStep

section

variable (temporary target : N) (content : List B)

/-- The temporary file, with its content. -/
def writing : List (FileStep N B) := .create temporary :: content.map (.append temporary)

def replacing : List (FileStep N B) := writing temporary content ++ [.replace temporary target]

/-- A replacement that stops somewhere, and may then remove the temporary file. -/
def Attempted (steps : List (FileStep N B)) : Prop :=
  ∃ begun, begun <+: replacing temporary target content ∧
    (steps = begun ∨ steps = begun ++ [.unlink temporary])

/-- The replacement has come about. -/
def Replaced (steps : List (FileStep N B)) : Prop := .replace temporary target ∈ steps

instance [DecidableEq N] [DecidableEq B] (steps : List (FileStep N B)) :
    Decidable (Replaced temporary target steps) :=
  inferInstanceAs (Decidable (_ ∈ steps))

end

variable {temporary target : N} {content : List B} {steps steps' : List (FileStep N B)}

theorem writing_local : ∀ step ∈ (writing temporary content), step.Local temporary := by
  intro step hstep
  rcases List.mem_cons.mp hstep with rfl | hstep
  · rfl
  · obtain ⟨b, _, rfl⟩ := List.mem_map.mp hstep
    rfl

theorem applyAll_writing [DecidableEq N] (files : Files N B) :
    FileStep.applyAll files (writing temporary content) temporary = some content := by
  have happend : ∀ (files : Files N B) (before : List B), files temporary = some before →
      FileStep.applyAll files (content.map (.append temporary)) temporary = some (before ++ content) := by
    intro files before
    induction content generalizing files before with
    | nil =>
      intro h
      rw [List.append_nil]
      exact h
    | cons b content ih =>
      intro h
      rw [List.append_cons]
      refine ih _ _ ?_
      change Function.update files temporary _ temporary = _
      rw [Function.update_self, h]
      rfl
  exact happend _ [] (Function.update_self ..)

namespace Attempted

/-- An attempt that is killed is an attempt. -/
theorem of_prefix (h : Attempted temporary target content steps) (hkilled : steps' <+: steps) :
    Attempted temporary target content steps' := by
  obtain ⟨begun, hbegun, rfl | rfl⟩ := h
  · exact ⟨steps', hkilled.trans hbegun, .inl rfl⟩
  · rcases List.prefix_concat_iff.mp hkilled with rfl | hkilled
    · exact ⟨begun, hbegun, .inr rfl⟩
    · exact ⟨steps', hkilled.trans hbegun, .inl rfl⟩

/-- What is begun touches the temporary file alone, or is complete. -/
theorem begun_cases (h : steps <+: replacing temporary target content) :
    steps = replacing temporary target content ∨ ∀ step ∈ steps, step.Local temporary := by
  rcases List.prefix_concat_iff.mp h with h | h
  · exact .inl h
  · exact .inr fun step hstep => writing_local step (h.subset hstep)

/-- The atomic replacement: of all files but the temporary one only the target changes, and it is
the old one or the whole new one. -/
theorem apply_other [DecidableEq N] (h : Attempted temporary target content steps) (files : Files N B)
    {name : N} (hname : name ≠ temporary) [Decidable (Replaced temporary target steps)] :
    FileStep.applyAll files steps name =
      if name = target ∧ Replaced temporary target steps then some content else files name := by
  obtain ⟨begun, hbegun, hsteps⟩ := h
  have hunlink : FileStep.applyAll files steps name = FileStep.applyAll files begun name := by
    rcases hsteps with rfl | rfl
    · rfl
    · rw [FileStep.applyAll_append]
      exact Function.update_of_ne hname ..
  have hreplaced : Replaced temporary target steps ↔ Replaced temporary target begun := by
    rcases hsteps with rfl | rfl
    · rfl
    · unfold Replaced
      rw [List.mem_append]
      exact or_iff_left (by simp)
  rw [hunlink]
  rcases begun_cases hbegun with rfl | hlocal
  · have hmem : Replaced temporary target (replacing temporary target content) :=
      List.mem_append_right _ (List.mem_singleton.mpr rfl)
    unfold replacing
    rw [FileStep.applyAll_append]
    change FileStep.apply _ (.replace temporary target) name = _
    rw [FileStep.apply_replace (applyAll_writing files)]
    by_cases htarget : name = target
    · subst htarget
      rw [if_pos ⟨rfl, hreplaced.mpr hmem⟩, Function.update_self]
    · rw [if_neg fun h => htarget h.1, Function.update_of_ne htarget, Function.update_of_ne hname]
      exact FileStep.applyAll_of_local hname writing_local files
  · have hnot : ¬ Replaced temporary target begun := fun hmem => (hlocal _ hmem).elim
    rw [if_neg fun h => hnot (hreplaced.mp h.2)]
    exact FileStep.applyAll_of_local hname hlocal files

end Attempted

end EthercatSimulator.Base
