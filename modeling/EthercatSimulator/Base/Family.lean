import Mathlib.Data.List.Basic

/-! Machines that answer their inputs, and families of them that share one stream of inputs. -/

namespace EthercatSimulator.Base

variable {S E O : Type}

/-- The answers to the inputs in their order, and the state they leave. -/
def answers (step : E → S → O × S) : List E → S → List O × S
  | [], s => ([], s)
  | e :: rest, s =>
    let (o, s') := step e s
    let (os, s'') := answers step rest s'
    (o :: os, s'')

section Answers

variable (step : E → S → O × S)

theorem answers_cons (e : E) (rest : List E) (s : S) : answers step (e :: rest) s =
    ((step e s).1 :: (answers step rest (step e s).2).1, (answers step rest (step e s).2).2) := rfl

theorem answers_append (inputs rest : List E) (s : S) : answers step (inputs ++ rest) s =
    ((answers step inputs s).1 ++ (answers step rest (answers step inputs s).2).1,
      (answers step rest (answers step inputs s).2).2) := by
  induction inputs generalizing s with
  | nil => rfl
  | cons e inputs ih => rw [List.cons_append, answers_cons, answers_cons, ih, List.cons_append]

/-- Machines that agree on the states of a run answer alike. -/
theorem answers_congr {step' : E → S → O × S} {P : S → Prop} (hstep : ∀ e s, P s → P (step e s).2)
    (hagree : ∀ e s, P s → step' e s = step e s) (inputs : List E) {s : S} (hs : P s) :
    answers step' inputs s = answers step inputs s := by
  induction inputs generalizing s with
  | nil => rfl
  | cons e rest ih => rw [answers_cons, answers_cons, hagree e s hs, ih (hstep e s hs)]

end Answers

/-! A family of machines, each input addressed to one of them or to none. -/

namespace Family

variable (address : E → Option Nat) (step : E → S → O × S) (elsewhere : E → O)

/-- One input: the addressed member answers it, and no other member moves. -/
def act (e : E) (members : List S) : O × List S :=
  match address e with
  | none => (elsewhere e, members)
  | some i =>
    match members[i]? with
    | none => (elsewhere e, members)
    | some s => ((step e s).1, members.set i (step e s).2)

/-- What of `inputs` is addressed to member `i`. -/
def own (i : Nat) (inputs : List E) : List E := inputs.filter fun e => address e = some i

/-- What of `os`, the answers to `inputs`, is the answer to an input of member `i`. -/
def ownAnswers (i : Nat) (inputs : List E) (os : List O) : List O :=
  ((inputs.zip os).filter fun eo => address eo.1 = some i).map Prod.snd

theorem act_length (e : E) (members : List S) :
    (act address step elsewhere e members).2.length = members.length := by
  unfold act
  split
  · rfl
  · split
    · rfl
    · exact List.length_set

theorem act_other {e : E} {i : Nat} (h : address e ≠ some i) (members : List S) :
    (act address step elsewhere e members).2[i]? = members[i]? := by
  unfold act
  split
  · rfl
  · next j hj =>
    split
    · rfl
    · exact List.getElem?_set_ne fun hji => h (hj.trans (congrArg some hji))

theorem act_own {e : E} {i : Nat} (h : address e = some i) {members : List S} {s : S} (hs : members[i]? = some s) :
    (act address step elsewhere e members).1 = (step e s).1 ∧
      (act address step elsewhere e members).2[i]? = some (step e s).2 := by
  obtain ⟨hi, _⟩ := List.getElem?_eq_some_iff.mp hs
  unfold act
  rw [h]
  dsimp only
  rw [hs]
  exact ⟨rfl, List.getElem?_set_self hi⟩

/-- What every step keeps of a member, every input keeps of all of them. -/
theorem act_all {P : S → Prop} (hstep : ∀ e s, P s → P (step e s).2) (e : E) {members : List S}
    (h : ∀ s ∈ members, P s) : ∀ s ∈ (act address step elsewhere e members).2, P s := by
  unfold act
  split
  · exact h
  · split
    · exact h
    · next s hs =>
      intro s' hmem
      rcases List.mem_or_eq_of_mem_set hmem with hmem | rfl
      · exact h s' hmem
      · exact hstep e s (h s (List.mem_of_getElem? hs))

/-- However the inputs of the members are mixed, each member answers and ends as it does alone. -/
theorem answers_own (inputs : List E) {members : List S} {i : Nat} {s : S} (hs : members[i]? = some s) :
    (answers (act address step elsewhere) inputs members).2[i]? =
        some (answers step (own address i inputs) s).2 ∧
      ownAnswers address i inputs (answers (act address step elsewhere) inputs members).1 =
        (answers step (own address i inputs) s).1 := by
  induction inputs generalizing members s with
  | nil => exact ⟨hs, rfl⟩
  | cons e rest ih =>
    rw [answers_cons]
    unfold own ownAnswers at ih ⊢
    rw [List.zip_cons_cons]
    by_cases h : address e = some i
    · obtain ⟨hanswer, hnext⟩ := act_own address step elsewhere h hs
      obtain ⟨hstate, hrest⟩ := ih hnext
      rw [List.filter_cons_of_pos (by simpa using h), List.filter_cons_of_pos (by simpa using h), List.map_cons,
        hanswer, hrest]
      exact ⟨hstate, rfl⟩
    · rw [List.filter_cons_of_neg (by simpa using h), List.filter_cons_of_neg (by simpa using h)]
      exact ih ((act_other address step elsewhere h members).trans hs)

end Family

end EthercatSimulator.Base
