import Mathlib.Data.List.Basic

/-! A channel that several parties ask on, and that answers in the order it is asked. -/

namespace EthercatSimulator.Base

/-- The requests with the parties that made them, and the answers to the first of them. -/
structure Channel (K Q R : Type) where
  asked : List (K × Q)
  answered : List R

namespace Channel

variable {K Q R : Type} [DecidableEq K] (c : Channel K Q R)

def ask (k : K) (q : Q) : Channel K Q R := { c with asked := c.asked ++ [(k, q)] }

def answer (r : R) : Channel K Q R := { c with answered := c.answered ++ [r] }

/-- The request that is answered next. -/
def next : Option (K × Q) := c.asked[c.answered.length]?

/-- How often a party has asked. -/
def askedBy (k : K) : Nat := c.asked.countP fun a => a.1 = k

/-- The answers a party has got so far. -/
def answersTo (k : K) : List R :=
  (c.asked.zip c.answered).filterMap fun a => if a.1.1 = k then some a.2 else none

/-- The answer to the last request of a party, once it is there. -/
def settled (k : K) : Option R := if (c.answersTo k).length = c.askedBy k then (c.answersTo k).getLast? else none

/-- Nothing is answered before it is asked. -/
def Causal : Prop := c.answered.length ≤ c.asked.length

variable {c}

omit [DecidableEq K] in
theorem Causal.ask (h : c.Causal) (k : K) (q : Q) : (c.ask k q).Causal := by
  change c.answered.length ≤ (c.asked ++ [(k, q)]).length
  rw [List.length_append]
  exact Nat.le_add_right_of_le h

omit [DecidableEq K] in
theorem Causal.answer {a : K × Q} (h : c.next = some a) (r : R) : (c.answer r).Causal := by
  obtain ⟨hlt, _⟩ := List.getElem?_eq_some_iff.mp h
  change (c.answered ++ [r]).length ≤ c.asked.length
  rw [List.length_append, List.length_singleton]
  exact hlt

theorem askedBy_ask (j k : K) (q : Q) : (c.ask j q).askedBy k = c.askedBy k + if j = k then 1 else 0 := by
  unfold askedBy ask
  rw [List.countP_append, List.countP_singleton]
  simp only [decide_eq_true_eq]

theorem askedBy_answer (k : K) (r : R) : (c.answer r).askedBy k = c.askedBy k := rfl

omit [DecidableEq K] in
theorem zip_prefix {xs ys : List (K × Q)} {rs : List R} (h : xs.length = rs.length) :
    (xs ++ ys).zip rs = xs.zip rs := by
  have happend : (xs ++ ys).zip (rs ++ []) = xs.zip rs ++ ys.zip [] := List.zip_append h
  rwa [List.append_nil, List.zip_nil_right, List.append_nil] at happend

theorem answersTo_ask (h : c.Causal) (j k : K) (q : Q) : (c.ask j q).answersTo k = c.answersTo k := by
  have hsplit : (c.asked.take c.answered.length).length = c.answered.length := List.length_take_of_le h
  have hzip : (c.asked ++ [(j, q)]).zip c.answered = c.asked.zip c.answered := by
    rw [← List.take_append_drop c.answered.length c.asked, List.append_assoc, zip_prefix hsplit, zip_prefix hsplit]
  unfold answersTo ask
  dsimp only
  rw [hzip]

theorem answersTo_answer {j : K} {q : Q} (h : c.next = some (j, q)) (k : K) (r : R) :
    (c.answer r).answersTo k = c.answersTo k ++ if j = k then [r] else [] := by
  obtain ⟨hlt, hnext⟩ := List.getElem?_eq_some_iff.mp h
  have hsplit : (c.asked.take c.answered.length).length = c.answered.length := List.length_take_of_le (Nat.le_of_lt hlt)
  have hasked : c.asked = c.asked.take c.answered.length ++ (j, q) :: c.asked.drop (c.answered.length + 1) := by
    rw [← hnext, List.getElem_cons_drop, List.take_append_drop]
  have hbefore : c.asked.zip c.answered = (c.asked.take c.answered.length).zip c.answered := by
    rw [hasked, List.take_left' hsplit, zip_prefix hsplit]
  have hafter : c.asked.zip (c.answered ++ [r]) = c.asked.zip c.answered ++ [((j, q), r)] := by
    rw [hbefore, hasked, List.take_left' hsplit, List.zip_append hsplit, List.zip_cons_cons, List.zip_nil_right]
  unfold answersTo answer
  dsimp only
  rw [hafter, List.filterMap_append]
  congr 1
  split_ifs with hk
  · simp [hk]
  · simp [hk]

theorem mem_of_answersTo {k : K} {r : R} (h : r ∈ c.answersTo k) : r ∈ c.answered := by
  obtain ⟨⟨a, r'⟩, hmem, hr⟩ := List.mem_filterMap.mp h
  dsimp only at hr
  split_ifs at hr
  cases hr
  exact (List.of_mem_zip hmem).2

theorem settled_mem {k : K} {r : R} (h : c.settled k = some r) : r ∈ c.answered := by
  unfold settled at h
  split_ifs at h
  exact mem_of_answersTo (List.mem_of_getLast? h)

omit [DecidableEq K] in
theorem zip_fst_of_le (xs : List (K × Q)) (rs : List R) : (xs.zip rs).map Prod.fst <+: xs := by
  induction xs generalizing rs with
  | nil => exact List.nil_prefix
  | cons x xs ih =>
    cases rs with
    | nil => exact List.nil_prefix
    | cons r rs => exact List.cons_prefix_cons.mpr ⟨rfl, ih rs⟩

theorem length_answersTo (k : K) : (c.answersTo k).length ≤ c.askedBy k := by
  have hkept (a : (K × Q) × R) : (if a.1.1 = k then some a.2 else none).isSome = decide (a.1.1 = k) := by
    split_ifs with hk <;> simp [hk]
  unfold answersTo askedBy
  rw [List.length_filterMap_eq_countP]
  simp only [hkept]
  have hcount := List.countP_map (p := fun a : K × Q => decide (a.1 = k)) (f := @Prod.fst (K × Q) R)
    (l := c.asked.zip c.answered)
  refine Nat.le_trans (Nat.le_of_eq hcount.symm) ?_
  exact List.Sublist.countP_le (zip_fst_of_le c.asked c.answered).sublist

/-- A party that has its last answer has it in the place of its last request. -/
theorem getElem?_settled {β : Type} {k : K} {r : R} (h : c.settled k = some r) (f : R → β) (b : β) :
    (b :: (c.answersTo k).map f)[c.askedBy k]? = some (f r) := by
  unfold settled at h
  split_ifs at h with hall
  have hlast : ((c.answersTo k).map f).getLast? = some (f r) := by rw [List.getLast?_map, h, Option.map_some]
  have hne : (c.answersTo k).map f ≠ [] := fun hnil => by
    rw [hnil] at hlast
    cases hlast
  have hplace : (b :: (c.answersTo k).map f).getLast? = (b :: (c.answersTo k).map f)[c.askedBy k]? := by
    rw [List.getLast?_eq_getElem?, List.length_cons, List.length_map, hall, Nat.add_sub_cancel]
  rw [← hplace, List.getLast?_cons_of_ne_nil hne, hlast]

end Channel

end EthercatSimulator.Base
