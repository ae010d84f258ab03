import EthercatSimulator.Base.Bytes
import Mathlib.Data.List.Basic

/-! Streams of newline-framed lines. -/

namespace EthercatSimulator.Base

def newline : UInt8 := 0x0a

/-- The length of a line and its newline, or of all bytes where no line ends. -/
def lineLength (bytes : Bytes) : Nat :=
  if newline ∈ bytes then bytes.idxOf newline + 1 else bytes.length

/-- A piece of a line and its newline: the whole rest, or still a part of the line. -/
theorem take_line {line : Bytes} (hline : newline ∉ line) {n : Nat} (hn : n ≤ line.length + 1) :
    (n = line.length + 1 ∧ lineLength ((line ++ [newline]).take n) = line.length + 1) ∨
      (n ≤ line.length ∧ newline ∉ (line ++ [newline]).take n ∧
        lineLength ((line ++ [newline]).take n) = n) := by
  rcases Nat.lt_or_ge line.length n with h | h
  · obtain rfl : n = line.length + 1 := by omega
    refine .inl ⟨rfl, ?_⟩
    rw [List.take_of_length_le (by simp)]
    unfold lineLength
    rw [if_pos (by simp), List.idxOf_append_of_notMem hline]
    simp
  · have htake : (line ++ [newline]).take n = line.take n := List.take_append_of_le_length h
    have hnone : newline ∉ line.take n := fun hmem => hline (List.mem_of_mem_take hmem)
    refine .inr ⟨h, htake ▸ hnone, ?_⟩
    unfold lineLength
    rw [htake, if_neg hnone, List.length_take, Nat.min_eq_left h]

theorem lineLength_le (bytes : Bytes) : lineLength bytes ≤ bytes.length := by
  unfold lineLength
  split
  · next h => exact List.idxOf_lt_length_of_mem h
  · exact Nat.le_refl _

theorem lineLength_pos {bytes : Bytes} (h : bytes ≠ []) : 0 < lineLength bytes := by
  unfold lineLength
  split
  · exact Nat.succ_pos _
  · exact List.length_pos_of_ne_nil h

/-- What is taken of a line has its newline only at its end. -/
theorem notMem_dropLast_take {bytes : Bytes} {n : Nat} (hn : n ≤ lineLength bytes) :
    newline ∉ (bytes.take n).dropLast := by
  intro hmem
  rw [List.dropLast_eq_take, List.length_take, Nat.min_eq_left (Nat.le_trans hn (lineLength_le bytes)),
    List.take_take] at hmem
  have hbytes := List.mem_of_mem_take hmem
  rw [lineLength, if_pos hbytes] at hn
  have hlt := (List.mem_take_iff_idxOf_lt hbytes).mp hmem
  omega

/-- Where the first line of a stream begins, without a newline, it goes on. -/
theorem split_line {a line rest unread : Bytes} (ha : newline ∉ a) (h : a ++ unread = line ++ newline :: rest) :
    ∃ tail, line = a ++ tail ∧ unread = tail ++ newline :: rest := by
  rcases List.append_eq_append_iff.mp h with ⟨tail, hline, hunread⟩ | ⟨more, rfl, hrest⟩
  · exact ⟨tail, hline, hunread⟩
  · cases more with
    | nil => exact ⟨[], by simp, by simpa using hrest.symm⟩
    | cons b more =>
      cases hrest
      exact absurd (by simp) ha

/-- The first line of a stream is one. -/
theorem line_unique {line line' rest rest' : Bytes} (hline : newline ∉ line) (hline' : newline ∉ line')
    (h : line ++ newline :: rest = line' ++ newline :: rest') : line = line' ∧ rest = rest' := by
  obtain ⟨tail, rfl, htail⟩ := split_line hline h
  cases tail with
  | nil => exact ⟨(List.append_nil _).symm, (List.cons.inj htail).2⟩
  | cons b tail =>
    cases htail
    exact absurd (by simp) hline'

end EthercatSimulator.Base
