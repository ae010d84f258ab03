import Mathlib.Data.List.Forall2
import Mathlib.Data.List.Basic

/-! Texts as lists of characters: the white space around them, and their split at a separator. -/

namespace EthercatSimulator.Base.Text

/-- `str.isspace` of one character, which is also what `\s` matches. -/
def isSpace (c : Char) : Bool :=
  let n := c.toNat
  (0x09 ≤ n && n ≤ 0x0D) || (0x1C ≤ n && n ≤ 0x20) || n = 0x85 || n = 0xA0 || n = 0x1680 ||
    (0x2000 ≤ n && n ≤ 0x200A) || n = 0x2028 || n = 0x2029 || n = 0x202F || n = 0x205F || n = 0x3000

def lstrip (text : List Char) : List Char := text.dropWhile isSpace
def rstrip (text : List Char) : List Char := (lstrip text.reverse).reverse

/-- `str.strip` -/
def strip (text : List Char) : List Char := rstrip (lstrip text)

def Blank (text : List Char) : Prop := ∀ c ∈ text, isSpace c = true

/-- `b` is `a` with white space around it. -/
def Padded (a b : List Char) : Prop := ∃ before after, Blank before ∧ Blank after ∧ b = before ++ a ++ after

variable {a b c : List Char}

theorem Blank.append (ha : Blank a) (hb : Blank b) : Blank (a ++ b) :=
  fun x hx => (List.mem_append.mp hx).elim (ha x) (hb x)

theorem Blank.reverse (h : Blank a) : Blank a.reverse := fun x hx => h x (List.mem_reverse.mp hx)

theorem blank_nil : Blank [] := nofun

theorem Padded.refl (a : List Char) : Padded a a := ⟨[], [], blank_nil, blank_nil, by simp⟩

theorem Padded.trans (h : Padded a b) (h' : Padded b c) : Padded a c := by
  obtain ⟨w₁, w₂, hw₁, hw₂, rfl⟩ := h
  obtain ⟨w₃, w₄, hw₃, hw₄, rfl⟩ := h'
  exact ⟨w₃ ++ w₁, w₂ ++ w₄, hw₃.append hw₁, hw₂.append hw₄, by simp⟩

theorem lstrip_blank (h : Blank a) : lstrip (a ++ b) = lstrip b := List.dropWhile_append_of_pos h

theorem lstrip_of_blank (h : Blank a) : lstrip a = [] := by
  have hstrip := lstrip_blank (b := []) h
  rwa [List.append_nil] at hstrip

theorem rstrip_blank (h : Blank b) : rstrip (a ++ b) = rstrip a := by
  unfold rstrip
  rw [List.reverse_append, lstrip_blank h.reverse]

/-- Dropping white space on the left drops a blank part. -/
theorem exists_lstrip (a : List Char) : ∃ before, Blank before ∧ a = before ++ lstrip a := by
  refine ⟨a.takeWhile isSpace, fun x hx => List.all_eq_true.mp List.all_takeWhile x hx, ?_⟩
  exact List.takeWhile_append_dropWhile.symm

theorem exists_rstrip (a : List Char) : ∃ after, Blank after ∧ a = rstrip a ++ after := by
  obtain ⟨before, hbefore, heq⟩ := exists_lstrip a.reverse
  refine ⟨before.reverse, hbefore.reverse, ?_⟩
  unfold rstrip
  rw [← List.reverse_append, ← heq, List.reverse_reverse]

theorem padded_strip (a : List Char) : Padded (strip a) a := by
  obtain ⟨before, hbefore, heq⟩ := exists_lstrip a
  obtain ⟨after, hafter, heq'⟩ := exists_rstrip (lstrip a)
  exact ⟨before, after, hbefore, hafter, by rw [strip, List.append_assoc, ← heq', ← heq]⟩

theorem strip_padded (h : Padded a b) : strip b = strip a := by
  obtain ⟨before, after, hbefore, hafter, rfl⟩ := h
  unfold strip
  rw [List.append_assoc, lstrip_blank hbefore]
  by_cases hblank : lstrip a = []
  · have happend : lstrip (a ++ after) = lstrip after := by
      unfold lstrip at hblank ⊢
      rw [List.dropWhile_append, hblank]
      rfl
    rw [happend, lstrip_of_blank hafter, hblank]
  · have happend : lstrip (a ++ after) = lstrip a ++ after := by
      unfold lstrip at hblank ⊢
      rw [List.dropWhile_append, if_neg (by simpa using hblank)]
    rw [happend, rstrip_blank hafter]

theorem blank_iff_strip : Blank a ↔ strip a = [] := by
  constructor
  · intro h
    rw [strip, lstrip_of_blank h]
    rfl
  · intro h
    obtain ⟨before, after, hbefore, hafter, heq⟩ := padded_strip a
    rw [heq, h, List.append_nil]
    exact hbefore.append hafter

/-! Splits. -/

variable {sep : Char}

theorem Blank.not_mem (h : Blank a) (hsep : isSpace sep = false) : sep ∉ a := by
  intro hmem
  have hspace := h sep hmem
  rw [hsep] at hspace
  cases hspace

theorem Padded.mem_iff (h : Padded a b) (hsep : isSpace sep = false) : sep ∈ b ↔ sep ∈ a := by
  obtain ⟨before, after, hbefore, hafter, rfl⟩ := h
  simp [hbefore.not_mem hsep, hafter.not_mem hsep]

theorem splitOn_blank_append (hsep : isSpace sep = false) (h : Blank a) :
    (a ++ b).splitOn sep = (b.splitOn sep).modifyHead (a ++ ·) := by
  induction a with
  | nil =>
    rw [List.nil_append]
    cases b.splitOn sep <;> rfl
  | cons x a ih =>
    have hx : (x == sep) = false := beq_eq_false_iff_ne.mpr fun heq => h.not_mem hsep (heq ▸ List.mem_cons_self)
    rw [List.cons_append, List.splitOn_cons_eq_if_modifyHead, hx, ih fun y hy => h y (List.mem_cons_of_mem _ hy)]
    cases b.splitOn sep <;> rfl

theorem splitOn_append_blank (hsep : isSpace sep = false) (h : Blank b) :
    List.Forall₂ (fun part part' => ∃ after, Blank after ∧ part' = part ++ after)
      (a.splitOn sep) ((a ++ b).splitOn sep) := by
  induction a with
  | nil =>
    rw [List.nil_append, List.splitOn_eq_singleton (h.not_mem hsep), List.splitOn_nil]
    exact .cons ⟨b, h, rfl⟩ .nil
  | cons x a ih =>
    rw [List.cons_append, List.splitOn_cons_eq_if_modifyHead, List.splitOn_cons_eq_if_modifyHead]
    split
    · refine .cons ⟨[], blank_nil, rfl⟩ ih
    · generalize a.splitOn sep = as at ih ⊢
      generalize (a ++ b).splitOn sep = bs at ih ⊢
      cases ih with
      | nil => exact .nil
      | cons hhead htail =>
        obtain ⟨after, hafter, rfl⟩ := hhead
        exact .cons ⟨after, hafter, rfl⟩ htail

/-- White space around a text is white space around its parts. -/
theorem splitOn_padded (hsep : isSpace sep = false) (h : Padded a b) :
    List.Forall₂ Padded (a.splitOn sep) (b.splitOn sep) := by
  obtain ⟨before, after, hbefore, hafter, rfl⟩ := h
  have hparts := splitOn_append_blank (a := a) hsep hafter
  rw [List.append_assoc, splitOn_blank_append hsep hbefore]
  generalize a.splitOn sep = as at hparts ⊢
  generalize (a ++ after).splitOn sep = bs at hparts ⊢
  have hafter : ∀ part part' : List Char, (∃ after, Blank after ∧ part' = part ++ after) → Padded part part' :=
    fun _ _ ⟨after, hblank, heq⟩ => ⟨[], after, blank_nil, hblank, by rw [heq, List.nil_append]⟩
  cases hparts with
  | nil => exact .nil
  | cons hhead htail =>
    obtain ⟨w, hw, rfl⟩ := hhead
    exact .cons ⟨before, w, hbefore, hw, by rw [List.append_assoc]⟩ (htail.imp hafter)

end EthercatSimulator.Base.Text
