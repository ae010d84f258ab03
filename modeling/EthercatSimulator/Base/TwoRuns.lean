import EthercatSimulator.Base.Exec

/-! Two programs run side by side: the same outcome, and related states. -/

namespace EthercatSimulator.Base.Exec

variable {ε S α β : Type} {R : S → S → Prop} {s t : S}

/-- From `s` and `t`, `x` and `y` have the same outcome and end in related states. -/
def Agree (R : S → S → Prop) (x y : Exec ε S α) (s t : S) : Prop :=
  (x s).1 = (y t).1 ∧ R (x s).2 (y t).2

theorem agree_pure (a : α) (h : R s t) : Agree R (pure a : Exec ε S α) (pure a) s t := ⟨rfl, h⟩

theorem agree_modify {f g : S → S} (h : R (f s) (g t)) :
    Agree R (modify f : Exec ε S Unit) (modify g) s t := ⟨rfl, h⟩

theorem agree_ofExcept {r r' : Except ε α} (hr : r = r') (h : R s t) :
    Agree R (ofExcept r) (ofExcept r') s t := by
  subst hr
  unfold Agree
  rw [run_ofExcept, run_ofExcept]
  exact ⟨rfl, h⟩

theorem agree_get_bind {f g : S → Exec ε S β} (h : Agree R (f s) (g t) s t) :
    Agree R (get >>= f) (get >>= g) s t := h

theorem agree_modify_bind {a b : S → S} {f g : Unit → Exec ε S β}
    (h : Agree R (f ()) (g ()) (a s) (b t)) : Agree R (modify a >>= f) (modify b >>= g) s t := h

/-- A raise skips the continuation on both sides. -/
theorem Agree.bind {x y : Exec ε S α} {f g : α → Exec ε S β} (hx : Agree R x y s t)
    (hf : ∀ a s' t', R s' t' → Agree R (f a) (g a) s' t') : Agree R (x >>= f) (y >>= g) s t := by
  obtain ⟨hr, hstates⟩ := hx
  unfold Agree
  rw [run_bind, run_bind]
  generalize x s = p at hr hstates
  generalize y t = q at hr hstates
  obtain ⟨r, s'⟩ := p
  obtain ⟨r', t'⟩ := q
  dsimp only at hr
  subst hr
  cases r with
  | ok a => exact hf a s' t' hstates
  | error e => exact ⟨rfl, hstates⟩

theorem Agree.when {x y : Exec ε S Unit} {c d : Prop} [Decidable c] [Decidable d] (hcd : c ↔ d)
    (hx : c → Agree R x y s t) (h : R s t) : Agree R (when c x) (when d y) s t := by
  unfold Exec.when
  by_cases hc : c
  · rw [if_pos hc, if_pos (hcd.mp hc)]
    exact hx hc
  · rw [if_neg hc, if_neg fun hd => hc (hcd.mpr hd)]
    exact ⟨rfl, h⟩

end EthercatSimulator.Base.Exec
