import Mathlib.Data.List.Forall2
import Mathlib.Order.Defs.Unbundled

/-! Programs that run on a mutable state and may raise.  A raised exception keeps the
state reached so far, so a handler sees every mutation made before the raise. -/

namespace EthercatSimulator.Base

def Exec (ε S α : Type) := S → Except ε α × S

namespace Exec

variable {ε S T α β : Type}

def ret (a : α) : Exec ε S α := fun s => (.ok a, s)

def bind (x : Exec ε S α) (f : α → Exec ε S β) : Exec ε S β := fun s =>
  match x s with
  | (.ok a, s') => f a s'
  | (.error e, s') => (.error e, s')

instance : Monad (Exec ε S) where
  pure := ret
  bind := bind

theorem bind_ret (x : Exec ε S α) : bind x ret = x := by
  funext s
  unfold bind
  match x s with
  | (.ok a, s') => rfl
  | (.error e, s') => rfl

theorem bind_assoc {γ : Type} (x : Exec ε S α) (f : α → Exec ε S β) (g : β → Exec ε S γ) :
    bind (bind x f) g = bind x fun a => bind (f a) g := by
  funext s
  unfold bind
  match x s with
  | (.ok a, s') => rfl
  | (.error e, s') => rfl

instance : LawfulMonad (Exec ε S) := LawfulMonad.mk' _ bind_ret (fun _ _ => rfl) bind_assoc

def raise (e : ε) : Exec ε S α := fun s => (.error e, s)

/-- Runs `h` on the exception and on the state in which `x` raised it. -/
def handle (x : Exec ε S α) (h : ε → Exec ε S α) : Exec ε S α := fun s =>
  match x s with
  | (.ok a, s') => (.ok a, s')
  | (.error e, s') => h e s'

def get : Exec ε S S := fun s => (.ok s, s)
def modify (f : S → S) : Exec ε S Unit := fun s => (.ok (), f s)

def ofExcept : Except ε α → Exec ε S α
  | .ok a => ret a
  | .error e => raise e

/-- Raises unless `c` holds. -/
def require (c : Prop) [Decidable c] (e : ε) : Exec ε S Unit := if c then ret () else raise e

def when (c : Prop) [Decidable c] (x : Exec ε S Unit) : Exec ε S Unit := if c then x else ret ()

/-- Runs a program on a component of a larger state. -/
def zoom (view : T → S) (put : T → S → T) (x : Exec ε S α) : Exec ε T α := fun t =>
  match x (view t) with
  | (r, s') => (r, put t s')

/-- Runs `x` and hands its outcome, raised or not, to the caller. -/
def attempt (x : Exec ε S α) : Exec ε S (Except ε α) := fun s =>
  match x s with
  | (r, s') => (.ok r, s')

/-- `try` with a `finally`: what `cleanup` raises takes the place of what `x` raised. -/
def ensuring (x : Exec ε S α) (cleanup : Exec ε S Unit) : Exec ε S α := do
  let r ← x.attempt
  cleanup
  ofExcept r

@[simp] theorem run_pure (a : α) (s : S) : (pure a : Exec ε S α) s = (.ok a, s) := rfl
@[simp] theorem run_raise (e : ε) (s : S) : (raise e : Exec ε S α) s = (.error e, s) := rfl
@[simp] theorem run_get (s : S) : (get : Exec ε S S) s = (.ok s, s) := rfl
@[simp] theorem run_modify (f : S → S) (s : S) : (modify f : Exec ε S Unit) s = (.ok (), f s) := rfl

@[simp] theorem run_ofExcept (r : Except ε α) (s : S) : (ofExcept r : Exec ε S α) s = (r, s) := by
  cases r <;> rfl

theorem run_bind (x : Exec ε S α) (f : α → Exec ε S β) (s : S) :
    (x >>= f) s = match x s with
      | (.ok a, s') => f a s'
      | (.error e, s') => (.error e, s') := rfl

theorem run_bind_ok {x : Exec ε S α} {s s' : S} {a : α} (h : x s = (.ok a, s'))
    (f : α → Exec ε S β) : (x >>= f) s = f a s' := by
  rw [run_bind, h]

theorem run_bind_error {x : Exec ε S α} {s s' : S} {e : ε} (h : x s = (.error e, s'))
    (f : α → Exec ε S β) : (x >>= f) s = (.error e, s') := by
  rw [run_bind, h]

theorem run_bind_eq_ok {x : Exec ε S α} {f : α → Exec ε S β} {s s' : S} {b : β} :
    (x >>= f) s = (.ok b, s') ↔ ∃ a s₁, x s = (.ok a, s₁) ∧ f a s₁ = (.ok b, s') := by
  rw [run_bind]
  match x s with
  | (.ok a, s₁) =>
    constructor
    · exact fun h => ⟨a, s₁, rfl, h⟩
    · rintro ⟨_, _, ⟨⟩, h⟩
      exact h
  | (.error e, s₁) => exact iff_of_false nofun fun ⟨_, _, h, _⟩ => nomatch h

theorem require_cases (c : Prop) [Decidable c] (e : ε) (s : S) :
    (c ∧ require c e s = (.ok (), s)) ∨ (¬ c ∧ require c e s = (.error e, s)) := by
  unfold require
  split
  · rename_i hc
    exact .inl ⟨hc, rfl⟩
  · rename_i hc
    exact .inr ⟨hc, rfl⟩

theorem run_require {c : Prop} [Decidable c] (h : c) (e : ε) (s : S) : require c e s = (.ok (), s) := by
  rw [require, if_pos h]
  rfl

theorem run_ofExcept_bind (r : Except ε α) (f : α → Exec ε S β) (s : S) :
    (ofExcept r >>= f) s = match r with
      | .ok a => f a s
      | .error e => (.error e, s) := by
  cases r <;> rfl

theorem run_ensuring (x : Exec ε S α) (cleanup : Exec ε S Unit) (s : S) :
    x.ensuring cleanup s = match cleanup (x s).2 with
      | (.ok (), s') => ((x s).1, s')
      | (.error e, s') => (.error e, s') := by
  have hattempt : x.attempt s = (.ok (x s).1, (x s).2) := rfl
  unfold ensuring
  rw [run_bind_ok hattempt, run_bind]
  match cleanup (x s).2 with
  | (.ok (), s') => exact run_ofExcept ..
  | (.error e, s') => rfl

/-- The clean-up runs whether or not `x` raises. -/
theorem run_ensuring_state (x : Exec ε S α) (cleanup : Exec ε S Unit) (s : S) :
    (x.ensuring cleanup s).2 = (cleanup (x s).2).2 := by
  rw [run_ensuring]
  match cleanup (x s).2 with
  | (.ok (), s') => rfl
  | (.error e, s') => rfl

theorem ensuring_error {x : Exec ε S α} {cleanup : Exec ε S Unit} {s s' : S} {e : ε} (h : x s = (.error e, s')) :
    ∃ e' s'', x.ensuring cleanup s = (.error e', s'') := by
  rw [run_ensuring, h]
  match cleanup s' with
  | (.ok (), s'') => exact ⟨e, s'', rfl⟩
  | (.error e', s'') => exact ⟨e', s'', rfl⟩

/-! `x.Post s Q`: run from `s`, the outcome and the final state of `x` satisfy `Q`. -/

def Post (x : Exec ε S α) (s : S) (Q : Except ε α → S → Prop) : Prop := Q (x s).1 (x s).2

theorem Post.mono {x : Exec ε S α} {s : S} {P Q : Except ε α → S → Prop}
    (h : x.Post s P) (hpq : ∀ r s', P r s' → Q r s') : x.Post s Q := hpq _ _ h

theorem Post.and {x : Exec ε S α} {s : S} {P Q : Except ε α → S → Prop}
    (hp : x.Post s P) (hq : x.Post s Q) : x.Post s fun r s' => P r s' ∧ Q r s' := ⟨hp, hq⟩

theorem post_pure {a : α} {s : S} {Q : Except ε α → S → Prop} (h : Q (.ok a) s) :
    (pure a : Exec ε S α).Post s Q := h

theorem post_raise {e : ε} {s : S} {Q : Except ε α → S → Prop} (h : Q (.error e) s) :
    (raise e : Exec ε S α).Post s Q := h

theorem post_modify {f : S → S} {s : S} {Q : Except ε Unit → S → Prop} (h : Q (.ok ()) (f s)) :
    (modify f).Post s Q := h

theorem post_get {s : S} {Q : Except ε S → S → Prop} (h : Q (.ok s) s) : get.Post s Q := h

theorem post_ofExcept {r : Except ε α} {s : S} {Q : Except ε α → S → Prop} (h : Q r s) :
    (ofExcept r : Exec ε S α).Post s Q := by
  cases r <;> exact h

theorem post_require {c : Prop} [Decidable c] {e : ε} {s : S} {Q : Except ε Unit → S → Prop}
    (hok : c → Q (.ok ()) s) (herr : ¬ c → Q (.error e) s) : (require c e).Post s Q := by
  unfold require
  split
  · rename_i hc; exact hok hc
  · rename_i hc; exact herr hc

theorem post_when {c : Prop} [Decidable c] {x : Exec ε S Unit} {s : S}
    {Q : Except ε Unit → S → Prop} (hx : c → x.Post s Q) (hskip : ¬ c → Q (.ok ()) s) :
    (when c x).Post s Q := by
  unfold when
  split
  · rename_i hc; exact hx hc
  · rename_i hc; exact hskip hc

theorem post_attempt {x : Exec ε S α} {s : S} {Q : Except ε (Except ε α) → S → Prop}
    (h : x.Post s fun r s' => Q (.ok r) s') : x.attempt.Post s Q := h

/-- Sequencing: a raise skips the continuation. -/
theorem Post.bind {x : Exec ε S α} {f : α → Exec ε S β} {s : S} {Q : Except ε β → S → Prop}
    (hok : x.Post s fun r s' => ∀ a, r = .ok a → (f a).Post s' Q)
    (herr : x.Post s fun r s' => ∀ e, r = .error e → Q (.error e) s') : (x >>= f).Post s Q := by
  unfold Post at hok herr ⊢
  rw [run_bind]
  match hx : x s with
  | (.ok a, s') => simpa [hx] using hok a (by rw [hx])
  | (.error e, s') => simpa [hx] using herr e (by rw [hx])

theorem post_get_bind {f : S → Exec ε S β} {s : S} {Q : Except ε β → S → Prop}
    (h : (f s).Post s Q) : (get >>= f).Post s Q := h

theorem post_modify_bind {g : S → S} {f : Unit → Exec ε S β} {s : S} {Q : Except ε β → S → Prop}
    (h : (f ()).Post (g s) Q) : (modify g >>= f).Post s Q := h

theorem post_require_bind {c : Prop} [Decidable c] {e : ε} {f : Unit → Exec ε S β} {s : S}
    {Q : Except ε β → S → Prop} (hok : c → (f ()).Post s Q) (herr : ¬ c → Q (.error e) s) :
    (require c e >>= f).Post s Q := by
  apply Post.bind
  · apply post_require
    · intro hc a _; exact hok hc
    · intro _ a h; cases h
  · apply post_require
    · intro _ e h; cases h
    · intro hc e h; cases h; exact herr hc

theorem Post.handle {x : Exec ε S α} {h : ε → Exec ε S α} {s : S} {Q : Except ε α → S → Prop}
    (hok : x.Post s fun r s' => ∀ a, r = .ok a → Q (.ok a) s')
    (herr : x.Post s fun r s' => ∀ e, r = .error e → (h e).Post s' Q) : (x.handle h).Post s Q := by
  unfold Post Exec.handle at *
  match hx : x s with
  | (.ok a, s') => simpa [hx] using hok a (by rw [hx])
  | (.error e, s') => simpa [hx] using herr e (by rw [hx])

theorem post_zoom {view : T → S} {put : T → S → T} {x : Exec ε S α} {t : T}
    {Q : Except ε α → T → Prop} (h : x.Post (view t) fun r s' => Q r (put t s')) :
    (x.zoom view put).Post t Q := h

/-! `x.Keeps R`: wherever it starts, raised or not, `x` ends in a state related by `R`. -/

def Keeps (R : S → S → Prop) (x : Exec ε S α) : Prop := ∀ s, R s (x s).2

section Keeps

variable {R : S → S → Prop}

section Refl

variable [Std.Refl R]

theorem keeps_pure (a : α) : (pure a : Exec ε S α).Keeps R := fun s => refl s

theorem keeps_raise (e : ε) : (raise e : Exec ε S α).Keeps R := fun s => refl s

theorem keeps_get : (get : Exec ε S S).Keeps R := fun s => refl s

theorem keeps_require (c : Prop) [Decidable c] (e : ε) : (require c e).Keeps R := by
  intro s
  unfold require
  split <;> exact refl s

theorem keeps_ofExcept (r : Except ε α) : (ofExcept r : Exec ε S α).Keeps R := by
  cases r with
  | ok a => exact keeps_pure a
  | error e => exact keeps_raise e

theorem Keeps.when {x : Exec ε S Unit} (c : Prop) [Decidable c] (h : x.Keeps R) :
    (when c x).Keeps R := by
  intro s
  unfold Exec.when
  split
  · exact h s
  · exact refl s

end Refl

variable [IsTrans S R]

theorem Keeps.bind {x : Exec ε S α} {f : α → Exec ε S β} (hx : x.Keeps R)
    (hf : ∀ a, (f a).Keeps R) : (x >>= f).Keeps R := by
  intro s
  have hs := hx s
  rw [run_bind]
  generalize x s = p at hs ⊢
  obtain ⟨r, s'⟩ := p
  cases r with
  | ok a => exact IsTrans.trans _ _ _ hs (hf a s')
  | error e => exact hs

theorem Keeps.handle {x : Exec ε S α} {h : ε → Exec ε S α} (hx : x.Keeps R)
    (hh : ∀ e, (h e).Keeps R) : (x.handle h).Keeps R := by
  intro s
  have hs := hx s
  unfold Exec.handle
  generalize x s = p at hs ⊢
  obtain ⟨r, s'⟩ := p
  cases r with
  | ok a => exact hs
  | error e => exact IsTrans.trans _ _ _ hs (hh e s')

end Keeps

/-- The component `f` is as it was. -/
def Fixes (f : S → T) (s s' : S) : Prop := f s' = f s

instance (f : S → T) : Std.Refl (Fixes f) := ⟨fun _ => rfl⟩
instance (f : S → T) : IsTrans S (Fixes f) := ⟨fun _ _ _ h h' => h'.trans h⟩

/-- The component `f` moves by `R`. -/
def Moves (f : S → T) (R : T → T → Prop) (s s' : S) : Prop := R (f s) (f s')

instance (f : S → T) (R : T → T → Prop) [Std.Refl R] : Std.Refl (Moves f R) := ⟨fun s => refl (f s)⟩

instance (f : S → T) (R : T → T → Prop) [IsTrans T R] : IsTrans S (Moves f R) :=
  ⟨fun _ _ _ => IsTrans.trans (r := R) _ _ _⟩

/-- `P` holds after if it held before. -/
def Preserves (P : S → Prop) (s s' : S) : Prop := P s → P s'

instance (P : S → Prop) : Std.Refl (Preserves P) := ⟨fun _ => id⟩
instance (P : S → Prop) : IsTrans S (Preserves P) := ⟨fun _ _ _ h h' => h' ∘ h⟩

/-! `x.Runs s`: from `s`, `x` returns. -/

def Runs (x : Exec ε S α) (s : S) : Prop := ∃ a, (x s).1 = .ok a

section Runs

variable {s : S}

theorem runs_unit {x : Exec ε S Unit} : x.Runs s ↔ (x s).1 = .ok () :=
  ⟨fun ⟨_, h⟩ => h, fun h => ⟨(), h⟩⟩

@[simp] theorem runs_pure (a : α) : (pure a : Exec ε S α).Runs s := ⟨a, rfl⟩

@[simp] theorem runs_modify (f : S → S) : (modify f : Exec ε S Unit).Runs s := ⟨(), rfl⟩

@[simp] theorem runs_raise (e : ε) : ¬ (raise e : Exec ε S α).Runs s := fun ⟨_, h⟩ => by cases h

theorem runs_bind {x : Exec ε S α} {f : α → Exec ε S β} :
    (x >>= f).Runs s ↔ ∃ a, (x s).1 = .ok a ∧ (f a).Runs (x s).2 := by
  unfold Runs
  rw [run_bind]
  generalize x s = p
  obtain ⟨r, s'⟩ := p
  cases r with
  | ok a => simp
  | error e => simp

@[simp] theorem runs_get_bind {f : S → Exec ε S β} : (get >>= f).Runs s ↔ (f s).Runs s := Iff.rfl

@[simp] theorem runs_modify_bind {g : S → S} {f : Unit → Exec ε S β} :
    (modify g >>= f).Runs s ↔ (f ()).Runs (g s) := Iff.rfl

@[simp] theorem runs_ofExcept_bind {r : Except ε α} {f : α → Exec ε S β} :
    (ofExcept r >>= f).Runs s ↔ ∃ a, r = .ok a ∧ (f a).Runs s := by
  rw [runs_bind, run_ofExcept]

@[simp] theorem runs_require_bind {c : Prop} [Decidable c] {e : ε} {f : Unit → Exec ε S β} :
    (require c e >>= f).Runs s ↔ c ∧ (f ()).Runs s := by
  rw [runs_bind]
  unfold require
  split
  · rename_i hc
    exact ⟨fun ⟨_, _, h⟩ => ⟨hc, h⟩, fun h => ⟨(), rfl, h.2⟩⟩
  · rename_i hc
    exact iff_of_false (fun ⟨_, h, _⟩ => by cases h) fun h => hc h.1

@[simp] theorem runs_when {c : Prop} [Decidable c] {x : Exec ε S Unit} :
    (when c x).Runs s ↔ (c → x.Runs s) := by
  unfold when
  split
  · rename_i hc
    exact ⟨fun h _ => h, fun h => h hc⟩
  · rename_i hc
    exact ⟨fun _ h => absurd h hc, fun _ => ⟨(), rfl⟩⟩

theorem runs_zoom {view : T → S} {put : T → S → T} {x : Exec ε S α} {t : T} :
    (x.zoom view put).Runs t ↔ x.Runs (view t) := Iff.rfl

end Runs

/-! `x.Returns s Q`: from `s`, `x` returns, and `Q` holds of the value and the state it ends in. -/

def Returns (x : Exec ε S α) (s : S) (Q : α → S → Prop) : Prop := ∃ a s', x s = (.ok a, s') ∧ Q a s'

section Returns

variable {s : S} {Q : α → S → Prop}

theorem Returns.runs {x : Exec ε S α} (h : x.Returns s Q) : x.Runs s := by
  obtain ⟨a, s', hx, -⟩ := h
  exact ⟨a, by rw [hx]⟩

theorem Returns.post {x : Exec ε S α} (h : x.Returns s Q) : x.Post s fun r s' => ∃ a, r = .ok a ∧ Q a s' := by
  obtain ⟨a, s', hx, hq⟩ := h
  unfold Post
  rw [hx]
  exact ⟨a, rfl, hq⟩

theorem Returns.mono {P : α → S → Prop} {x : Exec ε S α} (h : x.Returns s P)
    (hpq : ∀ a s', P a s' → Q a s') : x.Returns s Q := by
  obtain ⟨a, s', hx, hp⟩ := h
  exact ⟨a, s', hx, hpq a s' hp⟩

theorem returns_pure {a : α} (h : Q a s) : (pure a : Exec ε S α).Returns s Q := ⟨a, s, rfl, h⟩

theorem Returns.bind {x : Exec ε S β} {f : β → Exec ε S α}
    (h : x.Returns s fun b s' => (f b).Returns s' Q) : (x >>= f).Returns s Q := by
  obtain ⟨b, s', hx, a, s'', hf, hq⟩ := h
  exact ⟨a, s'', by rw [run_bind_ok hx, hf], hq⟩

theorem returns_get_bind {f : S → Exec ε S α} (h : (f s).Returns s Q) : (get >>= f).Returns s Q := h

theorem returns_modify_bind {g : S → S} {f : Unit → Exec ε S α} (h : (f ()).Returns (g s) Q) :
    (modify g >>= f).Returns s Q := h

theorem returns_require_bind {c : Prop} [Decidable c] {e : ε} {f : Unit → Exec ε S α} (hc : c)
    (h : (f ()).Returns s Q) : (require c e >>= f).Returns s Q := by
  unfold require
  rw [if_pos hc]
  exact h

theorem returns_ofExcept {r : Except ε α} {a : α} (hr : r = .ok a) (h : Q a s) :
    (ofExcept r).Returns s Q := ⟨a, s, by rw [run_ofExcept, hr], h⟩

theorem returns_zoom {view : T → S} {put : T → S → T} {x : Exec ε S α} {t : T}
    {P : α → T → Prop} (h : x.Returns (view t) fun a s' => P a (put t s')) :
    (x.zoom view put).Returns t P := by
  obtain ⟨a, s', hx, hq⟩ := h
  exact ⟨a, put t s', by unfold zoom; rw [hx], hq⟩

end Returns

/-! `x.Raises P`: every exception `x` raises satisfies `P`. -/

def Raises (P : ε → Prop) (x : Exec ε S α) : Prop := ∀ s e, (x s).1 = .error e → P e

section Raises

variable {P : ε → Prop}

theorem raises_pure (a : α) : (pure a : Exec ε S α).Raises P := fun _ _ h => by cases h

theorem raises_get : (get : Exec ε S S).Raises P := fun _ _ h => by cases h

theorem raises_modify (f : S → S) : (modify f : Exec ε S Unit).Raises P := fun _ _ h => by cases h

theorem raises_ofExcept {r : Except ε α} (h : ∀ e, r = .error e → P e) :
    (ofExcept r : Exec ε S α).Raises P := by
  intro s e he
  cases r with
  | ok a => cases he
  | error e' =>
    cases he
    exact h _ rfl

theorem Raises.bind {x : Exec ε S α} {f : α → Exec ε S β} (hx : x.Raises P)
    (hf : ∀ a, (f a).Raises P) : (x >>= f).Raises P := by
  intro s e he
  have hs := hx s
  rw [run_bind] at he
  generalize x s = p at hs he
  obtain ⟨r, s'⟩ := p
  cases r with
  | ok a => exact hf a s' e he
  | error e' => cases he; exact hs _ rfl

theorem Raises.when {x : Exec ε S Unit} (c : Prop) [Decidable c] (h : x.Raises P) :
    (Exec.when c x).Raises P := by
  unfold Exec.when
  split
  · exact h
  · exact raises_pure ()

end Raises

/-! `x.Mirrors view y`: on the part of the state that `view` shows, `x` does what `y` does. -/

def Mirrors (view : T → S) (x : Exec ε T α) (y : Exec ε S α) : Prop :=
  ∀ t, y (view t) = ((x t).1, view (x t).2)

section Mirrors

variable {view : T → S} {x : Exec ε T α} {y : Exec ε S α}

theorem mirrors_pure (a : α) : (pure a : Exec ε T α).Mirrors view (pure a) := fun _ => rfl

theorem mirrors_modify {f : T → T} (h : ∀ t, view (f t) = view t) :
    (modify f : Exec ε T Unit).Mirrors view (pure ()) := fun t => by
  rw [run_modify, run_pure, h]

theorem Mirrors.bind {f : α → Exec ε T β} {g : α → Exec ε S β} (hx : x.Mirrors view y)
    (hf : ∀ a, (f a).Mirrors view (g a)) : (x >>= f).Mirrors view (y >>= g) := by
  intro t
  rw [run_bind, run_bind, hx t]
  match x t with
  | (.ok a, t') => exact hf a t'
  | (.error e, t') => rfl

/-- What follows hands the value on and does nothing the view shows. -/
theorem Mirrors.tail {f : α → Exec ε T α} (hx : x.Mirrors view y)
    (hf : ∀ a, (f a).Mirrors view (pure a)) : (x >>= f).Mirrors view y := by
  intro t
  rw [run_bind, hx t]
  match x t with
  | (.ok a, t') => exact hf a t'
  | (.error e, t') => rfl

theorem Mirrors.when {x : Exec ε T Unit} {y : Exec ε S Unit} (c : Prop) [Decidable c]
    (h : x.Mirrors view y) : (Exec.when c x).Mirrors view (Exec.when c y) := by
  unfold Exec.when
  split
  · exact h
  · exact mirrors_pure ()

end Mirrors

end Exec

/-! Results, and lists of them. -/

theorem bind_ok {ε α β : Type} {x : Except ε α} {f : α → Except ε β} {b : β} :
    (x >>= f) = .ok b ↔ ∃ a, x = .ok a ∧ f a = .ok b := by
  cases x with
  | error e => exact iff_of_false nofun fun ⟨_, h, _⟩ => nomatch h
  | ok a =>
    constructor
    · exact fun h => ⟨a, rfl, h⟩
    · rintro ⟨a', h, hf⟩
      cases h
      exact hf

theorem mapM_ok {ε α β : Type} {f : α → Except ε β} {xs : List α} {ys : List β} :
    xs.mapM f = .ok ys ↔ List.Forall₂ (fun x y => f x = .ok y) xs ys := by
  induction xs generalizing ys with
  | nil =>
    rw [List.mapM_nil, List.forall₂_nil_left_iff]
    exact ⟨fun h => (Except.ok.inj h).symm, fun h => h ▸ rfl⟩
  | cons x xs ih =>
    rw [List.mapM_cons, List.forall₂_cons_left_iff]
    constructor
    · intro h
      obtain ⟨y, hx, h⟩ := bind_ok.mp h
      obtain ⟨rest, hrest, h⟩ := bind_ok.mp h
      cases h
      exact ⟨y, rest, hx, ih.mp hrest, rfl⟩
    · rintro ⟨y, rest, hx, hrest, rfl⟩
      rw [hx, ih.mpr hrest]
      rfl

theorem mapM_congr {m : Type → Type} [Monad m] [LawfulMonad m] {α β : Type} {f g : α → m β} {xs : List α}
    (h : ∀ x ∈ xs, f x = g x) : xs.mapM f = xs.mapM g := by
  induction xs with
  | nil => rfl
  | cons x xs ih =>
    have hrest := ih fun x hx => h x (List.mem_cons_of_mem _ hx)
    rw [List.mapM_cons, List.mapM_cons, h x List.mem_cons_self, hrest]

section Forall₂

variable {α β : Type} {R : α → β → Prop} {xs : List α} {ys : List β}

theorem exists_right_of_forall₂ (h : List.Forall₂ R xs ys) {x : α} (hx : x ∈ xs) : ∃ y ∈ ys, R x y := by
  induction h with
  | nil => cases hx
  | cons hxy _ ih =>
    rcases List.mem_cons.mp hx with rfl | hx
    · exact ⟨_, List.mem_cons_self, hxy⟩
    · obtain ⟨y, hmem, hxy⟩ := ih hx
      exact ⟨y, List.mem_cons_of_mem _ hmem, hxy⟩

theorem exists_left_of_forall₂ (h : List.Forall₂ R xs ys) {y : β} (hy : y ∈ ys) : ∃ x ∈ xs, R x y := by
  obtain ⟨x, hx, hxy⟩ := exists_right_of_forall₂ h.flip hy
  exact ⟨x, hx, hxy⟩

theorem map_eq_of_forall₂ {γ : Type} {f : α → γ} {g : β → γ} (h : List.Forall₂ R xs ys)
    (heq : ∀ x y, R x y → f x = g y) : xs.map f = ys.map g := by
  induction h with
  | nil => rfl
  | cons hxy _ ih => rw [List.map_cons, List.map_cons, heq _ _ hxy, ih]

theorem exists_forall₂ (h : ∀ x ∈ xs, ∃ y, R x y) : ∃ ys, List.Forall₂ R xs ys := by
  induction xs with
  | nil => exact ⟨[], .nil⟩
  | cons x xs ih =>
    obtain ⟨⟨y, hy⟩, hrest⟩ := List.forall_mem_cons.mp h
    obtain ⟨ys, hys⟩ := ih hrest
    exact ⟨y :: ys, .cons hy hys⟩

variable {ε : Type} {f : α → Except ε β}

theorem exists_of_mapM (h : xs.mapM f = .ok ys) {y : β} (hy : y ∈ ys) : ∃ x ∈ xs, f x = .ok y :=
  exists_left_of_forall₂ (mapM_ok.mp h) hy

theorem mem_of_mapM (h : xs.mapM f = .ok ys) {x : α} (hx : x ∈ xs) : ∃ y ∈ ys, f x = .ok y :=
  exists_right_of_forall₂ (mapM_ok.mp h) hx

end Forall₂

end EthercatSimulator.Base
