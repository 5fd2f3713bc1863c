import Mathlib

/-!
# Computations that write and may fail

A function that takes its state by mutable reference and returns a result does
two things at once: it writes, and it may stop with an error.  What it had
written when it stopped stays written, unless the caller takes care of it.

* `Act ε σ α` — such a computation: a function from the state to the result and
  the state it leaves, with the result first and the failures in `Except`.
* `Act.bind_eq_ok`, `Act.check_eq_ok`, `Act.zoom_eq_ok` — a computation that
  succeeds is taken apart into the successes of its parts; proofs about what a
  program does when it succeeds never look inside the monad.
* `Act.Succeeds` — whether a computation succeeds at all, likewise (`succeeds_then`).
* `Act.Keeps` — a computation that leaves a part of the state alone.
* `Act.Follows` — a run that ends as a computation without a state does; what a
  program does is compared with its specification step by step (`Follows.bind`).
* `Act.atomically` — the caller that takes care: work on a copy and put it in
  place on success only, or run in a transaction.  `Act.atomically_eq_ok` and
  `Act.atomically_of_error` are all that is ever used about it.
-/

/-- A sequence of results succeeds when both parts do. -/
theorem Except.bind_eq_ok {ε α β : Type} {x : Except ε α} {f : α → Except ε β} {b : β} :
    (x >>= f) = .ok b ↔ ∃ a, x = .ok a ∧ f a = .ok b := by
  cases x with
  | error => simp [bind, Except.bind]
  | ok => simp [bind, Except.bind]

/-- A computation over a state `σ` that returns an `α` or fails with an `ε`.
The state it leaves is there in both cases. -/
def Act (ε σ α : Type) : Type := σ → Except ε α × σ

namespace Act

variable {ε σ τ α β : Type}

/-! ## The constructions -/

instance : Monad (Act ε σ) where
  pure a := fun s => (.ok a, s)
  bind x f := fun s =>
    match x s with
    | (.ok a, s') => f a s'
    | (.error e, s') => (.error e, s')

def fail (e : ε) : Act ε σ α := fun s => (.error e, s)

/-- A result computed without the state. -/
def check (r : Except ε α) : Act ε σ α := fun s => (r, s)

/-- Read something of the state. -/
def read (f : σ → α) : Act ε σ α := fun s => (.ok (f s), s)

def write (f : σ → σ) : Act ε σ Unit := fun s => (.ok (), f s)

/-- Run a computation on a part of the state. -/
def zoom (get : τ → σ) (put : σ → τ → τ) (x : Act ε σ α) : Act ε τ α := fun t =>
  ((x (get t)).1, put (x (get t)).2 t)

/-- Report the failure as another one. -/
def mapError {ε' : Type} (g : ε → ε') (x : Act ε σ α) : Act ε' σ α := fun s =>
  ((x s).1.mapError g, (x s).2)

/-- Run a computation on a copy of the state, and keep what it wrote only if it
succeeds. -/
def atomically (x : Act ε σ α) : Act ε σ α := fun s =>
  match x s with
  | (.ok a, s') => (.ok a, s')
  | (.error e, _) => (.error e, s)

/-! ## Taking a success apart -/

variable {x : Act ε σ α} {f : α → Act ε σ β} {s s' s'' : σ} {a : α} {b : β} {e : ε}

@[simp] theorem pure_run (a : α) (s : σ) : (pure a : Act ε σ α) s = (.ok a, s) := rfl

@[simp] theorem fail_run (e : ε) (s : σ) : (fail e : Act ε σ α) s = (.error e, s) := rfl

@[simp] theorem check_run (r : Except ε α) (s : σ) : (check r : Act ε σ α) s = (r, s) := rfl

@[simp] theorem read_run (f : σ → α) (s : σ) : (read f : Act ε σ α) s = (.ok (f s), s) := rfl

@[simp] theorem write_run (f : σ → σ) (s : σ) : (write f : Act ε σ Unit) s = (.ok (), f s) := rfl

theorem bind_run (x : Act ε σ α) (f : α → Act ε σ β) (s : σ) : (x >>= f) s =
      match x s with
      | (.ok a, s') => f a s'
      | (.error e, s') => (.error e, s') := rfl

theorem bind_of_ok (h : x s = (.ok a, s')) : (x >>= f) s = f a s' := by
  rw [bind_run, h]

theorem bind_of_error (h : x s = (.error e, s')) : (x >>= f) s = (.error e, s') := by
  rw [bind_run, h]

theorem read_bind (g : σ → α) : (read g >>= f) s = f (g s) s := rfl

theorem write_bind {f : Unit → Act ε σ β} (g : σ → σ) : (write g >>= f) s = f () (g s) := rfl

variable {r : Except ε α}

theorem check_bind (h : r = .ok a) : (check r >>= f) s = f a s := by
  rw [h]
  rfl

/-- Changing the result changes nothing else. -/
theorem bind_pure_snd (x : Act ε σ α) (g : α → β) (s : σ) :
    ((x >>= fun a => pure (g a)) s).2 = (x s).2 := by
  rcases hx : x s with ⟨_ | a, s'⟩
  · rw [bind_of_error hx]
  · rw [bind_of_ok hx, pure_run]

/-- A sequence succeeds when both parts do. -/
theorem bind_eq_ok :
    (x >>= f) s = (.ok b, s'') ↔ ∃ a s', x s = (.ok a, s') ∧ f a s' = (.ok b, s'') := by
  constructor
  · intro h
    rcases hx : x s with ⟨r, s'⟩
    cases r with
    | error => rw [bind_of_error hx] at h; cases h
    | ok a => exact ⟨a, s', rfl, by rwa [bind_of_ok hx] at h⟩
  · rintro ⟨a, s', hx, hf⟩
    rw [bind_of_ok hx, hf]

theorem exists_ok (h : (x s).1.toOption.isSome = true) : ∃ a, x s = (.ok a, (x s).2) := by
  cases hx : (x s).1 with
  | error => rw [hx] at h; cases h
  | ok a => exact ⟨a, Prod.ext hx rfl⟩

/-- A run whose result was looked at succeeded. -/
theorem ok_of_map {r : Except ε α × σ} (g : α → β) {b : β} (h : r.1.toOption.map g = some b) :
    ∃ a s', r = (.ok a, s') ∧ g a = b := by
  obtain ⟨_ | a, s'⟩ := r
  · simp [Except.toOption] at h
  · exact ⟨a, s', rfl, by simpa [Except.toOption] using h⟩

theorem check_eq_ok : (check r : Act ε σ α) s = (.ok a, s') ↔ r = .ok a ∧ s = s' := by
  simp

theorem read_eq_ok {g : σ → α} : (read g : Act ε σ α) s = (.ok a, s') ↔ a = g s ∧ s = s' := by
  simp [eq_comm]

theorem read_bind_eq_ok {g : σ → α} :
    (read g >>= f) s = (.ok b, s') ↔ f (g s) s = (.ok b, s') := Iff.rfl

theorem check_bind_eq_ok :
    (check r >>= f) s = (.ok b, s') ↔ ∃ a, r = .ok a ∧ f a s = (.ok b, s') := by
  simp [bind_eq_ok]

theorem zoom_eq_ok {get : τ → σ} {put : σ → τ → τ} {t t' : τ} :
    zoom get put x t = (.ok a, t') ↔ ∃ s', x (get t) = (.ok a, s') ∧ t' = put s' t := by
  rcases hx : x (get t) with ⟨r, u⟩
  constructor
  · intro h
    simp only [zoom, hx, Prod.mk.injEq] at h
    exact ⟨u, by rw [h.1], h.2.symm⟩
  · rintro ⟨s', h, rfl⟩
    cases h
    simp [zoom, hx]

/-! ## Whether it succeeds -/

/-- The computation succeeds. -/
def Succeeds (x : Act ε σ α) (s : σ) : Prop := ∃ a s', x s = (.ok a, s')

theorem succeeds_bind_of_ok (h : x s = (.ok a, s')) : (x >>= f).Succeeds s ↔ (f a).Succeeds s' := by
  simp only [Succeeds, bind_of_ok h]

theorem succeeds_check_bind : (check r >>= f).Succeeds s ↔ ∃ a, r = .ok a ∧ (f a).Succeeds s := by
  cases r with
  | error => simp [Succeeds, bind_run]
  | ok => simp [succeeds_bind_of_ok (check_run _ s)]

/-- A sequence succeeds when its first part does, and the rest where that ends. -/
theorem succeeds_then {x : Act ε σ Unit} {f : Unit → Act ε σ β} :
    (x >>= f).Succeeds s ↔ x.Succeeds s ∧ (f ()).Succeeds (x s).2 := by
  rcases hx : x s with ⟨_ | ⟨⟩, s'⟩
  · simp [Succeeds, bind_of_error hx, hx]
  · simp [Succeeds, bind_of_ok hx, hx]

theorem succeeds_zoom {get : τ → σ} {put : σ → τ → τ} {t : τ} :
    (zoom get put x).Succeeds t ↔ x.Succeeds (get t) := by
  simp [Succeeds, zoom, Prod.ext_iff]

/-! ## What is left alone -/

/-- Whether it succeeds or fails, the computation leaves `f` of the state as it
was. -/
def Keeps (f : σ → τ) (x : Act ε σ α) : Prop := ∀ s, f (x s).2 = f s

namespace Keeps

variable {g : σ → τ}

theorem of_run (h : Keeps g x) {r : Except ε α} (hx : x s = (r, s')) : g s' = g s := by
  have hs := h s
  rwa [hx] at hs

theorem pure (a : α) : Keeps g (Pure.pure a : Act ε σ α) := fun _ => rfl

theorem fail (e : ε) : Keeps g (Act.fail e : Act ε σ α) := fun _ => rfl

theorem check (r : Except ε α) : Keeps g (Act.check r : Act ε σ α) := fun _ => rfl

theorem read (p : σ → α) : Keeps g (Act.read p : Act ε σ α) := fun _ => rfl

theorem write {p : σ → σ} (h : ∀ s, g (p s) = g s) : Keeps g (Act.write p : Act ε σ Unit) := h

theorem bind (hx : Keeps g x) (hf : ∀ a, Keeps g (f a)) : Keeps g (x >>= f) := by
  intro s
  rcases hrun : x s with ⟨_ | a, s'⟩
  · rw [bind_of_error hrun]
    exact hx.of_run hrun
  · rw [bind_of_ok hrun, hf a s']
    exact hx.of_run hrun

end Keeps

/-! ## Following a computation without a state -/

/-- A run that ends as `spec` does: with its failure, in a state `E` allows, or with a
result and a state that `R` relates to its result. -/
def Follows (E : σ → Prop) (spec : Except ε β) (R : β → α → σ → Prop) : Except ε α × σ → Prop
  | (.error e, s) => spec = .error e ∧ E s
  | (.ok a, s) => ∃ b, spec = .ok b ∧ R b a s

namespace Follows

variable {E : σ → Prop} {spec : Except ε γ} {R : γ → α → σ → Prop} {out : Except ε α × σ} {c : γ}

theorem of_ok (h : R c a s) : Follows E (.ok c : Except ε γ) R (.ok a, s) := ⟨c, rfl, h⟩

theorem ok (h : Follows E spec R out) (hspec : spec = .ok c) : ∃ a s, out = (.ok a, s) ∧ R c a s := by
  obtain ⟨_ | a, s⟩ := out
  · cases hspec.symm.trans h.1
  · obtain ⟨_, hok, hR⟩ := h
    cases hspec.symm.trans hok
    exact ⟨a, s, rfl, hR⟩

theorem error (h : Follows E spec R out) (hspec : spec = .error e) :
    ∃ s, out = (.error e, s) ∧ E s := by
  obtain ⟨_ | a, s⟩ := out
  · cases hspec.symm.trans h.1
    exact ⟨s, rfl, h.2⟩
  · obtain ⟨_, hok, -⟩ := h
    cases hspec.symm.trans hok

theorem imp {δ : Type} {spec' : Except ε δ} {R' : δ → α → σ → Prop} (h : Follows E spec R out)
    (herror : ∀ e, spec = .error e → spec' = .error e)
    (hok : ∀ c a s, spec = .ok c → R c a s → ∃ d, spec' = .ok d ∧ R' d a s) :
    Follows E spec' R' out := by
  obtain ⟨e | a, s⟩ := out
  · exact ⟨herror e h.1, h.2⟩
  · obtain ⟨c, hc, hR⟩ := h
    exact hok c a s hc hR

theorem inv (h : Follows E spec R out) (hout : out = (.ok a, s)) :
    ∃ c, spec = .ok c ∧ R c a s := by
  subst hout
  exact h

theorem zoom {get : τ → σ} {put : σ → τ → τ} {t : τ} (h : Follows E spec R (x (get t))) :
    Follows (fun _ => True) spec (fun c a t' => ∃ s, R c a s ∧ t' = put s t)
      (zoom get put x t) := by
  rcases hx : x (get t) with ⟨e | a, s⟩ <;> rw [hx] at h <;> simp only [Act.zoom, hx]
  · exact ⟨h.1, trivial⟩
  · obtain ⟨c, hc, hR⟩ := h
    exact ⟨c, hc, s, hR, rfl⟩

theorem bind {δ : Type} {spec' : Except ε δ} {R' : δ → β → σ → Prop}
    (hx : Follows E spec R (x s)) (herror : ∀ e, spec = .error e → spec' = .error e)
    (hok : ∀ c a s', spec = .ok c → R c a s' → Follows E spec' R' (f a s')) :
    Follows E spec' R' ((x >>= f) s) := by
  rcases hrun : x s with ⟨e | a, s'⟩ <;> rw [hrun] at hx
  · rw [bind_of_error hrun]
    exact ⟨herror e hx.1, hx.2⟩
  · obtain ⟨c, hc, hR⟩ := hx
    rw [bind_of_ok hrun]
    exact hok c a s' hc hR

/-- A check in front, of which the specification knows. -/
theorem check_bind {R' : γ → β → σ → Prop} (hs : E s)
    (herror : ∀ e, r = .error e → spec = .error e)
    (hok : ∀ a, r = .ok a → Follows E spec R' (f a s)) :
    Follows E spec R' ((check r >>= f) s) := by
  cases r with
  | error e => exact ⟨herror e rfl, hs⟩
  | ok a => exact hok a rfl

end Follows

/-! ## All or nothing -/

theorem atomically_eq_ok : atomically x s = (.ok a, s') ↔ x s = (.ok a, s') := by
  rcases hx : x s with ⟨_ | _, s''⟩ <;> simp [atomically, hx]

/-- **A failed atomic computation leaves the state as it was.** -/
theorem atomically_of_error (h : atomically x s = (.error e, s')) : s' = s := by
  rcases hx : x s with ⟨_ | _, s''⟩ <;> simp [atomically, hx] at h
  exact h.2.symm

end Act
