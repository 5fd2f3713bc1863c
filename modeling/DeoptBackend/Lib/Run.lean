import Mathlib

/-!
# Labelled runs

A service is a state and a family of labelled steps: one label for each request
it can be sent.  `Run step s as t` says that the requests `as`, taken in order,
lead from `s` to `t`.  Two rules about runs carry every whole-run statement of
the development.

* `Run.invariant` — what holds at the start and survives every step holds at
  the end.
* `Run.traced` — the same for a statement that also speaks of the requests
  taken so far, which is how a total over a history is proved.
-/

section

variable {σ τ α β : Type}

/-- `Run step s as t`: the labels `as`, in order, lead from `s` to `t`.  The
last step is the outermost constructor, so an induction peels off the most
recent request. -/
inductive Run (step : σ → α → σ → Prop) (s : σ) : List α → σ → Prop
  | start : Run step s [] s
  | snoc {as : List α} {t u : σ} {a : α} : Run step s as t → step t a u → Run step s (as ++ [a]) u

/-- What one step does to the state, when the step is a function. -/
def stepOf (f : σ → α → σ) (ok : σ → α → Prop) (s : σ) (a : α) (t : σ) : Prop :=
  ok s a ∧ t = f s a

variable {step : σ → α → σ → Prop} {s t : σ} {as : List α}

namespace Run

open List

/-- **The invariant rule.** -/
theorem invariant {P : σ → Prop} (hrun : Run step s as t) (h₀ : P s)
    (hstep : ∀ {t a u}, P t → step t a u → P u) : P t := by
  induction hrun with
  | start => exact h₀
  | snoc _ hs ih => exact hstep ih hs

/-- **The invariant rule with a history.**  The statement may speak of the
labels taken so far. -/
theorem traced {P : List α → σ → Prop} (hrun : Run step s as t) (h₀ : P [] s)
    (hstep : ∀ {bs t a u}, P bs t → step t a u → P (bs ++ [a]) u) : P as t := by
  induction hrun with
  | start => exact h₀
  | snoc _ hs ih => exact hstep ih hs

variable {ok : σ → α → Prop} {f : σ → α → σ}

/-- Requests that are all allowed, taken one after the other. -/
theorem of_foldl (s : σ) {as : List α} (hok : ∀ s, ∀ a ∈ as, ok s a) :
    Run (stepOf f ok) s as (as.foldl f s) := by
  induction as using reverseRecOn with
  | nil => exact .start
  | append_singleton as a ih =>
    rw [foldl_append]
    refine (ih fun s b hb => hok s b (mem_append_left _ hb)).snoc ⟨hok _ a ?_, rfl⟩
    exact mem_append_right _ mem_cons_self

theorem cons {a : α} {u : σ} (hstep : step s a t) (hrun : Run step t as u) :
    Run step s (a :: as) u := by
  induction hrun with
  | start => exact Run.start.snoc hstep
  | snoc _ hs ih => exact ih.snoc hs

/-- Requests that are allowed, each in the state the ones before it lead to. -/
def allowed (f : σ → α → σ) (ok : σ → α → Prop) : σ → List α → Prop
  | _, [] => True
  | s, a :: as => ok s a ∧ allowed f ok (f s a) as

instance {f : σ → α → σ} {ok : σ → α → Prop} [∀ s a, Decidable (ok s a)] :
    ∀ (s : σ) (as : List α), Decidable (allowed f ok s as)
  | _, [] => inferInstanceAs (Decidable True)
  | s, a :: as =>
    haveI : Decidable (allowed f ok (f s a) as) := instDecidableAllowed (f s a) as
    inferInstanceAs (Decidable (_ ∧ _))

theorem of_allowed {s : σ} {as : List α} (h : allowed f ok s as) :
    Run (stepOf f ok) s as (as.foldl f s) := by
  induction as generalizing s with
  | nil => exact .start
  | cons a as ih => exact cons ⟨h.1, rfl⟩ (ih h.2)

/-- The last request is allowed in the state the others lead to. -/
theorem allowed_concat {s : σ} {as : List α} {a : α} :
    allowed f ok s (as ++ [a]) ↔ allowed f ok s as ∧ ok (as.foldl f s) a := by
  induction as generalizing s with
  | nil => simp [allowed]
  | cons b as ih => rw [cons_append, allowed, ih, allowed, foldl_cons, and_assoc]

end Run

end
