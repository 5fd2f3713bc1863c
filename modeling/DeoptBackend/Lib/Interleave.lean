import DeoptBackend.Lib.Act
import DeoptBackend.Lib.Run

/-!
# Programs that take turns

A request that is served by several atomic calls can be held up between any two of
them, while other requests make theirs.

* `Prog ε σ α` — such a program: it has ended, or its next call changes the shared
  state at once and goes on with what it read.  `Prog.atomic` makes a program of one
  call out of a computation.
* `Pool` — programs that run side by side on one shared state.  At each move a
  program is started, one of them makes its next call, all of them are lost in a
  crash, or something outside changes the state.
* `Prog.Safe` — every call of the program keeps an invariant of the state, whatever
  the state was when its turn came.  `Prog.Safe.bind` composes such programs and
  `Pool.safe` is the rule for whole runs.
-/

/-- A program made of atomic calls.  What a call reads is the state it finds. -/
inductive Prog (ε σ α : Type) : Type
  /-- The program has ended. -/
  | done (r : Except ε α)
  | call (effect : σ → σ) (next : σ → Prog ε σ α)

namespace Prog

variable {ε σ α β : Type}

/-- One program after the other; the second is not begun if the first fails. -/
def bind : Prog ε σ α → (α → Prog ε σ β) → Prog ε σ β
  | done (.ok a), f => f a
  | done (.error e), _ => done (.error e)
  | call effect next, f => call effect fun s => (next s).bind f

instance : Monad (Prog ε σ) where
  pure a := done (.ok a)
  bind := bind

def fail (e : ε) : Prog ε σ α := done (.error e)

/-- A result computed without the state. -/
def check (r : Except ε α) : Prog ε σ α := done r

/-- A computation, made in one call. -/
def atomic (x : Act ε σ α) : Prog ε σ α := call (fun s => (x s).2) fun s => done (x s).1

/-- Run a program and look at how it ended. -/
def attempt : Prog ε σ α → Prog ε σ (Except ε α)
  | done r => done (.ok r)
  | call effect next => call effect fun s => (next s).attempt

/-- The next call: what is left of the program, and the state. -/
def turn : Prog ε σ α → σ → Prog ε σ α × σ
  | done r, s => (done r, s)
  | call effect next, s => (next s, effect s)

/-! ## Safe programs -/

/-- Every call keeps `I`, and a value the program ends with satisfies `Q`. -/
def Safe (I : σ → Prop) (Q : α → Prop) : Prog ε σ α → Prop
  | done (.ok a) => Q a
  | done (.error _) => True
  | call effect next => ∀ s, I s → I (effect s) ∧ (next s).Safe I Q

variable {I : σ → Prop} {Q : α → Prop} {R : β → Prop} {p : Prog ε σ α}

theorem Safe.check (r : Except ε α) : (Prog.check r : Prog ε σ α).Safe I fun _ => True := by
  cases r <;> trivial

theorem Safe.fail (e : ε) : (Prog.fail e : Prog ε σ α).Safe I Q := trivial

theorem Safe.atomic {x : Act ε σ α} (hkeeps : ∀ s, I s → I (x s).2)
    (hpost : ∀ s a, I s → (x s).1 = .ok a → Q a) : (Prog.atomic x).Safe I Q := by
  intro s hs
  refine ⟨hkeeps s hs, ?_⟩
  show (done (x s).1).Safe I Q
  cases hx : (x s).1 with
  | error => trivial
  | ok a => exact hpost s a hs hx

/-- **Safe programs compose.** -/
theorem Safe.bind {f : α → Prog ε σ β} (hp : p.Safe I Q) (hf : ∀ a, Q a → (f a).Safe I R) :
    (p >>= f).Safe I R := by
  induction p with
  | done r =>
    cases r with
    | error => trivial
    | ok a => exact hf a hp
  | call effect next ih =>
    intro s hs
    exact ⟨(hp s hs).1, ih s (hp s hs).2⟩

theorem Safe.attempt (hp : p.Safe I Q) : p.attempt.Safe I fun _ => True := by
  induction p with
  | done => trivial
  | call effect next ih =>
    intro s hs
    exact ⟨(hp s hs).1, ih s (hp s hs).2⟩

theorem Safe.turn (hp : p.Safe I Q) {s : σ} (hs : I s) :
    I (p.turn s).2 ∧ (p.turn s).1.Safe I Q := by
  cases p with
  | done => exact ⟨hs, hp⟩
  | call => exact hp s hs

end Prog

/-! ## Pools -/

/-- Programs side by side on one state. -/
structure Pool (ε σ α : Type) where
  shared : σ
  /-- What is left of the programs, in the order they were started. -/
  workers : List (Prog ε σ α)

/-- What can happen to a pool. -/
inductive PoolMove (ε σ α : Type) where
  | start (p : Prog ε σ α)
  /-- A program makes its next call. -/
  | turn (i : Nat)
  /-- All programs are lost. -/
  | crash
  /-- Something outside changes the state. -/
  | outside (f : σ → σ)

namespace Pool

variable {ε σ α : Type}

def after (pool : Pool ε σ α) : PoolMove ε σ α → Pool ε σ α
  | .start p => { pool with workers := pool.workers ++ [p] }
  | .turn i =>
    match pool.workers[i]? with
    | none => pool
    | some p =>
      { shared := (p.turn pool.shared).2
        workers := pool.workers.set i (p.turn pool.shared).1 }
  | .crash => { pool with workers := [] }
  | .outside f => { pool with shared := f pool.shared }

variable {ok : Pool ε σ α → PoolMove ε σ α → Prop} {I : σ → Prop} {Q : α → Prop}
  {pool pool' : Pool ε σ α} {moves : List (PoolMove ε σ α)}

/-- **The rule for pools.**  If every program that may be started is safe, and what
happens outside keeps the invariant, it holds of the shared state in every pool that
is reached. -/
theorem safe (hrun : Run (stepOf Pool.after ok) pool moves pool') (hworkers : pool.workers = [])
    (h₀ : I pool.shared) (hstart : ∀ {pool p}, ok pool (.start p) → p.Safe I Q)
    (houtside : ∀ {pool f s}, ok pool (.outside f) → I s → I (f s)) : I pool'.shared := by
  -- the invariant of the pool: the state's, and that what is left of every program is safe
  have hall : I pool'.shared ∧ ∀ p ∈ pool'.workers, p.Safe I Q := by
    refine hrun.invariant (P := fun pool => I pool.shared ∧ ∀ p ∈ pool.workers, p.Safe I Q)
      ⟨h₀, by simp [hworkers]⟩ ?_
    rintro pool move _ ⟨hshared, hsafe⟩ ⟨hok, rfl⟩
    cases move with
    | start =>
      refine ⟨hshared, fun q hq => ?_⟩
      rcases List.mem_append.1 hq with hq | hq
      · exact hsafe q hq
      · rw [List.mem_singleton.1 hq]
        exact hstart hok
    | turn i =>
      cases hi : pool.workers[i]? with
      | none =>
        simp only [after, hi]
        exact ⟨hshared, hsafe⟩
      | some p =>
        simp only [after, hi]
        obtain ⟨hnext, hrest⟩ := (hsafe p (List.mem_of_getElem? hi)).turn hshared
        refine ⟨hnext, fun q hq => ?_⟩
        rcases List.mem_or_eq_of_mem_set hq with hq | rfl
        · exact hsafe q hq
        · exact hrest
    | crash => exact ⟨hshared, by simp [after]⟩
    | outside => exact ⟨houtside hok hshared, hsafe⟩
  exact hall.1

end Pool
