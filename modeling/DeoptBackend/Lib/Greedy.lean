import Mathlib

/-!
# Greedy filling of a demand from a ranked list

A demand is met from a list of suppliers, first come first served: each gives
the lesser of what it has and what is still wanted, until nothing is wanted or
a supplier is met that will not do.  Which supplier comes first is a matter of
rank; suppliers of one rank keep the order of the list.

* `greedy` — what each supplier gives; `greedy_pos` — it is always something.
* `greedy_mem`, `greedy_fst_initial` — who gives, and how much at most.
* `greedy_append`, `greedy_total` — a list in two parts, and what is given
  altogether: the demand, or all there is if that is less; `greedy_short` — in
  that case everybody gives everything; `mem_greedy_iff` — who gives how much;
  `greedy_exhausts` — who gives everything when the demand is not met.
* `ranked_unique` — suppliers that are told apart by a key are ranked in one way
  only.
* `insertionSort_first` — the first of the best-ranked suppliers heads the
  ranked list, and the ranked rest is the rest, ranked.  This is what lets a
  loop that looks for the best supplier again after every round be compared
  with a list that is ranked once.
-/

open List

section

variable {α : Type}

/-- What the suppliers of a list give towards a demand: each the lesser of its
`cap` and what is still wanted, up to the first that `stop`s. -/
def greedy (cap : α → Nat) (stop : α → Bool) : List α → Nat → List (α × Nat)
  | [], _ => []
  | a :: as, n =>
    if n = 0 ∨ stop a = true then []
    else (a, min n (cap a)) :: greedy cap stop as (n - min n (cap a))

variable {cap : α → Nat} {stop : α → Bool}

@[simp] theorem greedy_zero (as : List α) : greedy cap stop as 0 = [] := by
  cases as <;> simp [greedy]

variable {as : List α}

theorem greedy_stop {a : α} {n : Nat} (h : stop a = true) : greedy cap stop (a :: as) n = [] := by
  simp [greedy, h]

theorem greedy_cons {a : α} {n : Nat} (hn : 0 < n) (ha : stop a = false) :
    greedy cap stop (a :: as) n = (a, min n (cap a)) :: greedy cap stop as (n - min n (cap a)) := by
  have : n ≠ 0 := by omega
  simp [greedy, ha, this]

/-- A supplier that gives has something, and gives something. -/
theorem greedy_pos (hcap : ∀ a ∈ as, 0 < cap a) :
    ∀ {n : Nat}, ∀ f ∈ greedy cap stop as n, 0 < f.2 := by
  induction as with
  | nil => intro n f hf; simp [greedy] at hf
  | cons a as ih =>
    intro n f hf
    rw [greedy] at hf
    split at hf
    · simp at hf
    have ha := hcap a mem_cons_self
    rcases mem_cons.1 hf with rfl | hf
    · omega
    · exact ih (fun b hb => hcap b (mem_cons_of_mem _ hb)) f hf

/-- Whoever gives is in the list, does not stop, and gives no more than it has. -/
theorem greedy_mem :
    ∀ {n : Nat}, ∀ f ∈ greedy cap stop as n, f.1 ∈ as ∧ stop f.1 = false ∧ f.2 ≤ cap f.1 := by
  induction as with
  | nil => intro n f hf; simp [greedy] at hf
  | cons a as ih =>
    intro n f hf
    rw [greedy] at hf
    split at hf
    · simp at hf
    next h =>
      rcases mem_cons.1 hf with rfl | hf
      · exact ⟨mem_cons_self, by simpa using (not_or.1 h).2, min_le_right _ _⟩
      · obtain ⟨hmem, hrest⟩ := ih f hf
        exact ⟨mem_cons_of_mem _ hmem, hrest⟩

/-- The suppliers that are asked are the first ones of the list. -/
theorem greedy_fst_initial (as : List α) (n : Nat) : (greedy cap stop as n).map (·.1) <+: as := by
  induction as generalizing n with
  | nil => simp [greedy]
  | cons a as ih =>
    rw [greedy]
    split
    · exact nil_prefix
    · exact (prefix_cons_inj a).2 (ih _)

/-- The first part of a list is asked first, and the second for the rest. -/
theorem greedy_append {as bs : List α} (hstop : ∀ a ∈ as, stop a = false) (n : Nat) :
    greedy cap stop (as ++ bs) n =
      greedy cap stop as n ++ greedy cap stop bs (n - (as.map cap).sum) := by
  induction as generalizing n with
  | nil => simp [greedy]
  | cons a as ih =>
    rcases Nat.eq_zero_or_pos n with rfl | hn
    · simp
    have ha := hstop a mem_cons_self
    rw [cons_append, greedy_cons hn ha, greedy_cons hn ha,
      ih fun b hb => hstop b (mem_cons_of_mem _ hb), cons_append, map_cons,
      sum_cons]
    congr 3
    omega

/-- Without a supplier that stops, the demand is met, or all there is is given. -/
theorem greedy_total (hstop : ∀ a ∈ as, stop a = false) (n : Nat) :
    ((greedy cap stop as n).map (·.2)).sum = min n (as.map cap).sum := by
  induction as generalizing n with
  | nil => simp [greedy]
  | cons a as ih =>
    rcases Nat.eq_zero_or_pos n with rfl | hn
    · simp
    · rw [greedy_cons hn (hstop a mem_cons_self), map_cons, sum_cons,
        ih fun b hb => hstop b (mem_cons_of_mem _ hb), map_cons, sum_cons]
      omega

/-- If all there is is not enough, everybody gives everything. -/
theorem greedy_short (hstop : ∀ a ∈ as, stop a = false) {n : Nat} (h : (as.map cap).sum < n) :
    greedy cap stop as n = as.map fun a => (a, cap a) := by
  induction as generalizing n with
  | nil => simp [greedy]
  | cons a as ih =>
    rw [map_cons, sum_cons] at h
    have hmin : min n (cap a) = cap a := by omega
    rw [greedy_cons (by omega) (hstop a mem_cons_self), hmin, map_cons,
      ih (fun b hb => hstop b (mem_cons_of_mem _ hb)) (by omega)]

/-- Who gives, and how much: those before whom the demand is not yet met. -/
theorem mem_greedy_iff {n : Nat} {f : α × Nat} :
    f ∈ greedy cap stop as n ↔ ∃ before after, as = before ++ f.1 :: after ∧
      (∀ a ∈ f.1 :: before, stop a = false) ∧ (before.map cap).sum < n ∧
      f.2 = min (n - (before.map cap).sum) (cap f.1) := by
  constructor
  · intro hf
    induction as generalizing n with
    | nil => simp [greedy] at hf
    | cons a as ih =>
      rw [greedy] at hf
      split at hf
      · simp at hf
      next hgoes =>
      rw [not_or, Bool.not_eq_true] at hgoes
      rcases mem_cons.1 hf with rfl | hf
      · exact ⟨[], as, rfl, by simpa using hgoes.2, Nat.pos_of_ne_zero hgoes.1, rfl⟩
      obtain ⟨before, after, rfl, hstop, hlt, hgives⟩ := ih hf
      refine ⟨a :: before, after, rfl, ?_, ?_, ?_⟩
      · simp_all
      · rw [map_cons, sum_cons]
        omega
      · rw [hgives, map_cons, sum_cons]
        omega
  · rintro ⟨before, after, rfl, hstop, hlt, hgives⟩
    rw [greedy_append fun b hb => hstop b (mem_cons_of_mem _ hb),
      greedy_cons (by omega) (hstop f.1 mem_cons_self), ← hgives]
    exact mem_append_right _ mem_cons_self

/-- Nothing is given when nothing is wanted or nobody has anything. -/
theorem greedy_eq_zero_iff (hstop : ∀ a ∈ as, stop a = false) (n : Nat) :
    (∀ f ∈ greedy cap stop as n, f.2 = 0) ↔ n = 0 ∨ ∀ a ∈ as, cap a = 0 := by
  have hgiven : (∀ f ∈ greedy cap stop as n, f.2 = 0) ↔
      ((greedy cap stop as n).map (·.2)).sum = 0 := by
    rw [List.sum_eq_zero_iff_forall_eq_nat, List.forall_mem_map]
  have hhave : (∀ a ∈ as, cap a = 0) ↔ (as.map cap).sum = 0 := by
    rw [List.sum_eq_zero_iff_forall_eq_nat, List.forall_mem_map]
  rw [hgiven, hhave, greedy_total hstop]
  omega

/-- No more is given than was wanted. -/
theorem greedy_total_le (as : List α) (n : Nat) : ((greedy cap stop as n).map (·.2)).sum ≤ n := by
  induction as generalizing n with
  | nil => simp [greedy]
  | cons a as ih =>
    rw [greedy]
    split
    · simp
    · have := ih (n - min n (cap a))
      simp only [map_cons, sum_cons]
      omega

/-- If the demand is not met, whoever does not stop gives everything, in a list whose later
suppliers stop if an earlier one does. -/
theorem greedy_exhausts {a : α} {n : Nat}
    (hrank : as.Pairwise fun a b => stop a = true → stop b = true)
    (h : ((greedy cap stop as n).map (·.2)).sum < n) (ha : a ∈ as) (hgoes : stop a = false) :
    (a, cap a) ∈ greedy cap stop as n := by
  induction as generalizing n with
  | nil => cases ha
  | cons b as ih =>
    rw [pairwise_cons] at hrank
    by_cases hb : stop b = true
    · rcases mem_cons.1 ha with rfl | ha
      · simp [hb] at hgoes
      · simp [hrank.1 a ha hb] at hgoes
    rw [greedy_cons (by omega) (by simpa using hb)] at h ⊢
    rw [map_cons, sum_cons] at h
    rcases mem_cons.1 ha with rfl | ha
    · rw [show min n (cap a) = cap a by omega]
      exact mem_cons_self
    · exact mem_cons_of_mem _ (ih hrank.2 (by omega) ha)

/-- A list along which a property is only ever lost is a part with it, followed by
a part without. -/
theorem filter_append_filter_not {p : α → Bool} {l : List α}
    (h : l.Pairwise fun a b => p b = true → p a = true) :
    l = l.filter p ++ l.filter fun a => !p a := by
  induction l with
  | nil => rfl
  | cons a l ih =>
    rw [pairwise_cons] at h
    by_cases ha : p a = true
    · rw [filter_cons_of_pos ha, filter_cons_of_neg (by simpa using ha),
        cons_append, ← ih h.2]
    have hnone : ∀ b ∈ l, ¬ p b = true := fun b hb hp => ha (h.1 b hb hp)
    rw [filter_cons_of_neg ha, filter_eq_nil_iff.2 hnone,
      filter_cons_of_pos (by simpa using ha), nil_append,
      filter_eq_self.2 (by simpa using hnone)]

/-- **Only suppliers with the property give anything** exactly when they have
enough, or the others have nothing, in a list along which the property is only
ever lost. -/
theorem greedy_ranked_iff (p : α → Bool) {l : List α} (hstop : ∀ a ∈ l, stop a = false)
    (h : l.Pairwise fun a b => p b = true → p a = true) (n : Nat) :
    (∀ f ∈ greedy cap stop l n, 0 < f.2 → p f.1 = true) ↔
      n ≤ ((l.filter p).map cap).sum ∨ ∀ a ∈ l, p a = false → cap a = 0 := by
  have hgreedy : greedy cap stop l n = greedy cap stop (l.filter p) n ++
      greedy cap stop (l.filter fun a => !p a) (n - ((l.filter p).map cap).sum) := by
    rw [← greedy_append fun a ha => hstop a (mem_of_mem_filter ha),
      ← filter_append_filter_not h]
  have hothers : (∀ a ∈ l, p a = false → cap a = 0) ↔
      ∀ a ∈ l.filter (fun a => !p a), cap a = 0 := by
    simp
  rw [hothers, ← Nat.sub_eq_zero_iff_le,
    ← greedy_eq_zero_iff fun a ha => hstop a (mem_of_mem_filter ha), hgreedy]
  constructor
  · intro hall f hf
    have hnot := (mem_filter.1 (greedy_mem f hf).1).2
    by_contra hne
    have hp := hall f (mem_append_right _ hf) (Nat.pos_of_ne_zero hne)
    simp [hp] at hnot
  · intro hzero f hf hpos
    rcases mem_append.1 hf with hf | hf
    · exact (mem_filter.1 (greedy_mem f hf).1).2
    · exact absurd (hzero f hf) (by omega)

/-- **The suppliers determine their ranking**: two ranked lists of the same
suppliers are the same list, if the ranking tells apart what the key does. -/
theorem ranked_unique {β : Type} {r : α → α → Prop} (key : α → β)
    (hr : ∀ {a b}, r a b → r b a → key a = key b) {l₁ l₂ : List α} (h₁ : l₁.Pairwise r)
    (h₂ : l₂.Pairwise r) (hkeys₁ : (l₁.map key).Nodup) (hkeys₂ : (l₂.map key).Nodup)
    (hmem : ∀ a, a ∈ l₁ ↔ a ∈ l₂) : l₁ = l₂ := by
  refine List.Perm.eq_of_pairwise (fun a b ha hb hab hba => ?_) h₁ h₂
    ((perm_ext_iff_of_nodup hkeys₁.of_map hkeys₂.of_map).2 hmem)
  exact inj_on_of_nodup_map hkeys₁ ha ((hmem b).2 hb) (hr hab hba)

/-- **The first of the best heads the ranked list.**  If nothing before `m` is
ranked as high and nothing after it higher, ranking puts `m` first and ranks
the others as if it were not there. -/
theorem insertionSort_first (r : α → α → Prop) [DecidableRel r] {m : α} {l₂ : List α}
    (hafter : ∀ a ∈ l₂, r m a) : ∀ {l₁ : List α}, (∀ a ∈ l₁, ¬ r a m) →
    (l₁ ++ m :: l₂).insertionSort r = m :: (l₁ ++ l₂).insertionSort r := by
  intro l₁
  induction l₁ with
  | nil =>
    intro _
    simp only [nil_append, insertionSort_cons]
    cases hs : l₂.insertionSort r with
    | nil => rfl
    | cons a =>
      have ha : a ∈ l₂ := (mem_insertionSort r).1 (by rw [hs]; exact mem_cons_self)
      rw [List.orderedInsert, if_pos (hafter a ha)]
  | cons a l₁ ih =>
    intro hbefore
    have ha := hbefore a mem_cons_self
    simp only [cons_append, insertionSort_cons,
      ih (fun b hb => hbefore b (mem_cons_of_mem _ hb))]
    rw [List.orderedInsert, if_neg ha]

end
