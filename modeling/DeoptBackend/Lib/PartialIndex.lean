import DeoptBackend.Lib.FiniteMap

/-!
# Tables with a partial unique index

A table keeps its rows by primary key.  A partial unique index finds some of
them by another key: `index v` is the key a row is found under, or `none` for a
row the index leaves out (a closed position, a row with no name).  At most one
row is found under each key.

* `FMap.at?` — the row found under a key.
* `FMap.UniqueIndex` — no two rows share a key.
* `FMap.UniqueIndex.set` and `FMap.UniqueIndex.at?_set` — writing a row keeps
  the index unique if the row's key is free or was the old row's, and then
  changes what is found under two keys at most: the new row's and the old one's.
* `set_new`, `set_same`, `set_gone` — the writes a program makes: a new row, a
  row that keeps its key, a row that leaves.

Both a hash map with a hand-kept index beside it and a database table with an
index declared on it are read through `at?`, so what is proved about one write
serves both.
-/

namespace FMap

open Option

variable {ι κ ν : Type} [DecidableEq ι] [DecidableEq κ]

/-- The row a partial index finds under a key. -/
def at? (index : ν → Option κ) (m : FMap ι ν) (k : κ) : Option ν :=
  m.vals.find? fun v => decide (index v = some k)

/-- No two rows are found under one key. -/
structure UniqueIndex (index : ν → Option κ) (m : FMap ι ν) : Prop where
  /-- Two rows with one key are the same row. -/
  eq : ∀ {i j v w k}, m.get? i = some v → m.get? j = some w → index v = some k →
    index w = some k → i = j

variable {index : ν → Option κ} {m : FMap ι ν} {i : ι} {k : κ} {v w : ν}

theorem at?_eq_none_iff : m.at? index k = none ↔ ∀ i v, m.get? i = some v → index v ≠ some k := by
  rw [at?, List.find?_eq_none]
  constructor
  · intro h i v hv
    simpa using h v (mem_vals.2 ⟨i, hv⟩)
  · intro h v hv
    obtain ⟨i, hi⟩ := mem_vals.1 hv
    simpa using h i v hi

/-- What is found is a row, filed under the key. -/
theorem of_at? (h : m.at? index k = some v) : ∃ i, m.get? i = some v ∧ index v = some k := by
  have hmem := List.mem_of_find?_eq_some h
  have hkey := List.find?_some h
  obtain ⟨i, hi⟩ := mem_vals.1 hmem
  exact ⟨i, hi, by simpa using hkey⟩

/-- Something is found under every key of a row. -/
theorem exists_at?_iff : (∃ v, m.at? index k = some v) ↔
    ∃ i v, m.get? i = some v ∧ index v = some k := by
  rw [← isSome_iff_exists, ← not_iff_not]
  simp [at?_eq_none_iff]

omit [DecidableEq ι] in
@[simp] theorem at?_empty : at? index (∅ : FMap ι ν) k = none := rfl

omit [DecidableEq κ] in
theorem uniqueIndex_empty : UniqueIndex index (∅ : FMap ι ν) :=
  ⟨fun hv => by simp at hv⟩

namespace UniqueIndex

section

variable (h : UniqueIndex index m)
include h

theorem at?_of_get? (hi : m.get? i = some v) (hk : index v = some k) : m.at? index k = some v := by
  cases hat : m.at? index k with
  | none => exact absurd hk (at?_eq_none_iff.1 hat i v hi)
  | some =>
    obtain ⟨j, hj, hw⟩ := of_at? hat
    obtain rfl := h.eq hi hj hk hw
    rw [hi] at hj
    exact hj.symm

section

variable (hfree : ∀ {j u k}, index w = some k → m.get? j = some u → index u = some k → j = i)
include hfree

omit [DecidableEq κ] in
/-- Writing a row keeps the index unique, if no other row has its key. -/
theorem set : UniqueIndex index (m.set i w) := by
  refine ⟨fun {j₁ j₂ v₁ v₂ k} h₁ h₂ hk₁ hk₂ => ?_⟩
  rw [get?_set] at h₁ h₂
  split at h₁ <;> split at h₂
  · next e₁ e₂ => rw [e₁, e₂]
  · next e₁ _ => cases h₁; rw [e₁, hfree hk₁ h₂ hk₂]
  · next _ e₂ => cases h₂; rw [e₂, hfree hk₂ h₁ hk₁]
  · exact h.eq h₁ h₂ hk₁ hk₂

/-- **What a write changes.**  The new row is found under its own key, nothing
is found any more under a key that only the old row had, and everything else is
found as before. -/
theorem at?_set : (m.set i w).at? index k =
      if index w = some k then some w
      else if (m.get? i).bind index = some k then none else m.at? index k := by
  have hset := h.set hfree
  by_cases hw : index w = some k
  · rw [if_pos hw]
    exact hset.at?_of_get? (get?_set_self m i w) hw
  rw [if_neg hw]
  by_cases hold : (m.get? i).bind index = some k
  · rw [if_pos hold, at?_eq_none_iff]
    intro j u hj hu
    rw [get?_set] at hj
    split at hj
    · cases hj; exact hw hu
    · next hne =>
        obtain ⟨v, hv, hk⟩ := bind_eq_some_iff.1 hold
        exact hne (h.eq hj hv hu hk)
  rw [if_neg hold]
  cases hat : m.at? index k with
  | none =>
    rw [at?_eq_none_iff] at hat ⊢
    exact fun j u hj => forall_set hj hw (hat _ _)
  | some =>
    obtain ⟨j, hj, hk⟩ := of_at? hat
    have hne : j ≠ i := by
      rintro rfl
      exact hold (by rw [hj]; exact hk)
    exact hset.at?_of_get? (by rw [get?_set_ne m hne, hj]) hk

end

/-! ### The three kinds of write -/

/-- A row is written under a key that is free or its own. -/
theorem set_under (hw : index w = some k)
    (hown : ∀ {j u}, m.get? j = some u → index u = some k → j = i)
    (hold : ∀ {k'}, (m.get? i).bind index = some k' → k' = k) :
    UniqueIndex index (m.set i w) ∧
      ∀ j, (m.set i w).at? index j = if j = k then some w else m.at? index j := by
  have hfree : ∀ {j u k'}, index w = some k' → m.get? j = some u → index u = some k' → j = i := by
    intro j u k' hk' hj hu
    obtain rfl : k = k' := some.inj (hw.symm.trans hk')
    exact hown hj hu
  refine ⟨h.set hfree, fun j => ?_⟩
  rw [h.at?_set hfree, hw]
  by_cases hj : j = k
  · simp [hj]
  · rw [if_neg (by simpa using Ne.symm hj), if_neg fun h => hj (hold h), if_neg hj]

/-- A row under a free key is added. -/
theorem set_new (hi : m.get? i = none) (hw : index w = some k) (hk : m.at? index k = none) :
    UniqueIndex index (m.set i w) ∧
      ∀ j, (m.set i w).at? index j = if j = k then some w else m.at? index j :=
  h.set_under hw (fun hj hu => absurd hu (at?_eq_none_iff.1 hk _ _ hj)) (by simp [hi])

/-- A row is changed and stays under its key. -/
theorem set_same (hi : m.get? i = some v) (hv : index v = some k) (hw : index w = some k) :
    UniqueIndex index (m.set i w) ∧
      ∀ j, (m.set i w).at? index j = if j = k then some w else m.at? index j :=
  h.set_under hw (fun hj hu => h.eq hj hi hu hv) (by simp [hi, hv])

/-- A row leaves the index. -/
theorem set_gone (hi : m.get? i = some v) (hv : index v = some k) (hw : index w = none) :
    UniqueIndex index (m.set i w) ∧
      ∀ j, (m.set i w).at? index j = if j = k then none else m.at? index j := by
  have hfree : ∀ {j u k'}, index w = some k' → m.get? j = some u → index u = some k' → j = i := by
    intro j u k' hk'
    rw [hw] at hk'
    cases hk'
  refine ⟨h.set hfree, fun j => ?_⟩
  rw [h.at?_set hfree, hw, hi, bind_some, hv]
  simp [eq_comm]

end

end UniqueIndex

end FMap
