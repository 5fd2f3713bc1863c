import Mathlib

/-!
# Finite maps

The hash maps, tree maps and keyed tables of a program are all finite maps: at
most one value per key, read and written by key.  Mathlib's `AList` is exactly
that, so a `FMap` is an `AList` whose value type does not depend on the key,
and this file adds what a program needs on top of it.

* `get?`, `set`, `del`, `alter` — reading, writing, removing and changing in
  place; `get?_set`, `get?_del` and `get?_alter` say what a later read sees.
* `setAll`, `mapVals`, `mapRows`, `retain` — writing a row for each element of a list,
  changing every row, and keeping some.
* `vals`, `mem_vals` — the values held, and `vals_perm` which splits one key
  off: it is what every argument about a total over the map comes down to.
* `sumBy` — a total over the values, with `sumBy_set_new` and `sumBy_set_old`
  for the two ways a write changes it.
* `minKey?`, `maxKey?` — the ends of a map over a linear order, the first and
  last entry of a tree map.
-/

/-- A finite map from `κ` to `ν`: an association list with at most one entry
per key. -/
abbrev FMap (κ ν : Type) : Type := AList (fun _ : κ => ν)

/-- Where keys are distinct, nothing after the first has the key of the first. -/
theorem ne_of_nodup_map_cons {α β : Type} {key : α → β} {a b : α} {l : List α}
    (h : ((a :: l).map key).Nodup) (hb : b ∈ l) : key b ≠ key a := fun heq =>
  (List.nodup_cons.1 h).1 (heq ▸ List.mem_map_of_mem hb)

namespace FMap

open AList
open List (map_cons mem_cons mem_cons_of_mem mem_cons_self mem_map sum_cons)

variable {κ ν : Type} [DecidableEq κ]

/-! ## Reading and writing -/

variable (m : FMap κ ν) (k : κ)

/-- The value under a key. -/
def get? : Option ν := m.lookup k

/-- Write a value under a key, whatever was there before. -/
def set (v : ν) : FMap κ ν := m.insert k v

/-- Remove a key. -/
def del : FMap κ ν := m.erase k

/-- Change the value under a key, if there is one. -/
def alter (f : ν → ν) : FMap κ ν :=
  match m.get? k with
  | none => m
  | some v => m.set k (f v)

/-- The map that holds the pairs of a list, a later pair replacing an earlier
one under the same key. -/
def ofPairs (l : List (κ × ν)) : FMap κ ν := l.foldl (fun m p => m.set p.1 p.2) ∅

@[simp] theorem get?_empty (k : κ) : get? (∅ : FMap κ ν) k = none := rfl

@[simp] theorem get?_set_self (v : ν) : (m.set k v).get? k = some v :=
  lookup_insert m

theorem get?_set_ne (m : FMap κ ν) {k j : κ} (h : j ≠ k) (v : ν) : (m.set k v).get? j = m.get? j :=
  lookup_insert_ne h

theorem get?_set (m : FMap κ ν) (k j : κ) (v : ν) :
    (m.set k v).get? j = if j = k then some v else m.get? j := by
  by_cases h : j = k
  · subst h; simp
  · rw [if_neg h, get?_set_ne m h]

variable {m : FMap κ ν}

/-- What is read after a write was written, or was there. -/
theorem get?_set_eq_some {k j : κ} {v w : ν} :
    (m.set k v).get? j = some w ↔ j = k ∧ v = w ∨ j ≠ k ∧ m.get? j = some w := by
  rw [get?_set]
  split <;> simp_all

/-- What holds of the rows and of a new one holds of them after it is written. -/
@[elab_as_elim]
theorem forall_set {Q : κ → ν → Prop} {k j : κ} {v w : ν} (h : (m.set k v).get? j = some w)
    (hv : Q k v) (hm : ∀ {j w}, m.get? j = some w → Q j w) : Q j w := by
  rcases get?_set_eq_some.1 h with ⟨rfl, rfl⟩ | ⟨-, h⟩
  · exact hv
  · exact hm h

/-- A write under a new key leaves what was there. -/
theorem get?_set_new {k j : κ} {v w : ν} (hk : m.get? k = none) (h : m.get? j = some w) :
    (m.set k v).get? j = some w := by
  refine get?_set_eq_some.2 (.inr ⟨?_, h⟩)
  rintro rfl
  cases hk.symm.trans h

theorem exists_get?_set {k j : κ} {v w : ν} (h : m.get? j = some w) :
    ∃ w', (m.set k v).get? j = some w' := by
  rw [get?_set]
  split
  · exact ⟨v, rfl⟩
  · exact ⟨w, h⟩

section

variable (m : FMap κ ν)

/-- A write replaces an earlier one under the same key. -/
theorem set_set (k : κ) (v w : ν) : (m.set k v).set k w = m.set k w :=
  insert_insert m

@[simp] theorem get?_del_self (k : κ) : (m.del k).get? k = none :=
  lookup_erase k m

theorem get?_del_ne {k j : κ} (h : j ≠ k) : (m.del k).get? j = m.get? j :=
  lookup_erase_ne h

theorem get?_del (k j : κ) : (m.del k).get? j = if j = k then none else m.get? j := by
  by_cases h : j = k
  · subst h; simp
  · rw [if_neg h, get?_del_ne m h]

end

/-- What is read after a deletion was there, under another key. -/
theorem get?_del_eq_some {k j : κ} {w : ν} :
    (m.del k).get? j = some w ↔ j ≠ k ∧ m.get? j = some w := by
  rw [get?_del]
  split <;> simp_all

theorem alter_of_some {k : κ} {v : ν} (h : m.get? k = some v) (f : ν → ν) :
    m.alter k f = m.set k (f v) := by
  rw [alter, h]

theorem alter_of_none {k : κ} (h : m.get? k = none) (f : ν → ν) : m.alter k f = m := by
  rw [alter, h]

theorem get?_alter (m : FMap κ ν) (k j : κ) (f : ν → ν) :
    (m.alter k f).get? j = if j = k then (m.get? k).map f else m.get? j := by
  cases h : m.get? k with
  | none =>
    rw [alter_of_none h]
    by_cases hj : j = k
    · subst hj; simp [h]
    · simp [hj]
  | some => rw [alter_of_some h, get?_set, Option.map_some]

/-- Altering the rows of a list, when altering a row twice is altering it once. -/
theorem get?_foldl_alter {f : ν → ν} (hf : ∀ v, f (f v) = f v) (ks : List κ) (m : FMap κ ν)
    (j : κ) : (ks.foldl (fun m k => m.alter k f) m).get? j =
      if j ∈ ks then (m.get? j).map f else m.get? j := by
  induction ks generalizing m with
  | nil => simp
  | cons k ks ih =>
    rw [List.foldl_cons, ih, get?_alter]
    by_cases hk : j = k
    · subst hk
      simp [Function.comp_def, hf]
    · simp [hk]

/-- A key of the map built from a list is the key of one of its pairs, and
holds that pair's value. -/
theorem mem_of_get?_ofPairs {l : List (κ × ν)} {k : κ} {v : ν}
    (h : (ofPairs l).get? k = some v) : (k, v) ∈ l := by
  suffices key : ∀ (l : List (κ × ν)) (m : FMap κ ν),
      (l.foldl (fun m p => m.set p.1 p.2) m).get? k = some v → (k, v) ∈ l ∨ m.get? k = some v by
    rcases key l ∅ h with h' | h'
    · exact h'
    · simp at h'
  intro l
  induction l with
  | nil => intro m hm; exact .inr hm
  | cons p l ih =>
    intro m hm
    rcases ih (m.set p.1 p.2) hm with h' | h'
    · exact .inl (mem_cons_of_mem _ h')
    rw [get?_set] at h'
    by_cases hk : k = p.1
    · rw [if_pos hk, Option.some.injEq] at h'
      subst hk; subst h'
      exact .inl (mem_cons_self ..)
    · rw [if_neg hk] at h'
      exact .inr h'

/-- The key of a pair is a key of the map. -/
theorem get?_ofPairs_isSome {l : List (κ × ν)} {p : κ × ν} (h : p ∈ l) :
    ∃ v, (ofPairs l).get? p.1 = some v := by
  suffices key : ∀ (l : List (κ × ν)) (m : FMap κ ν), (p ∈ l ∨ ∃ v, m.get? p.1 = some v) →
      ∃ v, (l.foldl (fun m p => m.set p.1 p.2) m).get? p.1 = some v from key l ∅ (.inl h)
  intro l
  induction l with
  | nil => exact fun m hm => hm.resolve_left List.not_mem_nil
  | cons q l ih =>
    intro m hm
    refine ih _ ?_
    rcases hm with hm | ⟨v, hv⟩
    · rcases mem_cons.1 hm with rfl | hm
      · exact .inr ⟨p.2, get?_set_self m p.1 p.2⟩
      · exact .inl hm
    · rw [get?_set]
      split
      · exact .inr ⟨q.2, rfl⟩
      · exact .inr ⟨v, hv⟩

/-! ## Writing many rows -/

section SetAll

variable {α : Type} {key : α → κ} {val : α → ν}

/-- Write a row for each element of a list. -/
def setAll (key : α → κ) (val : α → ν) (l : List α) (m : FMap κ ν) : FMap κ ν :=
  l.foldl (fun m a => m.set (key a) (val a)) m

@[simp] theorem setAll_nil (m : FMap κ ν) : setAll key val [] m = m := rfl

theorem setAll_cons (a : α) (l : List α) (m : FMap κ ν) :
    setAll key val (a :: l) m = setAll key val l (m.set (key a) (val a)) := rfl

variable {l : List α}

theorem get?_setAll_of_notMem {k : κ} (hk : ∀ a ∈ l, k ≠ key a) (m : FMap κ ν) :
    (setAll key val l m).get? k = m.get? k := by
  induction l generalizing m with
  | nil => rfl
  | cons a l ih =>
    rw [setAll_cons, ih fun b hb => hk b (mem_cons_of_mem _ hb), get?_set_ne m (hk a mem_cons_self)]

theorem get?_setAll_of_mem (hnodup : (l.map key).Nodup) {a : α} (ha : a ∈ l) (m : FMap κ ν) :
    (setAll key val l m).get? (key a) = some (val a) := by
  induction l generalizing m with
  | nil => cases ha
  | cons b l ih =>
    rw [setAll_cons]
    rcases mem_cons.1 ha with rfl | ha
    · rw [get?_setAll_of_notMem, get?_set_self]
      exact fun c hc => (ne_of_nodup_map_cons hnodup hc).symm
    · exact ih hnodup.of_cons ha _

/-- Writing a list leaves a value at every key that has one: the old one, or one of the list. -/
theorem exists_get?_setAll {m : FMap κ ν} {k : κ} {v : ν} (h : m.get? k = some v) :
    ∃ v', (setAll key val l m).get? k = some v' ∧ (v' = v ∨ ∃ a ∈ l, v' = val a) := by
  induction l generalizing m v with
  | nil => exact ⟨v, h, .inl rfl⟩
  | cons a l ih =>
    by_cases hk : k = key a
    · subst hk
      obtain ⟨v', hget, rfl | ⟨b, hb, rfl⟩⟩ := ih (m := m.set (key a) (val a)) (get?_set_self ..)
      · exact ⟨_, hget, .inr ⟨a, mem_cons_self, rfl⟩⟩
      · exact ⟨_, hget, .inr ⟨b, mem_cons_of_mem _ hb, rfl⟩⟩
    · obtain ⟨v', hget, rfl | ⟨b, hb, rfl⟩⟩ := ih (m := m.set (key a) (val a))
        (by rw [get?_set_ne m hk, h])
      · exact ⟨_, hget, .inl rfl⟩
      · exact ⟨_, hget, .inr ⟨b, mem_cons_of_mem _ hb, rfl⟩⟩

theorem get?_setAll_congr {m m' : FMap κ ν} (h : ∀ k, m.get? k = m'.get? k) (l : List α) (k : κ) :
    (setAll key val l m).get? k = (setAll key val l m').get? k := by
  induction l generalizing m m' with
  | nil => exact h k
  | cons a l ih =>
    refine ih fun j => ?_
    rw [get?_set, get?_set, h]

/-- What stands under a key was written, or stood there before and was left alone. -/
theorem of_get?_setAll (hnodup : (l.map key).Nodup) {m : FMap κ ν} {k : κ} {v : ν}
    (h : (setAll key val l m).get? k = some v) :
    (∃ a ∈ l, k = key a ∧ v = val a) ∨ (∀ a ∈ l, k ≠ key a) ∧ m.get? k = some v := by
  by_cases hk : ∃ a ∈ l, k = key a
  · obtain ⟨a, ha, rfl⟩ := hk
    rw [get?_setAll_of_mem hnodup ha, Option.some.injEq] at h
    exact .inl ⟨a, ha, rfl, h.symm⟩
  · have hne : ∀ a ∈ l, k ≠ key a := fun a ha heq => hk ⟨a, ha, heq⟩
    rw [get?_setAll_of_notMem hne] at h
    exact .inr ⟨hne, h⟩

end SetAll

/-- Change every row, looking at its key. -/
def mapRows (f : κ → ν → ν) (m : FMap κ ν) : FMap κ ν :=
  ⟨m.entries.map fun e => ⟨e.1, f e.1 e.2⟩, by
    have hkeys : (m.entries.map fun e => (⟨e.1, f e.1 e.2⟩ : Sigma fun _ : κ => ν)).keys =
        m.entries.keys := by
      simp [List.keys]
    rw [List.NodupKeys, hkeys]
    exact m.nodupKeys⟩

/-- Change every row. -/
def mapVals (f : ν → ν) : FMap κ ν → FMap κ ν := mapRows fun _ => f

/-- Keep the rows whose key is wanted. -/
def retain (p : κ → Bool) (m : FMap κ ν) : FMap κ ν :=
  ⟨m.entries.filter fun e => p e.1, m.nodupKeys.sublist List.filter_sublist⟩

/-! ## Keys and values -/

/-- The values of the map, one for each key. -/
def vals (m : FMap κ ν) : List ν := m.entries.map (·.2)

omit [DecidableEq κ] in
@[simp] theorem vals_empty : vals (∅ : FMap κ ν) = [] := rfl

variable {m : FMap κ ν} {k : κ}

theorem get?_eq_some_iff {v : ν} :
    m.get? k = some v ↔ (⟨k, v⟩ : Sigma fun _ : κ => ν) ∈ m.entries :=
  mem_lookup_iff

theorem get?_mapRows (f : κ → ν → ν) (m : FMap κ ν) (k : κ) :
    (m.mapRows f).get? k = (m.get? k).map (f k) := by
  refine Option.ext fun v => ?_
  rw [get?_eq_some_iff, Option.map_eq_some_iff]
  constructor
  · intro h
    obtain ⟨⟨j, w⟩, hmem, heq⟩ := mem_map.1 h
    cases heq
    exact ⟨w, get?_eq_some_iff.2 hmem, rfl⟩
  · rintro ⟨w, hw, rfl⟩
    exact mem_map.2 ⟨⟨k, w⟩, get?_eq_some_iff.1 hw, rfl⟩

theorem get?_mapVals (f : ν → ν) (m : FMap κ ν) (k : κ) :
    (m.mapVals f).get? k = (m.get? k).map f := get?_mapRows (fun _ => f) m k

theorem get?_retain (p : κ → Bool) (m : FMap κ ν) (k : κ) :
    (m.retain p).get? k = if p k then m.get? k else none := by
  refine Option.ext fun v => ?_
  have hmem : (m.retain p).get? k = some v ↔ m.get? k = some v ∧ p k = true := by
    rw [get?_eq_some_iff, get?_eq_some_iff]
    exact List.mem_filter
  rw [hmem]
  cases hp : p k <;> simp

theorem mem_vals {v : ν} : v ∈ m.vals ↔ ∃ k, m.get? k = some v := by
  constructor
  · intro h
    obtain ⟨⟨k, w⟩, hmem, rfl⟩ := mem_map.1 h
    exact ⟨k, get?_eq_some_iff.2 hmem⟩
  · rintro ⟨k, hk⟩
    exact mem_map.2 ⟨⟨k, v⟩, get?_eq_some_iff.1 hk, rfl⟩

theorem mem_keys_iff : k ∈ m.keys ↔ ∃ v, m.get? k = some v := by
  rw [← mem_keys, ← lookup_isSome, Option.isSome_iff_exists]
  rfl

theorem eq_empty_of_get? (h : ∀ k, m.get? k = none) : m = ∅ := by
  refine AList.ext ?_
  cases hm : m.entries with
  | nil => rfl
  | cons e =>
    have hget : m.get? e.1 = some e.2 := get?_eq_some_iff.2 (by rw [hm]; exact mem_cons_self)
    rw [h e.1] at hget
    cases hget

theorem keys_del (m : FMap κ ν) (k : κ) : (m.del k).keys = m.keys.erase k :=
  keys_erase k m

/-- Removing a key that is there makes the map one entry shorter. -/
theorem length_keys_del {v : ν} (h : m.get? k = some v) :
    (m.del k).keys.length + 1 = m.keys.length := by
  have hk : k ∈ m.keys := mem_keys_iff.2 ⟨v, h⟩
  have hpos := List.length_pos_of_mem hk
  rw [keys_del, List.length_erase_of_mem hk]
  omega

/-- Rows that carry their own keys have different ones. -/
theorem nodup_vals_map {key : ν → κ} (h : ∀ {k v}, m.get? k = some v → key v = k) :
    (m.vals.map key).Nodup := by
  have heq : m.vals.map key = m.keys := by
    rw [vals, List.map_map]
    refine List.map_congr_left fun e he => ?_
    exact h (get?_eq_some_iff.2 he)
  rw [heq]
  exact m.nodupKeys

theorem vals_set (m : FMap κ ν) (k : κ) (v : ν) : (m.set k v).vals = v :: (m.del k).vals := rfl

/-- **One key can be split off.**  The values of a map are the value under a
key it holds, and the values of the map without that key. -/
theorem vals_perm {v : ν} (h : m.get? k = some v) : m.vals.Perm (v :: (m.del k).vals) := by
  have hk : k ∈ m.entries.keys := mem_keys.1 (lookup_isSome.1 (by
    rw [show m.lookup k = some v from h]; rfl))
  obtain ⟨w, l₁, l₂, -, hl, he⟩ := List.exists_of_kerase hk
  have hw : w = v := by
    have : m.get? k = some w := get?_eq_some_iff.2 (by rw [hl]; simp)
    rw [h] at this
    exact (Option.some.inj this).symm
  subst hw
  have hdel : (m.del k).vals = (l₁ ++ l₂).map (·.2) :=
    congrArg (List.map (fun e : Sigma fun _ : κ => ν => e.2)) he
  rw [vals, hl, hdel, List.map_append, map_cons, List.map_append]
  exact List.perm_middle

theorem del_of_none (h : m.get? k = none) : m.del k = m := by
  have hk : k ∉ m.entries.keys := fun hk => lookup_eq_none.1 h (mem_keys.2 hk)
  exact AList.ext (List.kerase_of_notMem_keys hk)

theorem vals_set_new (h : m.get? k = none) (v : ν) : (m.set k v).vals = v :: m.vals := by
  rw [vals_set, del_of_none h]

/-- Maps that agree everywhere have the same values, up to their order. -/
theorem vals_perm_of_get?_eq {m m' : FMap κ ν} (h : ∀ k, m.get? k = m'.get? k) :
    m.vals.Perm m'.vals := by
  refine List.Perm.map _ (List.lookup_ext m.nodupKeys m'.nodupKeys fun k v => ?_)
  have hk : m.entries.dlookup k = m'.entries.dlookup k := h k
  rw [hk]

/-! ## Keys in two parts -/

section Families

variable {ι α : Type} [DecidableEq ι]

/-- The values under the keys that begin with `k`. -/
def family (m : FMap (κ × ι) ν) (k : κ) : List ν :=
  (m.entries.filter fun e => e.1.1 = k).map (·.2)

omit [DecidableEq ι] in
@[simp] theorem family_empty (k : κ) : family (∅ : FMap (κ × ι) ν) k = [] := rfl

theorem mem_family {m : FMap (κ × ι) ν} {k : κ} {v : ν} :
    v ∈ m.family k ↔ ∃ i, m.get? (k, i) = some v := by
  simp only [family, mem_map, List.mem_filter, decide_eq_true_eq, get?_eq_some_iff]
  constructor
  · rintro ⟨⟨⟨k', i⟩, w⟩, ⟨hmem, rfl⟩, rfl⟩
    exact ⟨i, hmem⟩
  · rintro ⟨i, hmem⟩
    exact ⟨_, ⟨hmem, rfl⟩, rfl⟩

/-- A write under another key is not seen. -/
theorem family_set_ne (m : FMap (κ × ι) ν) {j : κ × ι} {k : κ} (h : j.1 ≠ k) (v : ν) :
    (m.set j v).family k = m.family k := by
  have hfilter : ∀ l : List (Sigma fun _ : κ × ι => ν),
      (List.kerase j l).filter (fun e => decide (e.1.1 = k)) =
        l.filter fun e => decide (e.1.1 = k) := by
    intro l
    induction l with
    | nil => rfl
    | cons e l ih =>
      by_cases he : j = e.1
      · have hout : ¬ e.1.1 = k := fun hk => h (by rw [he, hk])
        rw [List.kerase_cons_eq he, List.filter_cons_of_neg (by simpa using hout)]
      · rw [List.kerase_cons_ne he, List.filter_cons, List.filter_cons, ih]
  have hentries : (m.set j v).entries = ⟨j, v⟩ :: List.kerase j m.entries := rfl
  rw [family, hentries, List.filter_cons_of_neg (by simpa using h), hfilter, family]

theorem family_set_new {m : FMap (κ × ι) ν} {j : κ × ι} (h : m.get? j = none) (v : ν) :
    (m.set j v).family j.1 = v :: m.family j.1 := by
  have hentries : (m.set j v).entries = ⟨j, v⟩ :: (m.del j).entries := rfl
  rw [family, hentries, del_of_none h, List.filter_cons_of_pos (by simp), map_cons, family]

variable {key : α → κ × ι} {val : α → ν}

theorem family_setAll_ne {l : List α} {k : κ} (h : ∀ a ∈ l, (key a).1 ≠ k)
    (m : FMap (κ × ι) ν) : (setAll key val l m).family k = m.family k := by
  induction l generalizing m with
  | nil => rfl
  | cons a l ih =>
    rw [setAll_cons, ih (fun b hb => h b (mem_cons_of_mem _ hb)),
      family_set_ne _ (h a mem_cons_self)]

/-- Rows written under new keys that begin alike. -/
theorem family_setAll_new {l : List α} {k : κ} (hkey : ∀ a ∈ l, (key a).1 = k)
    (hnodup : (l.map key).Nodup) {m : FMap (κ × ι) ν} (hnew : ∀ a ∈ l, m.get? (key a) = none) :
    (setAll key val l m).family k = (l.map val).reverse ++ m.family k := by
  induction l generalizing m with
  | nil => rfl
  | cons a l ih =>
    have hnew' : ∀ b ∈ l, (m.set (key a) (val a)).get? (key b) = none := by
      intro b hb
      rw [get?_set_ne _ (ne_of_nodup_map_cons hnodup hb), hnew b (mem_cons_of_mem _ hb)]
    have hhead := family_set_new (hnew a mem_cons_self) (val a)
    rw [hkey a mem_cons_self] at hhead
    rw [setAll_cons, ih (fun b hb => hkey b (mem_cons_of_mem _ hb)) hnodup.of_cons hnew', hhead]
    simp

end Families

/-- A list in the order of a number of its elements. -/
def sortedBy (f : ν → Nat) (l : List ν) : List ν := l.insertionSort fun a b => f a ≤ f b

omit [DecidableEq κ] in
/-- Whatever order the elements come in, they are sorted into the one in which the numbers
grow. -/
theorem sortedBy_eq {f : ν → Nat} {l l' : List ν} (hperm : l.Perm l')
    (hgrow : l'.Pairwise fun a b => f a < f b) : sortedBy f l = l' := by
  have hsorted := List.pairwise_insertionSort (fun a b : ν => f a ≤ f b) l
  have hperm' := (List.perm_insertionSort (fun a b : ν => f a ≤ f b) l).trans hperm
  refine List.Perm.eq_of_pairwise ?_ hsorted (hgrow.imp Nat.le_of_lt) hperm'
  intro a b ha hb hab hba
  by_contra hne
  -- two elements with the same number would not stand in a growing list
  have hapart : l'.Pairwise fun a b => f a ≠ f b := hgrow.imp Nat.ne_of_lt
  have hsymm : Std.Symm fun a b : ν => f a ≠ f b := ⟨fun _ _ => Ne.symm⟩
  exact hapart.forall (hperm'.subset ha) hb hne (Nat.le_antisymm hab hba)

/-! ## Totals -/

section Totals

variable {M : Type} [AddCommMonoid M]

/-- The total of `f` over the values of the map. -/
def sumBy (f : ν → M) (m : FMap κ ν) : M := (m.vals.map f).sum

omit [DecidableEq κ] in
@[simp] theorem sumBy_empty (f : ν → M) : sumBy f (∅ : FMap κ ν) = 0 := rfl

variable {m : FMap κ ν}

theorem sumBy_of_get? {k : κ} {v : ν} (h : m.get? k = some v) (f : ν → M) :
    m.sumBy f = f v + (m.del k).sumBy f := by
  rw [sumBy, ((vals_perm h).map f).sum_eq, map_cons, sum_cons]
  rfl

theorem sumBy_set (m : FMap κ ν) (k : κ) (v : ν) (f : ν → M) :
    (m.set k v).sumBy f = f v + (m.del k).sumBy f := by
  rfl

/-- Maps that agree everywhere have the same totals. -/
theorem sumBy_congr {m m' : FMap κ ν} (h : ∀ k, m.get? k = m'.get? k) (f : ν → M) :
    m.sumBy f = m'.sumBy f :=
  ((vals_perm_of_get?_eq h).map f).sum_eq

/-- Writing under a new key adds the new value to the total. -/
theorem sumBy_set_new {k : κ} (h : m.get? k = none) (v : ν) (f : ν → M) :
    (m.set k v).sumBy f = f v + m.sumBy f := by
  rw [sumBy_set, del_of_none h]

/-- Writing over a value moves the total by the difference of the two. -/
theorem sumBy_set_old {k : κ} {v : ν} (h : m.get? k = some v) (w : ν) (f : ν → M) :
    (m.set k w).sumBy f + f v = m.sumBy f + f w := by
  rw [sumBy_set, sumBy_of_get? h f, add_right_comm, add_comm (f w), add_right_comm]

/-- Writing rows under new keys adds their values to the total. -/
theorem sumBy_setAll_new {α : Type} {key : α → κ} {val : α → ν} {l : List α}
    (hnodup : (l.map key).Nodup) (hnew : ∀ a ∈ l, m.get? (key a) = none) (f : ν → M) :
    (setAll key val l m).sumBy f = (l.map fun a => f (val a)).sum + m.sumBy f := by
  induction l generalizing m with
  | nil => simp
  | cons a l ih =>
    have hrest : ∀ b ∈ l, (m.set (key a) (val a)).get? (key b) = none := by
      intro b hb
      rw [get?_set_ne m (ne_of_nodup_map_cons hnodup hb), hnew b (mem_cons_of_mem _ hb)]
    rw [setAll_cons, ih hnodup.of_cons hrest, sumBy_set_new (hnew a mem_cons_self), map_cons,
      sum_cons, add_left_comm, add_assoc]

/-- A total of nothing. -/
theorem sumBy_eq_zero {f : ν → M} (h : ∀ k v, m.get? k = some v → f v = 0) : m.sumBy f = 0 := by
  refine List.sum_eq_zero fun x hx => ?_
  obtain ⟨v, hv, rfl⟩ := mem_map.1 hx
  obtain ⟨k, hk⟩ := mem_vals.1 hv
  exact h k v hk

/-- Altering rows downwards lowers a total. -/
theorem sumBy_foldl_alter_le {f : ν → ν} {g : ν → Nat} (hf : ∀ v, g (f v) ≤ g v) (ks : List κ)
    (m : FMap κ ν) : (ks.foldl (fun m k => m.alter k f) m).sumBy g ≤ m.sumBy g := by
  induction ks generalizing m with
  | nil => exact le_rfl
  | cons k ks ih =>
    refine (ih (m.alter k f)).trans ?_
    cases hk : m.get? k with
    | none => rw [alter_of_none hk]
    | some v =>
      have hsum := sumBy_set_old hk (f v) g
      have hle := hf v
      rw [alter_of_some hk]
      omega

end Totals

/-! ## Maps over a linear order -/

section Least

variable [Min κ]

/-- The least key: what the first entry of a tree map is filed under. -/
def minKey? (m : FMap κ ν) : Option κ := m.keys.min?

theorem minKey?_eq_none_iff {m : FMap κ ν} : m.minKey? = none ↔ ∀ k, m.get? k = none := by
  rw [minKey?, List.min?_eq_none_iff, List.eq_nil_iff_forall_not_mem]
  refine forall_congr' fun k => ?_
  rw [mem_keys_iff, Option.eq_none_iff_forall_ne_some, not_exists]

theorem minKey?_eq_some_iff [LE κ] [Std.IsLinearOrder κ] [Std.LawfulOrderMin κ]
    {m : FMap κ ν} {k : κ} :
    m.minKey? = some k ↔ (∃ v, m.get? k = some v) ∧ ∀ j w, m.get? j = some w → k ≤ j := by
  rw [minKey?, List.min?_eq_some_iff, mem_keys_iff]
  refine and_congr_right fun _ => ⟨fun h j w hj => h j (mem_keys_iff.2 ⟨w, hj⟩), ?_⟩
  intro h j hj
  obtain ⟨w, hw⟩ := mem_keys_iff.1 hj
  exact h j w hw

end Least

section Greatest

variable [Max κ]

/-- The greatest key: what the last entry of a tree map is filed under. -/
def maxKey? (m : FMap κ ν) : Option κ := m.keys.max?

theorem maxKey?_eq_none_iff {m : FMap κ ν} : m.maxKey? = none ↔ ∀ k, m.get? k = none := by
  rw [maxKey?, List.max?_eq_none_iff, List.eq_nil_iff_forall_not_mem]
  refine forall_congr' fun k => ?_
  rw [mem_keys_iff, Option.eq_none_iff_forall_ne_some, not_exists]

theorem maxKey?_eq_some_iff [LE κ] [Std.IsLinearOrder κ] [Std.LawfulOrderMax κ]
    {m : FMap κ ν} {k : κ} :
    m.maxKey? = some k ↔ (∃ v, m.get? k = some v) ∧ ∀ j w, m.get? j = some w → j ≤ k := by
  rw [maxKey?, List.max?_eq_some_iff, mem_keys_iff]
  refine and_congr_right fun _ => ⟨fun h j w hj => h j (mem_keys_iff.2 ⟨w, hj⟩), ?_⟩
  intro h j hj
  obtain ⟨w, hw⟩ := mem_keys_iff.1 hj
  exact h j w hw

end Greatest

end FMap
