import DeoptBackend.HybridV2.Runtime

/-!
# Branches and their journals

A branch is a list of blocks, numbered from one, each the parent of the next.  What the
indexer has indexed is a branch, and so is what a source serves.

* `Branch` — the notion, with the ways to cut one short and to add a block.
* `branchLogs` — the journal of a branch, which is in the order of the chain.
* `Branch.eq_take` — **two branches that meet at a block agree below it**, because a hash
  stands for one block.
* `ReorgPlanner.plan_eq_rewind`, `plan_rewind_iff` — what the planner finds.
-/

namespace DeoptBackend.HybridV2

open List Option

structure Branch (net : Network) (blocks : List RawBlock) : Prop where
  produced : ∀ b ∈ blocks, net.Produced b
  numbered : ∀ {i b}, blocks[i]? = some b → b.number = i + 1
  linked : ∀ {i p b}, blocks[i]? = some p → blocks[i + 1]? = some b →
    hashesEq p.hash b.parentHash = true

/-- The number, hash and parent of the last block, with the values of a cursor that has not
moved for the empty branch. -/
def tip (blocks : List RawBlock) : Nat × String × String :=
  match blocks.getLast? with
  | none => (0, "", "")
  | some b => (b.number, b.hash, b.parentHash)

namespace Branch

variable {blocks : List RawBlock}

theorem nil : Branch net [] :=
  ⟨fun _ h => absurd h not_mem_nil, fun h => by simp at h, fun h => by simp at h⟩

theorem take (h : Branch net blocks) (k : Nat) : Branch net (blocks.take k) := by
  have below : ∀ {i : Nat} {b}, (blocks.take k)[i]? = some b → blocks[i]? = some b := by
    intro i b hb
    rw [getElem?_take] at hb
    split at hb
    · exact hb
    · cases hb
  exact {
    produced := fun b hb => h.produced b (mem_of_mem_take hb)
    numbered := fun hb => h.numbered (below hb)
    linked := fun hp hb => h.linked (below hp) (below hb) }

theorem take_succ_eq (h : blocks[k]? = some b) : blocks.take (k + 1) = blocks.take k ++ [b] := by
  rw [take_add_one, h, toList_some]

theorem tip_fst (h : Branch net blocks) : (tip blocks).1 = blocks.length := by
  cases hlast : blocks.getLast? with
  | none => simp [tip, getLast?_eq_none_iff.1 hlast]
  | some =>
    rw [getLast?_eq_getElem?] at hlast
    have hlt : blocks.length - 1 < blocks.length := (List.getElem?_eq_some_iff.1 hlast).1
    simp only [tip, getLast?_eq_getElem?, hlast, h.numbered hlast]
    omega

theorem number_le (h : Branch net blocks) (hb : b ∈ blocks) :
    1 ≤ b.number ∧ b.number ≤ blocks.length := by
  obtain ⟨i, hi⟩ := mem_iff_getElem?.1 hb
  have hlt := (List.getElem?_eq_some_iff.1 hi).1
  have hnum := h.numbered hi
  omega

theorem getElem?_number (h : Branch net blocks) (hb : b ∈ blocks) :
    blocks[b.number - 1]? = some b := by
  obtain ⟨i, hi⟩ := mem_iff_getElem?.1 hb
  rw [h.numbered hi]
  exact hi

theorem getElem?_snoc (h : (blocks ++ [b])[i]? = some c) :
    blocks[i]? = some c ∨ i = blocks.length ∧ c = b := by
  have hlt := (List.getElem?_eq_some_iff.1 h).1
  rw [length_append, length_singleton] at hlt
  rcases Nat.lt_succ_iff_lt_or_eq.1 hlt with hlt | rfl
  · rw [getElem?_append_left hlt] at h
    exact .inl h
  · rw [getElem?_concat_length] at h
    exact .inr ⟨rfl, (some.inj h).symm⟩

/-- **A block that follows the last one extends the branch.** -/
theorem snoc (h : Branch net blocks) (hb : net.Produced b) (hnum : b.number = blocks.length + 1)
    (hlink : ∀ p, blocks.getLast? = some p → hashesEq p.hash b.parentHash = true) :
    Branch net (blocks ++ [b]) where
  produced := by
    intro c hc
    rcases mem_append.1 hc with hc | hc
    · exact h.produced c hc
    · rw [mem_singleton.1 hc]
      exact hb
  numbered := by
    intro i c hc
    rcases getElem?_snoc hc with hc | ⟨rfl, rfl⟩
    · exact h.numbered hc
    · exact hnum
  linked := by
    intro i p c hp hc
    rcases getElem?_snoc hp with hp' | ⟨rfl, -⟩
    · rcases getElem?_snoc hc with hc' | ⟨hi, rfl⟩
      · exact h.linked hp' hc'
      · refine hlink p ?_
        rw [getLast?_eq_getElem?, ← hi, Nat.add_sub_cancel, hp']
    · have hlt := (List.getElem?_eq_some_iff.1 hc).1
      rw [length_append, length_singleton] at hlt
      omega

/-- **Two branches that have a block in common have all blocks below it in common.** -/
theorem eq_take (hnet : net.Faithful) (h : Branch net blocks) (h' : Branch net blocks')
    (hk : blocks[k]? = some b) (hk' : blocks'[k]? = some b) :
    blocks.take (k + 1) = blocks'.take (k + 1) := by
  induction k generalizing b with
  | zero => simp [take_add_one, hk, hk']
  | succ k ih =>
    -- the parents are the same block, since a hash stands for one block
    have hlt : k < blocks.length := by
      have := (List.getElem?_eq_some_iff.1 hk).1
      omega
    have hlt' : k < blocks'.length := by
      have := (List.getElem?_eq_some_iff.1 hk').1
      omega
    have hp : blocks[k]? = some blocks[k] := getElem?_eq_getElem hlt
    have hp' : blocks'[k]? = some blocks'[k] := getElem?_eq_getElem hlt'
    have hhash : hashesEq blocks[k].hash blocks'[k].hash = true := by
      have hback := h'.linked hp' hk'
      rw [hashesEq_comm] at hback
      exact hashesEq_trans (h.linked hp hk) hback
    have heq : blocks[k] = blocks'[k] :=
      hnet (h.produced _ (getElem_mem hlt))
        (h'.produced _ (getElem_mem hlt')) hhash
    rw [take_add_one (i := k + 1), hk, ih hp (by rw [hp', heq]),
      take_add_one (i := k + 1), hk']

/-- A branch as a list whose numbers and links can be read off. -/
theorem of_isChain (hproduced : ∀ b ∈ blocks, net.Produced b)
    (hnumbers : blocks.map (·.number) = range' 1 blocks.length)
    (hlinks : blocks.IsChain fun p b => hashesEq p.hash b.parentHash = true) :
    Branch net blocks where
  produced := hproduced
  numbered := by
    intro i b hb
    have hlt := (List.getElem?_eq_some_iff.1 hb).1
    have hget : (blocks.map (·.number))[i]? = some b.number := by rw [getElem?_map, hb]; rfl
    rw [hnumbers, getElem?_range' hlt] at hget
    have := some.inj hget
    omega
  linked := by
    intro i p b hp hb
    have hlt := (List.getElem?_eq_some_iff.1 hb).1
    have hlink := isChain_iff_getElem.1 hlinks i hlt
    rwa [(List.getElem?_eq_some_iff.1 hp).2, (List.getElem?_eq_some_iff.1 hb).2] at hlink

end Branch

/-! ## Sources that serve a branch -/

/-- The source whose chain is a branch, and which answers every read. -/
def ChainSource.ofChain (chainId finalized : Nat) (blocks : List RawBlock) : ChainSource where
  chainId := .ok chainId
  headBlockNumber := .ok blocks.length
  finalizedBlockNumber := .ok finalized
  blockAt
    | 0 => .ok none
    | n + 1 => .ok blocks[n]?
  blockByHash hash := .ok (blocks.find? fun b => hashesEq b.hash hash)

theorem Branch.serves (h : Branch net blocks) (chainId finalized : Nat) :
    (ChainSource.ofChain chainId finalized blocks).Serves net where
  blockAt := by
    intro n b hb
    cases n with
    | zero => cases hb
    | succ n =>
      have hget : blocks[n]? = some b := Except.ok.inj hb
      exact ⟨h.produced b (mem_of_getElem? hget), h.numbered hget⟩
  blockByHash := by
    intro hash b hb
    have hfind : blocks.find? (fun b => hashesEq b.hash hash) = some b := Except.ok.inj hb
    have hsame := find?_some hfind
    exact ⟨h.produced b (mem_of_find?_eq_some hfind), hsame⟩

def Network.ofBlocks (blocks : List RawBlock)
    (h : ∀ b ∈ blocks, ∀ b' ∈ blocks, b.hash = b'.hash → b.number = b'.number) : Network where
  Produced b := b ∈ blocks
  hash_number hb hb' := h _ hb _ hb'

/-! ## The journal of a branch -/

def branchLogs (emitters : List String) (blocks : List RawBlock) : List JournaledLog :=
  blocks.flatMap (journalOf emitters)

theorem branchLogs_append (emitters : List String) (blocks blocks' : List RawBlock) :
    branchLogs emitters (blocks ++ blocks') =
      branchLogs emitters blocks ++ branchLogs emitters blocks' := flatMap_append

theorem branchLogs_singleton (emitters : List String) (b : RawBlock) :
    branchLogs emitters [b] = journalOf emitters b := by
  simp [branchLogs]

theorem of_mem_branchLogs (h : log ∈ branchLogs emitters blocks) :
    ∃ b ∈ blocks, log ∈ journalOf emitters b ∧ log.Of b := by
  obtain ⟨b, hb, hlog⟩ := mem_flatMap.1 h
  exact ⟨b, hb, hlog, of_mem_journalOf hlog⟩

theorem filter_isCanonical_branchLogs :
    (branchLogs emitters blocks).filter (·.isCanonical) = branchLogs emitters blocks := by
  refine filter_eq_self.2 fun log hlog => ?_
  obtain ⟨b, -, -, hof⟩ := of_mem_branchLogs hlog
  exact hof.isCanonical

/-- **The journal of a branch is in the order of the chain.** -/
theorem Branch.inChainOrder (h : Branch net blocks) : InChainOrder (branchLogs emitters blocks) := by
  induction blocks using reverseRecOn with
  | nil => exact Pairwise.nil
  | append_singleton blocks b ih =>
    have hfront : Branch net blocks := by simpa using h.take blocks.length
    have hnum : b.number = blocks.length + 1 := h.numbered (i := blocks.length) (by simp)
    rw [branchLogs_append, branchLogs_singleton]
    refine pairwise_append.2 ⟨ih hfront, ?_, ?_⟩
    · -- within the last block
      refine Pairwise.imp_of_mem ?_ (journalFrom_pairwise b.logs 0)
      intro x y hx hy hxy
      have hxof : x.Of b := of_mem_journalOf hx
      have hyof : y.Of b := of_mem_journalOf hy
      exact .inr ⟨by rw [hxof.blockNumber, hyof.blockNumber], hxy⟩
    · -- between an earlier block and the last one
      intro x hx y hy
      obtain ⟨c, hc, -, hxof⟩ := of_mem_branchLogs hx
      have hle := (hfront.number_le hc).2
      rw [hxof.blockNumber, (of_mem_journalOf hy).blockNumber]
      omega

/-- The rows of the first blocks are those with the first numbers. -/
theorem Branch.filter_branchLogs (h : Branch net blocks) (k : Nat) :
    (branchLogs emitters blocks).filter (fun log => decide (log.blockNumber ≤ k)) =
      branchLogs emitters (blocks.take k) := by
  conv_lhs => rw [← take_append_drop k blocks]
  rw [branchLogs_append, filter_append]
  have hfront : (branchLogs emitters (blocks.take k)).filter
      (fun log => decide (log.blockNumber ≤ k)) = branchLogs emitters (blocks.take k) := by
    refine filter_eq_self.2 fun log hlog => ?_
    obtain ⟨b, hb, -, hof⟩ := of_mem_branchLogs hlog
    have hle := ((h.take k).number_le hb).2
    rw [length_take] at hle
    rw [hof.blockNumber]
    exact decide_eq_true (by omega)
  have hback : (branchLogs emitters (blocks.drop k)).filter
      (fun log => decide (log.blockNumber ≤ k)) = [] := by
    refine filter_eq_nil_iff.2 fun log hlog => ?_
    obtain ⟨b, hb, -, hof⟩ := of_mem_branchLogs hlog
    obtain ⟨i, hi⟩ := mem_iff_getElem?.1 hb
    rw [getElem?_drop] at hi
    rw [hof.blockNumber, h.numbered hi, decide_eq_true_eq]
    omega
  rw [hfront, hback, append_nil]

/-- A row of a branch is a row of the block with its number. -/
theorem Branch.mem_journalOf (h : Branch net blocks) (hk : blocks[k]? = some b)
    (hlog : log ∈ branchLogs emitters blocks) (hnum : log.blockNumber = k + 1) :
    log ∈ journalOf emitters b := by
  obtain ⟨c, hc, hmem, hof⟩ := of_mem_branchLogs hlog
  have hget := h.getElem?_number hc
  rw [← hof.blockNumber, hnum, Nat.add_sub_cancel, hk] at hget
  rwa [some.inj hget]

/-! ## What the planner finds -/

namespace ReorgPlanner

variable {head : Nat}

/-- The journal and the source have the same block at a height. -/
def shares (source : ChainSource) (hashes : FMap Nat String) (n : Nat) : Bool :=
  match hashes.get? n, source.blockAt n with
  | some localHash, .ok (some b) => hashesEq localHash b.hash
  | _, _ => false

theorem shares_iff : shares source hashes n = true ↔ ∃ localHash b, hashes.get? n = some localHash ∧
      source.blockAt n = .ok (some b) ∧ hashesEq localHash b.hash = true := by
  simp only [shares]
  constructor
  · intro h
    split at h
    · rename_i localHash b hget hblock
      exact ⟨localHash, b, hget, hblock, h⟩
    · cases h
  · rintro ⟨localHash, b, hget, hblock, h⟩
    rw [hget, hblock]
    exact h

theorem search_eq_some (h : search source hashes head depths = .ok (some n)) :
    shares source hashes n = true ∧ n ≤ head := by
  induction depths with
  | nil => cases h
  | cons depth depths ih =>
    simp only [search] at h
    split at h
    · cases h
    split at h
    · exact ih h
    rename_i localHash hget
    split at h
    · cases h
    · exact ih h
    rename_i b hblock
    split at h
    · rename_i heq
      cases h
      exact ⟨shares_iff.2 ⟨localHash, b, hget, hblock, heq⟩, Nat.sub_le ..⟩
    · exact ih h

/-- **A rewind goes to a lower block that left a log and that the source still has**, and
orphans everything from there up to the highest block that left a log. -/
theorem plan_eq_rewind (h : plan maxDepth journal source = .ok (.rewind a orphaned)) :
    ∃ head, (canonicalHashes journal).maxKey? = some head ∧ a < head ∧
      shares source (canonicalHashes journal) a = true ∧
      orphaned = range' (a + 1) (head - a) := by
  simp only [plan] at h
  split at h
  · cases h
  rename_i head hmax
  split at h
  · cases h
  · cases h
  rename_i ancestor hsearch
  split at h
  · cases h
  rename_i hne
  cases h
  obtain ⟨hshares, hle⟩ := search_eq_some hsearch
  exact ⟨head, hmax, Nat.lt_of_le_of_ne hle hne, hshares, rfl⟩

/-- With a source that answers, the search gives the first depth at which the blocks agree. -/
theorem search_eq
    (hreads : ∀ n localHash, hashes.get? n = some localHash → ∃ b, source.blockAt n = .ok b)
    (hdepths : depths.Pairwise (· < ·)) : search source hashes head depths =
      .ok ((depths.find? fun d => decide (d ≤ head) && shares source hashes (head - d)).map
        (head - ·)) := by
  induction depths with
  | nil => rfl
  | cons depth depths ih =>
    obtain ⟨hfirst, hrest⟩ := pairwise_cons.1 hdepths
    replace ih := ih hrest
    simp only [search]
    by_cases hlt : head < depth
    · -- every later depth goes below the first block too
      have hnone : (depth :: depths).find?
          (fun d => decide (d ≤ head) && shares source hashes (head - d)) = none := by
        refine find?_eq_none.2 fun d hd => ?_
        have hle : head < d := by
          rcases mem_cons.1 hd with rfl | hd
          · exact hlt
          · exact hlt.trans (hfirst d hd)
        simp [Nat.not_le.2 hle]
      rw [if_pos hlt, hnone]
      rfl
    · have hle : depth ≤ head := Nat.not_lt.1 hlt
      simp only [if_neg hlt, find?_cons, hle]
      cases hget : hashes.get? (head - depth) with
      | none =>
        have hno : shares source hashes (head - depth) = false := by simp [shares, hget]
        simp [hno, ih]
      | some localHash =>
        obtain ⟨b, hb⟩ := hreads _ _ hget
        cases b with
        | none =>
          have hno : shares source hashes (head - depth) = false := by
            simp [shares, hb]
          simp [hb, hno, ih]
        | some b =>
          have hsame : shares source hashes (head - depth) = hashesEq localHash b.hash := by
            simp [shares, hget, hb]
          simp only [hb, hsame]
          cases hashesEq localHash b.hash with
          | true => rfl
          | false => exact ih

/-- **When the planner rewinds**: the highest block that left a log is gone from the source,
and one not more than `maxDepth` below it is not. -/
theorem plan_rewind_iff (hreads : ∀ n localHash, (canonicalHashes journal).get? n = some localHash →
      ∃ b, source.blockAt n = .ok b) :
    (∃ a orphaned, plan maxDepth journal source = .ok (.rewind a orphaned)) ↔
      ∃ head, (canonicalHashes journal).maxKey? = some head ∧
        shares source (canonicalHashes journal) head = false ∧
        ∃ n, n < head ∧ head ≤ n + maxDepth ∧ shares source (canonicalHashes journal) n = true := by
  simp only [plan]
  cases hmax : (canonicalHashes journal).maxKey? with
  | none => simp
  | some head =>
    simp only [search_eq hreads pairwise_lt_range, some.injEq, exists_eq_left']
    cases hfind : (range (maxDepth + 1)).find? (fun d => decide (d ≤ head) &&
        shares source (canonicalHashes journal) (head - d)) with
    | none =>
      refine iff_of_false (by simp) ?_
      rintro ⟨-, n, hlt, hle, hshares⟩
      have hno := find?_range_eq_none.1 hfind (head - n) (by omega)
      rw [Nat.sub_sub_self (Nat.le_of_lt hlt), hshares] at hno
      simp at hno
    | some d =>
      obtain ⟨hd, hdepth, hearlier⟩ := find?_range_eq_some.1 hfind
      rw [Bool.and_eq_true, decide_eq_true_eq] at hd
      rw [mem_range] at hdepth
      rcases Nat.eq_zero_or_pos d with rfl | hpos
      · refine iff_of_false (by simp) ?_
        rintro ⟨hno, -⟩
        rw [Nat.sub_zero, hno] at hd
        exact absurd hd.2 Bool.false_ne_true
      · have hne : head - d ≠ head := by omega
        refine iff_of_true ⟨_, _, if_neg hne⟩ ⟨?_, head - d, by omega, by omega, hd.2⟩
        -- depth zero was looked at first, and the blocks did not agree there
        simpa using hearlier 0 hpos

end ReorgPlanner

end DeoptBackend.HybridV2
