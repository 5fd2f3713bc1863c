import DeoptBackend.HybridV2.Indexing

/-!
# Following a chain that has changed

A source whose chain no longer changes is asked again and again.  A runtime that stands on that
chain walks it to its end, or to the first block that cannot be applied, and it does not matter
where on the chain it started.  A runtime that stands on another branch has to be rewound first,
and the planner only knows the blocks that left a log.

* `stop` — where every walk over a chain ends.
* `Indexed.advance`, `Indexed.walk` — a tick is a step of the walk.
* `Recoverable` — the last block with a log is gone from the chain, and one with a log not more
  than the depth limit below it is not.
* `tick_returns_to_chain_iff` — **a conflict leads back to the chain exactly in that case**.
-/

namespace DeoptBackend.HybridV2

open IndexerRuntime ReorgPlanner List Branch FMap Option

/-- The source answers every read, always for the same chain. -/
structure ChainSource.Stable (source : ChainSource) (m : ManifestParams)
    (chain : List RawBlock) : Prop where
  chainId : source.chainId = .ok m.chainId
  head : ∃ n, source.headBlockNumber = .ok n
  finalized : ∃ n, source.finalizedBlockNumber = .ok n
  blockAt : ∀ n, source.blockAt (n + 1) = .ok chain[n]?

theorem ChainSource.ofChain_stable (m : ManifestParams) (finalized : Nat)
    (chain : List RawBlock) : (ChainSource.ofChain m.chainId finalized chain).Stable m chain where
  chainId := rfl
  head := ⟨_, rfl⟩
  finalized := ⟨_, rfl⟩
  blockAt := fun _ => rfl

/-- The same source again and again. -/
def ticking (decode : Decoder) (source : ChainSource) (n : Nat) (rt : IndexerRuntime) :
    IndexerRuntime :=
  (fun rt => (tick decode source source rt).2)^[n] rt

/-! ## The walk over a chain -/

section

variable (decode : Decoder) (m : ManifestParams) (chain : List RawBlock)

/-- The logs of the first `k` blocks all go through. -/
def GoesThrough (k : Nat) : Prop :=
  (projectionOf decode m.eventVersion
    (branchLogs (collectEmitters m) (chain.take k))).isSome = true
  deriving Decidable

/-- The number of blocks after which the walk ends. -/
def stop : Nat := Nat.findGreatest (GoesThrough decode m chain) chain.length

end

section

variable {chain : List RawBlock} {source : ChainSource}

theorem goesThrough_stop : GoesThrough decode m chain (stop decode m chain) :=
  Nat.findGreatest_spec (m := 0) (Nat.zero_le _) (by simp [GoesThrough, branchLogs])

theorem GoesThrough.mono (h : GoesThrough decode m chain k) (hjk : j ≤ k) :
    GoesThrough decode m chain j := by
  obtain ⟨state, hstate⟩ := isSome_iff_exists.1 h
  have hsplit : chain.take k = chain.take j ++ (chain.take k).drop j := by
    conv_lhs => rw [← take_append_drop j (chain.take k)]
    rw [take_take, Nat.min_eq_left hjk]
  rw [hsplit, branchLogs_append] at hstate
  exact isSome_iff_exists.2 (projectionOf_of_append hstate)

theorem goesThrough_iff (hk : k ≤ chain.length) :
    GoesThrough decode m chain k ↔ k ≤ stop decode m chain :=
  ⟨fun h => Nat.le_findGreatest hk h, fun h => goesThrough_stop.mono h⟩

/-- A source that answers does not keep a tick from looking at a block. -/
theorem ChainSource.Stable.reachable (hsource : source.Stable m chain) (hm : rt.manifest = m) :
    Reachable source rt where
  chainId := by rw [hm]; exact hsource.chainId
  head := hsource.head
  finalized := hsource.finalized
  block := ⟨_, hsource.blockAt _⟩

section

variable (h : Indexed decode net m rt (chain.take k))
include h

/-- On its own chain the runtime sees no conflict. -/
theorem Indexed.not_conflicts (hchain : Branch net chain) (hk : chain[k]? = some block) :
    rt.conflicts block = false := by
  have hlt := (List.getElem?_eq_some_iff.1 hk).1
  cases k with
  | zero =>
    have hzero : rt.cursor.indexedHeadBlock = 0 := by simpa using h.head
    simp [conflicts, hzero]
  | succ k =>
    have hparent : chain[k]? = some chain[k] := getElem?_eq_getElem (by omega)
    have hcursor := h.cursor
    rw [take_succ_eq hparent, tip_snoc, Prod.mk.injEq, Prod.mk.injEq] at hcursor
    simp [conflicts, hcursor.2.1, hchain.linked hparent hk]

/-- **A tick is a step of the walk.** -/
theorem Indexed.advance (hk : k ≤ chain.length) (hchain : Branch net chain)
    (hsource : source.Stable m chain) :
    Indexed decode net m (IndexerRuntime.tick decode source source rt).2
      (chain.take (if k < stop decode m chain then k + 1 else k)) := by
  have hhead : rt.cursor.indexedHeadBlock = k := by
    rw [h.head, length_take, Nat.min_eq_left hk]
  have hnext : ∀ {b}, source.blockAt (rt.cursor.indexedHeadBlock + 1) = .ok b → chain[k]? = b := by
    intro b hb
    rw [hhead, hsource.blockAt] at hb
    exact Except.ok.inj hb
  rcases htick : IndexerRuntime.tick decode source source rt with ⟨r, rt'⟩
  cases tick_effect htick with
  | unread hreach => exact absurd (hsource.reachable h.manifest) hreach
  | noBlock hblock htouch =>
    -- the end of the chain
    have hend := getElem?_eq_none_iff.1 (hnext hblock)
    have hstop : stop decode m chain ≤ chain.length := Nat.findGreatest_le _
    rw [if_neg (by omega)]
    exact h.touched htouch
  | applied hblock hconf htouch happly hend =>
    have hget := hnext hblock
    have hlt := (List.getElem?_eq_some_iff.1 hget).1
    have hsnoc := take_succ_eq hget
    have h' := h.applied (hsnoc ▸ hchain.take (k + 1)) htouch happly hend
    rw [← hsnoc] at h'
    have hgoes : GoesThrough decode m chain (k + 1) := isSome_iff_exists.2 ⟨_, h'.projection⟩
    have hmoves : k < stop decode m chain := (goesThrough_iff hlt).1 hgoes
    rw [if_pos hmoves]
    exact h'
  | failed hblock hconf htouch happly =>
    have hget := hnext hblock
    have hlt := (List.getElem?_eq_some_iff.1 hget).1
    have hstays : ¬k < stop decode m chain := by
      intro hstop
      -- if the logs went through, the block would have been applied
      obtain ⟨state, hstate⟩ := isSome_iff_exists.1 ((goesThrough_iff hlt).2 hstop)
      have hsnoc := take_succ_eq hget
      have hbranch := hchain.take (k + 1)
      rw [hsnoc] at hbranch
      rw [hsnoc, hbranch.projectionOf_snoc, h.projection, bind_some] at hstate
      have h₁ := h.touched htouch
      have hsame := some.inj (h₁.projection.symm.trans h.projection)
      rw [← h₁.emitters, ← h₁.manifest, ← hsame] at hstate
      obtain ⟨rt₂, hok⟩ := applyBlock_isOk h₁.correlator hstate
      rw [hok] at happly
      cases happly
    rw [if_neg hstays]
    exact h.failed htouch happly
  | stayed hblock hconf =>
    rw [h.not_conflicts hchain (hnext hblock)] at hconf
    cases hconf
  | rewound hblock hconf =>
    rw [h.not_conflicts hchain (hnext hblock)] at hconf
    cases hconf

/-- **Where a walk is after `n` ticks.** -/
theorem Indexed.walk (hk : k ≤ stop decode m chain) (hchain : Branch net chain)
    (hsource : source.Stable m chain) (n : Nat) : Indexed decode net m (ticking decode source n rt)
      (chain.take (min (k + n) (stop decode m chain))) := by
  have hstop : stop decode m chain ≤ chain.length := Nat.findGreatest_le _
  induction n with
  | zero =>
    rw [Nat.add_zero, Nat.min_eq_left hk]
    exact h
  | succ n ih =>
    have hnext := ih.advance (by omega) hchain hsource
    rw [ticking, Function.iterate_succ_apply']
    have hpos : (if min (k + n) (stop decode m chain) < stop decode m chain
        then min (k + n) (stop decode m chain) + 1 else min (k + n) (stop decode m chain)) =
        min (k + (n + 1)) (stop decode m chain) := by
      split <;> omega
    rw [hpos] at hnext
    exact hnext

end

/-! ## Back on the chain -/

structure SameIndex (rt rt' : IndexerRuntime) : Prop where
  state : rt.state = rt'.state
  block : rt.cursor.indexedHeadBlock = rt'.cursor.indexedHeadBlock
  hash : rt.cursor.indexedHeadHash = rt'.cursor.indexedHeadHash
  parent : rt.cursor.indexedHeadParent = rt'.cursor.indexedHeadParent
  journal : rt.rawLogs.filter (·.isCanonical) = rt'.rawLogs.filter (·.isCanonical)

theorem Indexed.sameIndex (h : Indexed decode net m rt blocks)
    (h' : Indexed decode net m rt' blocks) : SameIndex rt rt' := by
  have hcursor := h.cursor.trans h'.cursor.symm
  simp only [Prod.mk.injEq] at hcursor
  exact {
    state := some.inj (h.projection.symm.trans h'.projection)
    block := hcursor.1
    hash := hcursor.2.1
    parent := hcursor.2.2
    journal := h.journal.trans h'.journal.symm }

def OnChain (chain : List RawBlock) (cursor : RuntimeCursor) : Prop :=
  ∃ b ∈ chain, cursor.indexedHeadBlock = b.number ∧ hashesEq cursor.indexedHeadHash b.hash = true
  deriving Decidable

/-- **A tick leads back to the live chain**: if it returns, the cursor is on the chain, and from
some number of ticks on the runtime has indexed what a new one has. -/
def LeadsBack (decode : Decoder) (source : ChainSource) (chain : List RawBlock)
    (rt fresh : IndexerRuntime) : Prop :=
  (∀ more rt', tick decode source source rt = (.ok more, rt') → OnChain chain rt'.cursor) ∧
  ∃ N, ∀ n, N ≤ n → SameIndex (ticking decode source n rt) (ticking decode source n fresh)

def JournaledLog.StillOn (log : JournaledLog) (chain : List RawBlock) : Prop :=
  ∃ b ∈ chain, b.number = log.blockNumber ∧ hashesEq log.blockHash b.hash = true
  deriving Decidable

/-- **When the planner can help**: the highest block that left a canonical log is gone, and one
that left a log and is at most the depth limit below it is not. -/
def Recoverable (chain : List RawBlock) (rt : IndexerRuntime) : Prop :=
  ∃ last ∈ rt.rawLogs.filter (·.isCanonical),
    (∀ log ∈ rt.rawLogs.filter (·.isCanonical), log.blockNumber ≤ last.blockNumber) ∧
    ¬last.StillOn chain ∧
    ∃ log ∈ rt.rawLogs.filter (·.isCanonical),
      last.blockNumber ≤ log.blockNumber + rt.maxReorgDepth ∧ log.StillOn chain
  deriving Decidable

variable {journal : List JournaledLog}

/-- Where the journal has a hash. -/
theorem get?_canonicalHashes {emitters : List String} (hbranch : Branch net blocks)
    (hjournal : journal.filter (·.isCanonical) = branchLogs emitters blocks)
    (hlog : log ∈ journal.filter (·.isCanonical)) :
    (canonicalHashes journal).get? log.blockNumber = some log.blockHash := by
  obtain ⟨hash, hget⟩ : ∃ hash, (canonicalHashes journal).get? log.blockNumber = some hash :=
    get?_ofPairs_isSome (mem_map_of_mem hlog)
  obtain ⟨k, b, hnum, hk, rfl, -⟩ := hbranch.canonicalHashes hjournal hget
  rw [hjournal] at hlog
  have hof := of_mem_journalOf (hbranch.mem_journalOf hk hlog hnum)
  rw [hget, hof.blockHash]

theorem exists_of_get?_canonicalHashes {hash : String}
    (hget : (canonicalHashes journal).get? n = some hash) :
    ∃ log ∈ journal.filter (·.isCanonical), log.blockNumber = n ∧ log.blockHash = hash := by
  obtain ⟨log, hlog, heq⟩ := mem_map.1 (mem_of_get?_ofPairs hget)
  cases heq
  exact ⟨log, hlog, rfl, rfl⟩

/-- What the planner compares is whether the log's block is still on the chain. -/
theorem shares_iff_stillOn {emitters : List String} (hbranch : Branch net blocks)
    (hjournal : journal.filter (·.isCanonical) = branchLogs emitters blocks)
    (hlog : log ∈ journal.filter (·.isCanonical)) (hchain : Branch net chain)
    (hsource : source.Stable m chain) :
    shares source (canonicalHashes journal) log.blockNumber = true ↔
      log.StillOn chain := by
  have hget := get?_canonicalHashes hbranch hjournal hlog
  obtain ⟨k, b, hnum, -, -, -⟩ := hbranch.canonicalHashes hjournal hget
  rw [shares_iff]
  constructor
  · rintro ⟨hash, c, hhash, hblock, heq⟩
    rw [hget] at hhash
    cases hhash
    rw [hnum, hsource.blockAt] at hblock
    have hc := Except.ok.inj hblock
    exact ⟨c, mem_of_getElem? hc, by rw [hchain.numbered hc, hnum], heq⟩
  · rintro ⟨c, hc, hcnum, heq⟩
    have hcget := hchain.getElem?_number hc
    rw [hcnum, hnum, Nat.add_sub_cancel] at hcget
    exact ⟨log.blockHash, c, hget, by rw [hnum, hsource.blockAt, hcget], heq⟩

/-- **When the planner rewinds**, in terms of the journal and the chain. -/
theorem Indexed.plan_iff (h : Indexed decode net m rt blocks) (hchain : Branch net chain)
    (hsource : source.Stable m chain) :
    (∃ a orphaned, plan rt.maxReorgDepth rt.rawLogs source =
      .ok (.rewind a orphaned)) ↔ Recoverable chain rt := by
  have hreads : ∀ n hash, (canonicalHashes rt.rawLogs).get? n = some hash →
      ∃ b, source.blockAt n = .ok b := by
    intro n hash hget
    obtain ⟨k, b, rfl, -⟩ := h.branch.canonicalHashes h.journal hget
    exact ⟨_, hsource.blockAt k⟩
  have hstill := fun {log} (hlog : log ∈ rt.rawLogs.filter (·.isCanonical)) =>
    shares_iff_stillOn h.branch h.journal hlog hchain hsource
  rw [plan_rewind_iff hreads]
  constructor
  · rintro ⟨head, hmax, hgone, n, hlt, hdepth, hshares⟩
    obtain ⟨⟨hash, hget⟩, htop⟩ := maxKey?_eq_some_iff.1 hmax
    obtain ⟨last, hlast, rfl, -⟩ := exists_of_get?_canonicalHashes hget
    obtain ⟨hash', c, hget', -, -⟩ := shares_iff.1 hshares
    obtain ⟨log, hlog, rfl, -⟩ := exists_of_get?_canonicalHashes hget'
    refine ⟨last, hlast, ?_, ?_, log, hlog, hdepth, (hstill hlog).1 hshares⟩
    · intro other hother
      exact htop _ _ (get?_canonicalHashes h.branch h.journal hother)
    · rw [← hstill hlast, hgone]
      exact Bool.false_ne_true
  · rintro ⟨last, hlast, htop, hgone, log, hlog, hdepth, hon⟩
    rw [← hstill hlast, Bool.not_eq_true] at hgone
    have hshares := (hstill hlog).2 hon
    refine ⟨last.blockNumber, ?_, hgone, log.blockNumber, ?_, hdepth, hshares⟩
    · refine maxKey?_eq_some_iff.2
        ⟨⟨_, get?_canonicalHashes h.branch h.journal hlast⟩, ?_⟩
      intro n hash hget
      obtain ⟨other, hother, rfl, -⟩ := exists_of_get?_canonicalHashes hget
      exact htop other hother
    · refine Nat.lt_of_le_of_ne (htop log hlog) fun heq => ?_
      rw [heq, hgone] at hshares
      cases hshares

/-- A rewind to a block that is still there puts the runtime on the chain. -/
theorem Indexed.back (hnet : net.Faithful) (h : Indexed decode net m rt blocks)
    (hchain : Branch net chain) (hsource : source.Stable m chain)
    (hplan : plan rt.maxReorgDepth rt.rawLogs source = .ok (.rewind a orphaned)) :
    0 < a ∧ a ≤ chain.length ∧ blocks.take a = chain.take a := by
  obtain ⟨head, -, -, hshares, -⟩ := plan_eq_rewind hplan
  obtain ⟨hash, c, hget, hblock, heq⟩ := shares_iff.1 hshares
  obtain ⟨k, b, rfl, hk, rfl, -⟩ := h.branch.canonicalHashes h.journal hget
  rw [hsource.blockAt] at hblock
  have hc := Except.ok.inj hblock
  have hsame : b = c := hnet (h.branch.produced b (mem_of_getElem? hk))
    (hchain.produced c (mem_of_getElem? hc)) heq
  exact ⟨Nat.succ_pos k, (List.getElem?_eq_some_iff.1 hc).1,
    eq_take hnet h.branch hchain hk (hsame ▸ hc)⟩

/-- A runtime that sees a conflict does not stand on the chain. -/
theorem Indexed.not_sameIndex (hfresh : Indexed decode net m rt' (chain.take k))
    (hchain : Branch net chain) (hsource : source.Stable m chain)
    (hblock : source.blockAt (rt.cursor.indexedHeadBlock + 1) = .ok (some block))
    (hconf : rt.conflicts block = true) : ¬SameIndex rt rt' := by
  intro hsame
  have hget : chain[rt'.cursor.indexedHeadBlock]? = some block := by
    rw [hsource.blockAt, hsame.block] at hblock
    exact Except.ok.inj hblock
  have hlt := (List.getElem?_eq_some_iff.1 hget).1
  have hhead : rt'.cursor.indexedHeadBlock = min k chain.length := by
    rw [hfresh.head, length_take]
  have hk : rt'.cursor.indexedHeadBlock = k := by omega
  rw [hk] at hget
  have hno := hfresh.not_conflicts hchain hget
  rw [conflicts, hsame.block, hsame.hash] at hconf
  rw [conflicts, hconf] at hno
  cases hno

/-- **Where the planner cannot help, nothing ever moves.** -/
theorem stays (hblock : source.blockAt (rt.cursor.indexedHeadBlock + 1) = .ok (some block))
    (hconf : rt.conflicts block = true)
    (hno : ∀ a orphaned, plan rt.maxReorgDepth rt.rawLogs source ≠
      .ok (.rewind a orphaned)) (n : Nat) : Touched rt (ticking decode source n rt) := by
  induction n with
  | zero => exact .refl rt
  | succ n ih =>
    rw [ticking, Function.iterate_succ_apply']
    have hplan : plan (ticking decode source n rt).maxReorgDepth
        (ticking decode source n rt).rawLogs source =
        plan rt.maxReorgDepth rt.rawLogs source := by rw [ih]
    rw [← ih.cursor] at hblock
    rw [← ih.conflicts] at hconf
    rw [← hplan] at hno
    rcases htick : tick decode source source (ticking decode source n rt) with ⟨r, rt'⟩
    have hend : Touched (ticking decode source n rt) rt' := by
      cases tick_effect htick with
      | unread _ htouch => exact htouch
      | noBlock _ htouch => exact htouch
      | applied hblock' hconf' | failed hblock' hconf' =>
        rw [hblock] at hblock'
        cases hblock'
        rw [hconf] at hconf'
        cases hconf'
      | stayed _ _ htouch => exact htouch
      | rewound _ _ _ hyes => exact absurd hyes (hno _ _)
    have htick' : tick decode source source
        ((fun rt => (tick decode source source rt).2)^[n] rt) = (r, rt') := htick
    rw [htick']
    exact ih.trans hend

theorem Indexed.ends (h : Indexed decode net m rt (chain.take k)) (hk : k ≤ chain.length)
    (hchain : Branch net chain) (hsource : source.Stable m chain) (hn : stop decode m chain ≤ n) :
    Indexed decode net m (ticking decode source n rt) (chain.take (stop decode m chain)) := by
  have hgoes : GoesThrough decode m chain k := isSome_iff_exists.2 ⟨_, h.projection⟩
  have hend := h.walk ((goesThrough_iff hk).1 hgoes) hchain hsource n
  rwa [Nat.min_eq_right (by omega)] at hend

theorem Indexed.onChain (h : Indexed decode net m rt (chain.take k)) (hpos : 0 < k)
    (hk : k ≤ chain.length) : OnChain chain rt.cursor := by
  obtain ⟨j, rfl⟩ := Nat.exists_eq_add_one_of_ne_zero (Nat.ne_of_gt hpos)
  have hget : chain[j]? = some chain[j] := getElem?_eq_getElem hk
  have hcursor := h.cursor
  rw [take_succ_eq hget, tip_snoc, Prod.mk.injEq, Prod.mk.injEq] at hcursor
  refine ⟨chain[j], getElem_mem hk, hcursor.1, ?_⟩
  rw [hcursor.2.1]
  exact hashesEq_refl _

/-- **A conflict leads back to the chain exactly when the planner can help.** -/
theorem Indexed.leadsBack_iff (hnet : net.Faithful) (h : Indexed decode net m rt blocks)
    (hchain : Branch net chain) (hsource : source.Stable m chain)
    (hblock : source.blockAt (rt.cursor.indexedHeadBlock + 1) = .ok (some block))
    (hconf : rt.conflicts block = true) (d : Nat) :
    LeadsBack decode source chain rt { IndexerRuntime.new m with maxReorgDepth := d } ↔
      Recoverable chain rt := by
  have hfresh : ∀ {n}, stop decode m chain ≤ n → Indexed decode net m
      (ticking decode source n { IndexerRuntime.new m with maxReorgDepth := d })
      (chain.take (stop decode m chain)) :=
    fun hn => Indexed.ends (k := 0) (Indexed.new decode net m d) (Nat.zero_le _) hchain hsource hn
  rw [← h.plan_iff hchain hsource]
  rcases htick : IndexerRuntime.tick decode source source rt with ⟨r, rt'⟩
  cases tick_effect htick with
  | unread hreach => exact absurd (hsource.reachable h.manifest) hreach
  | noBlock hnone =>
    rw [hblock] at hnone
    cases hnone
  | applied hblock' hconf' | failed hblock' hconf' =>
    rw [hblock] at hblock'
    cases hblock'
    rw [hconf] at hconf'
    cases hconf'
  | stayed _ _ _ hno =>
    refine iff_of_false ?_ (fun ⟨a, orphaned, hplan⟩ => hno a orphaned hplan)
    rintro ⟨-, N, hN⟩
    -- late enough, the new runtime stands at the end of its walk and this one where it stood
    have hsame := hN (max N (stop decode m chain)) (Nat.le_max_left ..)
    rw [stays hblock hconf hno] at hsame
    exact (hfresh (Nat.le_max_right ..)).not_sameIndex hchain hsource hblock hconf { hsame with }
  | rewound _ _ htouch hplan heq =>
    refine iff_of_true ?_ ⟨_, _, hplan⟩
    obtain ⟨hpos, hle, htake⟩ := h.back hnet hchain hsource hplan
    have h' := h.rewound htouch hplan heq
    rw [htake] at h'
    refine ⟨?_, stop decode m chain + 1, ?_⟩
    · intro more rt'' hok
      rw [htick] at hok
      cases hok
      exact h'.onChain hpos hle
    · intro n hn
      obtain ⟨n, rfl⟩ := Nat.exists_eq_add_one_of_ne_zero (by omega : n ≠ 0)
      have hstep : ticking decode source (n + 1) rt = ticking decode source n rt' := by
        rw [ticking, Function.iterate_succ_apply, htick]
        rfl
      rw [hstep]
      exact (h'.ends hle hchain hsource (by omega)).sameIndex (hfresh (by omega))

end

/-- **Reorg detection leads back to the live chain exactly when the journal shows the fork**:
when a runtime, after any ticks, sees a block that does not follow its own, on a source that
serves one chain throughout. -/
theorem tick_returns_to_chain_iff {decode : Decoder} {net : Network} {m : ManifestParams}
    {maxReorgDepth : Nat} {ticks : List (ChainSource × ChainSource)} {rt : IndexerRuntime}
    {chain : List RawBlock} {source : ChainSource} {block : RawBlock} (hnet : net.Faithful)
    (hrun : Run (tickStep decode net)
      { new m with maxReorgDepth := maxReorgDepth } ticks rt)
    (hchain : Branch net chain) (hsource : source.Stable m chain)
    (hblock : source.blockAt (rt.cursor.indexedHeadBlock + 1) = .ok (some block))
    (hconf : rt.conflicts block = true) :
    LeadsBack decode source chain rt
      { new m with maxReorgDepth := maxReorgDepth } ↔ Recoverable chain rt := by
  obtain ⟨blocks, h⟩ := Indexed.run hrun ⟨[], Indexed.new decode net m maxReorgDepth⟩
  exact h.leadsBack_iff hnet hchain hsource hblock hconf maxReorgDepth

namespace Sample

theorem branch_of_mem_two (h : Branch net blocks) : ∀ bs ∈ [blocks, blocks], Branch net bs := by
  simpa using h

end Sample

open Sample in
/-- The fork orphaned a block with a log: the tick rewinds to the block below it. -/
theorem tick_returns_to_chain_sample : Recoverable [a1, b2, b3] (after [[a1, a2], [a1, a2]]) ∧
    LeadsBack decode (source [a1, b2, b3]) [a1, b2, b3] (after [[a1, a2], [a1, a2]])
      { new manifest with maxReorgDepth := 64 } := by
  have hrec : Recoverable [a1, b2, b3] (after [[a1, a2], [a1, a2]]) := by decide +kernel
  have hblock : (source [a1, b2, b3]).blockAt
      ((after [[a1, a2], [a1, a2]]).cursor.indexedHeadBlock + 1) = .ok (some b3) := by
    decide +kernel
  exact ⟨hrec, (tick_returns_to_chain_iff faithful (run (branch_of_mem_two branch_a)) branch_b
    (ChainSource.ofChain_stable manifest 0 _) hblock (by decide +kernel)).2 hrec⟩

open Sample in
/-- **The fork orphaned a block without a log.**  It is one block deep, and the last block with
a log, which both branches have, tells the planner that nothing happened: the tick returns with
the cursor on the orphaned block. -/
theorem tick_stays_on_orphaned_block : Run (tickStep decode net)
      { new manifest with maxReorgDepth := 64 }
      [(source [a1, e2], source [a1, e2]), (source [a1, e2], source [a1, e2])]
      (after [[a1, e2], [a1, e2]]) ∧
    (source [a1, b2, b3]).Stable manifest [a1, b2, b3] ∧
    (after [[a1, e2], [a1, e2]]).cursor.indexedHeadParent = a1.hash ∧
    (after [[a1, e2], [a1, e2]]).conflicts b3 = true ∧
    (tick decode (source [a1, b2, b3]) (source [a1, b2, b3])
      (after [[a1, e2], [a1, e2]])).1 = .ok true ∧
    ¬OnChain [a1, b2, b3] (tick decode (source [a1, b2, b3]) (source [a1, b2, b3])
      (after [[a1, e2], [a1, e2]])).2.cursor ∧
    ¬LeadsBack decode (source [a1, b2, b3]) [a1, b2, b3] (after [[a1, e2], [a1, e2]])
      { new manifest with maxReorgDepth := 64 } := by
  have hok : (tick decode (source [a1, b2, b3]) (source [a1, b2, b3])
      (after [[a1, e2], [a1, e2]])).1 = .ok true := by decide +kernel
  have hoff : ¬OnChain [a1, b2, b3] (tick decode (source [a1, b2, b3])
      (source [a1, b2, b3]) (after [[a1, e2], [a1, e2]])).2.cursor := by decide +kernel
  refine ⟨run (branch_of_mem_two branch_e), ChainSource.ofChain_stable manifest 0 _,
    by decide +kernel, by decide +kernel, hok, hoff, ?_⟩
  exact fun hback => hoff (hback.1 true _ (Prod.ext hok rfl))

end DeoptBackend.HybridV2
