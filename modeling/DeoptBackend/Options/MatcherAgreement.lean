import DeoptBackend.Options.MatcherTx

/-!
# Two option matchers, one reference

The store in memory and the transaction of the database match an arriving order in the
same way: both do what `referenceMatch` says, or refuse with its error and change
nothing.

* `OptionTables.Valid` — what the constraints of the tables keep.
* `OptionTables.Admits` — an arriving order the tables have room for: it arrives whole,
  its subaccount is an `INTEGER` that is not zero, its series is known, and its name, its
  hash and its client's name for it are new.
* `LedgerReady` — the amounts of the ledger's rows can be computed.
* `matchers_agree` — the two against the reference.
* `matchers_disagree` — what each of the conditions on the order is needed for.
-/

namespace DeoptBackend

open OptionOrder FMap OptionSeriesStore List

open OptionSeriesStore (Applies applyLegs submitOrderAndMatch)

/-! ## What is compared -/

/-- What a fill says: the maker, the price and the size, and who bought and sold. -/
def OptionFill.terms (f : OptionFill) : OrderId × Nat × Nat × AccountId × AccountId × Nat × Nat :=
  (f.makerOrderId, f.price1e8, f.size1e8, f.buyer, f.seller, f.buyerSubaccountId,
    f.sellerSubaccountId)

/-- What a trade of the reference matcher says. -/
def OptionTrade.terms (incoming : OptionOrder) (t : OptionTrade) :
    OrderId × Nat × Nat × AccountId × AccountId × Nat × Nat :=
  match incoming.side with
  | .buy => (t.maker.orderId, t.maker.price1e8, t.size1e8, incoming.account, t.maker.account,
      incoming.subaccountId, t.maker.subaccountId)
  | .sell => (t.maker.orderId, t.maker.price1e8, t.size1e8, t.maker.account, incoming.account,
      t.maker.subaccountId, incoming.subaccountId)

section

theorem terms_optionFillFromMatch (t : OptionTrade) (fillId : Uuid) :
    (optionFillFromMatch executionIdOf domain incoming t.maker t.size1e8 now fillId).terms =
      t.terms incoming := by
  unfold optionFillFromMatch OptionTrade.terms OptionFill.terms
  cases incoming.side <;> rfl

theorem map_terms_optionFillRecords (i : Nat) (trades : List OptionTrade) :
    (optionFillRecords executionIdOf domain incoming now fillIds i trades).map OptionFill.terms =
      trades.map (OptionTrade.terms incoming) := by
  induction trades generalizing i with
  | nil => rfl
  | cons t ts ih =>
    rw [optionFillRecords, map_cons, map_cons, ih, terms_optionFillFromMatch]

/-! ## What the tables keep -/

/-- **What the constraints of the tables keep.** -/
structure OptionTables.Valid (executionIdOf : ExecutionIdOf) (db : OptionTables) : Prop where
  /-- A row is filed under the order's name. -/
  filed : ∀ {id o}, db.orders.get? id = some o → o.orderId = id
  /-- A subaccount is an `INTEGER` that is not zero. -/
  subaccounts : ∀ {id o}, db.orders.get? id = some o → 1 ≤ o.subaccountId ∧ o.subaccountId ≤ maxI32
  hashes : db.orders.UniqueIndex canonicalOrderHash
  /-- An execution is named after two orders of the table. -/
  executions : ∀ {id f e}, db.fills.get? id = some f → f.canonicalExecutionId = some e →
    ∃ domain buyer seller size1e8, HashStored db.orders buyer ∧ HashStored db.orders seller ∧
      e = executionIdOf domain buyer seller size1e8
  ledger : ReservationTable.WellFormed db.reservations

/-- Executions between different pairs of orders have different names, as long as the
orders' hashes are among the given ones. -/
def CollisionFree (executionIdOf : ExecutionIdOf) (inPlay : String → Prop) : Prop :=
  ∀ domain domain' buyer buyer' seller seller' size1e8 size1e8',
    inPlay buyer → inPlay buyer' → inPlay seller → inPlay seller' →
    executionIdOf domain buyer seller size1e8 = executionIdOf domain' buyer' seller' size1e8' →
    buyer = buyer' ∧ seller = seller'

/-- **An arriving order the tables have room for.** -/
structure OptionTables.Admits (sqlLower : String → String) (db : OptionTables)
    (incoming : OptionOrder) : Prop where
  /-- Nothing of it is filled. -/
  whole : incoming.remainingSize1e8 = incoming.size1e8
  subaccount_pos : 1 ≤ incoming.subaccountId
  /-- Its subaccount is an `INTEGER`. -/
  subaccount_le : incoming.subaccountId ≤ maxI32
  series : (db.series.get? incoming.optionSeriesId).isSome = true
  /-- Its name is new. -/
  fresh : db.orders.get? incoming.orderId = none
  hash : ∀ h, incoming.canonicalOrderHash = some h → db.orders.at? canonicalOrderHash h = none
  /-- No live order of the account has its client's name for it, whichever way the
  account is compared. -/
  client : ∀ id o name, db.orders.get? id = some o → o.status.isLive = true →
    incoming.clientOrderId = some name → o.clientOrderId = some name →
    eqIgnoreAsciiCase o.account.name incoming.account.name = false ∧
      sqlLower o.account.name ≠ sqlLower incoming.account.name

/-- The amounts of the ledger's rows can be computed, and the arriving order has no hold
yet. -/
structure LedgerReady (executionIdOf : ExecutionIdOf) (domain : OptionsCanonicalDomain)
    (now : TimestampMs) (incoming : OptionOrder) (plan : MatcherReservationPlan)
    (db : OptionTables) : Prop where
  /-- The arriving order has no hold yet. -/
  free : ∀ input, plan.takerOpenOrder = some input →
    activeHold db.reservations input.canonicalOrderHash = none
  /-- What is left of a maker can be held. -/
  residuals : ∀ scaffold, plan.pendingScaffold = some scaffold →
    ∀ t ∈ optionTrades db.orders incoming, t.rest1e8 ≠ 0 →
      ∃ input, scaffold.buildMakerResidualOpenOrderInput (t.makerRow now) now = .ok input
  /-- Both sides of a fill can be held. -/
  pairs : ∀ scaffold, plan.pendingScaffold = some scaffold →
    ∀ t ∈ optionTrades db.orders incoming, ∀ fillId, ∃ pair,
      scaffold.buildPendingPair (optionFillFromMatch executionIdOf domain incoming t.maker
        t.size1e8 now fillId) now = .ok pair

/-! ## The table takes the order -/

variable {db : OptionTables} {taker : OptionOrder}

theorem storedSubaccount_of_le (h : n ≤ maxI32) : storedSubaccount n = n := if_pos h

theorem OptionOrder.stored_of_le {o : OptionOrder} (h : o.subaccountId ≤ maxI32) :
    o.stored = o := by
  rw [OptionOrder.stored, storedSubaccount_of_le h]

/-- The row of an order the tables have room for is taken. -/
theorem OptionTables.Admits.insertable (h : db.Admits sqlLower incoming)
    (hterms : taker.terms = incoming.terms) : taker.Insertable sqlLower db := by
  have hsub : taker.subaccountId = incoming.subaccountId := congr_terms (·.subaccountId) hterms
  have hid : taker.orderId = incoming.orderId := congr_terms (·.orderId) hterms
  have hhash : taker.canonicalOrderHash = incoming.canonicalOrderHash :=
    congr_terms (·.canonicalOrderHash) hterms
  have hclient : taker.clientOrderId = incoming.clientOrderId :=
    congr_terms (·.clientOrderId) hterms
  have haccount : taker.account = incoming.account := congr_terms (·.account) hterms
  have hseries : taker.optionSeriesId = incoming.optionSeriesId :=
    congr_terms (·.optionSeriesId) hterms
  have hstored : taker.stored = taker := stored_of_le (hsub ▸ h.subaccount_le)
  refine ⟨by rw [hstored, hsub]; exact h.subaccount_pos, ?_, by rw [hseries]; exact h.series⟩
  rw [hstored, orderTaken, hid, h.fresh, hhash, Bool.or_eq_false_iff, Bool.or_eq_false_iff]
  refine ⟨⟨rfl, ?_⟩, ?_⟩
  · cases hcases : incoming.canonicalOrderHash with
    | none => rfl
    | some hash => simp [h.hash hash hcases]
  unfold clientIndex
  split
  · cases hcases : incoming.clientOrderId with
    | none => rw [hclient, hcases]; rfl
    | some name =>
      rw [hclient, hcases, Option.map_some, Option.any_some, haccount]
      refine Option.isSome_eq_false_iff.2 (Option.isNone_iff_eq_none.2 ?_)
      rw [at?_eq_none_iff]
      intro id o ho hindex
      split at hindex
      · next hlive =>
          obtain ⟨name', hname', hpair⟩ := Option.map_eq_some_iff.1 hindex
          obtain ⟨hlower, rfl⟩ := Prod.mk.injEq .. ▸ hpair
          exact (h.client id o _ ho hlive hcases hname').2 hlower
      · cases hindex
  · rfl

theorem OptionTables.Admits.noClient (h : db.Admits sqlLower incoming) {self : OptionSeriesStore}
    (hsame : ∀ id, self.orders.get? id = db.orders.get? id) :
    self.hasOpenClientOrder incoming.account.name incoming.clientOrderId = false := by
  cases hname : incoming.clientOrderId with
  | none => rfl
  | some name =>
    rw [hasOpenClientOrder, any_eq_false]
    intro o ho htaken
    obtain ⟨id, hid⟩ := mem_vals.1 ho
    rw [hsame] at hid
    simp only [Bool.and_eq_true, decide_eq_true_eq] at htaken
    obtain ⟨⟨hlive, haccount⟩, hclient⟩ := htaken
    rw [(h.client id o name hid hlive hname hclient).1] at haccount
    cases haccount

/-! ## The table takes the fills -/

theorem allInsertable_of {fills : FMap Uuid OptionFill}
    (hsubs : ∀ f ∈ fs, 1 ≤ f.stored.buyerSubaccountId ∧ 1 ≤ f.stored.sellerSubaccountId)
    (hids : (fs.map (·.fillId)).Nodup) (hfree : ∀ f ∈ fs, fills.get? f.fillId = none)
    (hnew : ∀ f ∈ fs, ∀ e, f.canonicalExecutionId = some e →
      fills.at? OptionFill.canonicalExecutionId e = none)
    (hdistinct : fs.Pairwise fun f g => ∀ e, f.canonicalExecutionId = some e →
      g.canonicalExecutionId ≠ some e) : AllInsertable fs fills := by
  induction fs generalizing fills with
  | nil => trivial
  | cons f fs ih =>
    rw [map_cons, nodup_cons] at hids
    obtain ⟨hfirst, hrest⟩ := pairwise_cons.1 hdistinct
    have hsub := hsubs f mem_cons_self
    refine ⟨⟨hsub.1, hsub.2, hfree f mem_cons_self, hnew f mem_cons_self⟩, ?_⟩
    refine ih (fun g hg => hsubs g (mem_cons_of_mem _ hg)) hids.2 (fun g hg => ?_)
      (fun g hg e he => ?_) hrest
    · have hne : g.fillId ≠ f.fillId := fun heq => hids.1 (heq ▸ mem_map_of_mem hg)
      rw [get?_set_ne _ hne]
      exact hfree g (mem_cons_of_mem _ hg)
    rw [at?_eq_none_iff]
    intro id k hk hke
    rw [get?_set] at hk
    split at hk
    · cases hk
      exact hfirst g hg e hke he
    · exact at?_eq_none_iff.1 (hnew g (mem_cons_of_mem _ hg) e he) id k hk hke

/-- An execution is named after its two orders, the buyer's first. -/
theorem executionId_optionFillFromMatch {size1e8 : Nat} {e : String}
    (h : (optionFillFromMatch executionIdOf domain incoming maker size1e8 now
      fillId).canonicalExecutionId = some e) :
    ∃ taken made, incoming.canonicalOrderHash = some taken ∧ maker.canonicalOrderHash = some made ∧
      e = match incoming.side with
        | .buy => executionIdOf domain taken made size1e8
        | .sell => executionIdOf domain made taken size1e8 := by
  unfold optionFillFromMatch canonicalExecutionIdForFill at h
  cases hside : incoming.side with
  | buy =>
    simp only [hside] at h
    obtain ⟨taken, htaken, h⟩ := Option.bind_eq_some_iff.1 h
    obtain ⟨made, hmade, h⟩ := Option.bind_eq_some_iff.1 h
    exact ⟨taken, made, htaken, hmade, (Option.some.inj h).symm⟩
  | sell =>
    simp only [hside] at h
    obtain ⟨made, hmade, h⟩ := Option.bind_eq_some_iff.1 h
    obtain ⟨taken, htaken, h⟩ := Option.bind_eq_some_iff.1 h
    exact ⟨taken, made, htaken, hmade, (Option.some.inj h).symm⟩

/-- The hashes of the orders of the table and of the arriving one. -/
def InPlay (incoming : OptionOrder) (orders : FMap OrderId OptionOrder) (hash : String) : Prop :=
  incoming.canonicalOrderHash = some hash ∨ HashStored orders hash

/-- Trades with different makers are different executions. -/
theorem executions_distinct (hdb : db.Valid executionIdOf)
    (hcoll : CollisionFree executionIdOf (InPlay incoming db.orders)) {trades : List OptionTrade}
    (hrows : ∀ t ∈ trades, db.orders.get? t.maker.orderId = some t.maker)
    (hnodup : (trades.map (·.maker.orderId)).Nodup) (i : Nat) :
    (optionFillRecords executionIdOf domain incoming now fillIds i trades).Pairwise fun f g =>
      ∀ e, f.canonicalExecutionId = some e → g.canonicalExecutionId ≠ some e := by
  induction trades generalizing i with
  | nil => exact List.Pairwise.nil
  | cons t ts ih =>
    rw [map_cons, nodup_cons] at hnodup
    refine pairwise_cons.2 ⟨fun g hg e he he' => ?_,
      ih (fun u hu => hrows u (mem_cons_of_mem _ hu)) hnodup.2 (i + 1)⟩
    obtain ⟨u, hu, fillId, rfl⟩ := of_mem_optionFillRecords hg
    obtain ⟨taken, made, htaken, hmade, rfl⟩ := executionId_optionFillFromMatch he
    obtain ⟨taken', made', htaken', hmade', heq⟩ := executionId_optionFillFromMatch he'
    have ht := hrows t mem_cons_self
    have hu' := hrows u (mem_cons_of_mem _ hu)
    have hmadePlay : InPlay incoming db.orders made := .inr ⟨_, _, ht, hmade⟩
    have hmadePlay' : InPlay incoming db.orders made' := .inr ⟨_, _, hu', hmade'⟩
    have hsame : made = made' := by
      cases hside : incoming.side with
      | buy =>
        simp only [hside] at heq
        exact (hcoll _ _ _ _ _ _ _ _ (.inl htaken) (.inl htaken') hmadePlay hmadePlay' heq).2
      | sell =>
        simp only [hside] at heq
        exact (hcoll _ _ _ _ _ _ _ _ hmadePlay hmadePlay' (.inl htaken) (.inl htaken') heq).1
    rw [← hsame] at hmade'
    exact hnodup.1 (hdb.hashes.eq ht hu' hmade hmade' ▸ mem_map_of_mem hu)

/-- An order with a new hash makes no execution that is there. -/
theorem execution_new (hdb : db.Valid executionIdOf) (hadmits : db.Admits sqlLower incoming)
    (hcoll : CollisionFree executionIdOf (InPlay incoming db.orders)) {t : OptionTrade}
    (ht : db.orders.get? t.maker.orderId = some t.maker) {fillId : Uuid}
    (he : (optionFillFromMatch executionIdOf domain incoming t.maker t.size1e8 now
      fillId).canonicalExecutionId = some e) :
    db.fills.at? OptionFill.canonicalExecutionId e = none := by
  obtain ⟨taken, made, htaken, hmade, rfl⟩ := executionId_optionFillFromMatch he
  have hnone := at?_eq_none_iff.1 (hadmits.hash taken htaken)
  have hmadePlay : InPlay incoming db.orders made := .inr ⟨_, _, ht, hmade⟩
  rw [at?_eq_none_iff]
  intro id f hf hfe
  obtain ⟨domain', buyer, seller, size1e8, hbuyer, hseller, heq⟩ := hdb.executions hf hfe
  cases hside : incoming.side with
  | buy =>
    simp only [hside] at heq
    obtain ⟨rfl, -⟩ := hcoll _ _ _ _ _ _ _ _ (.inl htaken) (.inr hbuyer) hmadePlay
      (.inr hseller) heq
    obtain ⟨id', o, ho, hhash⟩ := hbuyer
    exact hnone id' o ho hhash
  | sell =>
    simp only [hside] at heq
    obtain ⟨-, rfl⟩ := hcoll _ _ _ _ _ _ _ _ hmadePlay (.inr hbuyer) (.inl htaken)
      (.inr hseller) heq
    obtain ⟨id', o, ho, hhash⟩ := hseller
    exact hnone id' o ho hhash

theorem subaccounts_optionFillFromMatch {size1e8 : Nat}
    (hincoming : 1 ≤ incoming.subaccountId ∧ incoming.subaccountId ≤ maxI32)
    (hmaker : 1 ≤ maker.subaccountId ∧ maker.subaccountId ≤ maxI32) :
    let f := optionFillFromMatch executionIdOf domain incoming maker size1e8 now fillId
    1 ≤ f.stored.buyerSubaccountId ∧ 1 ≤ f.stored.sellerSubaccountId := by
  unfold optionFillFromMatch OptionFill.stored
  cases incoming.side with
  | buy =>
    simp only [storedSubaccount_of_le hincoming.2, storedSubaccount_of_le hmaker.2]
    exact ⟨hincoming.1, hmaker.1⟩
  | sell =>
    simp only [storedSubaccount_of_le hincoming.2, storedSubaccount_of_le hmaker.2]
    exact ⟨hmaker.1, hincoming.1⟩

/-- The table takes the fills of an order it has room for. -/
theorem fillsInsertable (hdb : db.Valid executionIdOf) (hadmits : db.Admits sqlLower incoming)
    (hcoll : CollisionFree executionIdOf (InPlay incoming db.orders))
    (hfills : FreshFillIds draws.fillIds db.fills) :
    AllInsertable (submitRecords executionIdOf domain draws now incoming db.orders) db.fills := by
  have hrows : ∀ t ∈ optionTrades db.orders incoming,
      db.orders.get? t.maker.orderId = some t.maker :=
    fun t ht => (of_mem_optionTrades hdb.filed ht).1
  refine allInsertable_of (fun f hf => ?_) (hfills.nodup 0 _) (fun f hf => hfills.get?_eq_none hf)
    (fun f hf e he => ?_) (executions_distinct hdb hcoll hrows
      (nodup_optionTrades hdb.filed incoming) 0)
  · obtain ⟨t, ht, fillId, rfl⟩ := of_mem_optionFillRecords hf
    exact subaccounts_optionFillFromMatch ⟨hadmits.subaccount_pos, hadmits.subaccount_le⟩
      (hdb.subaccounts (hrows t ht))
  · obtain ⟨t, ht, fillId, rfl⟩ := of_mem_optionFillRecords hf
    exact execution_new hdb hadmits hcoll (hrows t ht) he

/-! ## The ledger is written -/

theorem writeLedger_ok (hdb : db.Valid executionIdOf)
    (hdraws : draws.FreshReservations db.reservations) (taker : OptionOrder)
    (hready : ∀ p, plan = some p → LedgerReady executionIdOf domain now incoming p db) :
    ∃ m', writeLedger draws now taker (afterTx executionIdOf domain draws now
      (optionTrades db.orders incoming) (startTx incoming db)) plan db.reservations =
        (.ok (), m') := by
  cases plan with
  | none => exact ⟨db.reservations, rfl⟩
  | some p =>
    have hp := hready p rfl
    have hnodup := nodup_optionTrades hdb.filed incoming
    have hfree : ∀ input, restingInput p taker = some input →
        activeHold db.reservations input.canonicalOrderHash = none := by
      intro input hinput
      unfold restingInput at hinput
      split at hinput
      · exact hp.free input hinput
      · cases hinput
    cases hscaffold : p.pendingScaffold with
    | none => exact ledgerTx_ok_of_none hdb.ledger hdraws hfree hscaffold
    | some scaffold =>
      have hhashes : DistinctHashes (partialMakers now (optionTrades db.orders incoming)
          ∅).vals :=
        distinctHashes_partialMakers hnodup (fun t ht => (of_mem_optionTrades hdb.filed ht).1)
          hdb.hashes
      have hresiduals : ∀ maker ∈ (partialMakers now (optionTrades db.orders incoming) ∅).vals,
          ∃ input, scaffold.buildMakerResidualOpenOrderInput maker now = .ok input := by
        intro maker hmaker
        obtain ⟨t, ht, hrest, rfl⟩ := (mem_partialMakers hnodup).1 hmaker
        exact hp.residuals scaffold hscaffold t ht hrest
      have hpairs : ∀ fill ∈ submitRecords executionIdOf domain draws now incoming db.orders,
          ∃ pair, scaffold.buildPendingPair fill now = .ok pair := by
        intro fill hfill
        obtain ⟨t, ht, fillId, rfl⟩ := of_mem_optionFillRecords hfill
        exact hp.pairs scaffold hscaffold t ht fillId
      obtain ⟨m', hrun, -⟩ := ledgerTx_ok (afterTx executionIdOf domain draws now
        (optionTrades db.orders incoming) (startTx incoming db)) hdb.ledger hdraws hfree
        hscaffold hhashes hresiduals hpairs
      exact ⟨m', hrun⟩

end

/-! ## Agreement -/

/-- **The two matchers agree with the reference.**  An order the reference refuses is
refused by both with its error, and nothing changes.  Any other gets the reference's row
and trades from both: the fills say the same, the rows are the same under every name,
those of the makers are the reference's, all others are as they were, and no leg is
skipped on the way. -/
theorem matchers_agree (executionIdOf : ExecutionIdOf) (domain : OptionsCanonicalDomain)
    (sqlLower : String → String) (fillIds : Nat → Uuid) (draws : MatchDraws) (now : TimestampMs)
    (self : OptionSeriesStore) (db : OptionTables) (incoming : OptionOrder)
    (plan : Option MatcherReservationPlan)
    (hsame : ∀ id, self.orders.get? id = db.orders.get? id) (hdb : db.Valid executionIdOf)
    (hadmits : db.Admits sqlLower incoming)
    (hready : ∀ p, plan = some p → LedgerReady executionIdOf domain now incoming p db)
    (hfills : FreshFillIds draws.fillIds db.fills)
    (hdraws : draws.FreshReservations db.reservations)
    (hcoll : CollisionFree executionIdOf (InPlay incoming db.orders)) :
    match referenceMatch db.orders incoming now with
    | .error e =>
      submitOrderAndMatch executionIdOf fillIds now incoming self = (.error e, self) ∧
        submitOptionOrderAndMatchWithReservations executionIdOf domain draws now sqlLower
          incoming plan db = (.error e, db)
    | .ok (taker, trades) => ∃ made made' self' db',
        submitOrderAndMatch executionIdOf fillIds now incoming self = (.ok (taker, made), self') ∧
          submitOptionOrderAndMatchWithReservations executionIdOf domain draws now sqlLower
            incoming plan db = (.ok (taker, made'), db') ∧
          made.map OptionFill.terms = trades.map (OptionTrade.terms incoming) ∧
          made'.map OptionFill.terms = trades.map (OptionTrade.terms incoming) ∧
          (∀ id, self'.orders.get? id = db'.orders.get? id) ∧
          self'.orders.get? incoming.orderId = some taker ∧
          (∀ t ∈ trades, self'.orders.get? t.maker.orderId = some (t.makerRow now)) ∧
          (∀ id, id ≠ incoming.orderId → (∀ t ∈ trades, id ≠ t.maker.orderId) →
            self'.orders.get? id = self.orders.get? id) ∧
          ∀ before leg after, (self.matchPlan incoming).legs = before ++ leg :: after →
            Applies (applyLegs executionIdOf fillIds now before ⟨incoming, [], self⟩) leg := by
  have hfiled : ∀ {id o}, self.orders.get? id = some o → o.orderId = id :=
    fun h => hdb.filed ((hsame _).symm.trans h)
  have htrades : optionTrades self.orders incoming = optionTrades db.orders incoming := by
    rw [optionTrades, optionTrades, rankedMakers_congr hfiled hsame]
  have hreference : referenceMatch self.orders incoming now =
      referenceMatch db.orders incoming now := by
    simp [referenceMatch, htrades]
  have hmemory : submitOrderAndMatch executionIdOf fillIds now incoming self = _ :=
    submitOrderAndMatch_eq hfiled hadmits.whole (hadmits.noClient hsame)
  rw [hreference] at hmemory
  cases hmatch : referenceMatch db.orders incoming now with
  | error =>
    rw [hmatch] at hmemory
    exact ⟨hmemory, submit_of_error hmatch⟩
  | ok r =>
    obtain ⟨taker, trades⟩ := r
    rw [hmatch] at hmemory
    obtain ⟨htaker, rfl, -, -⟩ := referenceMatch_eq_ok.1 hmatch
    have hterms : taker.terms = incoming.terms := by rw [htaker, terms_settledTaker]
    have hstored : taker.stored = taker :=
      stored_of_le (congr_terms (·.subaccountId) hterms ▸
        hadmits.subaccount_le)
    obtain ⟨m', hledger⟩ := writeLedger_ok hdb hdraws taker hready
    have htables := (submit_eq_ok hdb.filed).2 ⟨hmatch, hadmits.insertable hterms,
      fillsInsertable hdb hadmits hcoll hfills, rfl, m', hledger, rfl⟩
    have hbook : ∀ id, ((bookAfterTrades now (optionTrades db.orders incoming)
        self.orders).set incoming.orderId taker).get? id =
        (recordedTables executionIdOf domain draws now incoming taker m' db).orders.get? id := by
      intro id
      rw [get?_recorded hdb.filed hadmits.fresh, hstored, get?_set, get?_set]
      rw [bookAfterTrades, bookAfterTrades, get?_setAll_congr hsame]
    refine ⟨_, _, _, _, hmemory, htables, map_terms_optionFillRecords 0 _,
      map_terms_optionFillRecords 0 _, hbook, get?_set_self _ _ _, fun t ht => ?_,
      fun id hid hother => ?_, fun before leg after hsplit => ?_⟩
    · rw [get?_set_ne _ (maker_ne_incoming hdb.filed hadmits.fresh ht)]
      exact get?_setAll_of_mem (nodup_optionTrades hdb.filed incoming) ht _
    · rw [get?_set_ne _ hid]
      exact get?_setAll_of_notMem hother _
    · rw [matchPlan_eq] at hsplit
      have hplanned : OptionSeriesStore.Planned self.orders (optionTrades self.orders incoming) :=
        .of_optionTrades hfiled incoming
      have happlies : Applies (applyLegs executionIdOf fillIds now before ⟨incoming, [], self⟩)
          leg := applies_of_planned hplanned hsplit
      exact happlies

namespace OneMaker

def series : OptionSeries := ⟨"ETH-C", "ETH", "USDC", 100, 3000, true, 100000000, .active⟩

/-- Ten for sale. -/
def maker : OptionOrder := { plainOrder 1 "m" .sell 100 10 with canonicalOrderHash := some "m" }

/-- Four are bought. -/
def buyer : OptionOrder := { plainOrder 2 "t" .buy 100 4 with canonicalOrderHash := some "t" }

def tables (o : OptionOrder) : OptionTables where
  series := (∅ : FMap OptionSeriesId OptionSeries).set "ETH-C" series
  orders := (∅ : FMap OrderId OptionOrder).set o.orderId o
  fills := ∅
  reservations := ∅

def store (o : OptionOrder) : OptionSeriesStore := ⟨(tables o).orders, ∅⟩

/-- What the ledger's rows are computed from. -/
def scaffold : PendingSettlementScaffold := ⟨1, 84532, "USDC", "ETH", "ETH-C", 100000000, true, 3000⟩

/-- The buyer's hold, and the scaffold. -/
def plan : MatcherReservationPlan where
  takerOpenOrder := some ⟨1, 84532, "t", 1, "USDC", "t", "ETH-C", .buy, 1, 4, 7⟩
  pendingScaffold := some scaffold

def draws : MatchDraws where
  fillIds := id
  reservationId
    | .taker => 0
    | .residual i => 3 * i + 1
    | .buyer i => 3 * i + 2
    | .seller i => 3 * i + 3

/-- An execution is named by writing the two hashes one after the other. -/
def executionIdOf : ExecutionIdOf := fun _ buyer seller _ => buyer ++ seller

theorem get_tables {id : OrderId} (h : (tables o).orders.get? id = some o') :
    id = o.orderId ∧ o' = o := by
  rw [tables, get?_set] at h
  split at h
  · next hid => exact ⟨hid, (Option.some.inj h).symm⟩
  · cases h

theorem valid_tables : (tables maker).Valid executionIdOf where
  filed := fun h => by obtain ⟨rfl, rfl⟩ := get_tables h; rfl
  subaccounts := fun h => by obtain ⟨-, rfl⟩ := get_tables h; decide
  hashes := ⟨fun h h' _ _ => (get_tables h).1.trans (get_tables h').1.symm⟩
  executions := fun h => by cases h
  ledger := ReservationTable.wellFormed_empty

theorem admits_buyer : (tables maker).Admits id buyer where
  whole := rfl
  subaccount_pos := by decide
  subaccount_le := by decide
  series := rfl
  fresh := rfl
  hash := by
    intro h hh
    cases hh
    rfl
  client := by
    intro id o name _ _ hname
    cases hname

theorem trades_buyer : optionTrades (tables maker).orders buyer = [⟨maker, 4⟩] := by
  decide +kernel

theorem ready_plan : LedgerReady executionIdOf .constantTestDomain 7 buyer plan (tables maker) where
  free := fun _ _ => rfl
  residuals := by
    intro s hs t ht _
    cases hs
    rw [trades_buyer, mem_singleton] at ht
    subst ht
    exact ⟨_, rfl⟩
  pairs := by
    intro s hs t ht fillId
    cases hs
    rw [trades_buyer, mem_singleton] at ht
    subst ht
    have hbuy : buyReservation 4 100000000 100 = .ok 1 := by decide +kernel
    have hsell : scaffold.sellerAmount 4 = .ok 4 := by decide +kernel
    exact PendingSettlementScaffold.exists_buildPendingPair rfl hbuy hsell 7

theorem fresh_draws : draws.FreshReservations (tables maker).reservations where
  distinct := by
    intro a b h
    rcases a with _ | i | i | i <;> rcases b with _ | j | j | j <;> simp [draws] at h ⊢ <;> omega
  free := fun _ => rfl

theorem inPlay_buyer {hash : String} (h : InPlay buyer (tables maker).orders hash) :
    hash = "t" ∨ hash = "m" := by
  rcases h with h | ⟨id, o, ho, h⟩
  · exact .inl (Option.some.inj h).symm
  · obtain ⟨-, rfl⟩ := get_tables ho
    exact .inr (Option.some.inj h).symm

theorem collisionFree_buyer : CollisionFree executionIdOf (InPlay buyer (tables maker).orders) := by
  intro _ _ b b' s s' _ _ hb hb' hs hs' h
  rcases inPlay_buyer hb with rfl | rfl <;> rcases inPlay_buyer hb' with rfl | rfl <;>
    rcases inPlay_buyer hs with rfl | rfl <;> rcases inPlay_buyer hs' with rfl | rfl <;>
    simp [executionIdOf] at h ⊢

/-- A sale of ten of which four are bought, in both. -/
theorem matchers_agree_one_maker : ∃ taker made made' self' db',
    submitOrderAndMatch executionIdOf id 7 buyer (store maker) = (.ok (taker, made), self') ∧
      submitOptionOrderAndMatchWithReservations executionIdOf .constantTestDomain draws 7 id buyer
        (some plan) (tables maker) = (.ok (taker, made'), db') ∧
      taker.status = .filled ∧ made.map OptionFill.terms = made'.map OptionFill.terms ∧
      (self'.orders.get? ⟨1⟩).map (·.remainingSize1e8) = some 6 ∧
      (db'.orders.get? ⟨1⟩).map (·.remainingSize1e8) = some 6 := by
  have hagree := matchers_agree executionIdOf .constantTestDomain id id draws 7 (store maker)
    (tables maker) buyer (some plan) (fun _ => rfl) valid_tables admits_buyer
    (fun p hp => by cases hp; exact ready_plan) ⟨fun _ _ h => h, fun _ => rfl⟩ fresh_draws
    collisionFree_buyer
  obtain ⟨made, made', self', db', hmemory, htables, hterms, hterms', hrows, -, hmaker, -⟩ := hagree
  have hrow := hmaker ⟨maker, 4⟩ (mem_singleton.2 rfl)
  have hrow' := (hrows maker.orderId).symm.trans hrow
  refine ⟨_, made, made', self', db', hmemory, htables, by decide +kernel,
    hterms.trans hterms'.symm, ?_, ?_⟩
  · exact congrArg (Option.map (·.remainingSize1e8)) hrow
  · exact congrArg (Option.map (·.remainingSize1e8)) hrow'

/-- The buyer's order, as each matcher stores it. -/
def rows (o : OptionOrder) (resting : OptionOrder) (plan : Option MatcherReservationPlan) :
    Option OptionOrder × Option OptionOrder :=
  ((submitOrderAndMatch executionIdOf id 7 o (store resting)).2.orders.get? o.orderId,
    (submitOptionOrderAndMatchWithReservations executionIdOf .constantTestDomain draws 7 id o plan
      (tables resting)).2.orders.get? o.orderId)

/-- **Other orders are not treated alike.**  The store takes an order of subaccount 0 and
one of an unknown series, which the tables refuse; a subaccount that is no `INTEGER` is
stored as 1; of an order that arrives with part of it filled the store keeps what is
left, the tables the whole; and an order that meets a maker without a hash is refused by
the ledger. -/
theorem matchers_disagree : (rows { buyer with subaccountId := 0 } maker none).1.isSome = true ∧
    (rows { buyer with subaccountId := 0 } maker none).2 = none ∧
    (rows { buyer with subaccountId := 2 ^ 31 } maker none).1.map (·.subaccountId) = some (2 ^ 31) ∧
    (rows { buyer with subaccountId := 2 ^ 31 } maker none).2.map (·.subaccountId) = some 1 ∧
    (rows { buyer with optionSeriesId := "BTC-C" } maker none).1.isSome = true ∧
    (rows { buyer with optionSeriesId := "BTC-C" } maker none).2 = none ∧
    (rows { buyer with remainingSize1e8 := 3, price1e8 := 99 } maker none).1.map
      (·.remainingSize1e8) = some 3 ∧
    (rows { buyer with remainingSize1e8 := 3, price1e8 := 99 } maker none).2.map
      (·.remainingSize1e8) = some 4 ∧
    (rows buyer { maker with canonicalOrderHash := none } (some plan)).1.isSome = true ∧
    (rows buyer { maker with canonicalOrderHash := none } (some plan)).2 = none := by
  decide +kernel

end OneMaker

end DeoptBackend
