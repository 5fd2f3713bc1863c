import DeoptBackend.Options.ConditionalPg

/-!
# Conditional orders and the position they close

A conditional order belongs to one subaccount, and its child is sent from there.  What the
child is cut to is summed up from the fills of the account in all its subaccounts, with the
account spelled as it is in the order.

* `position` — what a subaccount of an address holds of a series.
* `executeTriggered_book` — what a trigger does to the book: nothing, or one submit of the
  child.
* `CoveredByOwn` — the child cannot fill more than the position of its own subaccount.
* `children_reduce_positions` — a trigger that meets no resting order of its own subaccount
  moves the position towards zero exactly when it is covered.
* `Elsewhere.child_opens_position` — a position in another subaccount is closed twice.
-/

namespace DeoptBackend

open ConditionalStore List OptionsService Act Keeps OptionSeriesStore FMap

/-! ## Positions -/

/-- An account string and a subaccount are those of an address, however it is spelled. -/
def Owns (account : AccountId) (subaccountId : Nat) (a : AccountId) (s : Nat) : Prop :=
  eqIgnoreAsciiCase a.name account.name = true ∧ s = subaccountId
  deriving Decidable

section

variable (account : AccountId) (subaccountId : Nat) (series : OptionSeriesId)

/-- What a fill adds to a position: what was bought, less what was sold. -/
def OptionFill.moves (f : OptionFill) : Int :=
  if f.optionSeriesId = series then
    (if Owns account subaccountId f.buyer f.buyerSubaccountId then (f.size1e8 : Int) else 0) -
      if Owns account subaccountId f.seller f.sellerSubaccountId then (f.size1e8 : Int) else 0
  else 0

/-- The position of a subaccount of an address in a series. -/
def position (fills : FMap Uuid OptionFill) : Int :=
  fills.sumBy (OptionFill.moves account subaccountId series)

end

/-- A position moves towards zero, and not past it. -/
def TowardsZero (before after : Int) : Prop :=
  (0 < before ∧ 0 ≤ after ∧ after < before) ∨ (before < 0 ∧ after ≤ 0 ∧ before < after)

/-- How far a fill of a side moves a position. -/
def Side.signed : Side → Nat → Int
  | .buy, n => n
  | .sell, n => -n

variable {executionIdOf : ExecutionIdOf}

section

variable {domain : OptionsCanonicalDomain}

/-- A fill against an order of someone else moves the position of the arriving order. -/
theorem moves_optionFillFromMatch
    (hother : ¬ Owns incoming.account incoming.subaccountId maker.account maker.subaccountId)
    (size1e8 : Nat) (fillId : Uuid) :
    (optionFillFromMatch executionIdOf domain incoming maker size1e8 now fillId).moves
        incoming.account incoming.subaccountId incoming.optionSeriesId =
      incoming.side.signed size1e8 := by
  have hown : Owns incoming.account incoming.subaccountId incoming.account
      incoming.subaccountId := ⟨by simp [eqIgnoreAsciiCase], rfl⟩
  cases hside : incoming.side with
  | buy => simp [OptionFill.moves, optionFillFromMatch, hside, hown, hother, Side.signed]
  | sell => simp [OptionFill.moves, optionFillFromMatch, hside, hown, hother, Side.signed]

theorem sum_moves_optionFillRecords
    (hother : ∀ t ∈ trades, ¬ Owns incoming.account incoming.subaccountId t.maker.account
      t.maker.subaccountId) (i : Nat) :
    ((optionFillRecords executionIdOf domain incoming now fillIds i trades).map
        (OptionFill.moves incoming.account incoming.subaccountId incoming.optionSeriesId)).sum =
      incoming.side.signed (tradedSize trades) := by
  induction trades generalizing i with
  | nil => cases incoming.side <;> simp [optionFillRecords, tradedSize, Side.signed]
  | cons t ts ih =>
    have hrest := ih (fun u hu => hother u (mem_cons_of_mem t hu)) (i + 1)
    rw [optionFillRecords, map_cons, sum_cons, hrest,
      moves_optionFillFromMatch (hother t mem_cons_self)]
    cases incoming.side with
    | buy => simp [tradedSize, Side.signed]
    | sell =>
      simp only [tradedSize, Side.signed, map_cons, sum_cons]
      omega

end

/-! ## What a trigger does -/

namespace ConditionalStore

theorem keeps_book_get (id : Uuid) : Keeps (·.book) (getConditionalOrder id) := by
  intro st
  unfold getConditionalOrder
  split <;> rfl

section

variable (order : ConditionalOrder)

theorem keeps_book_update : Keeps (·.book) (updateConditionalOrder order) := by
  intro st
  unfold updateConditionalOrder
  split <;> rfl

theorem keeps_book_cancelSiblings (now : TimestampMs) (siblings : List ConditionalOrder) :
    Keeps (·.book) (cancelSiblings order now siblings) := by
  induction siblings with
  | nil => exact pure ()
  | cons sib siblings ih =>
    unfold cancelSiblings
    split
    · exact ih
    · split
      · exact fail _
      · exact (keeps_book_update _).bind fun _ => ih

theorem keeps_book_sweepSiblings (now : TimestampMs) :
    Keeps (·.book) (sweepSiblings order now) := by
  unfold sweepSiblings
  split
  · exact pure ()
  · exact (Keeps.read _).bind fun siblings => keeps_book_cancelSiblings order now siblings

end

theorem keeps_book_cancelGroupRows (now : TimestampMs) (siblings : List ConditionalOrder) :
    Keeps (·.book) (cancelGroupRows now siblings) := by
  induction siblings with
  | nil => exact pure []
  | cons sib siblings ih =>
    have hrest : ∀ row : ConditionalOrder, Keeps (·.book) (do
        let rows ← cancelGroupRows now siblings
        return row :: rows) := fun row => ih.bind fun rows => pure _
    unfold cancelGroupRows
    split
    · exact (pure sib).bind hrest
    · exact (keeps_book_update _).bind hrest

theorem keeps_book_cancel (id : Uuid) (account : AccountId) (now : TimestampMs) :
    Keeps (·.book) (cancelConditionalOrderInStore id account now) :=
  (keeps_book_get id).bind fun _ => (Keeps.check _).bind fun _ =>
    (Keeps.check _).bind fun _ => keeps_book_update _

theorem keeps_book_cancelGroup (group : Uuid) (account : AccountId) (now : TimestampMs) :
    Keeps (·.book) (cancelOcoGroupInStore group account now) :=
  (Keeps.read _).bind fun siblings => (Keeps.check _).bind fun _ =>
    keeps_book_cancelGroupRows now siblings

theorem keeps_book_claim (id : Uuid) (now : TimestampMs) : Keeps (·.book) (claimArmed id now) :=
  (keeps_book_get id).bind fun _ => (Keeps.check _).bind fun _ => keeps_book_update _

theorem keeps_book_create (svc : OptionsService) (input : CreateConditionalOrderInput)
    (ids : Nat → Uuid) (group : Uuid) (now : TimestampMs) :
    Keeps (·.book) (svc.createConditionalOrders input ids group now) := by
  have hseries : Keeps (·.book) (svc.getOptionSeries input.optionSeriesId) :=
    (Keeps.check _).bind fun _ => (Keeps.read _).bind fun _ => Keeps.check _
  refine hseries.bind fun series => ?_
  exact (Keeps.check _).bind fun _ => (Keeps.read _).bind fun _ =>
    (Keeps.check _).bind fun _ => (Keeps.check _).bind fun _ =>
    (Keeps.read _).bind fun _ => (Keeps.check _).bind fun _ =>
    (Keeps.check _).bind fun rows => fun _ => rfl

theorem book_resize (id : Uuid) (quantity : Nat) (now : TimestampMs) (st : ConditionalStore) :
    (st.updateConditionalOrderQuantityIfArmed id quantity now).book = st.book := by
  unfold updateConditionalOrderQuantityIfArmed
  split
  · rfl
  · split <;> rfl

end ConditionalStore

variable {id : Uuid}

namespace OptionsService

variable {svc : OptionsService}

def bookAfterChild (svc : OptionsService) (order : ConditionalOrder) (childQty : Nat)
    (childId : OrderId) (fillIds : Nat → Uuid) (now : TimestampMs) (book : OptionSeriesStore) :
    OptionSeriesStore :=
  (submitOrderAndMatch svc.executionIdOf fillIds now
    (svc.childOrder order childQty childId now) book).2

def closingSize (order : ConditionalOrder) (book : OptionSeriesStore) : Nat :=
  min order.quantity1e8 (book.signedPosition order.account order.optionSeriesId).natAbs

theorem sendChild_book (childQty : Nat) :
    (svc.sendChild order childQty childId fillIds now st).2.book = st.book ∨
      (svc.sendChild order childQty childId fillIds now st).2.book =
        svc.bookAfterChild order childQty childId fillIds now st.book := by
  unfold sendChild
  rw [read_bind]
  cases htif : enforceTifPlan (svc.childOrder order childQty childId now)
      (st.book.matchPlan (svc.childOrder order childQty childId now)) with
  | error e => exact .inl (keeps_book_update _ st)
  | ok u =>
    -- the child is submitted; what is written afterwards is the conditional order
    right
    dsimp only
    rcases hsent : onBook (mapError
        (fun e => BackendError.invalidConditionalOrderState ("child submit failed: " ++ e.show))
        (submitOrderAndMatch svc.executionIdOf fillIds now
          (svc.childOrder order childQty childId now))) st with ⟨r, st'⟩
    have hbook : st'.book = svc.bookAfterChild order childQty childId fillIds now st.book := by
      have hst : st' = (onBook _ st).2 := (congrArg Prod.snd hsent).symm
      rw [hst]
      rfl
    cases r with
    | error => rw [bind_of_error hsent, hbook]
    | ok =>
      rw [bind_of_ok hsent, ← hbook]
      exact keeps_book_update _ st'

theorem natAbs_of_classifyReducible (h : classifyReducible signed = some live) :
    live.size1e8 = signed.natAbs := by
  unfold classifyReducible at h
  split at h
  · cases h
    show signed.toNat = signed.natAbs
    omega
  · split at h
    · cases h
      show (-signed).toNat = signed.natAbs
      omega
    · cases h

theorem closePosition_book : (svc.closePosition order childId fillIds now st).2.book = st.book ∨
      0 < closingSize order st.book ∧ (svc.closePosition order childId fillIds now st).2.book =
          svc.bookAfterChild order (closingSize order st.book) childId fillIds now st.book := by
  unfold closePosition
  rw [read_bind]
  cases hlive : classifyReducible (st.book.signedPosition order.account order.optionSeriesId) with
  | none => exact .inl (keeps_book_update _ st)
  | some live =>
    have hsize : min order.quantity1e8 live.size1e8 = closingSize order st.book := by
      rw [natAbs_of_classifyReducible hlive, closingSize]
    simp only [hsize]
    split
    · exact .inl (keeps_book_update _ st)
    split
    · exact .inl (keeps_book_update _ st)
    next hpos =>
      rcases sendChild_book (closingSize order st.book) with hsame | hsent
      · exact .inl hsame
      · exact .inr ⟨Nat.pos_of_ne_zero hpos, hsent⟩

/-- **A trigger leaves the book alone, or sends one child.** -/
theorem executeTriggered_book (svc : OptionsService) (childId : OrderId) (fillIds : Nat → Uuid)
    (now : TimestampMs) (horder : st.conditionalOrders.get? id = some order) :
    (svc.executeTriggeredInStore id childId fillIds now st).2.book = st.book ∨
      0 < closingSize order st.book ∧
        (svc.executeTriggeredInStore id childId fillIds now st).2.book =
          svc.bookAfterChild order (closingSize order st.book) childId fillIds now st.book := by
  have hget : getConditionalOrder id st = (.ok order, st) := by
    simp [getConditionalOrder, horder]
  unfold executeTriggeredInStore
  rw [bind_of_ok hget]
  split
  · exact .inl rfl
  split
  · exact .inl (keeps_book_update _ st)
  have hkeeps := keeps_book_sweepSiblings order now st
  rcases hsweep : sweepSiblings order now st with ⟨_ | _, st'⟩
  · rw [bind_of_error hsweep]
    rw [hsweep] at hkeeps
    exact .inl hkeeps
  · rw [bind_of_ok hsweep]
    rw [hsweep] at hkeeps
    have hkeeps : st'.book = st.book := hkeeps
    rw [← hkeeps]
    exact closePosition_book

theorem executeTriggered_of_none (hnone : st.conditionalOrders.get? id = none) :
    (svc.executeTriggeredInStore id childId fillIds now st).2 = st := by
  have hget : getConditionalOrder id st = (.error .invalidConditionalOrderId, st) := by
    simp [getConditionalOrder, hnone]
  unfold executeTriggeredInStore
  rw [bind_of_error hget]

end OptionsService

/-! ## Requests -/

/-- A request to the service without a database.  `claim` and `execute` are the two parts of
`trigger_one`, and a tick is a list of triggers. -/
inductive ConditionalRequest where
  | submit (input : SubmitOptionOrderInput) (orderId : OrderId) (fillIds : Nat → Uuid)
      (now : TimestampMs)
  | cancelOrder (orderId : OrderId) (now : TimestampMs)
  | sweep (now : TimestampMs)
  | create (input : CreateConditionalOrderInput) (ids : Nat → Uuid) (group : Uuid)
      (now : TimestampMs)
  | cancel (id : Uuid) (requestingAccount : AccountId) (now : TimestampMs)
  | cancelGroup (group : Uuid) (requestingAccount : AccountId) (now : TimestampMs)
  | resize (id : Uuid) (newQuantity1e8 : Nat) (now : TimestampMs)
  | claim (id : Uuid) (now : TimestampMs)
  | execute (id : Uuid) (childId : OrderId) (fillIds : Nat → Uuid) (now : TimestampMs)

namespace ConditionalRequest

/-- What a request leaves, whether it succeeds or not. -/
def run (svc : OptionsService) (st : ConditionalStore) : ConditionalRequest → ConditionalStore
  | submit input orderId fillIds now =>
    (svc.submitOptionOrderInStore orderId fillIds now input st).2
  | cancelOrder orderId now =>
    (onBook (OptionSeriesStore.cancelOrder orderId now) st).2
  | sweep now => { st with book := (expireOrdersDue now st.book).2 }
  | create input ids group now => (svc.createConditionalOrders input ids group now st).2
  | cancel id account now =>
    (cancelConditionalOrderInStore id account now st).2
  | cancelGroup group account now =>
    (cancelOcoGroupInStore group account now st).2
  | resize id quantity now => st.updateConditionalOrderQuantityIfArmed id quantity now
  | claim id now => (claimArmed id now st).2
  | execute id childId fillIds now =>
    (svc.executeTriggeredInStore id childId fillIds now st).2

/-- The names drawn for an order and its fills are new. -/
def Fresh (st : ConditionalStore) (orderId : OrderId) (fillIds : Nat → Uuid) : Prop :=
  st.book.orders.get? orderId = none ∧ FreshFillIds fillIds st.book.fills

def Admissible (st : ConditionalStore) : ConditionalRequest → Prop
  | submit _ orderId fillIds _ => Fresh st orderId fillIds
  | execute _ childId fillIds _ => Fresh st childId fillIds
  | _ => True

end ConditionalRequest

/-- The requests, taken in order. -/
def ConditionalRun (svc : OptionsService) (series : FMap OptionSeriesId OptionSeries)
    (requests : List ConditionalRequest) (st : ConditionalStore) : Prop :=
  Run (stepOf (ConditionalRequest.run svc) ConditionalRequest.Admissible) (.new series) requests st

section

variable {svc : OptionsService}

section

variable (h : st.book.Valid) (hfresh : ConditionalRequest.Fresh st childId fillIds)
include h hfresh

theorem valid_bookAfterChild (hpos : 0 < childQty) :
    (svc.bookAfterChild order childQty childId fillIds now st.book).Valid := by
  have hok : (OptionSeriesStore.BookCall.submit (svc.childOrder order childQty childId now)
      fillIds now).Admissible st.book := ⟨hfresh.1, rfl, hpos, rfl, hfresh.2⟩
  exact h.call svc.executionIdOf hok

theorem valid_execute : (svc.executeTriggeredInStore id childId fillIds now st).2.book.Valid := by
  cases horder : st.conditionalOrders.get? id with
  | none =>
    rw [executeTriggered_of_none horder]
    exact h
  | some =>
    rcases executeTriggered_book svc childId fillIds now horder with hsame | ⟨hpos, hsent⟩
    · rw [hsame]
      exact h
    · rw [hsent]
      exact valid_bookAfterChild h hfresh hpos

end

theorem submitOptionOrderInStore_book (svc : OptionsService) (st : ConditionalStore)
    (input : SubmitOptionOrderInput) (orderId : OrderId) (fillIds : Nat → Uuid)
    (now : TimestampMs) :
    (svc.submitOptionOrderInStore orderId fillIds now input st).2.book = st.book ∨
      0 < input.size1e8 ∧ (svc.submitOptionOrderInStore orderId fillIds now input st).2.book =
          (submitOrderAndMatch svc.executionIdOf fillIds now
            (svc.newOptionOrder input orderId now) st.book).2 := by
  unfold OptionsService.submitOptionOrderInStore
  cases hvalid : svc.validateSubmit now input with
  | error => exact .inl rfl
  | ok =>
    rw [check_bind rfl, read_bind, read_bind]
    cases svc.validateSeries now input (st.series.get? input.optionSeriesId)
        (st.book.orders.vals.filter fun o =>
          decide (o.optionSeriesId = input.optionSeriesId) && o.status.isLive) with
    | error e => exact .inl rfl
    | ok series => exact .inr ⟨Nat.pos_of_ne_zero (validateSubmit_size hvalid), rfl⟩

/-- **One request keeps the book valid.** -/
theorem valid_request (h : st.book.Valid) {request : ConditionalRequest}
    (hok : request.Admissible st) : (request.run svc st).book.Valid := by
  have hsame : ∀ {st' : ConditionalStore}, st'.book = st.book → st'.book.Valid := fun heq => heq ▸ h
  cases request with
  | submit input orderId fillIds now =>
    rcases submitOptionOrderInStore_book svc st input orderId fillIds now with
      hbook | ⟨hpos, hbook⟩
    · exact hsame hbook
    have hcall : (OptionSeriesStore.BookCall.submit (svc.newOptionOrder input orderId now)
        fillIds now).Admissible st.book := ⟨hok.1, rfl, hpos, rfl, hok.2⟩
    rw [ConditionalRequest.run, hbook]
    exact h.call svc.executionIdOf hcall
  | cancelOrder orderId now => exact h.cancel orderId now
  | sweep now => exact h.expire now
  | create input ids group now => exact hsame (keeps_book_create svc input ids group now st)
  | cancel id account now => exact hsame (keeps_book_cancel id account now st)
  | cancelGroup group account now => exact hsame (keeps_book_cancelGroup group account now st)
  | resize id quantity now => exact hsame (book_resize id quantity now st)
  | claim id now => exact hsame (keeps_book_claim id now st)
  | execute => exact valid_execute h hok

theorem valid_of_run {series : FMap OptionSeriesId OptionSeries}
    (hrun : ConditionalRun svc series requests st) : st.book.Valid := by
  refine Run.invariant (P := fun st => st.book.Valid) hrun valid_new ?_
  rintro st request _ hst ⟨hok, rfl⟩
  exact valid_request hst hok

end

/-! ## Triggers that only reduce -/

/-- No order the child can trade with belongs to its own subaccount. -/
def MeetsOthers (book : OptionSeriesStore) (child : OptionOrder) : Prop :=
  ∀ id maker, book.orders.get? id = some maker → Suits child maker →
    ¬ Owns child.account child.subaccountId maker.account maker.subaccountId

/-- What the child can fill is no more than the position of its own subaccount: the least of
the quantity, the computed position and the resting size its limit price reaches. -/
def CoveredByOwn (book : OptionSeriesStore) (child : OptionOrder) : Prop :=
  let own := position child.account child.subaccountId child.optionSeriesId book.fills
  ((min child.size1e8 (liquidity (rankedMakers book.orders child)) : Nat) : Int) ≤
    match child.side with
    | .sell => max own 0
    | .buy => max (-own) 0
  deriving Decidable

section

variable {book : OptionSeriesStore}

/-- **A child against others moves the position towards zero exactly when it is covered**,
unless it fills nothing. -/
theorem submit_towardsZero_iff (hbook : book.Valid) (hwhole : child.remainingSize1e8 = child.size1e8)
    (hids : FreshFillIds fillIds book.fills) (hothers : MeetsOthers book child) :
    let book' := (submitOrderAndMatch executionIdOf fillIds now child book).2
    let held := position child.account child.subaccountId child.optionSeriesId
    book'.fills = book.fills ∨
      (TowardsZero (held book.fills) (held book'.fills) ↔ CoveredByOwn book child) := by
  have hfiled : ∀ {id o}, book.orders.get? id = some o → o.orderId = id := fun h => hbook.filed h
  rcases submit_cases hbook hwhole with ⟨e, hrun⟩ | ⟨taker, trades, hmatch, hrun⟩
  · exact .inl (by rw [hrun])
  rw [hrun]
  obtain ⟨-, rfl, -, -⟩ := referenceMatch_eq_ok.1 hmatch
  have hother : ∀ t ∈ optionTrades book.orders child,
      ¬ Owns child.account child.subaccountId t.maker.account t.maker.subaccountId := by
    intro t ht
    obtain ⟨hrow, hsuits, -, -⟩ := of_mem_optionTrades hfiled ht
    exact hothers _ _ hrow hsuits
  -- the position moves by what was traded
  have hmoved : position child.account child.subaccountId child.optionSeriesId
      (setAll (·.fillId) id (optionFillRecords executionIdOf .constantTestDomain child
        now fillIds 0 (optionTrades book.orders child)) book.fills) =
      child.side.signed (tradedSize (optionTrades book.orders child)) +
        position child.account child.subaccountId child.optionSeriesId book.fills := by
    rw [position, sumBy_setAll_new (hids.nodup 0 _) (fun f hf => hids.get?_eq_none hf)]
    exact congrArg (· + _) (sum_moves_optionFillRecords hother 0)
  have hsize := tradedSize_optionTrades book.orders child
  rcases Nat.eq_zero_or_pos (tradedSize (optionTrades book.orders child)) with hzero | hpos
  · have hnone : optionTrades book.orders child = [] := by
      rcases htrades : optionTrades book.orders child with _ | ⟨t, ts⟩
      · rfl
      have ht : t ∈ optionTrades book.orders child := htrades ▸ mem_cons_self
      have htpos := (of_mem_optionTrades hfiled ht).2.2.1
      rw [htrades, tradedSize, map_cons, sum_cons] at hzero
      omega
    rw [hnone]
    exact .inl rfl
  · simp only [matched, hmoved, CoveredByOwn, TowardsZero]
    cases child.side with
    | buy => simp only [Side.signed]; omega
    | sell => simp only [Side.signed]; omega

end

def OptionsService.nextChild (svc : OptionsService) (order : ConditionalOrder)
    (book : OptionSeriesStore) (childId : OrderId) (now : TimestampMs) : OptionOrder :=
  svc.childOrder order (closingSize order book) childId now

/-- **When conditional orders are reduce-only.**  Without a database, in every state that is
reached by requests, a trigger that meets no resting order of its own subaccount fills
nothing, or moves the position of that subaccount towards zero exactly when it is covered.
With a database no child is ever sent. -/
theorem children_reduce_positions (svc : OptionsService) :
    (∀ series requests st, ConditionalRun svc series requests st →
      ∀ id order childId fillIds now, st.conditionalOrders.get? id = some order →
        ConditionalRequest.Fresh st childId fillIds →
        MeetsOthers st.book (svc.nextChild order st.book childId now) →
        let st' := (ConditionalRequest.execute id childId fillIds now).run svc st
        let held := position order.account order.subaccountId order.optionSeriesId
        st'.book.fills = st.book.fills ∨ (TowardsZero (held st.book.fills) (held st'.book.fills) ↔
            CoveredByOwn st.book (svc.nextChild order st.book childId now))) ∧
    ∀ db moves pool, db.Childless →
      Run (stepOf Pool.after (WorkerMove svc returningColumns)) ⟨db, []⟩ moves pool →
      pool.shared.Childless := by
  constructor
  · intro series requests st hrun id order childId fillIds now horder hfresh hothers
    have hvalid := valid_of_run hrun
    rcases executeTriggered_book svc childId fillIds now horder with
      hsame | ⟨-, hsent⟩
    · exact .inl (congrArg (·.fills) hsame)
    · simp only [ConditionalRequest.run, hsent]
      exact submit_towardsZero_iff hvalid rfl hfresh.2 hothers
  · intro db moves pool hdb hrun
    exact no_child_is_sent hdb hrun

/-! ## A position in another subaccount -/

namespace Elsewhere

open HeldBook (svc series seller buyer input)

/-- Someone who bids. -/
def bidder : AccountId := ⟨"0xcccccccccccccccccccccccccccccccccccccccc"⟩

/-- Five are bought in the first subaccount, and five more are bid for. -/
def trade : List ConditionalRequest :=
  [.submit (input seller .sell 5 none) ⟨1⟩ (10 + ·) 0,
    .submit (input buyer .buy 5 none) ⟨2⟩ (20 + ·) 1,
    .submit (input bidder .buy 5 none) ⟨3⟩ (30 + ·) 2]

variable (subaccountId : Nat)

/-- The buyer arms a take-profit for five in a subaccount, and it is claimed. -/
def arm : List ConditionalRequest :=
  [.create ⟨buyer, subaccountId, "ETH-C", 5, [⟨.takeProfit, 1, 100000000, none⟩], false, none⟩
      (1 + ·) 9 3,
    .claim 1 4]

def armed : ConditionalStore :=
  (trade ++ arm subaccountId).foldl (ConditionalRequest.run svc) (.new series)

theorem fresh_of_keys (hnew : st.book.orders.get? orderId = none)
    (hkeys : ∀ k ∈ st.book.fills.keys, k < base) :
    ConditionalRequest.Fresh st orderId (base + ·) := by
  refine ⟨hnew, fun _ _ h => Nat.add_left_cancel h, fun i => ?_⟩
  cases hget : st.book.fills.get? (base + i) with
  | none => rfl
  | some f =>
    have hlt := hkeys _ (mem_keys_iff.2 ⟨f, hget⟩)
    exact absurd hlt (Nat.not_lt.2 (Nat.le_add_right _ _))

theorem run_armed : ConditionalRun svc series (trade ++ arm subaccountId) (armed subaccountId) := by
  have hsold : ConditionalRequest.Fresh (.new series) ⟨1⟩ (10 + ·) :=
    fresh_of_keys rfl (by simp [ConditionalStore.new, OptionSeriesStore.new])
  have hbought : ConditionalRequest.Fresh
      ((trade.take 1).foldl (ConditionalRequest.run svc) (.new series)) ⟨2⟩ (20 + ·) :=
    fresh_of_keys (by decide +kernel) (by decide +kernel)
  have hbid : ConditionalRequest.Fresh
      ((trade.take 2).foldl (ConditionalRequest.run svc) (.new series)) ⟨3⟩ (30 + ·) :=
    fresh_of_keys (by decide +kernel) (by decide +kernel)
  exact ((((Run.start.snoc ⟨hsold, rfl⟩).snoc ⟨hbought, rfl⟩).snoc ⟨hbid, rfl⟩).snoc
    ⟨trivial, rfl⟩).snoc ⟨trivial, rfl⟩

/-- The trigger. -/
def fire : ConditionalRequest := .execute 1 ⟨4⟩ (40 + ·) 5

/-- The position of the buyer in a subaccount. -/
def held (st : ConditionalStore) : Int :=
  position buyer subaccountId "ETH-C" st.book.fills

/-- **A position in one subaccount lets the child of another open a position.**  The
second subaccount holds nothing, and its child sells five short. -/
theorem child_opens_position :
    ConditionalRun svc series (trade ++ arm 2) (armed 2) ∧ fire.Admissible (armed 2) ∧
      ((armed 2).conditionalOrders.get? 1).map (·.subaccountId) = some 2 ∧
      held 2 (armed 2) = 0 ∧ held 2 (fire.run svc (armed 2)) = -5 :=
  ⟨run_armed 2, fresh_of_keys (by decide +kernel) (by decide +kernel), by decide +kernel,
    by decide +kernel, by decide +kernel⟩

/-- The take-profit of the first subaccount, claimed. -/
def claimed : ConditionalOrder :=
  { TwoLegs.leg 1 none with
    status := .triggering
    createdAtMs := 3
    updatedAtMs := 4
    version := 1 }

/-- The child of the first subaccount closes the position, and with a database none is
sent. -/
theorem children_reduce_positions_own :
    TowardsZero (held 1 (armed 1)) (held 1 (fire.run svc (armed 1))) ∧
      (TwoLegs.raced returningColumns).shared.Childless := by
  have hfresh : ConditionalRequest.Fresh (armed 1) ⟨4⟩ (40 + ·) :=
    fresh_of_keys (by decide +kernel) (by decide +kernel)
  have hothers : MeetsOthers (armed 1).book (svc.nextChild claimed (armed 1).book ⟨4⟩ 5) := by
    have hall : ∀ maker ∈ (armed 1).book.orders.vals,
        Suits (svc.nextChild claimed (armed 1).book ⟨4⟩ 5) maker →
          ¬ Owns buyer 1 maker.account maker.subaccountId := by decide +kernel
    intro id maker hrow hsuits
    exact hall maker (mem_vals.2 ⟨id, hrow⟩) hsuits
  refine ⟨?_, (children_reduce_positions TwoLegs.svc).2 _ _ _ ⟨rfl, rfl⟩
    (TwoLegs.run_race returningColumns)⟩
  rcases (children_reduce_positions svc).1 _ _ _ (run_armed 1) 1 claimed ⟨4⟩ (40 + ·) 5
    (by decide +kernel) hfresh hothers with hsame | hiff
  · have hmoved : held 1 (fire.run svc (armed 1)) ≠ held 1 (armed 1) := by decide +kernel
    exact absurd (congrArg (position buyer 1 "ETH-C") hsame) hmoved
  · exact hiff.2 (by decide +kernel)

end Elsewhere

end DeoptBackend
