import DeoptBackend.Lib.Run
import DeoptBackend.Options.Store

/-!
# What holds of the option book between requests

The in-memory book starts empty and is changed by submits, cancels and expiry sweeps
only.  In every state it reaches, every order is accounted for by its fills, its
status says how far it is filled, and no two live orders cross.

* `OptionSeriesStore.Sound` — orders, fills and statuses agree, and live orders do not cross.
* `OptionOrder.Consistent`, `OptionSeriesStore.Valid` — the invariant: a row by
  itself, and the book as a whole.
* `Valid.ends` — a row that ends keeps its remainder, so its account stays; a cancel
  and a sweep are such writes.
* `Valid.matched` — what the reference matcher makes of a valid book is valid.  A
  residual only rests when every order that suits it was traded whole, which is why
  the book stays uncrossed.
* `option_book_is_sound` — every reachable book is sound.
-/

namespace DeoptBackend

open OptionOrder FMap List

/-! ## One row -/

namespace OptionOrder

/-- The status of a row says how far it is filled. -/
structure Consistent (o : OptionOrder) : Prop where
  /-- The order is for something. -/
  sized : 0 < o.size1e8
  /-- No more is left than it was sent with. -/
  fits : o.remainingSize1e8 ≤ o.size1e8
  /-- It is filled when nothing is left. -/
  filled_iff : o.status = .filled ↔ o.remainingSize1e8 = 0
  /-- An open order is untouched. -/
  whole : o.status = .open → o.remainingSize1e8 = o.size1e8
  partly : o.status = .partiallyFilled → o.remainingSize1e8 < o.size1e8
  /-- Only an order that is good till cancelled is live. -/
  rests : o.status.isLive = true → o.timeInForce = .gtc

/-- A live row has something left. -/
theorem Consistent.remaining_pos {o : OptionOrder} (h : o.Consistent)
    (hlive : o.status.isLive = true) : 0 < o.remainingSize1e8 := by
  rcases Nat.eq_zero_or_pos o.remainingSize1e8 with hzero | hpos
  · rw [h.filled_iff.2 hzero] at hlive
    cases hlive
  · exact hpos

/-- A row that ends: it was live, keeps its terms and what is left, and is neither
live nor filled afterwards. -/
structure Ends (o o' : OptionOrder) : Prop where
  live : o.status.isLive = true
  terms : o'.terms = o.terms
  /-- What was left is left. -/
  remaining : o'.remainingSize1e8 = o.remainingSize1e8
  /-- The row is not live any more. -/
  ended : o'.status.isLive = false
  unfilled : o'.status ≠ .filled

theorem Ends.consistent {o o' : OptionOrder} (h : Ends o o') (ho : o.Consistent) :
    o'.Consistent := by
  have hsize : o'.size1e8 = o.size1e8 := congr_terms (·.size1e8) h.terms
  have hpos := ho.remaining_pos h.live
  have hended := h.ended
  refine ⟨by rw [hsize]; exact ho.sized, by rw [hsize, h.remaining]; exact ho.fits,
    ⟨fun hs => absurd hs h.unfilled, fun hzero => ?_⟩, ?_, ?_, ?_⟩
  · rw [h.remaining] at hzero
    omega
  all_goals
    intro hs
    rw [hs] at hended
    cases hended

end OptionOrder

theorem statusForRemaining_eq_filled :
    statusForRemaining size remaining = .filled ↔ remaining = 0 := by
  unfold statusForRemaining
  split
  · simp_all
  · split <;> simp_all

theorem statusForRemaining_eq_open (h : remaining ≤ size) :
    statusForRemaining size remaining = .open → remaining = size := by
  unfold statusForRemaining
  split
  · simp
  · split
    · simp
    · omega

theorem statusForRemaining_eq_partiallyFilled :
    statusForRemaining size remaining = .partiallyFilled → remaining < size := by
  unfold statusForRemaining
  split
  · simp
  split
  · intro _
    assumption
  · simp

theorem OptionTrade.consistent_makerRow {t : OptionTrade} (h : t.maker.Consistent)
    (hlive : t.maker.status.isLive = true) (now : TimestampMs) : (t.makerRow now).Consistent where
  sized := h.sized
  fits := (Nat.sub_le _ _).trans h.fits
  filled_iff := statusForRemaining_eq_filled
  whole := statusForRemaining_eq_open ((Nat.sub_le _ _).trans h.fits)
  partly := statusForRemaining_eq_partiallyFilled
  rests := fun _ => h.rests hlive

@[simp] theorem orderId_settledTaker :
    (settledTaker incoming traded1e8 now).orderId = incoming.orderId := by
  simp only [settledTaker, stampInsertTerminalReason]
  split <;> rfl

@[simp] theorem terms_settledTaker :
    (settledTaker incoming traded1e8 now).terms = incoming.terms := by
  simp only [settledTaker, stampInsertTerminalReason]
  split <;> rfl

@[simp] theorem remainingSize1e8_settledTaker :
    (settledTaker incoming traded1e8 now).remainingSize1e8 = incoming.size1e8 - traded1e8 := by
  simp only [settledTaker, stampInsertTerminalReason]
  split <;> rfl

theorem status_settledTaker : (settledTaker incoming traded1e8 now).status =
      finalStatusForTif { incoming with remainingSize1e8 := incoming.size1e8 - traded1e8 } := by
  simp only [settledTaker, stampInsertTerminalReason]
  split <;> rfl

@[simp] theorem size1e8_settledTaker :
    (settledTaker incoming traded1e8 now).size1e8 = incoming.size1e8 :=
  congr_terms (·.size1e8) terms_settledTaker

@[simp] theorem timeInForce_settledTaker :
    (settledTaker incoming traded1e8 now).timeInForce = incoming.timeInForce :=
  congr_terms (·.timeInForce) terms_settledTaker

/-- The row of an order that was not refused. -/
theorem consistent_settledTaker (hsize : 0 < incoming.size1e8)
    (hfok : incoming.timeInForce = .fok → incoming.size1e8 ≤ traded1e8) :
    (settledTaker incoming traded1e8 now).Consistent := by
  have hle : incoming.size1e8 - traded1e8 ≤ incoming.size1e8 := Nat.sub_le _ _
  have hstatus : (settledTaker incoming traded1e8 now).status =
      finalStatusForTif { incoming with remainingSize1e8 := incoming.size1e8 - traded1e8 } :=
    status_settledTaker
  by_cases hgtc : incoming.timeInForce = .gtc
  · simp only [finalStatusForTif, hgtc] at hstatus
    refine ⟨by simpa using hsize, by simp, ?_, ?_, ?_, fun _ => by simp [hgtc]⟩ <;>
      rw [hstatus, remainingSize1e8_settledTaker]
    · exact statusForRemaining_eq_filled
    · rw [size1e8_settledTaker]
      exact statusForRemaining_eq_open hle
    · rw [size1e8_settledTaker]
      exact statusForRemaining_eq_partiallyFilled
  -- nothing rests, so the row is filled or cancelled
  have hcases : (settledTaker incoming traded1e8 now).status = .filled ∧
        incoming.size1e8 - traded1e8 = 0 ∨
      (settledTaker incoming traded1e8 now).status = .cancelled ∧
        incoming.size1e8 - traded1e8 ≠ 0 := by
    rw [hstatus]
    cases htif : incoming.timeInForce with
    | gtc => exact absurd htif hgtc
    | ioc => grind [finalStatusForTif, statusForRemaining]
    | fok =>
      have := hfok htif
      grind [finalStatusForTif, statusForRemaining]
  rcases hcases with ⟨hs, hleft⟩ | ⟨hs, hleft⟩
  all_goals
    exact ⟨by simpa using hsize, by simp, by simp [hs, hleft], by simp [hs], by simp [hs],
      by simp [hs, OptionOrderStatus.isLive]⟩

/-! ## The book -/

/-- No live bid of a series reaches a live ask of it. -/
def Uncrossed (orders : FMap OrderId OptionOrder) : Prop :=
  ∀ {i j bid ask}, orders.get? i = some bid → orders.get? j = some ask →
    bid.status.isLive = true → ask.status.isLive = true →
    bid.optionSeriesId = ask.optionSeriesId → bid.side = .buy → ask.side = .sell →
    bid.price1e8 < ask.price1e8

/-- Each of two live rows that cross suits the other. -/
theorem suits_of_crossed {bid ask : OptionOrder} (hbid : bid.Consistent) (hask : ask.Consistent)
    (hbidLive : bid.status.isLive = true) (haskLive : ask.status.isLive = true)
    (hseries : bid.optionSeriesId = ask.optionSeriesId) (hbidSide : bid.side = .buy)
    (haskSide : ask.side = .sell) (hcross : ¬ bid.price1e8 < ask.price1e8) :
    Suits bid ask ∧ Suits ask bid := by
  simp [Suits, hbid.remaining_pos hbidLive, hask.remaining_pos haskLive, hbidLive, haskLive,
    hseries, hbidSide, haskSide, priceSuits, Side.opposite, not_lt.1 hcross]

namespace OptionSeriesStore

/-- What the stored fills of an order come to, as maker or taker. -/
def filledSize (s : OptionSeriesStore) (id : OrderId) : Nat :=
  s.fills.sumBy fun f => if f.names id then f.size1e8 else 0

/-- **A sound book**: orders, fills and statuses agree, and live orders do not cross. -/
structure Sound (s : OptionSeriesStore) : Prop where
  /-- The fills of an order and what is left of it make up its size. -/
  accounted : ∀ {id o}, s.orders.get? id = some o → s.filledSize id + o.remainingSize1e8 = o.size1e8
  filled_iff : ∀ {id o}, s.orders.get? id = some o → (o.status = .filled ↔ o.remainingSize1e8 = 0)
  /-- An open order has no fill, and something is left of it. -/
  open_unfilled : ∀ {id o}, s.orders.get? id = some o → o.status = .open →
    (∀ k f, s.fills.get? k = some f → f.names id = false) ∧ 0 < o.remainingSize1e8
  partly_filled : ∀ {id o}, s.orders.get? id = some o → o.status = .partiallyFilled →
    (∃ k f, s.fills.get? k = some f ∧ f.names id = true) ∧ 0 < o.remainingSize1e8
  /-- An order that must trade at once is never live. -/
  immediate_not_live : ∀ {id o}, s.orders.get? id = some o →
    o.timeInForce = .ioc ∨ o.timeInForce = .fok → o.status.isLive = false
  /-- Live orders do not cross. -/
  uncrossed : Uncrossed s.orders

/-- The invariant of the book. -/
structure Valid (s : OptionSeriesStore) : Prop where
  /-- An order is filed under its own name. -/
  filed : ∀ {id o}, s.orders.get? id = some o → o.orderId = id
  consistent : ∀ {id o}, s.orders.get? id = some o → o.Consistent
  /-- The fills of an order and what is left of it make up its size. -/
  accounted : ∀ {id o}, s.orders.get? id = some o → s.filledSize id + o.remainingSize1e8 = o.size1e8
  fills_pos : ∀ {k f}, s.fills.get? k = some f → 0 < f.size1e8
  /-- A fill has stored orders on both sides. -/
  fills_known : ∀ {k f id}, s.fills.get? k = some f → f.names id = true →
    ∃ o, s.orders.get? id = some o
  /-- Live orders do not cross. -/
  uncrossed : Uncrossed s.orders

theorem valid_new : new.Valid := by
  constructor <;> simp [new, Uncrossed]

variable {s s' : OptionSeriesStore}

/-- No fill of an order is stored when its fills come to nothing. -/
theorem Valid.names_eq_false (h : s.Valid) {id : OrderId} (hzero : s.filledSize id = 0)
    (hf : s.fills.get? k = some f) : f.names id = false := by
  have hsum := sumBy_of_get? hf fun f : OptionFill => if f.names id then f.size1e8 else 0
  have hpos := h.fills_pos hf
  rw [filledSize] at hzero
  by_contra hnames
  rw [Bool.not_eq_false] at hnames
  rw [hzero, if_pos hnames] at hsum
  omega

/-- **A valid book is sound.** -/
theorem Valid.sound (h : s.Valid) : s.Sound where
  accounted := h.accounted
  filled_iff := fun ho => (h.consistent ho).filled_iff
  open_unfilled := by
    intro id o ho hopen
    have hwhole := (h.consistent ho).whole hopen
    have hsized := (h.consistent ho).sized
    have hsum := h.accounted ho
    refine ⟨fun k f hf => h.names_eq_false (by omega) hf, by omega⟩
  partly_filled := by
    intro id o ho hpartly
    have hless := (h.consistent ho).partly hpartly
    have hsum := h.accounted ho
    refine ⟨?_, (h.consistent ho).remaining_pos (by rw [hpartly]; rfl)⟩
    by_contra hnone
    have hzero : s.filledSize id = 0 := by
      refine sumBy_eq_zero fun k f hf => if_neg fun hnames => ?_
      exact hnone ⟨k, f, hf, hnames⟩
    omega
  immediate_not_live := by
    intro id o ho htif
    by_contra hlive
    rw [Bool.not_eq_false] at hlive
    rw [(h.consistent ho).rests hlive] at htif
    simp at htif
  uncrossed := h.uncrossed

/-- Whether two rows cross is a matter of their terms. -/
theorem Valid.price_lt (h : s.Valid) {bid ask bid₀ ask₀ : OptionOrder}
    (hbid : s.orders.get? i = some bid₀) (hask : s.orders.get? j = some ask₀)
    (hbidTerms : bid.terms = bid₀.terms) (haskTerms : ask.terms = ask₀.terms)
    (hbidLive : bid₀.status.isLive = true) (haskLive : ask₀.status.isLive = true)
    (hseries : bid.optionSeriesId = ask.optionSeriesId) (hbidSide : bid.side = .buy)
    (haskSide : ask.side = .sell) : bid.price1e8 < ask.price1e8 := by
  have hb := congr_terms (fun o => (o.optionSeriesId, o.side, o.price1e8)) hbidTerms
  have ha := congr_terms (fun o => (o.optionSeriesId, o.side, o.price1e8)) haskTerms
  simp only [Prod.mk.injEq] at hb ha
  rw [hb.2.2, ha.2.2]
  exact h.uncrossed hbid hask hbidLive haskLive (hb.1.symm.trans (hseries.trans ha.1))
    (hb.2.1.symm.trans hbidSide) (ha.2.1.symm.trans haskSide)

/-! ## Cancels and sweeps -/

/-- **Ending rows keeps the book valid.** -/
theorem Valid.ends (h : s.Valid) (hfills : s'.fills = s.fills)
    (hrows : ∀ id, ∃ f, s'.orders.get? id = (s.orders.get? id).map f ∧
      ∀ o, s.orders.get? id = some o → f o = o ∨ OptionOrder.Ends o (f o)) : s'.Valid := by
  -- what was written under a name, with what it was before
  have hold : ∀ {id o'}, s'.orders.get? id = some o' → ∃ o, s.orders.get? id = some o ∧
      (o' = o ∨ OptionOrder.Ends o o') := by
    intro id o' ho'
    obtain ⟨f, hf, hends⟩ := hrows id
    rw [hf] at ho'
    obtain ⟨o, ho, rfl⟩ := Option.map_eq_some_iff.1 ho'
    exact ⟨o, ho, hends o ho⟩
  have hterms : ∀ {o o' : OptionOrder}, o' = o ∨ OptionOrder.Ends o o' →
      o'.terms = o.terms ∧ o'.remainingSize1e8 = o.remainingSize1e8 ∧
        (o'.status.isLive = true → o.status.isLive = true) := by
    rintro o o' (rfl | hends)
    · exact ⟨rfl, rfl, id⟩
    · exact ⟨hends.terms, hends.remaining, fun _ => hends.live⟩
  refine ⟨?_, ?_, ?_, ?_, ?_, ?_⟩
  · intro id o' ho'
    obtain ⟨o, ho, hends⟩ := hold ho'
    have hid : o'.orderId = o.orderId := congr_terms (·.orderId) (hterms hends).1
    rw [hid, h.filed ho]
  · intro id o' ho'
    obtain ⟨o, ho, rfl | hends⟩ := hold ho'
    · exact h.consistent ho
    · exact hends.consistent (h.consistent ho)
  · intro id o' ho'
    obtain ⟨o, ho, hends⟩ := hold ho'
    have hsize : o'.size1e8 = o.size1e8 := congr_terms (·.size1e8) (hterms hends).1
    rw [filledSize, hfills, (hterms hends).2.1, hsize]
    exact h.accounted ho
  · intro k f hf
    rw [hfills] at hf
    exact h.fills_pos hf
  · intro k f id hf hnames
    rw [hfills] at hf
    obtain ⟨o, ho⟩ := h.fills_known hf hnames
    obtain ⟨g, hg, -⟩ := hrows id
    exact ⟨g o, by rw [hg, ho]; rfl⟩
  · intro i j bid' ask' hbid' hask' hbidLive haskLive hseries hbidSide haskSide
    obtain ⟨bid, hbid, hbidEnds⟩ := hold hbid'
    obtain ⟨ask, hask, haskEnds⟩ := hold hask'
    obtain ⟨hbidTerms, -, hbidLive'⟩ := hterms hbidEnds
    obtain ⟨haskTerms, -, haskLive'⟩ := hterms haskEnds
    exact h.price_lt hbid hask hbidTerms haskTerms (hbidLive' hbidLive)
      (haskLive' haskLive) hseries hbidSide haskSide

theorem ends_ended (hlive : o.status.isLive = true) {status : OptionOrderStatus}
    (hended : status.isLive = false) (hunfilled : status ≠ .filled) (code source : String)
    (now : TimestampMs) : OptionOrder.Ends o (o.ended status code source now) :=
  ⟨hlive, rfl, rfl, hended, hunfilled⟩

theorem Valid.cancel (h : s.Valid) (orderId : OrderId) (now : TimestampMs) :
    (cancelOrder orderId now s).2.Valid := by
  unfold cancelOrder
  cases ho : s.orders.get? orderId with
  | none => exact h
  | some o =>
    simp only
    split
    · next hlive =>
        refine h.ends rfl fun id => ?_
        by_cases hid : id = orderId
        · subst hid
          refine ⟨fun _ => _, by rw [get?_set_self, ho]; rfl, fun p hp => .inr ?_⟩
          cases ho.symm.trans hp
          exact ends_ended hlive rfl (by simp) _ _ _
        · exact ⟨fun p => p, by simp [get?_set_ne _ hid], fun _ _ => .inl rfl⟩
    · exact h

theorem Valid.expire (h : s.Valid) (now : TimestampMs) : (expireOrdersDue now s).2.Valid := by
  refine h.ends rfl fun id => ⟨expiredRow now, get?_mapVals _ _ _, fun o _ => ?_⟩
  unfold expiredRow
  split
  · next hpast =>
      rw [pastDeadline, Bool.and_eq_true] at hpast
      exact .inr (ends_ended hpast.1 rfl (by simp) _ _ _)
  · exact .inl rfl

/-! ## Submits -/

/-- The store after a match. -/
def matched (executionIdOf : ExecutionIdOf) (domain : OptionsCanonicalDomain)
    (fillIds : Nat → Uuid) (incoming taker : OptionOrder) (now : TimestampMs)
    (trades : List OptionTrade) (s : OptionSeriesStore) : OptionSeriesStore where
  orders := (bookAfterTrades now trades s.orders).set incoming.orderId taker
  fills := setAll (·.fillId) id
    (optionFillRecords executionIdOf domain incoming now fillIds 0 trades) s.fills

section

/-- A submit is refused, or it is matched. -/
theorem submit_cases (h : s.Valid) (hwhole : incoming.remainingSize1e8 = incoming.size1e8) :
    (∃ e, submitOrderAndMatch executionIdOf fillIds now incoming s = (.error e, s)) ∨
      ∃ taker trades, referenceMatch s.orders incoming now = .ok (taker, trades) ∧
        submitOrderAndMatch executionIdOf fillIds now incoming s =
          (.ok (taker, optionFillRecords executionIdOf .constantTestDomain incoming now fillIds 0
            trades),
            matched executionIdOf .constantTestDomain fillIds incoming taker now trades s) := by
  by_cases hfree : s.hasOpenClientOrder incoming.account.name incoming.clientOrderId = true
  · exact .inl ⟨_, if_pos hfree⟩
  rw [submitOrderAndMatch_eq (fun h' => h.filed h') hwhole (by simpa using hfree)]
  cases referenceMatch s.orders incoming now with
  | error e => exact .inl ⟨e, rfl⟩
  | ok r => exact .inr ⟨r.1, r.2, rfl, rfl⟩

/-- What a match adds to the fills of an order. -/
def tradedOf (incoming : OptionOrder) (trades : List OptionTrade) (id : OrderId) : Nat :=
  (trades.map fun t =>
    if t.maker.orderId = id ∨ incoming.orderId = id then t.size1e8 else 0).sum

theorem filledSize_matched (hids : FreshFillIds fillIds s.fills) (id : OrderId) :
    (matched executionIdOf domain fillIds incoming taker now trades s).filledSize id =
      tradedOf incoming trades id + s.filledSize id := by
  have hmap : (optionFillRecords executionIdOf domain incoming now fillIds 0 trades).map
      (fun f => if f.makerOrderId = id ∨ f.takerOrderId = id then f.size1e8 else 0) =
        trades.map fun t =>
          if t.maker.orderId = id ∨ incoming.orderId = id then t.size1e8 else 0 :=
    map_optionFillRecords
      (fun maker taker size1e8 => if maker = id ∨ taker = id then size1e8 else 0) 0 trades
  rw [filledSize, filledSize, matched, sumBy_setAll_new (hids.nodup 0 trades)
    (fun f hf => hids.get?_eq_none hf), tradedOf, ← hmap]
  simp [OptionFill.names]

theorem tradedOf_incoming (incoming : OptionOrder) (trades : List OptionTrade) :
    tradedOf incoming trades incoming.orderId = tradedSize trades := by
  simp [tradedOf, tradedSize]

theorem tradedOf_maker {t : OptionTrade} (hnodup : (trades.map (·.maker.orderId)).Nodup)
    (hne : ∀ t ∈ trades, t.maker.orderId ≠ incoming.orderId) (ht : t ∈ trades) :
    tradedOf incoming trades t.maker.orderId = t.size1e8 := by
  have hmaker := (hne t ht).symm
  induction trades with
  | nil => cases ht
  | cons u ts ih =>
    rw [map_cons, nodup_cons] at hnodup
    have hrest := fun v hv => hne v (mem_cons_of_mem u hv)
    rw [tradedOf, map_cons, sum_cons]
    rcases mem_cons.1 ht with rfl | ht
    · rw [if_pos (.inl rfl)]
      refine Nat.add_eq_left.2 (sum_eq_zero fun n hn => ?_)
      obtain ⟨v, hv, rfl⟩ := mem_map.1 hn
      refine if_neg ?_
      rintro (heq | heq)
      · exact hnodup.1 (heq ▸ mem_map_of_mem hv)
      · exact hmaker heq
    · have hu : ¬ (u.maker.orderId = t.maker.orderId ∨ incoming.orderId = t.maker.orderId) := by
        rintro (heq | heq)
        · exact hnodup.1 (heq ▸ mem_map_of_mem ht)
        · exact hmaker heq
      rw [if_neg hu, Nat.zero_add]
      exact ih hnodup.2 hrest ht

variable {id : OrderId}

theorem tradedOf_other (hid : id ≠ incoming.orderId) (hother : ∀ t ∈ trades, id ≠ t.maker.orderId) :
    tradedOf incoming trades id = 0 := by
  refine sum_eq_zero fun n hn => ?_
  obtain ⟨t, ht, rfl⟩ := mem_map.1 hn
  refine if_neg ?_
  rintro (heq | heq)
  · exact hother t ht heq.symm
  · exact hid heq.symm

theorem Valid.filledSize_eq_zero (h : s.Valid) (hnew : s.orders.get? id = none) :
    s.filledSize id = 0 := by
  refine sumBy_eq_zero fun k f hf => if_neg fun hnames => ?_
  obtain ⟨o, ho⟩ := h.fills_known hf hnames
  rw [hnew] at ho
  cases ho

/-- A residual crosses no live order: every order that suits it was traded whole. -/
theorem Valid.residual_uncrossed (h : s.Valid)
    (hrest : tradedSize (optionTrades s.orders incoming) < incoming.size1e8) {o : OptionOrder}
    (hid : id ≠ incoming.orderId)
    (ho : ((bookAfterTrades now (optionTrades s.orders incoming) s.orders).set incoming.orderId
      taker).get? id = some o)
    (hlive : o.status.isLive = true) : ¬ Suits incoming o := by
  intro hsuits
  have hnodup := nodup_optionTrades (fun h' => h.filed h') incoming
  rcases of_get?_matched hnodup ho with ⟨heq, -⟩ | ⟨t, ht, rfl, rfl⟩ | ⟨-, hother, hrow⟩
  · exact hid heq
  · -- a maker that suits was traded whole, so its row is filled
    obtain ⟨hstored, hsuitsMaker, -, -⟩ := of_mem_optionTrades (fun h' => h.filed h') ht
    have hwhole := traded_whole hrest hstored hsuitsMaker
    have heq : t = ⟨t.maker, t.maker.remainingSize1e8⟩ := inj_on_of_nodup_map hnodup ht hwhole rfl
    have hfilled : (t.makerRow now).status = .filled := by
      rw [heq]
      simp [OptionTrade.makerRow, statusForRemaining]
    rw [hfilled] at hlive
    cases hlive
  · exact hother _ (traded_whole hrest hrow hsuits) (h.filed hrow).symm

/-- A live row that is not the arriving order's was live before, with the same
terms. -/
theorem Valid.live_before (h : s.Valid) {o : OptionOrder} (hid : id ≠ incoming.orderId)
    (ho : ((bookAfterTrades now (optionTrades s.orders incoming) s.orders).set incoming.orderId
      taker).get? id = some o)
    (hlive : o.status.isLive = true) :
    ∃ o₀, s.orders.get? id = some o₀ ∧ o.terms = o₀.terms ∧ o₀.status.isLive = true := by
  have hnodup := nodup_optionTrades (fun h' => h.filed h') incoming
  rcases of_get?_matched hnodup ho with ⟨heq, -⟩ | ⟨t, ht, rfl, rfl⟩ | ⟨-, -, hrow⟩
  · exact absurd heq hid
  · obtain ⟨hstored, hsuits, -, -⟩ := of_mem_optionTrades (fun h' => h.filed h') ht
    exact ⟨t.maker, hstored, rfl, hsuits.2.2.1⟩
  · exact ⟨o, hrow, rfl, hlive⟩

/-- **A match leaves the book uncrossed.** -/
theorem Valid.uncrossed_matched (h : s.Valid) (hterms : taker.terms = incoming.terms)
    (htaker : taker.status.isLive = true →
      tradedSize (optionTrades s.orders incoming) < incoming.size1e8)
    (hcons : ∀ {id o}, ((bookAfterTrades now (optionTrades s.orders incoming) s.orders).set
      incoming.orderId taker).get? id = some o → o.Consistent) :
    Uncrossed ((bookAfterTrades now (optionTrades s.orders incoming) s.orders).set
      incoming.orderId taker) := by
  intro i j bid ask hbid hask hbidLive haskLive hseries hbidSide haskSide
  have hsuits : ∀ o, Suits taker o → Suits incoming o := fun o =>
    (iff_of_eq (congr_terms (Suits · o) hterms)).1
  have hrow : ∀ {o}, ((bookAfterTrades now (optionTrades s.orders incoming) s.orders).set
      incoming.orderId taker).get? incoming.orderId = some o → o = taker := by
    intro o ho
    rw [get?_set_self, Option.some.injEq] at ho
    exact ho.symm
  by_cases hi : i = incoming.orderId
  · -- the bid is the residual
    subst hi
    obtain rfl := hrow hbid
    have hj : j ≠ incoming.orderId := by
      rintro rfl
      rw [hrow hask, hbidSide] at haskSide
      cases haskSide
    by_contra hcross
    exact h.residual_uncrossed (htaker hbidLive) hj hask haskLive (hsuits ask (suits_of_crossed
      (hcons hbid) (hcons hask) hbidLive haskLive hseries hbidSide haskSide hcross).1)
  by_cases hj : j = incoming.orderId
  · -- the ask is the residual
    subst hj
    obtain rfl := hrow hask
    by_contra hcross
    exact h.residual_uncrossed (htaker haskLive) hi hbid hbidLive (hsuits bid (suits_of_crossed
      (hcons hbid) (hcons hask) hbidLive haskLive hseries hbidSide haskSide hcross).2)
  · obtain ⟨bid₀, hbid₀, hbidTerms, hbidLive₀⟩ := h.live_before hi hbid hbidLive
    obtain ⟨ask₀, hask₀, haskTerms, haskLive₀⟩ := h.live_before hj hask haskLive
    exact h.price_lt hbid₀ hask₀ hbidTerms haskTerms hbidLive₀ haskLive₀ hseries hbidSide
      haskSide

/-- **A match keeps the book valid.** -/
theorem Valid.matched (h : s.Valid) (hnew : s.orders.get? incoming.orderId = none)
    (hsize : 0 < incoming.size1e8) (hids : FreshFillIds fillIds s.fills)
    (hmatch : referenceMatch s.orders incoming now = .ok (taker, trades)) :
    (matched executionIdOf domain fillIds incoming taker now trades s).Valid := by
  obtain ⟨rfl, rfl, -, hfok⟩ := referenceMatch_eq_ok.1 hmatch
  have hfiled : ∀ {id o}, s.orders.get? id = some o → o.orderId = id := fun h' => h.filed h'
  have hnodup := nodup_optionTrades hfiled incoming
  have hne : ∀ t ∈ optionTrades s.orders incoming, t.maker.orderId ≠ incoming.orderId :=
    fun t ht => maker_ne_incoming hfiled hnew ht
  have htaker : (settledTaker incoming (tradedSize (optionTrades s.orders incoming)) now).Consistent :=
    consistent_settledTaker hsize hfok
  have hcons : ∀ {id o}, ((bookAfterTrades now (optionTrades s.orders incoming) s.orders).set
      incoming.orderId (settledTaker incoming (tradedSize (optionTrades s.orders incoming))
        now)).get? id = some o → o.Consistent := by
    intro id o ho
    rcases of_get?_matched hnodup ho with ⟨rfl, rfl⟩ | ⟨t, ht, rfl, rfl⟩ | ⟨-, -, hrow⟩
    · exact htaker
    · obtain ⟨hstored, hsuits, -, -⟩ := of_mem_optionTrades hfiled ht
      exact OptionTrade.consistent_makerRow (h.consistent hstored) hsuits.2.2.1 now
    · exact h.consistent hrow
  refine ⟨?_, hcons, ?_, ?_, ?_, ?_⟩
  · intro id o ho
    rcases of_get?_matched hnodup ho with ⟨rfl, rfl⟩ | ⟨t, ht, rfl, rfl⟩ | ⟨-, -, hrow⟩
    · exact orderId_settledTaker
    · rfl
    · exact h.filed hrow
  · intro id o ho
    rw [filledSize_matched hids]
    rcases of_get?_matched hnodup ho with ⟨rfl, rfl⟩ | ⟨t, ht, rfl, rfl⟩ | ⟨hid, hother, hrow⟩
    · have hle := tradedSize_le s.orders incoming
      rw [tradedOf_incoming, h.filledSize_eq_zero hnew, remainingSize1e8_settledTaker,
        size1e8_settledTaker]
      omega
    · obtain ⟨hstored, -, -, hfits⟩ := of_mem_optionTrades hfiled ht
      have hsum := h.accounted hstored
      rw [tradedOf_maker hnodup hne ht, OptionTrade.makerRow,
        restated_remainingSize1e8, restated_size1e8]
      omega
    · rw [tradedOf_other hid hother, Nat.zero_add]
      exact h.accounted hrow
  · intro k f hf
    rcases of_get?_setAll (hids.nodup 0 _) hf with ⟨g, hg, -, rfl⟩ | ⟨-, hold⟩
    · obtain ⟨t, ht, fillId, rfl⟩ := of_mem_optionFillRecords hg
      exact (of_mem_optionTrades hfiled ht).2.2.1
    · exact h.fills_pos hold
  · intro k f id hf hnames
    rcases of_get?_setAll (hids.nodup 0 _) hf with ⟨g, hg, -, rfl⟩ | ⟨-, hold⟩
    · obtain ⟨t, ht, fillId, rfl⟩ := of_mem_optionFillRecords hg
      simp only [OptionFill.names, Bool.or_eq_true, decide_eq_true_eq] at hnames
      rcases hnames with hmaker | htakes
      · have hid : t.maker.orderId = id := hmaker
        exact exists_get?_matched hnodup ⟨t.maker, by
          rw [← hid]; exact (of_mem_optionTrades hfiled ht).1⟩
      · have hid : incoming.orderId = id := htakes
        exact ⟨_, by rw [← hid]; exact get?_set_self ..⟩
    · exact exists_get?_matched hnodup (h.fills_known hold hnames)
  · refine h.uncrossed_matched terms_settledTaker (fun hlive => ?_) hcons
    have hpos := htaker.remaining_pos hlive
    rw [remainingSize1e8_settledTaker] at hpos
    omega

end

/-! ## Runs -/

inductive BookCall where
  | submit (incoming : OptionOrder) (fillIds : Nat → Uuid) (now : TimestampMs)
  | cancel (orderId : OrderId) (now : TimestampMs)
  | expire (now : TimestampMs)

/-- What a request makes of the book. -/
def BookCall.run (executionIdOf : ExecutionIdOf) (s : OptionSeriesStore) :
    BookCall → OptionSeriesStore
  | .submit incoming fillIds now => (submitOrderAndMatch executionIdOf fillIds now incoming s).2
  | .cancel orderId now => (cancelOrder orderId now s).2
  | .expire now => (expireOrdersDue now s).2

/-- What may be sent: an order arrives whole, for something, open, and under a name
that was never used; the identifiers drawn for its fills are new. -/
def BookCall.Admissible (s : OptionSeriesStore) : BookCall → Prop
  | .submit incoming fillIds _ =>
    s.orders.get? incoming.orderId = none ∧ incoming.remainingSize1e8 = incoming.size1e8 ∧
      0 < incoming.size1e8 ∧ incoming.status = .open ∧ FreshFillIds fillIds s.fills
  | .cancel _ _ => True
  | .expire _ => True

theorem Valid.call (h : s.Valid) (executionIdOf : ExecutionIdOf) {call : BookCall}
    (hok : call.Admissible s) : (call.run executionIdOf s).Valid := by
  cases call with
  | cancel orderId now => exact h.cancel orderId now
  | expire now => exact h.expire now
  | submit incoming fillIds now =>
    obtain ⟨hnew, hwhole, hsize, -, hids⟩ := hok
    rw [BookCall.run]
    rcases submit_cases h hwhole with ⟨e, hrun⟩ | ⟨taker, trades, hmatch, hrun⟩
    · rw [hrun]
      exact h
    · rw [hrun]
      exact h.matched hnew hsize hids hmatch

/-- **Every reachable book is sound**: orders are accounted for by their fills, their
status says how far they are filled, what must trade at once is never live, and live
orders do not cross. -/
theorem option_book_is_sound {executionIdOf : ExecutionIdOf} {calls : List BookCall}
    {s : OptionSeriesStore} (hrun : Run (stepOf (fun s call => BookCall.run executionIdOf s call)
      fun s call => BookCall.Admissible s call) new calls s) : s.Sound := by
  refine Valid.sound (hrun.invariant (P := Valid) valid_new ?_)
  rintro s call s' hs ⟨hok, rfl⟩
  exact hs.call executionIdOf hok

/-- An ask for five, and a bid at its price for eight, of which three rest. -/
theorem option_book_is_sound_residual : ∃ s : OptionSeriesStore, s.Sound ∧
      (s.orders.get? ⟨2⟩).map (fun o => (o.status, o.remainingSize1e8)) =
        some (.partiallyFilled, 3) ∧
      s.filledSize ⟨1⟩ = 5 := by
  let execId : ExecutionIdOf := fun _ _ _ _ => ""
  let ask : BookCall := .submit (plainOrder 1 "0xa" .sell 100 5) (fun i => i) 0
  let bid : BookCall := .submit (plainOrder 2 "0xb" .buy 100 8) (fun i => i) 1
  have hask : ask.Admissible new := ⟨rfl, rfl, by decide, rfl, fun _ _ h => h, fun _ => rfl⟩
  have hbid : bid.Admissible (ask.run execId new) :=
    ⟨by decide +kernel, rfl, by decide, rfl, fun _ _ h => h, fun _ => rfl⟩
  refine ⟨bid.run execId (ask.run execId new), ?_, by decide +kernel, by decide +kernel⟩
  exact option_book_is_sound ((Run.start.snoc ⟨hask, rfl⟩).snoc ⟨hbid, rfl⟩)

end OptionSeriesStore

end DeoptBackend
