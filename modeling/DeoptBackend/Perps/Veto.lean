import DeoptBackend.Perps.Coverage
import DeoptBackend.Perps.Resting

/-!
# Can a resting maker veto a taker?

A taker whose own checks pass is still refused as a whole when one maker cannot
take its side of a planned fill.

* `MakerVeto` — that it happens: the commit loop comes to a fill that the taker
  takes and the maker refuses.
* `CoveredBook` — the orders under every key are covered; `PerpCall.Careful` — the
  condition on a request, in the ledger before it, that keeps it so.
* `careful_run_has_no_veto` — after a run of careful requests no submit whatever is
  vetoed; without the condition one is (`maker_without_margin_vetoes`).
-/

namespace DeoptBackend

open Function Act List PerpOrder PerpCall PerpOrderStore FMap Option

open PerpPositionsStore (fillKey)
open PerpStores (onOrders)

/-! ## The orders under a key -/

def PerpOrder.WorksAt (lower : String → String) (key : IndexKey) (d : PerpSide) (o : PerpOrder) :
    Prop :=
  o.status.isActive = true ∧ o.key lower = key ∧ o.side.positionSide = d
  deriving Decidable

/-- What is left of the active orders under a key, on a side. -/
def working (lower : String → String) (m : FMap Uuid PerpOrder) (key : IndexKey) (d : PerpSide) :
    Nat :=
  m.sumBy fun o => if o.WorksAt lower key d then o.remainingSize1e8 else 0

/-- The active orders under a key, on a side, are all backed. -/
def AllBacked (lower : String → String) (lev : Nat) (m : FMap Uuid PerpOrder) (key : IndexKey)
    (d : PerpSide) : Prop :=
  ∀ id o, m.get? id = some o → o.WorksAt lower key d → o.Backed lev

variable {m : FMap Uuid PerpOrder} {key : IndexKey}

section

variable {id : Uuid} {o o' : PerpOrder}

section

variable (lower : String → String) (key : IndexKey) (d : PerpSide)

/-- The weight that picks the orders under a key, on a side. -/
def PerpOrder.picked (o : PerpOrder) : Nat :=
  if o.key lower = key ∧ o.side.positionSide = d then 1 else 0

theorem working_eq_resting (lower : String → String) (m : FMap Uuid PerpOrder) (key : IndexKey)
    (d : PerpSide) : working lower m key d = resting (picked lower key d) m := by
  unfold working resting
  congr 1
  funext o
  by_cases hact : o.status.isActive = true <;>
    simp [PerpOrder.WorksAt, picked, hact]

theorem byTerms_picked : ByTerms (picked lower key d) :=
  congr_terms (picked lower key d)

end

theorem remaining_le_working (ho : m.get? id = some o) (hw : o.WorksAt lower key d) :
    o.remainingSize1e8 ≤ working lower m key d := by
  have hle : o.remainingSize1e8 * o.picked lower key d ≤ resting (picked lower key d) m :=
    le_resting ho hw.1
  rwa [picked, if_pos hw.2, mul_one, ← working_eq_resting] at hle

theorem working_congr (h : ∀ id, m.get? id = m'.get? id) (key : IndexKey) :
    working lower m key = working lower m' key :=
  funext fun _ => sumBy_congr h _

theorem PerpOrder.Backed.of_terms (hterms : o'.terms = o.terms) (h : o.Backed lev) :
    o'.Backed lev where
  opens := (congr_terms reduceOnly hterms).trans h.opens
  posted := by rw [congr_terms isolatedMargin1e8 hterms]; exact h.posted
  fits := by
    rw [congr_terms isolatedMargin1e8 hterms, congr_terms size1e8 hterms]
    exact h.fits
  covers := by
    rw [congr_terms isolatedMargin1e8 hterms, congr_terms size1e8 hterms,
      congr_terms price1e8 hterms]
    exact h.covers

theorem PerpOrder.WorksAt.of_terms (hterms : o'.terms = o.terms) (h : o'.WorksAt lower key d)
    (hact : o.status.isActive = true) : o.WorksAt lower key d :=
  ⟨hact, (congr_terms (fun o => o.key lower = key ∧ o.side.positionSide = d) hterms).mp h.2⟩

/-- The orders of `m'` that work are orders of `m` that work, under the same
terms. -/
def Fewer (m m' : FMap Uuid PerpOrder) : Prop :=
  ∀ id o', m'.get? id = some o' → o'.status.isActive = true →
    ∃ o, m.get? id = some o ∧ o.status.isActive = true ∧ o'.terms = o.terms

theorem AllBacked.fewer (hf : Fewer m m') (h : AllBacked lower lev m key d) :
    AllBacked lower lev m' key d := by
  intro id o' ho' hw
  obtain ⟨o, ho, hact, hterms⟩ := hf id o' ho' hw.1
  exact (h id o ho (hw.of_terms hterms hact)).of_terms hterms

end

/-! ## A trade, on the book -/

namespace Standing

section

variable (h : Standing m order t)
include h

theorem worksAt : t.maker.WorksAt lower (t.maker.key lower) t.maker.side.positionSide :=
  ⟨h.active, rfl, rfl⟩

theorem traded_fits : t.size1e8 ≤ maxU128 :=
  h.fits.trans (h.sound.remaining_le.trans h.sound.fits)

theorem positionSide_eq : t.maker.side.positionSide = order.side.positionSide.opposite := by
  rw [h.side, PerpOrderSide.positionSide_opposite]

/-- The maker's order has less left by the trade. -/
theorem working_eq (key : IndexKey) : working lower (bookAfter now m t) key =
      if key = t.maker.key lower then
        Function.update (working lower m key) t.maker.side.positionSide
          (working lower m key t.maker.side.positionSide - t.size1e8)
      else working lower m key := by
  funext d
  have hsum : resting (picked lower key d) (bookAfter now m t) +
      t.size1e8 * t.maker.picked lower key d = resting (picked lower key d) m :=
    resting_bookAfter (byTerms_picked lower key d) h
  rw [← working_eq_resting, ← working_eq_resting, picked] at hsum
  split
  · next hkey =>
      by_cases hd : d = t.maker.side.positionSide
      · subst hd
        rw [if_pos ⟨hkey.symm, rfl⟩] at hsum
        rw [update_self]
        omega
      · rw [if_neg fun h => hd h.2.symm] at hsum
        rw [update_of_ne hd]
        omega
  · next hkey =>
      rw [if_neg fun h => hkey h.1.symm] at hsum
      omega

theorem fewer : Fewer m (bookAfter now m t) := by
  intro id o' ho' hact
  rw [bookAfter, get?_set] at ho'
  split at ho'
  · next hid =>
      obtain rfl := some.inj ho'
      exact ⟨t.maker, hid ▸ h.row, h.active, Trade.terms_makerRow now t⟩
  · exact ⟨o', ho', hact, rfl⟩

end

end Standing

/-! ## The covered book -/

section

variable (lower : String → String) (cfg : PerpsReadConfig) (m : FMap Uuid PerpOrder) (h : Holdings)

def CoveredAt (key : IndexKey) : Prop :=
  Covered (leverage cfg key) (h key) (working lower m key)
    (AllBacked lower (leverage cfg key) m key)

/-- **The orders under every key are covered.** -/
def CoveredBook (s : PerpStores) : Prop :=
  ∀ key, CoveredAt lower cfg s.orders.orders (s.holdings lower) key

end

section

variable {market : PerpsReadMarket} {t : Trade}

theorem Covered.mono (hc : Covered lev x w b) (hb : ∀ d, b d → b' d) : Covered lev x w b' := by
  cases x with
  | none => exact ⟨hc.1, fun d hw => hb d (hc.2 d hw)⟩
  | some => exact ⟨hc.1, fun hw => ⟨hb _ (hc.2 hw).1, (hc.2 hw).2⟩⟩

theorem leverage_of_market (hm : cfg.marketBySymbol key.2.2 = some market) :
    market.maxLeverage = leverage cfg key := by
  rw [leverage, hm]
  rfl

/-- The maker's side of a trade is a fill of the maker's order. -/
theorem Standing.fillOf (hst : Standing m order t) (lower : String → String)
    (hm : cfg.marketBySymbol order.marketId = some market) :
    FillOf market (leverage cfg (t.maker.key lower)) (working lower m (t.maker.key lower))
      (AllBacked lower (leverage cfg (t.maker.key lower)) m (t.maker.key lower)) t.maker t.size1e8
      (makerFillInput order t.maker t.plan) where
  leverage := leverage_of_market (by rwa [← hst.market] at hm)
  side := by rw [hst.side]; rfl
  size := rfl
  price := rfl
  margin := rfl
  sound := hst.sound
  sized := hst.sized
  fits := hst.fits
  working := remaining_le_working hst.row hst.worksAt
  backed := fun hb => hb _ _ hst.row hst.worksAt

/-- A fill is taken by the holdings when the holding under its key takes it. -/
theorem fillHoldings_of_takes {new : Option Holding} (hsize : 0 < fill.size1e8)
    (hprice : 0 < fill.price1e8) (hsym : fill.marketId = market.symbol)
    (h' : Holding.Takes market fill (h (fillKey lower fill)) new) :
    fillHoldings lower market fill h = .ok (Function.update h (fillKey lower fill) new) :=
  fillHoldings_eq_ok.2
    ⟨new, Holding.applyChecked_eq_ok.2 ⟨hsize.ne', hprice.ne', hsym, h'⟩, rfl⟩

/-- A trade under another key leaves a key covered. -/
theorem CoveredAt.elsewhere (hst : Standing m order t) (hc : CoveredAt lower cfg m h key)
    (hne : key ≠ t.maker.key lower) (hh : h₁ key = h key) :
    CoveredAt lower cfg (bookAfter now m t) h₁ key := by
  refine Covered.mono (b := AllBacked lower (leverage cfg key) m key) ?_ fun _ => (·.fewer hst.fewer)
  rw [hst.working_eq, if_neg hne, hh]
  exact hc

/-- **The maker of a trade under a covered key takes its side**, and the key stays
covered. -/
theorem CoveredAt.maker (hst : Standing m order t)
    (hm : cfg.marketBySymbol order.marketId = some market) (hsym : order.marketId = market.symbol)
    (hc : CoveredAt lower cfg m h (t.maker.key lower))
    (hx : ∀ x, h (t.maker.key lower) = some x → x.Sound) :
    ∃ new, fillHoldings lower market (makerFillInput order t.maker t.plan) h =
        .ok (Function.update h (t.maker.key lower) new) ∧
      CoveredAt lower cfg (bookAfter now m t) (Function.update h (t.maker.key lower) new)
        (t.maker.key lower) := by
  obtain ⟨new, htakes, hc'⟩ := hc.takes hx (hst.fillOf lower hm)
  refine ⟨new, ?_, ?_⟩
  · rw [← hst.fillKey_maker lower] at htakes ⊢
    exact fillHoldings_of_takes hst.sized hst.sound.priced hsym htakes
  · rw [CoveredAt, update_self, hst.working_eq, if_pos rfl]
    exact hc'.mono fun _ => (·.fewer hst.fewer)

/-- In the middle of the trades of an arriving order: the other keys are covered, and `own`
is so of its own, by the holding, what works and whether it is backed. -/
structure Amid (lower : String → String) (cfg : PerpsReadConfig) (order : PerpOrder)
    (own : Option Holding → (PerpSide → Nat) → (PerpSide → Prop) → Prop)
    (m : FMap Uuid PerpOrder) (h : Holdings) : Prop where
  others : ∀ key, key ≠ order.key lower → CoveredAt lower cfg m h key
  own : own (h (order.key lower)) (working lower m (order.key lower))
    (AllBacked lower (leverage cfg (order.key lower)) m (order.key lower))
  /-- Holdings are not empty. -/
  sound : ∀ {key x}, h key = some x → x.Sound

/-- Under the key of the order a holding on the other side is levered, and the orders that add
to it backed. -/
abbrev Playing (lower : String → String) (cfg : PerpsReadConfig) (order : PerpOrder) :=
  Amid lower cfg order fun x w b =>
    Sided (leverage cfg (order.key lower)) x w b order.side.positionSide.opposite

/-- Under the key of the order what is left of it, `r`, still joins. -/
abbrev Joining (lower : String → String) (cfg : PerpsReadConfig) (order : PerpOrder) (r : Nat) :=
  Amid lower cfg order fun x w b => Joined (leverage cfg (order.key lower)) order x w b r

theorem Sided.mono {d : PerpSide} (hd : Sided lev x w b d) (hb : b d → b' d) : Sided lev x w b' d :=
  fun h' hh' hs hw => (hd h' hh' hs hw).imp_left hb

theorem CoveredBook.playing (hc : CoveredBook lower cfg s) (hs : s.Valid lower)
    (order : PerpOrder) : Playing lower cfg order s.orders.orders (s.holdings lower) :=
  ⟨fun key _ => hc key, (hc _).sided _, hs.held⟩

theorem Joined.mono (hj : Joined lev order x w b r) (hb : ∀ d, b d → b' d) :
    Joined lev order x w b' r :=
  ⟨hj.1.mono hb, hj.2⟩

theorem takerHalf (hok : fillHoldings lower market (takerFillInput order t.plan) h = .ok h₁) :
    ∃ new, Holding.Takes market (takerFillInput order t.plan) (h (order.key lower)) new ∧
      h₁ = Function.update h (order.key lower) new := by
  obtain ⟨new, happ, rfl⟩ := fillHoldings_eq_ok.1 hok
  exact ⟨new, (Holding.applyChecked_eq_ok.1 happ).2.2.2, rfl⟩

section

variable {cfg : PerpsReadConfig} {order : PerpOrder} (hst : Standing m order t)
  (hm : cfg.marketBySymbol order.marketId = some market) (hsym : order.marketId = market.symbol)
include hst hm hsym

/-- **The maker takes its side of a trade whose taker took its own**, if it can where its order
is under the taker's own key. -/
theorem Amid.next {own own' : Option Holding → (PerpSide → Nat) → (PerpSide → Prop) → Prop}
    (hp : Amid lower cfg order own m h)
    (htaker : fillHoldings lower market (takerFillInput order t.plan) h = .ok h₁)
    (hmono : ∀ {x w b b'}, own' x w b → (∀ d, b d → b' d) → own' x w b')
    (helse : ∀ {x}, Holding.Takes market (takerFillInput order t.plan) (h (order.key lower)) x →
      own' x (working lower m (order.key lower))
        (AllBacked lower (leverage cfg (order.key lower)) m (order.key lower)))
    (hsame : ∀ {x w b}, Holding.Takes market (takerFillInput order t.plan) (h (order.key lower)) x →
      (∀ y, x = some y → y.Sound) → own (h (order.key lower)) w b → own' x w b →
      FillOf market (leverage cfg (order.key lower)) w b t.maker t.size1e8
        (makerFillInput order t.maker t.plan) →
      ∃ x', Holding.Takes market (makerFillInput order t.maker t.plan) x x' ∧ own' x'
        (Function.update w t.maker.side.positionSide (w t.maker.side.positionSide - t.size1e8)) b) :
    ∃ h₂, fillHoldings lower market (makerFillInput order t.maker t.plan) h₁ = .ok h₂ ∧
      Amid lower cfg order own' (bookAfter now m t) h₂ := by
  have hfits := hst.traded_fits
  have hsound₁ : ∀ {key x}, h₁ key = some x → x.Sound := fillHoldings_sound htaker hfits hp.sound
  obtain ⟨x₁, htakes, rfl⟩ := takerHalf htaker
  by_cases hkey : t.maker.key lower = order.key lower
  -- the maker's order is under the taker's own key
  · have hfill := hst.fillOf lower hm
    rw [hkey] at hfill
    obtain ⟨x₂, htakes₂, hown⟩ := hsame htakes
      (fun x hx => hsound₁ (by rw [update_self]; exact hx)) hp.own (helse htakes) hfill
    have hfk : fillKey lower (makerFillInput order t.maker t.plan) = order.key lower := by
      rw [hst.fillKey_maker lower, hkey]
    have hat : Function.update h (order.key lower) x₁
        (fillKey lower (makerFillInput order t.maker t.plan)) = x₁ := by
      rw [hfk, update_self]
    have hmaker : fillHoldings lower market (makerFillInput order t.maker t.plan)
        (Function.update h (order.key lower) x₁) =
          .ok (Function.update h (order.key lower) x₂) := by
      rw [fillHoldings_of_takes hst.sized hst.sound.priced hsym (by rw [hat]; exact htakes₂), hfk,
        update_idem]
    refine ⟨_, hmaker, fun key hne => ?_, ?_, fillHoldings_sound hmaker hfits hsound₁⟩
    · exact (hp.others key hne).elsewhere hst (by rwa [hkey]) (update_of_ne hne _ _)
    · rw [update_self, hst.working_eq, if_pos hkey.symm]
      exact hmono hown fun _ => (·.fewer hst.fewer)
  -- the maker's order is under a covered key
  · have hat : Function.update h (order.key lower) x₁ (t.maker.key lower) = h (t.maker.key lower) :=
      update_of_ne hkey _ _
    have hc : CoveredAt lower cfg m (Function.update h (order.key lower) x₁)
        (t.maker.key lower) := by
      rw [CoveredAt, hat]
      exact hp.others _ hkey
    obtain ⟨x₂, hmaker, hc₂⟩ := hc.maker hst hm hsym fun _ hx => hp.sound (hat.symm.trans hx)
    refine ⟨_, hmaker, fun key hne => ?_, ?_, fillHoldings_sound hmaker hfits hsound₁⟩
    · by_cases hk : key = t.maker.key lower
      · rw [hk]
        exact hc₂
      · exact (hp.others key hne).elsewhere hst hk (by rw [update_of_ne hk, update_of_ne hne])
    · rw [update_of_ne (Ne.symm hkey), update_self, hst.working_eq, if_neg (Ne.symm hkey)]
      exact hmono (helse htakes) fun _ => (·.fewer hst.fewer)

theorem Playing.next (hp : Playing lower cfg order m h)
    (htaker : fillHoldings lower market (takerFillInput order t.plan) h = .ok h₁) :
    ∃ h₂, fillHoldings lower market (makerFillInput order t.maker t.plan) h₁ = .ok h₂ ∧
      Playing lower cfg order (bookAfter now m t) h₂ := by
  have hside : (takerFillInput order t.plan).side = order.side.positionSide.opposite.opposite := by
    rw [PerpSide.opposite_opposite]
    rfl
  refine Amid.next hst hm hsym hp htaker (fun hown hb => hown.mono (hb _))
    (fun htakes => hp.own.taker htakes hside) fun htakes _ hown _ hfill => ?_
  rw [← hst.positionSide_eq] at hown hside ⊢
  exact hown.maker htakes hside rfl hst.traded_fits hfill

theorem Joining.next (hp : Joining lower cfg order r m h) (hle : t.size1e8 ≤ r)
    (hfit : t.size1e8 * t.maker.price1e8 ≤ maxU128)
    (htaker : fillHoldings lower market (takerFillInput order t.plan) h = .ok h₁) :
    ∃ h₂, fillHoldings lower market (makerFillInput order t.maker t.plan) h₁ = .ok h₂ ∧
      Joining lower cfg order (r - t.size1e8) (bookAfter now m t) h₂ :=
  Amid.next hst hm hsym hp htaker Joined.mono
    (fun htakes => hp.own.taker (fun _ hx => hp.sound hx) htakes (leverage_of_market hm) rfl
      hst.sized hle hfit)
    fun _ hx _ hown hfill => hown.maker hx hfill hst.positionSide_eq

end

/-! ### A list of trades -/

theorem Playing.run (hp : Playing lower cfg order m h) (hst : AllStanding m order trades)
    (hm : cfg.marketBySymbol order.marketId = some market) (hsym : order.marketId = market.symbol)
    (hall : tradeAll lower market order trades h = .ok h₂) :
    Playing lower cfg order (trades.foldl (bookAfter now) m) h₂ := by
  induction trades generalizing m h with
  | nil =>
    cases hall
    exact hp
  | cons t ts ih =>
    obtain ⟨mid, ht, hts⟩ := tradeAll_cons_eq_ok.1 hall
    obtain ⟨half, htaker, hmaker⟩ := trade_eq_ok.1 ht
    obtain ⟨mid', hmaker', hnext⟩ := Playing.next (hst.standing t mem_cons_self) hm hsym hp htaker
    obtain rfl := Except.ok.inj (hmaker.symm.trans hmaker')
    exact ih hnext hst.tail hts

theorem Joining.run (hp : Joining lower cfg order r m h) (hst : AllStanding m order trades)
    (hm : cfg.marketBySymbol order.marketId = some market)
    (hsym : order.marketId = market.symbol) (hle : Trade.total trades ≤ r)
    (hfit : ∀ t ∈ trades, t.size1e8 * t.maker.price1e8 ≤ maxU128)
    (hall : tradeAll lower market order trades h = .ok h₂) :
    Joining lower cfg order (r - Trade.total trades) (trades.foldl (bookAfter now) m) h₂ := by
  induction trades generalizing m h r with
  | nil =>
    cases hall
    exact hp
  | cons t ts ih =>
    obtain ⟨mid, ht, hts⟩ := tradeAll_cons_eq_ok.1 hall
    obtain ⟨half, htaker, hmaker⟩ := trade_eq_ok.1 ht
    rw [Trade.total_cons] at hle ⊢
    rw [← Nat.sub_sub]
    obtain ⟨mid', hmaker', hnext⟩ := Joining.next (hst.standing t mem_cons_self) hm hsym hp
      (by omega) (hfit t mem_cons_self) htaker
    obtain rfl := Except.ok.inj (hmaker.symm.trans hmaker')
    exact ih hnext hst.tail (by omega) (fun u hu => hfit u (mem_cons_of_mem _ hu)) hts

end

/-! ## The book between requests -/

theorem Covered.anti (hc : Covered lev x w b) (hw : ∀ d, w' d ≤ w d) : Covered lev x w' b := by
  cases x with
  | none =>
    obtain ⟨⟨d, hd⟩, hall⟩ := hc
    exact ⟨⟨d, Nat.eq_zero_of_le_zero (hd ▸ hw d)⟩, fun d hpos => hall d (hpos.trans_le (hw d))⟩
  | some => exact ⟨(hw _).trans hc.1, fun hpos => hc.2 (hpos.trans_le (hw _))⟩

theorem CoveredAt.fewer (hc : CoveredAt lower cfg m h key) (hf : Fewer m m')
    (hw : ∀ d, working lower m' key d ≤ working lower m key d) : CoveredAt lower cfg m' h key :=
  Covered.mono (Covered.anti hc hw) fun _ hb => hb.fewer hf

/-- Nothing stands under a key without active orders. -/
theorem coveredAt_of_idle (hidle : ∀ d, working lower m key d = 0) :
    CoveredAt lower cfg m h key := by
  rw [CoveredAt]
  cases h key with
  | none => exact ⟨⟨.long, hidle _⟩, fun d hw => absurd (hidle d) hw.ne'⟩
  | some =>
    refine ⟨?_, fun hw => absurd (hidle _) hw.ne'⟩
    rw [hidle]
    exact Nat.zero_le _

/-- What stands in a book with one more row. -/
theorem working_set_new {id : Uuid} (hid : m.get? id = none) (key : IndexKey) (d : PerpSide) :
    working lower (m.set id o) key d =
      (if o.WorksAt lower key d then o.remainingSize1e8 else 0) + working lower m key d :=
  sumBy_set_new hid o _

/-- A row that does not work under a key changes nothing there. -/
theorem CoveredAt.set_idle {id : Uuid} (hc : CoveredAt lower cfg m h key) (hid : m.get? id = none)
    (hidle : ∀ d, ¬ o.WorksAt lower key d) : CoveredAt lower cfg (m.set id o) h key := by
  have hw : working lower (m.set id o) key = working lower m key := by
    funext d
    rw [working_set_new hid, if_neg (hidle d), Nat.zero_add]
  rw [CoveredAt, hw]
  exact hc.mono fun d hb id' o' ho' => forall_set ho' (absurd · (hidle d)) (hb _ _)

theorem CoveredAt.congr (hc : CoveredAt lower cfg m h key) (heq : ∀ id, m'.get? id = m.get? id) :
    CoveredAt lower cfg m' h key := by
  refine hc.fewer (fun id o ho hact => ⟨o, heq id ▸ ho, hact, rfl⟩) fun d => ?_
  rw [working_congr heq]

/-- **What is left of an order that joined rests covered.** -/
theorem Joining.rests {id : Uuid} (hp : Joining lower cfg order o.remainingSize1e8 m h)
    (hid : m.get? id = none)
    (hlive : ∀ id o, m.get? id = some o → o.status.isActive = true → 0 < o.remainingSize1e8)
    (hterms : o.terms = order.terms) (hleft : 0 < o.remainingSize1e8)
    (hact : o.status.isActive = true) (hgtc : order.timeInForce = .gtc) :
    CoveredAt lower cfg (m.set id o) h (order.key lower) := by
  have hkey : o.key lower = order.key lower := congr_terms (key lower) hterms
  have hside : o.side = order.side := congr_terms side hterms
  have hw : working lower (m.set id o) (order.key lower) =
      Function.update (working lower m (order.key lower)) order.side.positionSide
        (working lower m (order.key lower) order.side.positionSide + o.remainingSize1e8) := by
    funext d
    rw [working_set_new hid]
    by_cases hd : d = order.side.positionSide
    · subst hd
      rw [if_pos ⟨hact, hkey, by rw [hside]⟩, update_self, Nat.add_comm]
    · rw [if_neg fun hworks => hd (by rw [← hworks.2.2, hside]), update_of_ne hd, Nat.zero_add]
  rw [CoveredAt, hw]
  refine hp.own.rests hleft hgtc fun d hb hbacked id' o' ho' hworks => ?_
  rw [get?_set] at ho'
  split at ho'
  · obtain rfl := some.inj ho'
    exact (hbacked (by rw [← hworks.2.2, hside])).of_terms hterms
  · have hpos := hlive id' o' ho' hworks.1
    exact hb (hpos.trans_le (remaining_le_working ho' hworks)) id' o' ho' hworks

/-- **An accepted submit of an order that joins keeps the book covered.** -/
theorem Submitted.coveredBook (hsub : Submitted lower cfg draws oracleRead input market s out s')
    (hs : s.Valid lower) (hd : draws.Fresh s) (hfits : input.size1e8 ≤ maxU128)
    (hc : CoveredBook lower cfg s)
    (hfit : ∀ t ∈ tradesFor s.orders (input.row draws), t.size1e8 * t.maker.price1e8 ≤ maxU128)
    (hjoins : Joins (leverage cfg ((input.row draws).key lower)) (input.row draws)
      (s.holdings lower ((input.row draws).key lower))
      (working lower s.orders.orders ((input.row draws).key lower)) input.size1e8) :
    CoveredBook lower cfg s' := by
  set order := input.row draws with horder
  have hm : cfg.marketBySymbol order.marketId = some market := (preSubmit_eq_ok.1 hsub.checked).2.2.1
  have htotal : Trade.total (tradesFor s.orders order) ≤ order.size1e8 := total_tradesFrom_le _ _ _
  have hstart : Joining lower cfg order order.size1e8 s.orders.orders (s.holdings lower) :=
    ⟨fun key _ => hc key, ⟨hc _, fun _ => hjoins⟩, hs.held⟩
  have hend : Joining lower cfg order (order.size1e8 - Trade.total (tradesFor s.orders order))
      ((tradesFor s.orders order).foldl (bookAfter draws.now) s.orders.orders)
      (s'.holdings lower) :=
    hstart.run (hs.allStanding order) hm hsub.symbol_eq.symm htotal hfit hsub.admitted.trades
  set book := (tradesFor s.orders order).foldl (bookAfter draws.now) s.orders.orders with hbook
  have hnew : book.get? draws.orderId = none := hd.get?_foldl_bookAfter hs order
  have hlive : ∀ id o, book.get? id = some o → o.status.isActive = true → 0 < o.remainingSize1e8 := by
    intro id o ho hact
    have hne : id ≠ draws.orderId := by
      rintro rfl
      rw [hnew] at ho
      cases ho
    have hrow : s'.orders.get id = some o := by
      rw [← ho]
      exact (hsub.book hs hd id).trans (get?_set_ne _ hne _)
    exact ((hsub.valid hs hd hfits).rows hrow).live hact
  obtain ⟨-, hleft, hactive⟩ := settledRow_amounts draws htotal
  have hout : out.order = settledRow order draws (tradesFor s.orders order) := by rw [hsub.outcome]
  rw [← hout] at hleft hactive
  have hterms : out.order.terms = order.terms := by rw [hout, terms_settledRow]
  rw [← hleft] at hend
  intro key
  refine CoveredAt.congr ?_ (hsub.book hs hd)
  by_cases hworks : out.order.status.isActive = true ∧ key = order.key lower
  · obtain ⟨hact, rfl⟩ := hworks
    obtain ⟨hgtc, hlt⟩ := hactive.1 hact
    exact hend.rests hnew hlive hterms (by omega) hact hgtc
  have hidle : ∀ d, ¬ out.order.WorksAt lower key d := by
    rintro d ⟨hact, hkey, -⟩
    refine hworks ⟨hact, ?_⟩
    rw [← hkey, congr_terms (PerpOrder.key lower) hterms]
  refine CoveredAt.set_idle ?_ hnew hidle
  by_cases hkey : key = order.key lower
  · subst hkey
    exact hend.own.1
  · exact hend.others key hkey

/-! ### Cancels and ticks -/

/-- An order that ends leaves the others covered. -/
theorem CoveredAt.ended {id : Uuid} (hc : CoveredAt lower cfg m h key) (ho : m.get? id = some o)
    (hend : o'.status.isActive = false) : CoveredAt lower cfg (m.set id o') h key := by
  refine hc.fewer (fun id' o₁ ho₁ => ?_) fun d => ?_
  · exact forall_set ho₁ (fun hact => by cases hend.symm.trans hact)
      fun ho hact => ⟨_, ho, hact, rfl⟩
  · rw [working_eq_resting, working_eq_resting]
    exact resting_ended_le ho hend

/-- A settlement keeps the book covered, if what it leaves under a key where orders add
to the position is levered. -/
theorem CoveredBook.settled {l : PerpLedger} {read : FundingIndexRead} {payment1e8 : Int}
    {indices : FMap String (Option FundingIndexRead)}
    (hc : CoveredBook lower cfg l.stores)
    (hset : Settles lower indices l p read payment1e8) (hs : l.stores.positions.WellFormed lower)
    (hlev : 0 < working lower l.stores.orders.orders (p.key lower) p.side →
      Levered (leverage cfg (p.key lower)) p.size1e8 p.entryPrice1e8
        (applyFundingPaymentToMargin p.margin1e8 payment1e8).1) (id : Uuid) :
    CoveredBook lower cfg (l.settled p read.cumulativeIndex1e18 payment1e8 now id).stores := by
  intro key
  have hkey := hc key
  rw [CoveredAt, hset.holdings_eq hs]
  by_cases heq : key = p.key lower
  · subst heq
    rw [CoveredAt, hset.holding] at hkey
    rw [if_pos rfl]
    exact ⟨hkey.1, fun hw => ⟨(hkey.2 hw).1, hlev hw⟩⟩
  · rw [if_neg heq]
    exact hkey

/-- A look at a position keeps the book covered: a liquidation cancels the orders under
the key it closes. -/
theorem LiquidationStep.coveredBook {l l' : PerpLedger} (hstep : LiquidationStep lower now l l')
    (hs : l.stores.Valid lower) (hc : CoveredBook lower cfg l.stores) :
    CoveredBook lower cfg l'.stores := by
  cases hstep with
  | idle => exact hc
  | noted => exact hc
  | @liquidated p mark1e8 event hp =>
    set s' := PerpLedger.liquidatedStores lower p mark1e8 now l.stores with hs'
    -- what still works is as it was, and under another key
    have hrow : ∀ id o, s'.orders.get id = some o → o.status.isActive = true →
        l.stores.orders.get id = some o ∧ o.key lower ≠ p.key lower := by
      intro id o ho hact
      rw [hs', get_liquidatedStores (p := p) hs.wellFormed mark1e8 now] at ho
      obtain ⟨o₀, ho₀, rfl⟩ := map_eq_some_iff.1 ho
      split at hact
      · cases hact
      · next hnot =>
          rw [if_neg hnot]
          exact ⟨ho₀, fun hkey => hnot ⟨hkey, hact⟩⟩
    intro key
    by_cases hkey : key = p.key lower
    · refine coveredAt_of_idle fun d => sumBy_eq_zero fun id o ho => if_neg ?_
      rintro ⟨hact, hokey, -⟩
      exact (hrow id o ho hact).2 (hokey.trans hkey)
    have hkept : CoveredAt lower cfg l.stores.orders.orders (s'.holdings lower) key := by
      rw [CoveredAt, hs', holdings_liquidatedStores hs.wellFormed.positions hp, if_neg hkey]
      exact hc key
    refine hkept.fewer (fun id o ho hact => ⟨o, (hrow id o ho hact).1, hact, rfl⟩) fun d => ?_
    rw [working_eq_resting, working_eq_resting]
    exact resting_liquidatedStores_le p mark1e8 now l.stores

/-! ## Careful requests -/

/-- **The condition on a request, in the ledger before it.**  An order fits to what
stands under its key, and its trades are priced without overflow; a funding tick leaves
the positions that resting orders add to levered. -/
def PerpCall.Careful (lower : String → String) (cfg : PerpsReadConfig) :
    PerpCall → PerpLedger → Prop
  | submit draws _ input, l =>
    let order := input.row draws
    let key := order.key lower
    (∀ id o, l.stores.orders.get id = some o → o.status.isActive = true →
      o.marketId = order.marketId → o.side = order.side.opposite →
      input.size1e8 * o.price1e8 ≤ maxU128) ∧
    Joins (leverage cfg key) order (l.stores.holdings lower key)
      (working lower l.stores.orders.orders key) input.size1e8
  | cancel _ _ _, _ => True
  | fundingTick reader now _, l =>
    ∀ p ∈ tickCandidates cfg l.stores.positions, ∀ read,
      (prefetchFundingIndices cfg reader now).get? p.marketId = some (some read) →
      ∀ payment1e8, calculateFundingPayment1e8 p.side p.size1e8 p.lastFundingIndex1e18
        read.cumulativeIndex1e18 = .ok payment1e8 →
      0 < working lower l.stores.orders.orders (p.key lower) p.side →
      Levered (leverage cfg (p.key lower)) p.size1e8 p.entryPrice1e8
        (applyFundingPaymentToMargin p.margin1e8 payment1e8).1
  | liquidationTick _ _ _, _ => True

section

variable {call : PerpCall}

theorem PerpCall.run_coveredBook (hcall : call.Admissible l) (hcareful : call.Careful lower cfg l)
    (hs : l.stores.Valid lower) (hc : CoveredBook lower cfg l.stores) :
    CoveredBook lower cfg (call.run lower cfg l).stores := by
  cases call with
  | submit draws answer input =>
    obtain ⟨hd, hfits⟩ := hcall
    obtain ⟨hpriced, hjoins⟩ := hcareful
    rcases run_submit hs.wellFormed hd with hidle | ⟨market, out, s', hsub, hrun⟩
    · rw [hidle]
      exact hc
    rw [hrun]
    refine hsub.coveredBook hs hd hfits.size hc (fun t ht => ?_) hjoins
    obtain ⟨hrow, hmarket, hactive, hside⟩ := tradesFor_maker hs.wellFormed ht
    have hsize : t.size1e8 ≤ input.size1e8 :=
      (single_le_sum (fun _ _ => Nat.zero_le _) _ (mem_map_of_mem ht)).trans
        (total_tradesFrom_le _ _ _)
    exact (Nat.mul_le_mul_right _ hsize).trans (hpriced _ _ hrow hactive hmarket hside)
  | cancel orderId caller now =>
    rcases run_cancel orderId caller now with hidle | ⟨o, ho, hrun⟩
    · rw [hidle]
      exact hc
    · rw [hrun]
      exact fun key => (hc key).ended ho rfl
  | fundingTick =>
    -- a settlement leaves the orders, so what works before the tick works throughout
    refine (runPerpFundingTick_induct (P := fun l' => l'.stores.orders = l.stores.orders ∧
      CoveredBook lower cfg l'.stores) (fun hp hl' hP hset => ?_) hs.wellFormed.positions
      ⟨rfl, hc⟩).2.2
    obtain ⟨horders, hc'⟩ := hP
    refine ⟨horders, hc'.settled hset hl' (fun hw => ?_) _⟩
    rw [horders] at hw
    exact hcareful _ hp _ hset.index _ hset.payment hw
  | liquidationTick =>
    exact (runPerpLiquidationTick_induct (P := fun l' => l'.stores.Valid lower ∧
      CoveredBook lower cfg l'.stores)
      (fun _ hP hstep => ⟨hstep.valid hP.1, hstep.coveredBook hP.1 hP.2⟩)
      hs.wellFormed.positions ⟨hs, hc⟩).2.2

/-- The ledgers that are reached from nothing by careful requests. -/
def CarefulRun (lower : String → String) (cfg : PerpsReadConfig) (calls : List PerpCall)
    (l : PerpLedger) : Prop :=
  Run (stepOf (fun l call => run lower cfg call l)
    fun l call => call.Admissible l ∧ call.Careful lower cfg l) PerpLedger.empty calls l

/-- **After careful requests the book is covered.** -/
theorem CarefulRun.coveredBook {calls : List PerpCall} (hrun : CarefulRun lower cfg calls l) :
    l.stores.Valid lower ∧ CoveredBook lower cfg l.stores := by
  refine Run.invariant (P := fun l => l.stores.Valid lower ∧ CoveredBook lower cfg l.stores) hrun
    ⟨PerpStores.valid_empty, fun key => coveredAt_of_idle fun d => rfl⟩ ?_
  rintro l call _ ⟨hs, hc⟩ ⟨⟨hcall, hcareful⟩, rfl⟩
  exact ⟨run_valid hcall hs, run_coveredBook hcall hcareful hs hc⟩

end

/-! ## The veto -/

/-- Where a maker refuses: the order passed its own checks and was inserted as `order`,
the gates let it through, and the commit loop came to a fill whose taker's half is
applied and whose maker's half fails. -/
structure VetoAt (lower : String → String) (cfg : PerpsReadConfig) (draws : SubmitDraws)
    (answer : Except BackendError RawPriceRead) (input : SubmitPerpOrderInput) (s : PerpStores)
    (e : Fault) (market : PerpsReadMarket) (order maker : PerpOrder) (i : Nat) (plan : PlannedFill)
    (s₁ a a₁ a₂ a₃ : PerpStores) : Prop where
  /-- Validation and the risk gate. -/
  checked : preSubmit lower cfg draws.checkedAtMs (prepareSubmitOracle cfg answer input) s.positions
    input = .ok market
  inserted : onOrders (insertOrder lower (input.row draws)) s = (.ok order, s₁)
  /-- No self-trade, and the post-only and fill-or-kill gates are passed. -/
  gates : onOrders (arrivalGates order (planFills s₁.orders order) draws.now) s₁ = (.ok (), s₁)
  /-- The reduce-only check is passed. -/
  reduces : enforceReduceOnly lower s₁.positions order = .ok ()
  /-- The loop comes to this fill. -/
  reached : AtFill lower market order draws s₁ i plan a
  /-- The maker's row is written and read back. -/
  row : fillMakerRow draws.now plan a = (.ok maker, a₁)
  /-- The taker takes its side. -/
  taker : ∃ out, applyTaker lower market order (draws.fills i) plan a₁ = (.ok out, a₂)
  refused : applyMaker lower market order maker (draws.fills i) plan a₂ = (.error e, a₃)

/-- **A maker vetoes an order**: it is refused, with the error of the maker's half of a
fill. -/
def MakerVeto (lower : String → String) (cfg : PerpsReadConfig) (draws : SubmitDraws)
    (answer : Except BackendError RawPriceRead) (input : SubmitPerpOrderInput) (s : PerpStores)
    (e : Fault) : Prop :=
  ∃ market order maker i plan s₁ a a₁ a₂ a₃,
    VetoAt lower cfg draws answer input s e market order maker i plan s₁ a a₁ a₂ a₃

/-- The loop stops at the first fill that fails. -/
theorem commitFills_append_error {before after : List PlannedFill} {plan : PlannedFill}
    {r : List PerpFill × Nat} {i left : Nat} {a b : PerpStores}
    (hbefore : commitFills lower market order draws i left before s = (.ok r, a))
    (hfail : commitFill lower market order draws.now (draws.fills (i + before.length)) plan a =
      (.error e, b)) :
    commitFills lower market order draws i left (before ++ plan :: after) s = (.error e, b) := by
  induction before generalizing i left s r with
  | nil =>
    obtain ⟨-, rfl⟩ := Prod.mk.inj hbefore
    exact bind_of_error hfail
  | cons p before ih =>
    obtain ⟨f, s₁, hp, hrest⟩ := bind_eq_ok.1 hbefore
    obtain ⟨r', s₂, hbefore', hpure⟩ := bind_eq_ok.1 hrest
    obtain ⟨-, rfl⟩ := Prod.mk.inj hpure
    rw [length_cons, Nat.add_comm before.length, ← Nat.add_assoc] at hfail
    rw [cons_append, commitFills, bind_of_ok hp, bind_of_error (ih hbefore' hfail)]

/-- **A vetoed order is refused with the maker's error**, and leaves nothing behind. -/
theorem MakerVeto.refused (h : MakerVeto lower cfg draws answer input s e) :
    submitPerpOrderViaState lower cfg draws answer input s = (.error e, s) := by
  obtain ⟨market, order, maker, i, plan, s₁, a, a₁, a₂, a₃, hveto⟩ := h
  obtain ⟨before, after, r, hplan, rfl, hbefore⟩ := hveto.reached
  obtain ⟨out, htaker⟩ := hveto.taker
  have hfill : commitFill lower market order draws.now (draws.fills (0 + before.length)) plan a =
      (.error e, a₃) := by
    rw [Nat.zero_add, commitFill, bind_of_ok hveto.row, bind_of_ok htaker,
      bind_of_error hveto.refused]
  have hgates := hveto.gates
  rw [hplan] at hgates
  have hinner : submitPerpOrderInternalWithOracle lower cfg draws
      (prepareSubmitOracle cfg answer input) input s = (.error e, a₃) := by
    rw [submitPerpOrderInternalWithOracle, read_bind, check_bind hveto.checked,
      ← SubmitPerpOrderInput.row, bind_of_ok hveto.inserted, matchOrder, read_bind, hplan,
      bind_of_ok hgates, read_bind, check_bind hveto.reduces,
      bind_of_error (commitFills_append_error hbefore hfill)]
  rw [submitPerpOrderViaState, Act.atomically, hinner]

/-- Above a covered book no maker refuses. -/
theorem CoveredBook.no_veto (hs : s.Valid lower) (hd : draws.Fresh s)
    (hc : CoveredBook lower cfg s) :
    ¬ MakerVeto lower cfg draws answer input s e := by
  rintro ⟨market, order, maker, i, plan, s₁, a, a₁, a₂, a₃, hveto⟩
  obtain ⟨orders, hinsert, rfl⟩ := zoom_eq_ok.1 hveto.inserted
  obtain ⟨-, rfl, rfl⟩ := insertOrder_eq_ok.1 hinsert
  obtain ⟨before, t, after, htrades, rfl, rfl, hcommits, hready⟩ := hveto.reached.inv
    (hs.wellFormed.ready hd rfl) (planFills_inserted lower hd.order)
  have hm : cfg.marketBySymbol (input.row draws).marketId = some market :=
    (preSubmit_eq_ok.1 hveto.checked).2.2.1
  have hsym : (input.row draws).marketId = market.symbol :=
    (PerpsReadConfig.symbol_of_marketBySymbol hm).symm
  have hstanding := hs.allStanding (input.row draws)
  rw [htrades] at hstanding
  have hplaying : Playing lower cfg (input.row draws)
      (before.foldl (bookAfter draws.now) s.orders.orders) (a.holdings lower) :=
    (hc.playing hs _).run hstanding.append_left hm hsym hcommits.tradeAll
  -- the taker's half
  obtain ⟨hnewTaker, hnewMaker, hne⟩ := hready.undrawn.drawn
  obtain ⟨hrow, rfl⟩ := Prod.mk.inj
    ((fillMakerRow_run (hready.planned.rows t mem_cons_self)).symm.trans hveto.row)
  obtain rfl := Except.ok.inj hrow
  obtain ⟨out, htaker⟩ := hveto.taker
  obtain ⟨p₂, hrun, rfl⟩ := zoom_eq_ok.1 htaker
  obtain ⟨_, -, hfilled, -⟩ := (PerpPositionsStore.apply_spec hready.positions hnewTaker).inv hrun
  -- so the maker's half goes through
  have hnext : ∃ h₂, fillHoldings lower market (makerFillInput (input.row draws) t.maker t.plan)
        (p₂.holdingAt lower) = .ok h₂ ∧
      Playing lower cfg (input.row draws)
        (bookAfter draws.now (before.foldl (bookAfter draws.now) s.orders.orders) t) h₂ :=
    Playing.next (hstanding.append_right.standing t mem_cons_self) hm hsym hplaying
      hfilled.rows.fillHoldings
  obtain ⟨h₂, hmaker, -⟩ := hnext
  obtain ⟨out', p₃, hok, -⟩ := (PerpPositionsStore.apply_spec hfilled.wellFormed
    (hfilled.rows.unused hne hnewMaker)).ok hmaker
  cases (applyMaker_run hok).symm.trans hveto.refused

/-- **After careful requests no maker vetoes an order**, whatever the order is. -/
theorem careful_run_has_no_veto {calls : List PerpCall} {l : PerpLedger}
    (hrun : CarefulRun lower cfg calls l)
    (hadm : (submit draws answer input).Admissible l) :
    ¬ MakerVeto lower cfg draws answer input l.stores e :=
  let ⟨hs, hc⟩ := hrun.coveredBook
  hc.no_veto hs hadm.1

namespace EthPerp

def askWith (margin1e8 : Nat) : SubmitPerpOrderInput :=
  limit "bob" .sell 300000000000 100000000 margin1e8

/-- The bid that meets it, fully paid. -/
def buyer : SubmitPerpOrderInput := limit "alice" .buy 300000000000 100000000 300000000000

def buyPlan : PlannedFill := ⟨1000, ⟨"bob"⟩, 300000000000, 100000000⟩

def filledAsk (margin1e8 : Nat) : PerpOrder :=
  { (askWith margin1e8).row (draws 1) with
    remainingSize1e8 := 0
    filledSize1e8 := 100000000
    status := .filled
    terminalReasonCode := some "filled"
    terminalReasonSource := some "matching_policy"
    updatedAtMs := 2 }

/-- The stores with the ask in the book and the bid inserted. -/
def buying (margin1e8 : Nat) : PerpStores :=
  (after market [askWith margin1e8]).stores.withOrders
    ((after market [askWith margin1e8]).stores.orders.inserted id (buyer.row (draws 2)))

end EthPerp

open EthPerp in
/-- An ask with the margin a tenfold leverage asks for does not veto the bid. -/
theorem careful_run_has_no_veto_backed_ask :
    CarefulRun id (config market) (calls [askWith 30000000000]) (after market [askWith 30000000000]) ∧
      (∀ e, ¬ MakerVeto id (config market) (draws 2) read buyer
        (after market [askWith 30000000000]).stores e) ∧
      ((submitPerpOrderViaState id (config market) (draws 2) read buyer
        (after market [askWith 30000000000]).stores).1.toOption.map fun out =>
          out.fills.map (·.size1e8)) = some [100000000] := by
  have hadm : ∀ n l input, below n l = true → input.size1e8 ≤ maxU128 → input.price1e8 ≤ maxU128 →
      input.isolatedMargin1e8 ≤ maxU128 → (submit (draws n) read input).Admissible l :=
    fun _ _ _ hn hsize hprice hmargin => ⟨fresh_of_below hn, hsize, hprice, hmargin⟩
  have hcareful : (submit (draws 1) read (askWith 30000000000)).Careful id (config market)
      PerpLedger.empty := by
    refine ⟨fun id o ho => ?_, rfl, fun _ => ⟨rfl, by decide, by decide, by decide⟩⟩
    simp [PerpLedger.empty, PerpStores.empty, PerpOrderStore.empty, PerpOrderStore.get] at ho
  have hrun : CarefulRun id (config market) (calls [askWith 30000000000])
      (after market [askWith 30000000000]) :=
    Run.start.snoc ⟨⟨hadm 1 _ _ (by decide +kernel) (by decide) (by decide) (by decide), hcareful⟩,
      rfl⟩
  refine ⟨hrun, fun e => careful_run_has_no_veto hrun ?_, by decide +kernel⟩
  exact hadm 2 _ _ (by decide +kernel) (by decide) (by decide) (by decide)

open EthPerp in
/-- **An ask without margin vetoes the bid.**  It is accepted and rests; the bid is
fully paid and passes all checks of its own, and is refused because of the ask. -/
theorem maker_without_margin_vetoes :
    PerpRun id (config market) (calls [askWith 0]) (after market [askWith 0]) ∧
      (submit (draws 2) read buyer).Admissible (after market [askWith 0]) ∧
      buyer.reduceOnly = false ∧
      MakerVeto id (config market) (draws 2) read buyer (after market [askWith 0]).stores
        (.err .perpZeroMargin) ∧
      submitPerpOrderViaState id (config market) (draws 2) read buyer
          (after market [askWith 0]).stores =
        (.error (.err .perpZeroMargin), (after market [askWith 0]).stores) := by
  set order := buyer.row (draws 2)
  have hat : AtFill id market order (draws 2) (buying 0) 0 buyPlan (buying 0) :=
    ⟨[], [], ([], order.size1e8), by decide +kernel, rfl, rfl⟩
  set filled := fillMakerRow 2 buyPlan (buying 0)
  have hrow : filled = (.ok (filledAsk 0), filled.2) := Prod.ext (by decide +kernel) rfl
  obtain ⟨out, a₂, htaker, -⟩ := ok_of_map (fun _ => ()) (b := ())
    (r := applyTaker id market order ((draws 2).fills 0) buyPlan filled.2) (by decide +kernel)
  have ha₂ : a₂ = (applyTaker id market order ((draws 2).fills 0) buyPlan filled.2).2 := by
    rw [htaker]
  have hmaker : (applyMaker id market order (filledAsk 0) ((draws 2).fills 0) buyPlan a₂).1 =
      .error (.err .perpZeroMargin) := by
    rw [ha₂]
    decide +kernel
  have hveto : MakerVeto id (config market) (draws 2) read buyer (after market [askWith 0]).stores
      (.err .perpZeroMargin) :=
    ⟨market, order, filledAsk 0, 0, buyPlan, buying 0, buying 0, filled.2, a₂, _,
      { checked := by decide +kernel
        inserted := onOrders_run (insertOrder_of_free fun c hc => by cases hc)
        gates := onOrders_run rfl
        reduces := rfl
        reached := hat
        row := hrow
        taker := ⟨out, htaker⟩
        refused := Prod.ext hmaker rfl }⟩
  exact ⟨run_after (by decide +kernel),
    ⟨fresh_of_below (by decide +kernel), by decide, by decide, by decide⟩, rfl, hveto,
    hveto.refused⟩

end DeoptBackend
