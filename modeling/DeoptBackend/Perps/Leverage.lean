import DeoptBackend.Perps.Coverage

/-!
# What the margin of a position is good for

An open and an increase are checked against the leverage cap, a partial reduce is not.

* `leverage_cap_kept` — whatever fills are applied under a key, the position there stays within
  the cap, and what partial reduces release and leave adds up.
* `fresh_position_healthy` — a position is not liquidatable at the price it was opened or
  increased to, in a market that passes its own startup checks.
-/

namespace DeoptBackend

open PerpPositionsStore Margin Saturating Act

/-! ## Runs of fills -/

abbrev FillCall := PerpFillInput × FillDraw

section

variable (lower : String → String) (market : PerpsReadMarket) (key : IndexKey)

def applyFill (s : PerpPositionsStore) (c : FillCall) : PerpPositionsStore :=
  (applyPerpFillForAccount lower market c.1 c.2 s).2

/-- The fill is one under the key, and draws a new identifier. -/
structure FillUnder (s : PerpPositionsStore) (c : FillCall) : Prop where
  key_eq : fillKey lower c.1 = key
  fresh : s.byId.get? c.2.positionId = none

/-- The same, and of the products that are computed, that of the size and the entry it leaves
fits in a word. -/
structure FillFitting (s : PerpPositionsStore) (c : FillCall) : Prop
    extends FillUnder lower key s c where
  fits : ∀ h, Holding.apply market c.1 (s.holdingAt lower key) = .ok (some h) →
    h.size1e8 * h.entryPrice1e8 ≤ maxU128

/-- The fill reduces what is open under the key, and leaves some of it. -/
structure FillReducing (s : PerpPositionsStore) (c : FillCall) : Prop
    extends FillUnder lower key s c where
  valid : c.1.size1e8 ≠ 0 ∧ c.1.price1e8 ≠ 0 ∧ c.1.marketId = market.symbol
  partly : ∀ h, s.holdingAt lower key = some h → h.side ≠ c.1.side ∧ c.1.size1e8 < h.size1e8

/-- The margin that a list of partial reduces releases. -/
def releasedBy : PerpPositionsStore → List FillCall → Nat
  | _, [] => 0
  | s, c :: cs =>
    (s.holdingAt lower key).elim 0 (fun h => mulDivFloor h.margin1e8 c.1.size1e8 h.size1e8) +
      releasedBy (applyFill lower market s c) cs

end

/-- A fill is refused and nothing happens, or the amounts under its key become what the holding
says. -/
theorem applyFill_cases (market : PerpsReadMarket) (hs : WellFormed lower s)
    (hc : FillUnder lower key s c) :
    (∃ e, Holding.applyChecked market c.1 (s.holdingAt lower key) = .error e ∧
      applyFill lower market s c = s) ∨
    ∃ new, Holding.applyChecked market c.1 (s.holdingAt lower key) = .ok new ∧
      (applyFill lower market s c).WellFormed lower ∧
      (applyFill lower market s c).holdingAt lower key = new := by
  obtain ⟨rfl, hfresh⟩ := hc
  have hspec : Follows _ _ _ (applyPerpFillForAccount lower market c.1 c.2 s) :=
    applyPerpFillForAccount_spec hs hfresh
  rw [applyFill]
  rcases hrun : applyPerpFillForAccount lower market c.1 c.2 s with ⟨e | out, s'⟩ <;>
    rw [hrun] at hspec
  · exact .inl ⟨e, hspec⟩
  · obtain ⟨new, hnew, hw⟩ := hspec
    obtain ⟨-, -, -, htakes⟩ := Holding.applyChecked_eq_ok.1 hnew
    refine .inr ⟨new, hnew, hw.wellFormed, ?_⟩
    rw [holdingAt, hw.openAt_eq, if_pos rfl, holding_rowAfter htakes]

/-- **One fill keeps the cap**, if the product it is checked with is exact. -/
theorem Holding.Takes.levered (ht : Takes market fill x (some new))
    (hx : ∀ h, x = some h → h.Levered market.maxLeverage)
    (hfits : new.size1e8 * new.entryPrice1e8 ≤ maxU128) : new.Levered market.maxLeverage := by
  cases ht with
  | opened _ hcheck => exact levered_of_checkMargin hcheck hfits
  | increased _ _ hcheck => exact levered_of_checkMargin hcheck hfits
  | reduced _ hlt => exact (hx _ rfl).reduced hlt

theorem released_add_margin (hs : WellFormed lower s)
    (hcalls : Run.allowed (applyFill lower market) (FillReducing lower market key) s calls)
    (hh : s.holdingAt lower key = some h) :
    ∃ h', (calls.foldl (applyFill lower market) s).holdingAt lower key = some h' ∧
      releasedBy lower market key s calls + h'.margin1e8 = h.margin1e8 := by
  induction calls generalizing s h with
  | nil => exact ⟨h, hh, Nat.zero_add _⟩
  | cons c cs ih =>
    obtain ⟨hc, hcs⟩ := hcalls
    obtain ⟨hside, hlt⟩ := hc.partly h hh
    have htakes : Holding.applyChecked market c.1 (s.holdingAt lower key) =
        .ok (some (h.reduced c.1)) :=
      Holding.applyChecked_eq_ok.2 ⟨hc.valid.1, hc.valid.2.1, hc.valid.2.2, hh ▸ .reduced hside hlt⟩
    rcases applyFill_cases market hs hc.toFillUnder with ⟨e, he, -⟩ | ⟨new, hnew, hwf, hat⟩
    · cases htakes.symm.trans he
    · cases htakes.symm.trans hnew
      obtain ⟨h', hat', hsum⟩ := ih hwf hcs hat
      -- what is released is taken off the margin, to the unit
      have hle : mulDivFloor h.margin1e8 c.1.size1e8 h.size1e8 ≤ h.margin1e8 :=
        Nat.le_of_mul_le_mul_right (mulDiv_mul_le.trans (Nat.mul_le_mul_left _ hlt.le))
          (Nat.zero_lt_of_lt hlt)
      refine ⟨h', hat', ?_⟩
      rw [releasedBy, hh, Option.elim, Nat.add_assoc, hsum]
      exact Nat.add_sub_of_le hle

/-- **The leverage cap survives every run of fills under a key**, and partial reduces release
what they take off the margin. -/
theorem leverage_cap_kept (hs : WellFormed lower s₀) (hnone : s₀.openAt lower key = none)
    (hrun : Run (stepOf (applyFill lower market) (FillFitting lower market key)) s₀ calls s) :
    (∀ p, s.openAt lower key = some p →
      notional1e8 p.size1e8 p.entryPrice1e8 ≤ p.margin1e8 * market.maxLeverage) ∧
    ∀ reduces, Run.allowed (applyFill lower market) (FillReducing lower market key) s reduces →
      ∀ p, s.openAt lower key = some p →
      ∃ p', (reduces.foldl (applyFill lower market) s).openAt lower key = some p' ∧
        releasedBy lower market key s reduces + p'.margin1e8 = p.margin1e8 := by
  have hinv : s.WellFormed lower ∧
      ∀ h, s.holdingAt lower key = some h → h.Levered market.maxLeverage := by
    refine hrun.invariant (P := fun s => s.WellFormed lower ∧
      ∀ h, s.holdingAt lower key = some h → h.Levered market.maxLeverage) ⟨hs, ?_⟩ ?_
    · intro h hh
      simp [holdingAt, hnone] at hh
    · rintro t c _ ⟨ht, hlev⟩ ⟨hc, rfl⟩
      rcases applyFill_cases market ht hc.toFillUnder with ⟨e, -, hsame⟩ | ⟨new, hnew, hwf, hat⟩
      · rw [hsame]
        exact ⟨ht, hlev⟩
      · obtain ⟨-, -, -, htakes⟩ := Holding.applyChecked_eq_ok.1 hnew
        refine ⟨hwf, fun h hh => ?_⟩
        cases hat.symm.trans hh
        exact htakes.levered hlev (hc.fits h (Holding.apply_eq_ok.2 htakes))
  have hholding : ∀ p, s.openAt lower key = some p → s.holdingAt lower key = some p.holding := by
    intro p hp
    rw [holdingAt, hp]
    rfl
  refine ⟨fun p hp => ?_, fun reduces hreduces p hp => ?_⟩
  · exact notional1e8_le_iff.2 (mul_le.trans_lt (hinv.2 _ (hholding p hp)))
  · obtain ⟨h', hat, hsum⟩ := released_add_margin hinv.1 hreduces (hholding p hp)
    obtain ⟨p', hp', rfl⟩ := Option.map_eq_some_iff.1 hat
    exact ⟨p', hp', hsum⟩

namespace PartlyClosed

def market : PerpsReadMarket := ⟨"ETH", 10, 500, none, none, none, none⟩

/-- One contract for one hundred, at the cap. -/
def opens : FillCall :=
  (⟨⟨"a"⟩, 1, "ETH", .long, priceScale1e8, 100 * priceScale1e8, 10 * priceScale1e8⟩, ⟨1, 0, 0⟩)

/-- A third of it is sold. -/
def closes : FillCall :=
  (⟨⟨"a"⟩, 1, "ETH", .short, priceScale1e8 / 3, 100 * priceScale1e8, 0⟩, ⟨2, 0, 0⟩)

theorem leverage_cap_kept_third :
    ∃ p', (applyFill id market (applyFill id market .empty opens) closes).openAt id ("a", 1, "ETH") =
        some p' ∧
      releasedBy id market ("a", 1, "ETH") (applyFill id market .empty opens) [closes] +
        p'.margin1e8 = 10 * priceScale1e8 := by
  have hrun : Run (stepOf (applyFill id market) (FillFitting id market ("a", 1, "ETH"))) .empty
      [opens] _ := Run.start.snoc ⟨⟨⟨rfl, rfl⟩, by rintro h ⟨⟩; decide⟩, rfl⟩
  exact (leverage_cap_kept wellFormed_empty rfl hrun).2 [closes]
    ⟨⟨⟨rfl, rfl⟩, by decide, by rintro h ⟨⟩; decide⟩, trivial⟩ _ rfl

end PartlyClosed

/-! ## Fresh positions -/

/-- `PerpsReadMarket::validate_startup`. -/
def PerpsReadMarket.validateStartup (self : PerpsReadMarket) : Except BackendError Unit :=
  let fail (text : String) : Except BackendError Unit :=
    .error (.config ("perps market " ++ self.symbol ++ ": " ++ text))
  let initialBps := bps / self.maxLeverage
  if self.maxLeverage = 0 then fail "max_leverage must be > 0"
  else if self.maintenanceMarginBps = 0 ∨ bps ≤ self.maintenanceMarginBps then
    fail ("maintenance_margin_bps must be in (0, " ++ toString bps ++ "), got " ++
      toString self.maintenanceMarginBps)
  else if initialBps ≤ self.maintenanceMarginBps then
    fail ("maintenance_margin_bps " ++ toString self.maintenanceMarginBps ++
      " must be < initial-margin-at-max-leverage bps " ++ toString initialBps ++
      " (max_leverage " ++ toString self.maxLeverage ++ ")")
  else
    match [("max_order_size_1e8", self.maxOrderSize1e8),
        ("max_order_notional_1e8", self.maxOrderNotional1e8),
        ("max_subaccount_notional_1e8", self.maxSubaccountNotional1e8),
        ("max_open_interest_1e8", self.maxOpenInterest1e8)].find? fun c => c.2 = some 0 with
    | some (name, _) => fail (name ++ " must be > 0 (or None to disable)")
    | none => .ok ()

theorem insertOpen_eq_ok (h : insertOpen lower row s = (.ok p, s')) : p = row := by
  unfold insertOpen at h
  split at h
  · cases h
  · dsimp only at h
    split at h <;> cases h
    rfl

theorem updateActive_eq_ok
    (h : updateActive lower account subaccountId marketId now mutator s = (.ok p, s')) :
    ∃ row, p = (mutator row).touched now := by
  unfold updateActive at h
  split at h
  · cases h
  · split at h <;> cases h
    exact ⟨_, rfl⟩

/-- A position that was opened or increased passed the margin check, in any store. -/
theorem checkMargin_of_outcome
    (h : applyPerpFillForAccount lower market fill draw s = (.ok out, s'))
    (hout : out = .opened p ∨ out = .increased p) : ∃ what,
      checkMargin what fill.marketId p.size1e8 p.entryPrice1e8 p.margin1e8 market.maxLeverage =
        .ok () := by
  obtain ⟨_, -, h⟩ := check_bind_eq_ok.1 h
  obtain ⟨_, -, h⟩ := check_bind_eq_ok.1 h
  rw [read_bind_eq_ok] at h
  generalize s.getActive lower fill.account fill.subaccountId fill.marketId = existing at h
  cases existing with
  | none =>
    obtain ⟨_, -, h⟩ := check_bind_eq_ok.1 h
    obtain ⟨_, hcheck, h⟩ := check_bind_eq_ok.1 h
    obtain ⟨row, _, hrow, hpure⟩ := bind_eq_ok.1 h
    cases insertOpen_eq_ok hrow
    cases hpure
    rcases hout with hp | hp <;> cases hp
    exact ⟨_, hcheck⟩
  | some pos =>
    dsimp only at h
    split_ifs at h
    · obtain ⟨_, -, h⟩ := check_bind_eq_ok.1 h
      obtain ⟨_, hcheck, h⟩ := check_bind_eq_ok.1 h
      obtain ⟨row, _, hrow, hpure⟩ := bind_eq_ok.1 h
      obtain ⟨_, rfl⟩ := updateActive_eq_ok hrow
      cases hpure
      rcases hout with hp | hp <;> cases hp
      exact ⟨_, hcheck⟩
    · -- a reduce answers with what it left or closed
      obtain ⟨_, -, h⟩ := check_bind_eq_ok.1 h
      dsimp only at h
      split_ifs at h <;> obtain ⟨_, _, -, h⟩ := bind_eq_ok.1 h
      · obtain ⟨_, _, -, hpure⟩ := bind_eq_ok.1 h
        cases hpure
        rcases hout with hp | hp <;> cases hp
      · cases h
        rcases hout with hp | hp <;> cases hp

/-- The maintenance margin of a position that covers its initial margin is below it. -/
theorem maintenance_lt_margin (hmarket : PerpsReadMarket.validateStartup market = .ok ())
    (hn : 10000 ≤ notional1e8 size price)
    (hm : initialMarginRequirement1e8 size price market.maxLeverage ≤ margin) :
    maintenanceMarginRequirement1e8 size price market.maintenanceMarginBps < margin := by
  unfold PerpsReadMarket.validateStartup at hmarket
  simp only at hmarket
  split_ifs at hmarket with hlev _ hmm
  replace hlev := Nat.pos_of_ne_zero hlev
  rw [initialMarginRequirement1e8, if_neg hlev.ne', ceilDiv, if_neg hlev.ne',
    ceilDiv_le_iff_le_mul hlev] at hm
  set n := notional1e8 size price
  set mm := market.maintenanceMarginBps
  have hbps : (mm + 1) * market.maxLeverage ≤ bps := Nat.mul_le_of_le_div _ _ _ (not_le.1 hmm)
  have hroom : n * (mm + 1) ≤ margin * bps := by
    refine Nat.le_of_mul_le_mul_right ?_ hlev
    calc n * (mm + 1) * market.maxLeverage = n * ((mm + 1) * market.maxLeverage) := by ring
      _ ≤ n * bps := Nat.mul_le_mul_left _ hbps
      _ ≤ market.maxLeverage * margin * bps := Nat.mul_le_mul_right _ hm
      _ = margin * bps * market.maxLeverage := by ring
  have hpos : 0 < margin := by
    by_contra hzero
    rw [Nat.eq_zero_of_not_pos hzero] at hm
    omega
  have hle : satMul n mm ≤ bps * (margin - 1) := by
    have hexact : satMul n mm ≤ n * mm := mul_le
    rw [bps, Nat.mul_add] at *
    omega
  unfold maintenanceMarginRequirement1e8 Margin.ceilDiv
  simp only
  split
  · exact hpos
  · rw [if_neg (by decide)]
    exact Nat.lt_of_le_pred hpos ((ceilDiv_le_iff_le_mul (by decide)).2 hle)

/-- **No position is liquidatable where it was opened or increased to.** -/
theorem fresh_position_healthy (hmarket : PerpsReadMarket.validateStartup market = .ok ())
    (h : applyPerpFillForAccount lower market fill draw s = (.ok out, s'))
    (hout : out = .opened p ∨ out = .increased p)
    (hn : 10000 ≤ notional1e8 p.size1e8 p.entryPrice1e8) (hm : p.margin1e8 < 2 ^ 127) :
    evaluatePerpLiquidation market p (some p.entryPrice1e8) = .healthy := by
  obtain ⟨what, hcheck⟩ := checkMargin_of_outcome h hout
  have hmm := maintenance_lt_margin hmarket hn (checkMargin_eq_ok.1 hcheck).1
  have hm' : (p.margin1e8 : Int) ≤ maxI128 := by
    unfold maxI128
    omega
  have hequity : equity1e8 p p.entryPrice1e8 = p.margin1e8 := by
    have hzero : satI128 0 = 0 := by decide
    have hpnl : unrealizedPnl1e8 p p.entryPrice1e8 = 0 := by
      unfold unrealizedPnl1e8
      cases p.side <;> simp [hzero]
    rw [equity1e8, hpnl, add_zero, asI128_eq hm', satI128_eq (by simpa using hm')]
  unfold evaluatePerpLiquidation
  split
  · rfl
  · simp only
    rw [hequity, asI128_eq (by omega), if_neg (by omega)]

namespace PartlyClosed

theorem fresh_position_healthy_opened : ∃ p s',
    applyPerpFillForAccount id market opens.1 opens.2 .empty = (.ok (.opened p), s') ∧
      evaluatePerpLiquidation market p (some p.entryPrice1e8) = .healthy := by
  have hopened : applyPerpFillForAccount id market opens.1 opens.2 .empty =
    (.ok (.opened _), _) := rfl
  exact ⟨_, _, hopened, fresh_position_healthy (by decide +kernel) hopened (.inl rfl)
    (by decide +kernel) (by decide +kernel)⟩

end PartlyClosed

end DeoptBackend
