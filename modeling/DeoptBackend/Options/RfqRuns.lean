import DeoptBackend.Lib.Run
import DeoptBackend.Options.MultiLegRfq

/-!
# The life of a request for quotes

Requests, quotes, acceptances and withdrawals of both kinds, in any order and at any times.

* `RfqCall`, `RfqService.call` — the calls, with the names drawn for new rows and what the
  chain answers.
* `RfqEffect`, `call_effect` — all that a call can do to the store.
* `RfqStore.Consistent` — the invariant: both books belong together, and the legs of every
  fill are as the taker that accepted it named them.
* `RfqService.Settles` — an accept whose checks pass can also do what comes after.
* `rfq_lifecycle` — in every run both books are sound, and a call that fails leaves the store
  as it was exactly when it settles.
* `NodeDown.failed_accept_fills` — an accept that does not.
* `legs_in_proportion_iff` — all legs of a fill have the size of the quote, so it is in
  proportion to the request exactly if the legs of the request have one size.
-/

namespace DeoptBackend

open RfqService FMap Act RfqBook List

inductive RfqCall where
  /-- `create_option_rfq`. -/
  | create (now : TimestampMs) (id : Uuid) (input : CreateOptionRfqInput)
  /-- `submit_option_rfq_quote`. -/
  | quote (now : TimestampMs) (quoteId rfqId : Uuid) (input : SubmitOptionRfqQuoteInput)
  /-- `accept_option_rfq_quote`. -/
  | accept (now : TimestampMs) (fillId intentId : Uuid) (nonceOf : NonceAnswers)
      (rfqId quoteId : Uuid)
  /-- `cancel_option_rfq`. -/
  | cancel (rfqId : Uuid)
  /-- `create_option_multi_leg_rfq`. -/
  | createMultiLeg (now : TimestampMs) (id : Uuid) (input : CreateOptionMultiLegRfqInput)
  /-- `submit_option_multi_leg_rfq_quote`. -/
  | quoteMultiLeg (now : TimestampMs) (quoteId rfqId : Uuid)
      (input : SubmitOptionMultiLegRfqQuoteInput)
  /-- `accept_option_multi_leg_rfq_quote`. -/
  | acceptMultiLeg (now : TimestampMs) (fillId : Uuid) (input : AcceptOptionMultiLegRfqQuoteInput)
  /-- `cancel_option_multi_leg_rfq`. -/
  | cancelMultiLeg (rfqId : Uuid) (taker : AccountId) (takerSubaccountId : Nat)
  /-- `cancel_option_multi_leg_rfq_quote_by_maker`. -/
  | cancelQuote (rfqId quoteId : Uuid) (mmAccount : AccountId) (makerSubaccountId : Nat)

/-- The names a call draws are new. -/
def RfqCall.Fresh (s : RfqStore) : RfqCall → Prop
  | .create _ id _ => s.single.rfqs.get? id = none
  | .quote _ quoteId _ _ => s.single.quotes.get? quoteId = none
  | .accept _ fillId _ _ _ _ => s.single.fills.get? fillId = none
  | .createMultiLeg _ id _ => s.multi.rfqs.get? id = none
  | .quoteMultiLeg _ quoteId _ _ => s.multi.quotes.get? quoteId = none
  | .acceptMultiLeg _ fillId _ => s.multi.fills.get? fillId = none
  | .cancel _ | .cancelMultiLeg _ _ _ | .cancelQuote _ _ _ _ => True

instance (s : RfqStore) (c : RfqCall) : Decidable (c.Fresh s) := by
  cases c <;> unfold RfqCall.Fresh <;> infer_instance

/-- A store before the first call. -/
def RfqStore.start (series : FMap OptionSeriesId OptionSeries)
    (after : RfqAftermath) : RfqStore :=
  ⟨series, RfqBook.new, RfqBook.new, ∅, ∅, ∅, after⟩

namespace RfqService

variable (svc : RfqService)

/-- A call, whatever it returns. -/
def call : RfqCall → Act BackendError RfqStore Unit
  | .create now id input => do let _ ← svc.createOptionRfq now id input
  | .quote now quoteId rfqId input => do let _ ← svc.submitOptionRfqQuote now quoteId rfqId input
  | .accept now fillId intentId nonceOf rfqId quoteId => do
      let _ ← svc.acceptOptionRfqQuote now fillId intentId nonceOf rfqId quoteId
  | .cancel rfqId => svc.cancelOptionRfq rfqId
  | .createMultiLeg now id input => do let _ ← svc.createOptionMultiLegRfq now id input
  | .quoteMultiLeg now quoteId rfqId input => do
      let _ ← svc.submitOptionMultiLegRfqQuote now quoteId rfqId input
  | .acceptMultiLeg now fillId input => do
      let _ ← svc.acceptOptionMultiLegRfqQuote now fillId input
  | .cancelMultiLeg rfqId taker takerSubaccountId => do
      let _ ← svc.cancelOptionMultiLegRfq rfqId taker takerSubaccountId
  | .cancelQuote rfqId quoteId mmAccount makerSubaccountId => do
      let _ ← svc.cancelOptionMultiLegRfqQuoteByMaker rfqId quoteId mmAccount makerSubaccountId

/-- **What comes after an accept goes through**: if its checks pass, the nonces can be had
and the fees fit.  Of any other call nothing is asked. -/
def Settles (s : RfqStore) : RfqCall → Prop
  | .accept now fillId _ nonceOf rfqId quoteId =>
    ∀ rfq quote, svc.checkAccept s now rfqId quoteId = .ok (rfq, quote) →
      svc.NoncesKnown nonceOf (fillOf now fillId rfqId quoteId rfq quote) ∧
        svc.FeesFit s (fillOf now fillId rfqId quoteId rfq quote)
  | .acceptMultiLeg now fillId input =>
    ∀ deal, svc.checkAcceptMultiLeg s now input = .ok deal →
      svc.PackageFeesFit s (deal.fill now fillId) (deal.fillLegs fillId)
  | _ => True

end RfqService

/-! ## What a call can do -/

/-- All that a call can do to the store. -/
inductive RfqEffect (s : RfqStore) :
    RfqCall → Except BackendError Unit → RfqStore → Prop
  /-- The call fails and nothing is written. -/
  | refused : RfqEffect s c (.error e) s
  | asked {id : Uuid} {rfq : OptionRfqRequest} (hid : rfq.optionRfqId = id)
      (hopen : rfq.status = .open) (hnone : rfq.acceptedQuoteId = none) :
      RfqEffect s (.create now id input) (.ok ()) { s with single := s.single.insertRfq rfq }
  | quoted {quote : OptionRfqQuote}
      (hrfq : s.single.rfqs.get? quote.optionRfqId = some rfq) (hopen : rfq.status = .open)
      (hid : quote.quoteId = quoteId) (hactive : quote.status = .active)
      (hpos : 0 < quote.size1e8)
      (hbook : insertQuote singleTexts quote s.single = (.ok (), book)) :
      RfqEffect s (.quote now quoteId rfqId input) (.ok ()) { s with single := book }
  /-- The fill is written, whether or not the call succeeds. -/
  | accepted {svc : RfqService} {after : RfqAftermath}
      (hok : svc.Acceptable s now rfqId quoteId rfq quote) :
      RfqEffect s (.accept now fillId intentId nonceOf rfqId quoteId) r
        { s with
          single := s.single.won rfqId quoteId rfq quote
            (fillOf now fillId rfqId quoteId rfq quote)
          after := after }
  | cancelled
      (hrfq : s.single.rfqs.get? rfqId = some rfq) (hacc : rfq.status ≠ .accepted) :
      RfqEffect s (.cancel rfqId) (.ok ()) { s with single := s.single.withdrawn rfqId rfq }
  | askedLegs {id : Uuid} {rfq : OptionMultiLegRfqRequest} {legs : List OptionMultiLegRfqLeg}
      (hid : rfq.optionRfqId = id) (hopen : rfq.status = .open)
      (hnone : rfq.acceptedQuoteId = none) :
      RfqEffect s (.createMultiLeg now id input) (.ok ())
        { s with
          multi := s.multi.insertRfq rfq
          rfqLegs := setAll (fun leg => (id, leg.legIndex)) (fun leg => leg) legs s.rfqLegs }
  | quotedLegs {quote : OptionMultiLegRfqQuote}
      (hrfq : s.multi.rfqs.get? quote.optionRfqId = some rfq) (hopen : rfq.status = .open)
      (hid : quote.quoteId = quoteId) (hactive : quote.status = .active)
      (hpos : 0 < quote.size1e8)
      (hbook : insertQuote multiTexts quote s.multi = (.ok (), book)) :
      RfqEffect s (.quoteMultiLeg now quoteId rfqId input) (.ok ())
        { s with multi := book, quoteLegs := legs }
  /-- The fill is written, whether or not the call succeeds. -/
  | acceptedLegs {after : RfqAftermath}
      (hok : RfqService.Agreed s now input deal) :
      RfqEffect s (.acceptMultiLeg now fillId input) r
        { s with
          multi := s.multi.won input.optionRfqId input.quoteId deal.rfq deal.quote
            (deal.fill now fillId)
          fillLegs := setAll (fun leg => (fillId, leg.legIndex)) (fun leg => leg)
            (deal.fillLegs fillId) s.fillLegs
          after := after }
  | cancelledLegs (hrfq : s.multi.rfqs.get? rfqId = some rfq)
      (hacc : rfq.status ≠ .accepted) :
      RfqEffect s (.cancelMultiLeg rfqId taker takerSubaccountId) (.ok ())
        { s with multi := s.multi.withdrawn rfqId rfq }
  | quoteCancelled (hquote : s.multi.quotes.get? quoteId = some quote)
      (hactive : quote.status = .active) :
      RfqEffect s (.cancelQuote rfqId quoteId mmAccount makerSubaccountId) (.ok ())
        { s with multi := s.multi.quoteWithdrawn quoteId quote }

variable {s s' : RfqStore} {svc : RfqService}

namespace RfqService

/-- The call does something it can do. -/
def Does (svc : RfqService) (s : RfqStore) (c : RfqCall) : Prop :=
  RfqEffect s c (svc.call c s).1 (svc.call c s).2

section
variable {α : Type}

/-- The result of a call is not looked at. -/
theorem ignore_run (h : x s = (r, s')) :
    (do let _ ← x : Act BackendError RfqStore Unit) s = (r.map fun _ => (), s') := by
  cases r with
  | error => exact bind_of_error h
  | ok => exact bind_of_ok h

theorem effect_of_error (h : x s = (.error e, s)) :
    RfqEffect s c ((do let _ ← x : Act BackendError RfqStore Unit) s).1
      ((do let _ ← x : Act BackendError RfqStore Unit) s).2 := by
  rw [ignore_run h]
  exact .refused

theorem effect_of_ok (h : x s = (.ok a, s')) (heff : RfqEffect s c (.ok ()) s') :
    RfqEffect s c ((do let _ ← x : Act BackendError RfqStore Unit) s).1
      ((do let _ ← x : Act BackendError RfqStore Unit) s).2 := by
  rw [ignore_run h]
  exact heff

end

theorem create_effect {id : Uuid} : svc.Does s (.create now id input) := by
  cases hcheck : svc.checkCreate s now input with
  | error => exact effect_of_error (by simp only [createOptionRfq, hcheck]; rfl)
  | ok =>
    refine effect_of_ok (by simp only [createOptionRfq, hcheck]; rfl) ?_
    exact .asked rfl rfl rfl

theorem quote_effect : svc.Does s (.quote now quoteId rfqId input) := by
  cases hcheck : svc.checkQuote s now quoteId rfqId input with
  | error => exact effect_of_error (by simp only [submitOptionRfqQuote, hcheck]; rfl)
  | ok found =>
    obtain ⟨rfq, quote⟩ := found
    obtain ⟨hrfq, hopen, hid, hof, hactive, hpos⟩ := checkQuote_ok hcheck
    rcases hbook : insertQuote singleTexts quote s.single with ⟨e | ⟨⟩, book⟩
    · exact effect_of_error (by simp only [submitOptionRfqQuote, hcheck, hbook]; rfl)
    · refine effect_of_ok (by simp only [submitOptionRfqQuote, hcheck, hbook]; rfl) ?_
      exact .quoted (hof ▸ hrfq) hopen hid hactive hpos hbook

theorem accept_effect (hb : s.single.Lifecycle FillFits) :
    svc.Does s (.accept now fillId intentId nonceOf rfqId quoteId) := by
  cases hcheck : svc.checkAccept s now rfqId quoteId with
  | error => exact effect_of_error (by simp only [acceptOptionRfqQuote, hcheck]; rfl)
  | ok found =>
    have hok := checkAccept_ok hcheck
    obtain ⟨r, after, hrun, -⟩ := accept_run fillId intentId nonceOf hcheck
      (hb.pending hok.rfq_there hok.rfq_open.1)
    rw [Does, call, ignore_run hrun]
    exact .accepted hok

theorem cancel_effect : svc.Does s (.cancel rfqId) := by
  rw [Does, call, cancelOptionRfq]
  cases svc.ensureOptionRfqEnabled with
  | error => exact .refused
  | ok _ =>
    cases hrfq : s.single.rfqs.get? rfqId with
    | none => exact .refused
    | some rfq =>
      dsimp only
      split
      · exact .refused
      next hacc => exact .cancelled hrfq hacc

theorem createMultiLeg_effect {id : Uuid} (hnew : s.multi.rfqs.get? id = none) :
    svc.Does s (.createMultiLeg now id input) := by
  cases hcheck : svc.checkCreateMultiLeg s now id input with
  | error =>
    exact effect_of_error (by
      simp only [createOptionMultiLegRfq, bind_run, read_run, hcheck]; rfl)
  | ok found =>
    obtain ⟨rfl, hopen, hnone⟩ := checkCreateMultiLeg_ok hcheck
    refine effect_of_ok (by
      simp only [createOptionMultiLegRfq, bind_run, read_run, check_run, hcheck,
        insertOptionMultiLegRfq, hnew, Option.isSome_none, Bool.false_eq_true, if_false,
        RfqStore.getOptionMultiLegRfq, insertRfq, get?_set_self]
      rfl) ?_
    exact .askedLegs rfl hopen hnone

theorem quoteMultiLeg_effect : svc.Does s (.quoteMultiLeg now quoteId rfqId input) := by
  cases hcheck : svc.checkQuoteMultiLeg s now quoteId rfqId input with
  | error =>
    exact effect_of_error (by
      simp only [submitOptionMultiLegRfqQuote, bind_run, read_run, hcheck]
      rfl)
  | ok found =>
    obtain ⟨quote, legs⟩ := found
    obtain ⟨⟨rfq, hrfq, hopen⟩, rfl, hactive, hpos⟩ := checkQuoteMultiLeg_ok hcheck
    rcases hbook : insertQuote multiTexts quote s.multi with ⟨e | ⟨⟩, book⟩
    · exact effect_of_error (by
        simp only [submitOptionMultiLegRfqQuote, bind_run, read_run, check_run, hcheck,
          insertOptionMultiLegRfqQuote, hbook]
        rfl)
    · have hthere : book.quotes.get? quote.quoteId = some quote := get?_insertQuote hbook
      refine effect_of_ok (by
        simp only [submitOptionMultiLegRfqQuote, bind_run, read_run, check_run, hcheck,
          insertOptionMultiLegRfqQuote, hbook, RfqStore.getOptionMultiLegRfqQuote, hthere]
        rfl) ?_
      exact .quotedLegs hrfq hopen rfl hactive hpos hbook

theorem acceptMultiLeg_effect (hb : s.multi.Lifecycle PackageFits) :
    svc.Does s (.acceptMultiLeg now fillId input) := by
  cases hcheck : svc.checkAcceptMultiLeg s now input with
  | error => exact effect_of_error (by simp only [acceptOptionMultiLegRfqQuote, hcheck]; rfl)
  | ok =>
    obtain ⟨r, after, hrun, -⟩ := acceptMultiLeg_run fillId hcheck hb
    rw [Does, call, ignore_run hrun]
    exact .acceptedLegs (checkAcceptMultiLeg_ok hcheck)

theorem cancelMultiLeg_effect : svc.Does s (.cancelMultiLeg rfqId taker takerSubaccountId) := by
  cases hcheck : svc.checkCancelMultiLeg s rfqId taker takerSubaccountId with
  | error =>
    exact effect_of_error (by
      simp only [cancelOptionMultiLegRfq, bind_run, read_run, hcheck]; rfl)
  | ok =>
    obtain ⟨hrfq, hopen⟩ := checkCancelMultiLeg_ok hcheck
    refine effect_of_ok (by
      simp only [cancelOptionMultiLegRfq, bind_run, read_run, hcheck, write_run,
        RfqStore.getOptionMultiLegRfq, RfqBook.withdrawn, get?_set_self]
      rfl) ?_
    exact .cancelledLegs hrfq (by rw [hopen]; simp)

theorem cancelQuote_effect (hb : s.multi.Lifecycle PackageFits) :
    svc.Does s (.cancelQuote rfqId quoteId mmAccount makerSubaccountId) := by
  cases hcheck : svc.checkCancelQuote s rfqId quoteId mmAccount makerSubaccountId with
  | error =>
    exact effect_of_error (by
      simp only [cancelOptionMultiLegRfqQuoteByMaker, bind_run, read_run, hcheck]
      rfl)
  | ok =>
    obtain ⟨hquote, hof, hactive⟩ := checkCancelQuote_ok hcheck
    -- the request is read again afterwards, and is there because the quote is for one
    obtain ⟨-, rfq, hrfq⟩ := hb.quote_of hquote
    rw [hof] at hrfq
    refine effect_of_ok (by
      simp only [cancelOptionMultiLegRfqQuoteByMaker, bind_run, read_run, check_run, hcheck,
        write_run, RfqStore.getOptionMultiLegRfqQuote, RfqStore.getOptionMultiLegRfq,
        quoteWithdrawn, get?_set_self, hrfq]
      rfl) ?_
    exact .quoteCancelled hquote hactive

/-- **What a call can do to a consistent store.** -/
theorem call_effect (hsingle : s.single.Lifecycle FillFits) (hmulti : s.multi.Lifecycle PackageFits)
    {c : RfqCall} (hfresh : c.Fresh s) : svc.Does s c := by
  cases c with
  | create => exact create_effect
  | quote => exact quote_effect
  | accept => exact accept_effect hsingle
  | cancel => exact cancel_effect
  | createMultiLeg => exact createMultiLeg_effect hfresh
  | quoteMultiLeg => exact quoteMultiLeg_effect
  | acceptMultiLeg => exact acceptMultiLeg_effect hmulti
  | cancelMultiLeg => exact cancelMultiLeg_effect
  | cancelQuote => exact cancelQuote_effect hmulti

end RfqService

/-! ## Whole runs -/

/-- A fill of several legs was accepted in one of the calls, and its legs are those of the request
at the prices named there. -/
def RfqStore.Named (calls : List RfqCall) (s : RfqStore) (id : Uuid) (fill : OptionMultiLegRfqFill)
    (legs : List OptionMultiLegRfqFillLeg) : Prop :=
  ∃ now input, RfqCall.acceptMultiLeg now id input ∈ calls ∧
    input.optionRfqId = fill.optionRfqId ∧ input.quoteId = fill.quoteId ∧
    ∃ rfq rfqLegs, s.getOptionMultiLegRfq fill.optionRfqId = some (rfq, rfqLegs) ∧
      LegsFaithful fill rfqLegs legs input.expectedLegPrices1e8

/-- The invariant. -/
structure RfqStore.Consistent (calls : List RfqCall) (s : RfqStore) : Prop where
  single : s.single.Lifecycle FillFits
  multi : s.multi.Lifecycle PackageFits
  fillLegs_of : ∀ {key leg}, s.fillLegs.get? key = some leg →
    ∃ fill, s.multi.fills.get? key.1 = some fill
  named : ∀ {id fill legs}, s.getOptionMultiLegRfqFill id = some (fill, legs) →
    s.Named calls id fill legs

namespace RfqStore.Consistent

theorem start (series : FMap OptionSeriesId OptionSeries) (after : RfqAftermath) :
    (RfqStore.start series after).Consistent [] where
  single := .new
  multi := .new
  fillLegs_of h := by cases h
  named h := by cases h

/-- A fill that was there before a step that keeps every request, and the legs of it, is named
as it was. -/
theorem named_of_frame (hs : s.Consistent calls) {id : Uuid} {legs : List OptionMultiLegRfqFillLeg}
    (hold : s.getOptionMultiLegRfqFill id = some (fill, legs))
    (hrfqs : ∀ {id rfq}, s.multi.rfqs.get? id = some rfq → ∃ rfq', s'.multi.rfqs.get? id = some rfq')
    (hlegs : ∀ {id rfq}, s.multi.rfqs.get? id = some rfq →
      s'.rfqLegs.family id = s.rfqLegs.family id) : s'.Named (calls ++ [c]) id fill legs := by
  obtain ⟨now, input, hmem, hrfq, hquote, rfq, rfqLegs, hthere, hfaith⟩ := hs.named hold
  obtain ⟨hget, rfl⟩ := getOptionMultiLegRfq_eq_some.1 hthere
  obtain ⟨rfq', hget'⟩ := hrfqs hget
  refine ⟨now, input, mem_append_left _ hmem, hrfq, hquote, rfq', _,
    getOptionMultiLegRfq_eq_some.2 ⟨hget', rfl⟩, ?_⟩
  rw [hlegs hget]
  exact hfaith

/-- A step that leaves the requests for several legs alone. -/
theorem of_single (hs : s.Consistent calls) {after : RfqAftermath}
    (hbook : book.Lifecycle FillFits) :
    ({ s with single := book, after := after } : RfqStore).Consistent (calls ++ [c]) :=
  ⟨hbook, hs.multi, hs.fillLegs_of,
    fun h => hs.named_of_frame h (fun h => ⟨_, h⟩) fun _ => rfl⟩

theorem no_legs (hs : s.Consistent calls) {id : Uuid} (h : s.multi.fills.get? id = none) :
    s.fillLegs.family id = [] := by
  refine eq_nil_iff_forall_not_mem.2 fun leg hleg => ?_
  obtain ⟨i, hi⟩ := mem_family.1 hleg
  obtain ⟨fill, hfill⟩ := hs.fillLegs_of hi
  rw [h] at hfill
  cases hfill

theorem nodup_legs {deal : MultiLegDeal} (hok : RfqService.Agreed s now input deal)
    (fillId : Uuid) : ((deal.fillLegs fillId).map fun leg => (fillId, leg.legIndex)).Nodup := by
  refine pairwise_map.2 ((hok.fillLegs_grow fillId).imp fun hlt heq => ?_)
  exact absurd (Prod.mk.inj heq).2 hlt.ne

section

variable (hs : s.Consistent calls) {deal : MultiLegDeal}
  (hnew : s.multi.fills.get? fillId = none) (hok : RfqService.Agreed s now input deal)
include hs hnew hok

/-- The legs of a fill are new, so that they are read back as they were written. -/
theorem legs_read_back : sortedBy (·.legIndex) ((setAll (fun leg => (fillId, leg.legIndex))
    (fun leg => leg) (deal.fillLegs fillId) s.fillLegs).family fillId) = deal.fillLegs fillId := by
  have hunfiled : ∀ leg ∈ deal.fillLegs fillId, s.fillLegs.get? (fillId, leg.legIndex) = none := by
    intro leg _
    by_contra h
    obtain ⟨leg', hleg'⟩ := Option.ne_none_iff_exists'.1 h
    have hmem := mem_family.2 ⟨leg.legIndex, hleg'⟩
    rw [hs.no_legs hnew] at hmem
    cases hmem
  have hfamily : (setAll (fun leg => (fillId, leg.legIndex)) (fun leg => leg) (deal.fillLegs fillId)
      s.fillLegs).family fillId =
        ((deal.fillLegs fillId).map fun leg => leg).reverse ++ s.fillLegs.family fillId :=
    family_setAll_new (by simp) (nodup_legs hok fillId) hunfiled
  rw [hs.no_legs hnew, append_nil, map_id'] at hfamily
  rw [hfamily]
  exact sortedBy_eq (reverse_perm _) (hok.fillLegs_grow fillId)

/-- **A fill of several legs.** -/
theorem step_accept {after : RfqAftermath} : ({ s with
        multi := s.multi.won input.optionRfqId input.quoteId deal.rfq deal.quote
          (deal.fill now fillId)
        fillLegs := setAll (fun leg => (fillId, leg.legIndex)) (fun leg => leg)
          (deal.fillLegs fillId) s.fillLegs
        after := after } : RfqStore).Consistent
      (calls ++ [.acceptMultiLeg now fillId input]) := by
  obtain ⟨hrfq, hrfqLegs⟩ := getOptionMultiLegRfq_eq_some.1 hok.rfq_there
  obtain ⟨hquote, -⟩ := getOptionMultiLegRfqQuote_eq_some.1 hok.quote_there
  have hfillRfq : (deal.fill now fillId).optionRfqId = input.optionRfqId := hs.multi.rfq_key hrfq
  have hfillQuote : (deal.fill now fillId).quoteId = input.quoteId := hs.multi.quote_key hquote
  refine ⟨hs.single, ?_, ?_, ?_⟩
  · refine hs.multi.won hrfq hok.rfq_open.1 hquote hok.quote_of hnew hfillRfq hfillQuote
      ⟨⟨hok.rfq_open.2, hok.quote_active.2⟩, ?_⟩
    exact (hs.multi.quote_of hquote).1
  · intro key leg h
    rcases of_get?_setAll (nodup_legs hok fillId) h with ⟨leg', -, rfl, -⟩ | ⟨-, h⟩
    · exact ⟨_, get?_set_self _ _ _⟩
    obtain ⟨fill, hfill⟩ := hs.fillLegs_of h
    refine ⟨fill, ?_⟩
    show (s.multi.fills.set fillId _).get? key.1 = _
    rw [get?_set_ne _ (by rintro heq; rw [heq, hnew] at hfill; cases hfill), hfill]
  intro id fill legs h
  obtain ⟨hfill, rfl⟩ := getOptionMultiLegRfqFill_eq_some.1 h
  by_cases hid : id = fillId
  · subst hid
    have hsame : deal.fill now id = fill :=
      Option.some.inj ((get?_set_self _ _ _).symm.trans hfill)
    subst hsame
    obtain ⟨r', hr'⟩ := exists_get?_set hrfq
    refine ⟨now, input, by simp, hfillRfq.symm, hfillQuote.symm, r', deal.rfqLegs, ?_, ?_⟩
    · rw [hfillRfq]
      exact getOptionMultiLegRfq_eq_some.2 ⟨hr', hrfqLegs⟩
    · rw [hs.legs_read_back hnew hok]
      exact hok.fillLegs_faithful id
  · have hfill' : (s.multi.fills.set fillId (deal.fill now fillId)).get? id = some fill := hfill
    rw [get?_set_ne _ hid] at hfill'
    rw [family_setAll_ne fun _ _ => Ne.symm hid]
    exact hs.named_of_frame (getOptionMultiLegRfqFill_eq_some.2 ⟨hfill', rfl⟩)
      (fun h => exists_get?_set h) fun _ => rfl

end

theorem step (hs : s.Consistent calls) (hfresh : c.Fresh s) {r : Except BackendError Unit}
    (heff : RfqEffect s c r s') : s'.Consistent (calls ++ [c]) := by
  cases heff with
  | refused => exact hs.of_single hs.single
  | asked hid hopen hnone =>
    subst hid
    exact hs.of_single (hs.single.insertRfq hfresh hopen hnone)
  | quoted hrfq hopen hid hactive hpos hbook =>
    subst hid
    exact hs.of_single (hs.single.insertQuote hrfq hopen hfresh hactive hpos hbook)
  | accepted hok =>
    exact hs.of_single (hs.single.won hok.rfq_there hok.rfq_open.1 hok.quote_there hok.quote_of
      hfresh rfl rfl hok.fits)
  | cancelled hrfq hacc => exact hs.of_single (hs.single.withdrawn hrfq hacc)
  | @askedLegs now id input rfq legs hid hopen hnone =>
    subst hid
    have hne : ∀ {id r}, s.multi.rfqs.get? id = some r → id ≠ rfq.optionRfqId := by
      rintro id r h rfl
      exact absurd (h.symm.trans hfresh) (by simp)
    refine ⟨hs.single, hs.multi.insertRfq hfresh hopen hnone, hs.fillLegs_of,
      fun h => hs.named_of_frame h ?_ ?_⟩
    · intro id r h
      exact ⟨r, by rw [insertRfq, get?_set_ne _ (hne h), h]⟩
    · intro id r h
      exact family_setAll_ne (fun _ _ => (hne h).symm) _
  | quotedLegs hrfq hopen hid hactive hpos hbook =>
    subst hid
    obtain ⟨hrfqs, hfills⟩ := insertQuote_keeps hbook
    refine ⟨hs.single, hs.multi.insertQuote hrfq hopen hfresh hactive hpos hbook, ?_,
      fun h => hs.named_of_frame ?_ ?_ fun _ => rfl⟩
    · intro key leg h
      rw [hfills]
      exact hs.fillLegs_of h
    · simpa only [RfqStore.getOptionMultiLegRfqFill, hfills] using h
    · intro id r h
      exact ⟨r, by rw [hrfqs, h]⟩
  | acceptedLegs hok => exact hs.step_accept hfresh hok
  | @cancelledLegs rfqId taker takerSubaccountId rfq hrfq hacc =>
    refine ⟨hs.single, hs.multi.withdrawn hrfq hacc, hs.fillLegs_of,
      fun h => hs.named_of_frame h (fun h => exists_get?_set h) fun _ => rfl⟩
  | quoteCancelled hquote hactive =>
    exact ⟨hs.single, hs.multi.quoteWithdrawn hquote hactive, hs.fillLegs_of,
      fun h => hs.named_of_frame h (fun h => ⟨_, h⟩) fun _ => rfl⟩

end RfqStore.Consistent

namespace RfqService

/-- The calls, one after the other, each drawing new names. -/
def Step (svc : RfqService) : RfqStore → RfqCall → RfqStore → Prop :=
  stepOf (fun s c => (svc.call c s).2) fun s c => c.Fresh s

theorem consistent_of_run {after : RfqAftermath}
    (hrun : Run svc.Step (.start series after) calls s) : s.Consistent calls := by
  refine hrun.traced (P := fun calls s => s.Consistent calls) (.start series after) ?_
  rintro calls s c s' hs ⟨hfresh, rfl⟩
  exact hs.step hfresh (call_effect hs.single hs.multi hfresh)

def FailsCleanly (svc : RfqService) (s : RfqStore) (c : RfqCall) : Prop :=
  ∀ e s', svc.call c s = (.error e, s') → s' = s

/-- A call checks, and what passes the checks changes the store whether or not the rest goes
through. -/
theorem failsCleanly_iff_of_check {check : Except BackendError α}
    {x : Act BackendError RfqStore β} {P : α → Prop}
    (herror : ∀ e, check = .error e → x s = (.error e, s))
    (hok : ∀ a, check = .ok a → ∃ r s', x s = (r, s') ∧ s' ≠ s ∧ ((∃ b, r = .ok b) ↔ P a)) :
    (∀ e s', (do let _ ← x : Act BackendError RfqStore Unit) s = (.error e, s') → s' = s) ↔
      ∀ a, check = .ok a → P a := by
  constructor
  · intro hclean a ha
    obtain ⟨r, s', hrun, hne, hiff⟩ := hok a ha
    refine hiff.1 ?_
    cases r with
    | ok b => exact ⟨b, rfl⟩
    | error e => exact absurd (hclean e s' (ignore_run hrun)) hne
  · intro hgoes e s' hcall
    cases hcheck : check with
    | error e' =>
      rw [ignore_run (herror e' hcheck)] at hcall
      exact (Prod.mk.inj hcall).2.symm
    | ok a =>
      obtain ⟨r, t, hrun, -, hiff⟩ := hok a hcheck
      obtain ⟨b, rfl⟩ := hiff.2 (hgoes a hcheck)
      rw [ignore_run hrun] at hcall
      cases (Prod.mk.inj hcall).1

theorem accept_failsCleanly_iff (hb : s.single.Lifecycle FillFits) :
    svc.FailsCleanly s (.accept now fillId intentId nonceOf rfqId quoteId) ↔
      svc.Settles s (.accept now fillId intentId nonceOf rfqId quoteId) := by
  refine (failsCleanly_iff_of_check (P := fun found : OptionRfqRequest × OptionRfqQuote =>
    svc.NoncesKnown nonceOf (fillOf now fillId rfqId quoteId found.1 found.2) ∧
      svc.FeesFit s (fillOf now fillId rfqId quoteId found.1 found.2)) ?_ ?_).trans Prod.forall
  · intro e hcheck
    simp [acceptOptionRfqQuote, hcheck]
  rintro ⟨rfq, quote⟩ hcheck
  have hok := checkAccept_ok hcheck
  obtain ⟨r, after, hrun, hiff⟩ := accept_run fillId intentId nonceOf hcheck
    (hb.pending hok.rfq_there hok.rfq_open.1)
  refine ⟨r, _, hrun, fun hsame => ?_, hiff⟩
  -- the request would have to be open and accepted
  have hbook := congrArg (fun s => (s.single.rfqs.get? rfqId).map (·.status)) hsame
  simp only [RfqBook.won, get?_set_self, hok.rfq_there, Option.map_some, hok.rfq_open.1] at hbook
  cases hbook

theorem acceptMultiLeg_failsCleanly_iff (hb : s.multi.Lifecycle PackageFits) :
    svc.FailsCleanly s (.acceptMultiLeg now fillId input) ↔
      svc.Settles s (.acceptMultiLeg now fillId input) := by
  refine failsCleanly_iff_of_check ?_ ?_
  · intro e hcheck
    simp [acceptOptionMultiLegRfqQuote, hcheck]
  intro deal hcheck
  have hok := checkAcceptMultiLeg_ok hcheck
  obtain ⟨hrfq, -⟩ := getOptionMultiLegRfq_eq_some.1 hok.rfq_there
  obtain ⟨r, after, hrun, hiff⟩ := acceptMultiLeg_run fillId hcheck hb
  refine ⟨r, _, hrun, fun hsame => ?_, hiff⟩
  have hbook := congrArg (fun s => (s.multi.rfqs.get? input.optionRfqId).map (·.status)) hsame
  simp only [RfqBook.won, get?_set_self, hrfq, Option.map_some, hok.rfq_open.1] at hbook
  cases hbook

/-- **A call fails without a trace exactly when it settles.** -/
theorem failsCleanly_iff (hs : s.Consistent calls) {c : RfqCall} (hfresh : c.Fresh s) :
    svc.FailsCleanly s c ↔ svc.Settles s c := by
  have heff : svc.Does s c := call_effect hs.single hs.multi hfresh
  cases c with
  | accept => exact accept_failsCleanly_iff hs.single
  | acceptMultiLeg => exact acceptMultiLeg_failsCleanly_iff hs.multi
  | _ =>
    refine ⟨fun _ => trivial, fun _ e s' hcall => ?_⟩
    rw [Does, hcall] at heff
    cases heff
    rfl

/-- **The life of a request for quotes.**  In every run of creates, quotes, accepts and
cancels of both kinds, a request has a fill exactly when it is accepted, and never two; the
fill is of the accepted quote, and no other quote is accepted; what is over has no active
quote; every fill fits its request and its quote; and the legs of a fill are those of the
request at the prices the taker named.  A call that fails leaves the store as it was exactly
when it settles. -/
theorem rfq_lifecycle (svc : RfqService) {series : FMap OptionSeriesId OptionSeries}
    {after : RfqAftermath} (hrun : Run svc.Step (.start series after) calls s) :
    s.single.Sound FillFits ∧ s.multi.Sound PackageFits ∧
      (∀ {id fill legs}, s.getOptionMultiLegRfqFill id = some (fill, legs) →
        s.Named calls id fill legs) ∧
      ∀ c : RfqCall, c.Fresh s → (svc.FailsCleanly s c ↔ svc.Settles s c) := by
  have hs := consistent_of_run hrun
  exact ⟨hs.single.sound, hs.multi.sound, hs.named, fun c hfresh => failsCleanly_iff hs hfresh⟩

/-- Legs of a fill that are to each other as the legs of the request, and no larger. -/
def InProportion (legs : List OptionMultiLegRfqFillLeg) (rfqLegs : List OptionMultiLegRfqLeg) :
    Prop :=
  ∀ p ∈ legs.zip rfqLegs, p.1.size1e8 ≤ p.2.size1e8 ∧
    ∀ q ∈ legs.zip rfqLegs, p.1.size1e8 * q.2.size1e8 = q.1.size1e8 * p.2.size1e8

/-- **A fill is in proportion to its request exactly if the legs of the request have one
size.** -/
theorem legs_in_proportion_iff (svc : RfqService)
    {series : FMap OptionSeriesId OptionSeries} {after : RfqAftermath}
    (hrun : Run svc.Step (.start series after) calls s) {id : Uuid} {fill : OptionMultiLegRfqFill}
    {legs : List OptionMultiLegRfqFillLeg}
    (hfill : s.getOptionMultiLegRfqFill id = some (fill, legs)) :
    ∃ rfq rfqLegs, s.getOptionMultiLegRfq fill.optionRfqId = some (rfq, rfqLegs) ∧
      legs.length = rfqLegs.length ∧
      (InProportion legs rfqLegs ↔ ∀ a ∈ rfqLegs, ∀ b ∈ rfqLegs, a.size1e8 = b.size1e8) := by
  have hs := consistent_of_run hrun
  obtain ⟨_, _, -, -, -, rfq, rfqLegs, hrfq, hfaith⟩ := hs.named hfill
  obtain ⟨_, _, -, -, -, -, -, -, -, hfits⟩ :=
    hs.multi.fill_of (getOptionMultiLegRfqFill_eq_some.1 hfill).1
  have hlength : legs.length = rfqLegs.length := by
    simpa using congrArg length hfaith.series
  have hsize : ∀ p ∈ legs.zip rfqLegs, p.1.size1e8 = fill.size1e8 := fun p hp =>
    hfaith.sizes _ (of_mem_zip hp).1
  refine ⟨rfq, rfqLegs, hrfq, hlength, ?_, ?_⟩
  · intro hprop a ha b hb
    rw [← map_snd_zip hlength.ge] at ha hb
    obtain ⟨p, hp, rfl⟩ := mem_map.1 ha
    obtain ⟨q, hq, rfl⟩ := mem_map.1 hb
    have heq := (hprop p hp).2 q hq
    rw [hsize p hp, hsize q hq] at heq
    exact (Nat.eq_of_mul_eq_mul_left hfits.size heq).symm
  · intro hone p hp
    refine ⟨by rw [hsize p hp]; exact hfaith.within _ (of_mem_zip hp).2, fun q hq => ?_⟩
    rw [hsize p hp, hsize q hq, hone _ (of_mem_zip hq).2 _ (of_mem_zip hp).2]

end RfqService

/-! ## An accept that fails too late -/

namespace NodeDown

open RfqService

/-- A service that executes trades on chain and insists on their nonces. -/
def service : RfqService where
  enabled := true
  rfqEnabled := true
  rfqMultiLegEnabled := true
  rfqDefaultTtlMs := 5000
  rfqMaxTtlMs := 30000
  rfqMinQuoteTtlMs := 500
  rfqMaxQuoteTtlMs := 10000
  rfqMaxQuotesPerRfq := 50
  rfqQuoteSignatureMode := .disabled
  executionEnabled := true
  executionDefaultSettlementDecimals := 6
  nonceSyncEnabled := true
  nonceSyncStrict := true
  nonceSyncHasRpcUrl := true
  crypto := ⟨fun _ => [], fun _ => false, fun _ _ _ => .error .signatureRecoveryFailed⟩
  quoteDigestBytes := fun _ => .ok []
  checkCanQuoteOptionRfq := fun _ _ => .ok ()
  validateExecutableOptionSeries := fun _ => .ok ⟨"1", ⟨"0xaa"⟩, ⟨"0xbb"⟩⟩
  fees := ⟨true, true, "protocol", 10, false, [], fun _ => some "1970-01-01",
    fun _ => some "1969-12-04"⟩

def taker : AccountId := ⟨"0x0000000000000000000000000000000000000001"⟩

def maker : AccountId := ⟨"0x0000000000000000000000000000000000000002"⟩

/-- One active series. -/
def empty : RfqStore :=
  .start (ofPairs [("ETH-C", ⟨"ETH-C", "ETH", "USDC", 1000, 300000000000, true, 100000000,
    .active⟩)]) ⟨∅, ∅, {}⟩

/-- Two requests, of one leg and of two, and a quote for each. -/
def asked : List RfqCall :=
  [.create 0 1 ⟨taker, 1, "ETH-C", .buy, 100000000, some 600000000, none⟩,
    .quote 100 2 1 ⟨maker, 1, none, none, 500000000, 100000000, none, none, none⟩,
    .createMultiLeg 150 11 ⟨taker, 1, [⟨0, "ETH-C", .buy, 200000000, 1, 1⟩,
      ⟨1, "ETH-C", .sell, 100000000, 1, 1⟩], none⟩,
    .quoteMultiLeg 160 12 11 ⟨maker, 1, none, none, "100000000", 100000000,
      [⟨0, 500000000⟩, ⟨1, 400000000⟩], none, none, none⟩]

def quoted : RfqStore := asked.foldl (fun s c => (service.call c s).2) empty

/-- The taker accepts while the node answers. -/
def accept : RfqCall := .accept 200 3 4 (fun _ => .ok 7) 1 2

/-- The taker accepts while the node is down. -/
def acceptDown : RfqCall := .accept 200 3 4 (fun _ => .error (.simulation "connection refused")) 1 2

def acceptLegs : RfqCall :=
  .acceptMultiLeg 210 13 ⟨taker, 1, 11, 12, "100000000", 2, [500000000, 400000000]⟩

theorem quoted_reached : Run service.Step empty asked quoted :=
  Run.of_allowed (by decide +kernel)

/-- **The accept fails, and the request is filled.** -/
theorem failed_accept_fills : Run service.Step empty asked quoted ∧
      (service.call acceptDown quoted).1 = .error (.simulation "connection refused") ∧
      (quoted.single.rfqs.get? 1).map (·.status) = some .open ∧
      ((service.call acceptDown quoted).2.single.rfqs.get? 1).map (·.status) = some .accepted ∧
      (service.call acceptDown quoted).2.single.fills.keys = [3] ∧
      (service.call acceptDown quoted).2.after.intents.keys = [] ∧
      ¬ service.FailsCleanly quoted acceptDown := by
  have hopen : (quoted.single.rfqs.get? 1).map (·.status) = some .open := by decide +kernel
  -- one evaluation of the call for all that is read of it
  obtain ⟨hfail, hfilled, hfills, hintents⟩ :
      (service.call acceptDown quoted).1 = .error (.simulation "connection refused") ∧
        ((service.call acceptDown quoted).2.single.rfqs.get? 1).map (·.status) = some .accepted ∧
        (service.call acceptDown quoted).2.single.fills.keys = [3] ∧
        (service.call acceptDown quoted).2.after.intents.keys = [] := by decide +kernel
  refine ⟨quoted_reached, hfail, hopen, hfilled, hfills, hintents, ?_⟩
  intro hclean
  have hsame : (service.call acceptDown quoted).2 = quoted := hclean _ _ (Prod.ext hfail rfl)
  rw [hsame, hopen] at hfilled
  cases hfilled

/-- The store once both quotes are accepted. -/
def filled : RfqStore :=
  (asked ++ [accept, acceptLegs]).foldl (fun s c => (service.call c s).2) empty

theorem filled_reached : Run service.Step empty (asked ++ [accept, acceptLegs]) filled :=
  Run.of_allowed (by decide +kernel)

theorem rfq_lifecycle_filled : filled.single.fills.keys = [3] ∧ filled.multi.fills.keys = [13] ∧
      filled.after.ledger.feeEvents.keys.length = 4 ∧ filled.single.Sound FillFits ∧
      filled.multi.Sound PackageFits := by
  obtain ⟨hsingle, hmulti, -⟩ := rfq_lifecycle service filled_reached
  have hkeys : filled.single.fills.keys = [3] ∧ filled.multi.fills.keys = [13] ∧
      filled.after.ledger.feeEvents.keys.length = 4 := by decide +kernel
  exact ⟨hkeys.1, hkeys.2.1, hkeys.2.2, hsingle, hmulti⟩

/-- **Two of one leg and one of another are asked for, and one of each is filled.** -/
theorem filled_out_of_proportion : ∃ fill legs rfq rfqLegs,
    Run service.Step empty (asked ++ [accept, acceptLegs]) filled ∧
      filled.getOptionMultiLegRfqFill 13 = some (fill, legs) ∧
      filled.getOptionMultiLegRfq fill.optionRfqId = some (rfq, rfqLegs) ∧
      ¬ InProportion legs rfqLegs := by
  refine ⟨_, _, _, _, filled_reached, rfl, rfl, ?_⟩
  unfold InProportion
  decide +kernel

/-- One of each leg is asked for and filled. -/
def even : List RfqCall :=
  .createMultiLeg 150 11 ⟨taker, 1, [⟨0, "ETH-C", .buy, 100000000, 1, 1⟩,
    ⟨1, "ETH-C", .sell, 100000000, 1, 1⟩], none⟩ :: asked.drop 3 ++ [acceptLegs]

def evenlyFilled : RfqStore := even.foldl (fun s c => (service.call c s).2) empty

theorem legs_in_proportion_iff_even : ∃ fill legs rfq rfqLegs,
    evenlyFilled.getOptionMultiLegRfqFill 13 = some (fill, legs) ∧
      evenlyFilled.getOptionMultiLegRfq fill.optionRfqId = some (rfq, rfqLegs) ∧
      InProportion legs rfqLegs := by
  have hrun : Run service.Step empty even evenlyFilled := Run.of_allowed (by decide +kernel)
  have hfill : evenlyFilled.getOptionMultiLegRfqFill 13 = some _ := rfl
  obtain ⟨rfq, rfqLegs, hrfq, -, hiff⟩ := legs_in_proportion_iff service hrun hfill
  cases hrfq
  exact ⟨_, _, _, _, hfill, rfl, hiff.2 (by decide +kernel)⟩

end NodeDown

end DeoptBackend
