import DeoptBackend.Lib.Act
import DeoptBackend.Lib.FiniteMap
import DeoptBackend.Error

/-!
# Requests for quotes: the store (`src/options/store.rs`)

A taker asks, makers quote, the taker accepts one quote and a fill is recorded.  The store
keeps requests of one leg and requests of several legs in maps of the same shape, and the
methods on them differ in their error texts and in who may cancel.  The rows here are
generic in what is asked for (`T`), in how a price is written (`P`) and in what a fill says
beyond that (`E`).

* `RfqAsk`, `RfqBid` — the part of a request and of a quote that no call ever changes;
  the rest is a status and, for a request, the names of the quote and fill it ended with.
* `RfqBook.insertRfq`, `insertQuote`, `accept`, `withdrawn`, `quoteWithdrawn` — the store.
* `RfqBook.Lifecycle` — what holds between the three maps.  Each method keeps it, and a
  method that fails leaves the book as it was.
-/

namespace DeoptBackend

open FMap Option

/-! ## Rows (`src/options/types.rs`, `src/options/multi_leg.rs`) -/

/-- Where a request stands. -/
inductive OptionRfqStatus where
  | «open»
  | expired
  | accepted
  | cancelled
  | failed
  deriving DecidableEq

inductive OptionRfqQuoteStatus where
  | active
  | expired
  | accepted
  | rejected
  | cancelled
  deriving DecidableEq

inductive OptionRfqQuoteSignatureStatus where
  | notRequired
  | verified
  | missing
  | invalid
  | signerMismatch
  deriving DecidableEq

/-- `as_str`. -/
def OptionRfqQuoteSignatureStatus.asStr : OptionRfqQuoteSignatureStatus → String
  | .notRequired => "not_required"
  | .verified => "verified"
  | .missing => "missing"
  | .invalid => "invalid"
  | .signerMismatch => "signer_mismatch"

structure RfqAsk (T : Type) where
  optionRfqId : Uuid
  taker : AccountId
  takerSubaccountId : Nat
  createdAtMs : TimestampMs
  expiresAtMs : TimestampMs
  /-- The instrument, side and size. -/
  terms : T

/-- A request: `OptionRfqRequest`, `OptionMultiLegRfqRequest`. -/
structure RfqRequest (T : Type) extends RfqAsk T where
  status : OptionRfqStatus
  acceptedQuoteId : Option Uuid
  /-- `option_fill_id`, `accepted_fill_id`. -/
  fillId : Option Uuid

/-- What a maker offers. -/
structure RfqBid (P : Type) where
  quoteId : Uuid
  optionRfqId : Uuid
  mmAccount : AccountId
  makerSubaccountId : Nat
  sessionId : Option String
  clientQuoteId : Option String
  /-- `price_1e8`, `package_price_1e8`. -/
  price : P
  size1e8 : Nat
  createdAtMs : TimestampMs
  expiresAtMs : TimestampMs
  signature : Option String
  quoteDigest : Option String
  quoteNonce : Option String
  signatureStatus : OptionRfqQuoteSignatureStatus
  recoveredSigner : Option AccountId

/-- A quote: `OptionRfqQuote`, `OptionMultiLegRfqQuote`. -/
structure RfqQuote (P : Type) extends RfqBid P where
  status : OptionRfqQuoteStatus

/-- A fill: `OptionRfqFill`, `OptionMultiLegRfqFill`. -/
structure RfqFill (P E : Type) where
  fillId : Uuid
  optionRfqId : Uuid
  quoteId : Uuid
  taker : AccountId
  takerSubaccountId : Nat
  mmAccount : AccountId
  makerSubaccountId : Nat
  price : P
  size1e8 : Nat
  createdAtMs : TimestampMs
  /-- What only one of the two kinds says. -/
  details : E

/-- The maps of the store. -/
structure RfqBook (T P E : Type) where
  rfqs : FMap Uuid (RfqRequest T)
  quotes : FMap Uuid (RfqQuote P)
  fills : FMap Uuid (RfqFill P E)

section Rows

variable {T P : Type}

/-- `effective_status`: an open request is over once it has expired. -/
def RfqRequest.effectiveStatus (self : RfqRequest T) (now : TimestampMs) : OptionRfqStatus :=
  if self.status = .open ∧ now ≥ self.expiresAtMs then .expired else self.status

/-- `effective_status`: an active quote is over once it has expired. -/
def RfqQuote.effectiveStatus (self : RfqQuote P) (now : TimestampMs) : OptionRfqQuoteStatus :=
  if self.status = .active ∧ now ≥ self.expiresAtMs then .expired else self.status

theorem RfqRequest.open_of_effectiveStatus {rfq : RfqRequest T}
    (h : rfq.effectiveStatus now = .open) : rfq.status = .open ∧ now < rfq.expiresAtMs := by
  unfold effectiveStatus at h
  split at h
  · cases h
  next hexp =>
    refine ⟨h, ?_⟩
    by_contra hlate
    exact hexp ⟨h, Int.not_lt.1 hlate⟩

theorem RfqQuote.active_of_effectiveStatus {quote : RfqQuote P}
    (h : quote.effectiveStatus now = .active) :
    quote.status = .active ∧ now < quote.expiresAtMs := by
  unfold effectiveStatus at h
  split at h
  · cases h
  next hexp =>
    refine ⟨h, ?_⟩
    by_contra hlate
    exact hexp ⟨h, Int.not_lt.1 hlate⟩

def RfqRequest.acceptedBy (rfq : RfqRequest T) (quoteId fillId : Uuid) : RfqRequest T :=
  { rfq with status := .accepted, acceptedQuoteId := some quoteId, fillId := some fillId }

/-- The row with another status. -/
def RfqQuote.withStatus (quote : RfqQuote P) (status : OptionRfqQuoteStatus) : RfqQuote P :=
  { quote with status := status }

variable (rfqId winner : Uuid) (quote : RfqQuote P)

/-- What becomes of a quote when the request is answered by another one. -/
def RfqQuote.outbid : RfqQuote P :=
  if quote.optionRfqId = rfqId ∧ quote.quoteId ≠ winner ∧ quote.status = .active then
    quote.withStatus .rejected
  else quote

/-- What becomes of a quote when the request is withdrawn. -/
def RfqQuote.dropped (rfqId : Uuid) (quote : RfqQuote P) : RfqQuote P :=
  if quote.optionRfqId = rfqId ∧ quote.status = .active then quote.withStatus .cancelled
  else quote

@[simp] theorem RfqQuote.outbid_bid : (quote.outbid rfqId winner).toRfqBid = quote.toRfqBid := by
  unfold outbid
  split <;> rfl

@[simp] theorem RfqQuote.dropped_bid (rfqId : Uuid) (quote : RfqQuote P) :
    (quote.dropped rfqId).toRfqBid = quote.toRfqBid := by
  unfold dropped
  split <;> rfl

end Rows

/-- The texts of the errors, which name the kind of request. -/
structure RfqTexts where
  /-- The request was answered or withdrawn. -/
  noLongerOpen : String
  /-- The quote was answered or withdrawn. -/
  noLongerActive : String
  /-- The maker used the name before. -/
  duplicateQuote : String

namespace RfqBook

variable {T P E : Type}

/-! ## The store -/

/-- A store with nothing in it. -/
def new : RfqBook T P E := ⟨∅, ∅, ∅⟩

variable (self : RfqBook T P E)

/-- `insert_option_rfq`. -/
def insertRfq (rfq : RfqRequest T) : RfqBook T P E :=
  { self with rfqs := self.rfqs.set rfq.optionRfqId rfq }

variable (rfqId : Uuid)

/-- `count_option_rfq_quotes`, `count_option_multi_leg_rfq_quotes`. -/
def countQuotes : Nat :=
  self.quotes.vals.countP fun quote => quote.optionRfqId = rfqId

/-- `has_duplicate_option_rfq_client_quote`, `has_duplicate_multi_leg_client_quote`. -/
def hasDuplicateClientQuote (mmAccount : String) : Option String → Bool
  | none => false
  | some clientQuoteId => self.quotes.vals.any fun quote =>
    decide (quote.optionRfqId = rfqId) && eqIgnoreAsciiCase quote.mmAccount.name mmAccount &&
      decide (quote.clientQuoteId = some clientQuoteId)

/-- `insert_option_rfq_quote`, and the parent's part of
`insert_option_multi_leg_rfq_quote`. -/
def insertQuote (texts : RfqTexts) (quote : RfqQuote P) :
    Act BackendError (RfqBook T P E) Unit := fun self =>
  if self.hasDuplicateClientQuote quote.optionRfqId quote.mmAccount.name quote.clientQuoteId then
    (.error (.invalidOptionRfqQuoteState texts.duplicateQuote), self)
  else (.ok (), { self with quotes := self.quotes.set quote.quoteId quote })

def won (rfqId quoteId : Uuid) (rfq : RfqRequest T) (quote : RfqQuote P) (fill : RfqFill P E) :
    RfqBook T P E where
  rfqs := self.rfqs.set rfqId (rfq.acceptedBy quoteId fill.fillId)
  quotes := (self.quotes.set quoteId (quote.withStatus .accepted)).mapVals
    (RfqQuote.outbid rfqId quoteId)
  fills := self.fills.set fill.fillId fill

/-- `accept_option_rfq_quote`, and the parents' part of `accept_option_multi_leg_rfq_quote`:
the statuses are looked at again, since the caller has let go of the store. -/
def accept (texts : RfqTexts) (rfqId quoteId : Uuid) (fill : RfqFill P E) :
    Act BackendError (RfqBook T P E) (RfqRequest T × RfqQuote P) := fun self =>
  match self.rfqs.get? rfqId with
  | none => (.error .invalidOptionRfqId, self)
  | some rfq =>
    if rfq.status ≠ .open ∨ rfq.acceptedQuoteId ≠ none then
      (.error (.invalidOptionRfqState texts.noLongerOpen), self)
    else
      match self.quotes.get? quoteId with
      | none => (.error .invalidOptionRfqQuoteId, self)
      | some quote =>
        if quote.optionRfqId ≠ rfqId ∨ quote.status ≠ .active then
          (.error (.invalidOptionRfqQuoteState texts.noLongerActive), self)
        else
          (.ok (rfq.acceptedBy quoteId fill.fillId, quote.withStatus .accepted),
            self.won rfqId quoteId rfq quote fill)

def withdrawn (rfq : RfqRequest T) : RfqBook T P E :=
  { self with
    rfqs := self.rfqs.set rfqId { rfq with status := .cancelled }
    quotes := self.quotes.mapVals (RfqQuote.dropped rfqId) }

/-- How many quotes a withdrawal drops. -/
def activeQuotes : Nat :=
  self.quotes.vals.countP fun quote => quote.optionRfqId = rfqId ∧ quote.status = .active

def quoteWithdrawn (quoteId : Uuid) (quote : RfqQuote P) : RfqBook T P E :=
  { self with quotes := self.quotes.set quoteId (quote.withStatus .cancelled) }

/-- An open request and an active quote of it are accepted. -/
theorem accept_of_open (texts : RfqTexts) (fill : RfqFill P E) {rfqId quoteId : Uuid}
    (hrfq : b.rfqs.get? rfqId = some rfq) (hopen : rfq.status = .open)
    (hnone : rfq.acceptedQuoteId = none) (hquote : b.quotes.get? quoteId = some quote)
    (hof : quote.optionRfqId = rfqId) (hactive : quote.status = .active) :
    accept texts rfqId quoteId fill b =
      (.ok (rfq.acceptedBy quoteId fill.fillId, quote.withStatus .accepted),
        b.won rfqId quoteId rfq quote fill) := by
  simp [accept, hrfq, hopen, hnone, hquote, hof, hactive]

theorem insertQuote_keeps (h : insertQuote texts quote b = (.ok (), b')) :
    b'.rfqs = b.rfqs ∧ b'.fills = b.fills := by
  unfold insertQuote at h
  split at h
  · cases h
  · rw [← (Prod.mk.inj h).2]
    exact ⟨rfl, rfl⟩

theorem get?_insertQuote (h : insertQuote texts quote b = (.ok (), b')) :
    b'.quotes.get? quote.quoteId = some quote := by
  unfold insertQuote at h
  split at h
  · cases h
  · rw [← (Prod.mk.inj h).2, get?_set_self]

/-! ## What holds between the maps -/

/-- A sound book: a request has a fill when it is accepted and never two, the
fill is of the one quote that was accepted, what is over has no active quote, and every
fill fits what was asked for and offered. -/
structure Sound (fits : RfqAsk T → RfqBid P → RfqFill P E → Prop) (b : RfqBook T P E) :
    Prop where
  filled_iff : ∀ {id rfq}, b.rfqs.get? id = some rfq →
    (rfq.status = .accepted ↔ ∃ fillId fill, b.fills.get? fillId = some fill ∧ fill.optionRfqId = id)
  one_fill : ∀ {fillId fillId' fill fill'}, b.fills.get? fillId = some fill →
    b.fills.get? fillId' = some fill' → fill.optionRfqId = fill'.optionRfqId → fillId = fillId'
  accepted_quote : ∀ {fillId fill}, b.fills.get? fillId = some fill →
    ∃ rfq quote, b.rfqs.get? fill.optionRfqId = some rfq ∧
      rfq.acceptedQuoteId = some fill.quoteId ∧ b.quotes.get? fill.quoteId = some quote ∧
      quote.optionRfqId = fill.optionRfqId ∧ quote.status = .accepted ∧
      (∀ {id other}, b.quotes.get? id = some other → other.optionRfqId = fill.optionRfqId →
        other.status = .accepted → id = fill.quoteId) ∧
      fits rfq.toRfqAsk quote.toRfqBid fill
  none_active : ∀ {id rfq}, b.rfqs.get? id = some rfq →
    rfq.status = .accepted ∨ rfq.status = .cancelled →
    ∀ {quoteId quote}, b.quotes.get? quoteId = some quote → quote.optionRfqId = id →
      quote.status ≠ .active

/-- The rows belong together.  `fits` is what a fill has to do with what was asked for and
what was offered. -/
structure Lifecycle (fits : RfqAsk T → RfqBid P → RfqFill P E → Prop) (b : RfqBook T P E) :
    Prop where
  rfq_key : ∀ {id rfq}, b.rfqs.get? id = some rfq → rfq.optionRfqId = id
  quote_key : ∀ {id quote}, b.quotes.get? id = some quote → quote.quoteId = id
  fill_key : ∀ {id fill}, b.fills.get? id = some fill → fill.fillId = id
  pending : ∀ {id rfq}, b.rfqs.get? id = some rfq → rfq.status = .open → rfq.acceptedQuoteId = none
  /-- A quote is for a request, and for something. -/
  quote_of : ∀ {id quote}, b.quotes.get? id = some quote →
    0 < quote.size1e8 ∧ ∃ rfq, b.rfqs.get? quote.optionRfqId = some rfq
  /-- A fill is what its request ended with, and fits. -/
  fill_of : ∀ {id fill}, b.fills.get? id = some fill →
    ∃ rfq quote, b.rfqs.get? fill.optionRfqId = some rfq ∧ rfq.status = .accepted ∧
      rfq.acceptedQuoteId = some fill.quoteId ∧ rfq.fillId = some id ∧
      b.quotes.get? fill.quoteId = some quote ∧ quote.status = .accepted ∧
      quote.optionRfqId = fill.optionRfqId ∧ fits rfq.toRfqAsk quote.toRfqBid fill
  filled : ∀ {id rfq}, b.rfqs.get? id = some rfq → rfq.status = .accepted →
    ∃ fillId fill, b.fills.get? fillId = some fill ∧ fill.optionRfqId = id
  winner : ∀ {id quote}, b.quotes.get? id = some quote → quote.status = .accepted →
    ∃ rfq, b.rfqs.get? quote.optionRfqId = some rfq ∧ rfq.status = .accepted ∧
      rfq.acceptedQuoteId = some id
  /-- A request that is over has no active quote. -/
  settled : ∀ {id rfq}, b.rfqs.get? id = some rfq →
    rfq.status = .accepted ∨ rfq.status = .cancelled →
    ∀ {quoteId quote}, b.quotes.get? quoteId = some quote → quote.optionRfqId = id →
      quote.status ≠ .active

namespace Lifecycle

variable {fits : RfqAsk T → RfqBid P → RfqFill P E → Prop} {b : RfqBook T P E}

theorem sound (hb : Lifecycle fits b) : b.Sound fits where
  filled_iff := by
    intro id rfq hrfq
    refine ⟨hb.filled hrfq, ?_⟩
    rintro ⟨fillId, fill, hfill, rfl⟩
    obtain ⟨r, -, hr, hacc, -⟩ := hb.fill_of hfill
    rw [hrfq] at hr
    cases hr
    exact hacc
  one_fill := by
    intro fillId fillId' fill fill' hfill hfill' hsame
    obtain ⟨r, -, hr, -, -, hname, -⟩ := hb.fill_of hfill
    obtain ⟨r', -, hr', -, -, hname', -⟩ := hb.fill_of hfill'
    rw [← hsame, hr] at hr'
    cases hr'
    exact some.inj (hname.symm.trans hname')
  accepted_quote := by
    intro fillId fill hfill
    obtain ⟨r, q, hr, -, hquote, -, hq, hqacc, hof, hfits⟩ := hb.fill_of hfill
    refine ⟨r, q, hr, hquote, hq, hof, hqacc, ?_, hfits⟩
    intro id other hother hsame hacc
    obtain ⟨r', hr', -, hwinner⟩ := hb.winner hother hacc
    rw [hsame, hr] at hr'
    cases hr'
    exact some.inj (hwinner.symm.trans hquote)
  none_active := hb.settled

theorem new : Lifecycle fits (RfqBook.new : RfqBook T P E) where
  rfq_key h := by cases h
  quote_key h := by cases h
  fill_key h := by cases h
  pending h := by cases h
  quote_of h := by cases h
  fill_of h := by cases h
  filled h := by cases h
  winner h := by cases h
  settled h := by cases h

section

variable (hb : Lifecycle fits b)
include hb

/-- **A new request.** -/
theorem insertRfq (hnew : b.rfqs.get? rfq.optionRfqId = none) (hopen : rfq.status = .open)
    (hnone : rfq.acceptedQuoteId = none) : Lifecycle fits (b.insertRfq rfq) := by
  have hold : ∀ {id r}, b.rfqs.get? id = some r → (b.insertRfq rfq).rfqs.get? id = some r :=
    fun h => get?_set_new hnew h
  -- the new row is open, so that it is no case of what is said of the others
  refine ⟨?_, hb.quote_key, hb.fill_key, ?_, ?_, ?_, ?_, ?_, ?_⟩
  · exact fun h => forall_set h rfl hb.rfq_key
  · exact fun h => forall_set h (fun _ => hnone) hb.pending
  · intro id quote h
    obtain ⟨hpos, r, hr⟩ := hb.quote_of h
    exact ⟨hpos, r, hold hr⟩
  · intro id fill h
    obtain ⟨r, quote, hr, hrest⟩ := hb.fill_of h
    exact ⟨r, quote, hold hr, hrest⟩
  · exact fun h => forall_set h (fun hacc => by cases hopen.symm.trans hacc) hb.filled
  · intro id quote h hacc
    obtain ⟨r, hr, hrest⟩ := hb.winner h hacc
    exact ⟨r, hold hr, hrest⟩
  · exact fun h => forall_set h (fun hover => by simp [hopen] at hover) hb.settled

/-- **A new quote** for a request that is open. -/
theorem insertQuote (hrfq : b.rfqs.get? quote.optionRfqId = some rfq) (hopen : rfq.status = .open)
    (hnew : b.quotes.get? quote.quoteId = none) (hactive : quote.status = .active)
    (hpos : 0 < quote.size1e8) (h : RfqBook.insertQuote texts quote b = (.ok (), b')) :
    Lifecycle fits b' := by
  unfold RfqBook.insertQuote at h
  split at h
  · cases h
  obtain ⟨-, rfl⟩ := Prod.mk.inj h
  refine ⟨hb.rfq_key, ?_, hb.fill_key, hb.pending, ?_, ?_, hb.filled, ?_, ?_⟩
  · exact fun h => forall_set h rfl hb.quote_key
  · exact fun h => forall_set h ⟨hpos, rfq, hrfq⟩ hb.quote_of
  · intro id fill h
    obtain ⟨r, q, hr, hacc, hquote, hfill, hq, hrest⟩ := hb.fill_of h
    exact ⟨r, q, hr, hacc, hquote, hfill, get?_set_new hnew hq, hrest⟩
  · exact fun h => forall_set h (fun hacc => by cases hactive.symm.trans hacc) hb.winner
  · intro id r hr hover quoteId q hq hof
    rcases get?_set_eq_some.1 hq with ⟨rfl, rfl⟩ | ⟨-, hq⟩
    · cases hrfq.symm.trans (hof ▸ hr)
      simp [hopen] at hover
    · exact hb.settled hr hover hq hof

/-- Quotes end, which no accepted one does. -/
theorem requotes {quotes : FMap Uuid (RfqQuote P)}
    (hold : ∀ {id q}, quotes.get? id = some q → ∃ q₀, b.quotes.get? id = some q₀ ∧
      q.toRfqBid = q₀.toRfqBid ∧ (q = q₀ ∨ q.status ≠ .accepted ∧ q.status ≠ .active))
    (hkept : ∀ {id q}, b.quotes.get? id = some q → q.status = .accepted →
      quotes.get? id = some q) : Lifecycle fits { b with quotes := quotes } := by
  refine ⟨hb.rfq_key, ?_, hb.fill_key, hb.pending, ?_, ?_, hb.filled, ?_, ?_⟩
  · intro id q h
    obtain ⟨q₀, hq₀, hbid, -⟩ := hold h
    rw [hbid]
    exact hb.quote_key hq₀
  · intro id q h
    obtain ⟨q₀, hq₀, hbid, -⟩ := hold h
    rw [hbid]
    exact hb.quote_of hq₀
  · intro id fill h
    obtain ⟨r, q, hr, hracc, hname, hfill, hq, hqacc, hrest⟩ := hb.fill_of h
    exact ⟨r, q, hr, hracc, hname, hfill, hkept hq hqacc, hqacc, hrest⟩
  · intro id q h hq
    obtain ⟨q₀, hq₀, -, rfl | ⟨hnot, -⟩⟩ := hold h
    · exact hb.winner hq₀ hq
    · exact absurd hq hnot
  · intro id r hr hover quoteId q hq hof
    obtain ⟨q₀, hq₀, -, rfl | ⟨-, hnot⟩⟩ := hold hq
    · exact hb.settled hr hover hq₀ hof
    · exact hnot

/-- Each quote stays as it is or, if it was active, ends. -/
theorem requotes_mapVals {f : RfqQuote P → RfqQuote P}
    (hf : ∀ q, f q = q ∨ q.status = .active ∧
      ∃ status, status ≠ .accepted ∧ status ≠ .active ∧ f q = q.withStatus status) :
    Lifecycle fits { b with quotes := b.quotes.mapVals f } := by
  refine hb.requotes (fun h => ?_) fun {id q} hq hqacc => ?_
  · rw [get?_mapVals, map_eq_some_iff] at h
    obtain ⟨q, hq, rfl⟩ := h
    refine ⟨q, hq, ?_⟩
    rcases hf q with heq | ⟨-, status, hacc, hactive, heq⟩
    · exact ⟨congrArg _ heq, .inl heq⟩
    · rw [heq]
      exact ⟨rfl, .inr ⟨hacc, hactive⟩⟩
  · rw [get?_mapVals, hq, map_some]
    rcases hf q with heq | ⟨hactive, -⟩
    · rw [heq]
    · cases hactive.symm.trans hqacc

/-- **A withdrawn request** that was not accepted. -/
theorem withdrawn {rfqId : Uuid} (hrfq : b.rfqs.get? rfqId = some rfq)
    (hacc : rfq.status ≠ .accepted) : Lifecycle fits (b.withdrawn rfqId rfq) := by
  have hquotes : Lifecycle fits { b with quotes := b.quotes.mapVals (RfqQuote.dropped rfqId) } := by
    refine hb.requotes_mapVals fun q => ?_
    unfold RfqQuote.dropped
    split
    · next hdropped => exact .inr ⟨hdropped.2, .cancelled, by simp, by simp, rfl⟩
    · exact .inl rfl
  -- an accepted row is not the one withdrawn
  have hkept : ∀ {id r}, b.rfqs.get? id = some r → r.status = .accepted →
      (b.withdrawn rfqId rfq).rfqs.get? id = some r := by
    intro id r h hr
    refine get?_set_eq_some.2 (.inr ⟨?_, h⟩)
    rintro rfl
    cases hrfq.symm.trans h
    exact hacc hr
  refine ⟨?_, hquotes.quote_key, hb.fill_key, ?_, ?_, ?_, ?_, ?_, ?_⟩
  · exact fun h => forall_set h (hb.rfq_key hrfq :) hb.rfq_key
  · exact fun h => forall_set h (fun hr => by cases hr) hb.pending
  · intro id q h
    obtain ⟨hpos, r, hr⟩ := hquotes.quote_of h
    exact ⟨hpos, exists_get?_set hr⟩
  · intro id fill h
    obtain ⟨r, q, hr, hracc, hrest⟩ := hquotes.fill_of h
    exact ⟨r, q, hkept hr hracc, hracc, hrest⟩
  · exact fun h => forall_set h (fun hr => by cases hr) hb.filled
  · intro id q h hq
    obtain ⟨r, hr, hracc, hname⟩ := hquotes.winner h hq
    exact ⟨r, hkept hr hracc, hracc, hname⟩
  · intro id r h hover quoteId q hq hof
    rcases get?_set_eq_some.1 h with ⟨rfl, rfl⟩ | ⟨-, h⟩
    · rw [RfqBook.withdrawn, get?_mapVals, map_eq_some_iff] at hq
      obtain ⟨q₀, -, rfl⟩ := hq
      rw [RfqQuote.dropped_bid] at hof
      unfold RfqQuote.dropped
      split <;> simp_all [RfqQuote.withStatus]
    · exact hquotes.settled h hover hq hof

/-- **A withdrawn quote** that was active. -/
theorem quoteWithdrawn (hquote : b.quotes.get? quoteId = some quote)
    (hactive : quote.status = .active) : Lifecycle fits (b.quoteWithdrawn quoteId quote) := by
  refine hb.requotes (fun h => ?_) fun hq hqacc => get?_set_eq_some.2 (.inr ⟨?_, hq⟩)
  · rcases get?_set_eq_some.1 h with ⟨rfl, rfl⟩ | ⟨-, h⟩
    · exact ⟨quote, hquote, rfl, .inr (by simp [RfqQuote.withStatus])⟩
    · exact ⟨_, h, rfl, .inl rfl⟩
  · rintro rfl
    cases hquote.symm.trans hq
    cases hactive.symm.trans hqacc

/-- **A quote that wins.** -/
theorem won {rfqId quoteId : Uuid} (hrfq : b.rfqs.get? rfqId = some rfq)
    (hopen : rfq.status = .open) (hquote : b.quotes.get? quoteId = some quote)
    (hof : quote.optionRfqId = rfqId) (hnew : b.fills.get? fill.fillId = none)
    (hfillRfq : fill.optionRfqId = rfqId) (hfillQuote : fill.quoteId = quoteId)
    (hfits : fits rfq.toRfqAsk quote.toRfqBid fill) :
    Lifecycle fits (b.won rfqId quoteId rfq quote fill) := by
  set outbid := b.quotes.mapVals (RfqQuote.outbid rfqId quoteId) with houtbid
  have hquotes : Lifecycle fits { b with quotes := outbid } := by
    refine hb.requotes_mapVals fun q => ?_
    unfold RfqQuote.outbid
    split
    · next hlost => exact .inr ⟨hlost.2.2, .rejected, by simp, by simp, rfl⟩
    · exact .inl rfl
  have hread : ∀ {id}, (b.won rfqId quoteId rfq quote fill).quotes.get? id =
      if id = quoteId then some (quote.withStatus .accepted) else outbid.get? id := by
    intro id
    rw [RfqBook.won, houtbid, get?_mapVals, get?_mapVals, get?_set]
    split
    · exact congrArg some (if_neg (by simp [RfqQuote.withStatus]))
    · rfl
  -- no other request is touched, and no quote of another request
  have hother : ∀ {id r}, b.rfqs.get? id = some r → r.status = .accepted →
      id ≠ rfqId ∧ (b.won rfqId quoteId rfq quote fill).rfqs.get? id = some r := by
    intro id r h hr
    have hne : id ≠ rfqId := by
      rintro rfl
      cases hrfq.symm.trans h
      cases hopen.symm.trans hr
    exact ⟨hne, get?_set_eq_some.2 (.inr ⟨hne, h⟩)⟩
  refine ⟨?_, ?_, ?_, ?_, ?_, ?_, ?_, ?_, ?_⟩
  · exact fun h => forall_set h (hb.rfq_key hrfq :) hb.rfq_key
  · intro id q h
    rw [hread] at h
    split at h
    · cases h
      exact (hb.quote_key hquote).trans (Eq.symm ‹_›)
    · exact hquotes.quote_key h
  · exact fun h => forall_set h rfl hb.fill_key
  · exact fun h => forall_set h (fun hr => by cases hr) hb.pending
  · intro id q h
    rw [hread] at h
    split at h
    · cases h
      obtain ⟨hpos, r, hr⟩ := hb.quote_of hquote
      exact ⟨hpos, exists_get?_set hr⟩
    · obtain ⟨hpos, r, hr⟩ := hquotes.quote_of h
      exact ⟨hpos, exists_get?_set hr⟩
  · intro id f h
    rcases get?_set_eq_some.1 h with ⟨rfl, rfl⟩ | ⟨-, h⟩
    · subst hfillRfq hfillQuote
      exact ⟨rfq.acceptedBy fill.quoteId fill.fillId, quote.withStatus .accepted,
        get?_set_self _ _ _, rfl, rfl, rfl, hread.trans (if_pos rfl), rfl, hof, hfits⟩
    obtain ⟨r, q, hr, hracc, hname, hfill, hq, hqacc, hqof, hqfits⟩ := hquotes.fill_of h
    obtain ⟨hne, hr'⟩ := hother hr hracc
    refine ⟨r, q, hr', hracc, hname, hfill, hread.trans ?_, hqacc, hqof, hqfits⟩
    rw [if_neg, hq]
    intro heq
    rw [heq, houtbid, get?_mapVals, hquote] at hq
    cases hq
    rw [RfqQuote.outbid_bid] at hqof
    exact hne (hqof.symm.trans hof)
  · intro id r h hr
    rcases get?_set_eq_some.1 h with ⟨rfl, rfl⟩ | ⟨-, h⟩
    · exact ⟨fill.fillId, fill, get?_set_self _ _ _, hfillRfq⟩
    · obtain ⟨fillId, f, hf, hfof⟩ := hb.filled h hr
      exact ⟨fillId, f, get?_set_new hnew hf, hfof⟩
  · intro id q h hq
    rw [hread] at h
    split at h
    · next heq =>
      cases h
      refine ⟨rfq.acceptedBy id fill.fillId, ?_, rfl, rfl⟩
      show (b.rfqs.set rfqId _).get? quote.optionRfqId = _
      rw [hof, get?_set_self, heq]
    · obtain ⟨r, hr, hracc, hname⟩ := hquotes.winner h hq
      exact ⟨r, (hother hr hracc).2, hracc, hname⟩
  · intro id r h hover quoteId' q hq hqof
    rw [hread] at hq
    split at hq
    · cases hq
      simp [RfqQuote.withStatus]
    next hne =>
    rcases get?_set_eq_some.1 h with ⟨rfl, rfl⟩ | ⟨-, h⟩
    · rw [houtbid, get?_mapVals, map_eq_some_iff] at hq
      obtain ⟨q₀, hq₀, rfl⟩ := hq
      rw [RfqQuote.outbid_bid] at hqof
      have hkey := hb.quote_key hq₀
      unfold RfqQuote.outbid
      split <;> simp_all [RfqQuote.withStatus]
    · exact hquotes.settled h hover hq hqof

end

end Lifecycle

end RfqBook

end DeoptBackend
