import DeoptBackend.Lib.Act
import DeoptBackend.Lib.PartialIndex
import DeoptBackend.Perps.Margin

/-!
# The positions store (`src/perps/positions.rs`)

`PerpPositionsStore` keeps every position, open or ended, by its identifier, and
beside them a hand-kept index from (case-folded account, subaccount, market) to
the identifier of the open position.

* `insertOpen`, `getActive`, `updateActive`, `closeActive`, `liquidateActive`
  and `updateClosedRealizedPnl` — the operations.
* `PositionTable` — the rows alone, which the database keeps too: `openAt` is the
  open position under a key, `WellFormed` says that there is at most one, and
  `Writes` is all that one write of one row can do (`opens`, `changes`, `ends`).
* `PerpPositionsStore.WellFormed` — the rows are well-formed and the index finds
  exactly the open ones.  On such a store each operation is one write, and its
  outcome depends on `openAt` only (`getActive_eq`, `updateActive_eq`,
  `endActive_eq`, `insertOpen_eq`): the errors for an index that points nowhere
  are never returned.
-/

namespace DeoptBackend

open FMap Option

structure PerpPositionsStore where
  /-- All positions, open and ended. -/
  byId : FMap Uuid PerpPosition
  /-- The identifier of the open position under each key. -/
  activeByAccountSubaccountMarket : FMap IndexKey Uuid

namespace PerpPosition

variable (lower : String → String) (p : PerpPosition)

/-- The key an open position is found under; an ended one is not found. -/
def openIndex : Option IndexKey :=
  if p.status = .open then some (indexKey lower p.account p.subaccountId p.marketId) else none

/-- The key a position is found under while it is open. -/
def key : IndexKey :=
  indexKey lower p.account p.subaccountId p.marketId

variable (p : PerpPosition) (now : TimestampMs)

/-- What every write does besides its own change. -/
def touched : PerpPosition :=
  { p with updatedAtMs := now, version := min (p.version + 1) maxU64 }

def asClosed : PerpPosition :=
  { p with status := .closed, closedAtMs := some now }

/-- The position with more profit or loss realised. -/
def realizing (p : PerpPosition) (delta1e8 : Int) : PerpPosition :=
  { p with realizedPnl1e8 := Margin.satI128 (p.realizedPnl1e8 + delta1e8) }

def asLiquidated : PerpPosition :=
  { p with status := .liquidated, closedAtMs := some now }

end PerpPosition

namespace PerpPositionsStore

def empty : PerpPositionsStore := ⟨∅, ∅⟩

section

variable (lower : String → String)

/-- `insert_open`. -/
def insertOpen (position : PerpPosition) : Act Fault PerpPositionsStore PerpPosition := fun store =>
  if position.status ≠ .open then
    (.error (.err (.config "PerpPositionsStore::insert_open requires status='open'")), store)
  else
    let key := indexKey lower position.account position.subaccountId position.marketId
    if (store.activeByAccountSubaccountMarket.get? key).isSome then
      (.error (.err (.perpMarketPaused
        ("account+subaccount already has an open position for market " ++ position.marketId))),
        store)
    else
      (.ok position,
        { byId := store.byId.set position.id position
          activeByAccountSubaccountMarket :=
            store.activeByAccountSubaccountMarket.set key position.id })

variable (store : PerpPositionsStore) (account : AccountId) (subaccountId : Nat)

/-- `get_active`. -/
def getActive (marketId : String) : Option PerpPosition :=
  (store.activeByAccountSubaccountMarket.get? (indexKey lower account subaccountId marketId)).bind
    store.byId.get?

/-- The error for an index entry with no row. -/
def indexedButAbsent (id : Uuid) : Fault :=
  .err (.persistence ("perp position " ++ Uuid.show id ++ " indexed but absent"))

variable (account : AccountId) (subaccountId : Nat) (marketId : String)

variable (now : TimestampMs)

/-- `update_active`. -/
def updateActive (mutator : PerpPosition → PerpPosition) :
    Act Fault PerpPositionsStore PerpPosition := fun store =>
  match store.activeByAccountSubaccountMarket.get?
      (indexKey lower account subaccountId marketId) with
  | none => (.error (.err .perpPositionNotFound), store)
  | some id =>
    match store.byId.get? id with
    | none => (.error (indexedButAbsent id), store)
    | some position =>
      let position := (mutator position).touched now
      (.ok position, { store with byId := store.byId.set id position })

/-- What `close_active` and `liquidate_active` share: take the position off the
index, and write the row with its end. -/
def endActive (ending : PerpPosition → PerpPosition) :
    Act Fault PerpPositionsStore PerpPosition := fun store =>
  let key := indexKey lower account subaccountId marketId
  match store.activeByAccountSubaccountMarket.get? key with
  | none => (.error (.err .perpPositionNotFound), store)
  | some id =>
    let active := store.activeByAccountSubaccountMarket.del key
    match store.byId.get? id with
    -- the index entry is already gone when this is noticed
    | none =>
      (.error (indexedButAbsent id), { store with activeByAccountSubaccountMarket := active })
    | some position =>
      let position := (ending position).touched now
      (.ok position,
        { byId := store.byId.set id position, activeByAccountSubaccountMarket := active })

/-- `close_active`. -/
def closeActive : Act Fault PerpPositionsStore PerpPosition :=
  endActive lower account subaccountId marketId now fun p => p.asClosed now

/-- `liquidate_active`. -/
def liquidateActive (realizedPnlDelta1e8 : Int) (now : TimestampMs) :
    Act Fault PerpPositionsStore PerpPosition :=
  endActive lower account subaccountId marketId now fun p =>
    (p.realizing realizedPnlDelta1e8).asLiquidated now

/-- `update_closed_realized_pnl`, which lives in `fills.rs`. -/
def updateClosedRealizedPnl (id : Uuid) (realizedDelta1e8 : Int) (now : TimestampMs) :
    Act Fault PerpPositionsStore PerpPosition := fun store =>
  match store.byId.get? id with
  | none => (.error (.err .perpPositionNotFound), store)
  | some row =>
    if row.status ≠ .closed then
      (.error (.err (.config "update_closed_realized_pnl called on a non-closed position")),
        store)
    else
      let row := { row.realizing realizedDelta1e8 with updatedAtMs := now }
      (.ok row, { store with byId := store.byId.set id row })

/-- `by_id_values_iter`. -/
def byIdValuesIter (store : PerpPositionsStore) : List PerpPosition := store.byId.vals

/-- `list_for_account_and_subaccount`: newest first. -/
def listForAccountAndSubaccount : List PerpPosition :=
  (store.byId.vals.filter fun p =>
    lower p.account.name = lower account.name ∧ p.subaccountId = subaccountId).insertionSort
    fun a b => b.updatedAtMs ≤ a.updatedAtMs

end

end PerpPositionsStore

/-! ## Tables of positions -/

/-- The rows of either store: the map of the in-memory one, the table of the
database. -/
abbrev PositionTable := FMap Uuid PerpPosition

namespace PositionTable

variable {m : PositionTable} {p : PerpPosition}

def openAt (lower : String → String) (m : PositionTable) (key : IndexKey) : Option PerpPosition :=
  m.at? (PerpPosition.openIndex lower) key

/-- Rows are filed under their own identifiers, and no key has two open
positions. -/
structure WellFormed (lower : String → String) (m : PositionTable) : Prop where
  /-- At most one open position is found under each key. -/
  unique : m.UniqueIndex (PerpPosition.openIndex lower)
  /-- A row is filed under its own identifier. -/
  filed : ∀ {id p}, m.get? id = some p → p.id = id

/-- What one write does: the open position under one key becomes `new`. -/
structure Writes (lower : String → String) (m : PositionTable) (key : IndexKey)
    (new : Option PerpPosition) (m' : PositionTable) : Prop where
  wellFormed : WellFormed lower m'
  openAt_eq : ∀ k, openAt lower m' k = if k = key then new else openAt lower m k
  /-- A total over the open positions moves by the difference. -/
  total : ∀ f : PerpPosition → Int, (∀ p, p.status ≠ .open → f p = 0) →
    m'.sumBy f + (openAt lower m key).elim 0 f = m.sumBy f + new.elim 0 f
  /-- Only the new position's identifier is used up. -/
  unused : ∀ id, m.get? id = none → (∀ p, new = some p → p.id ≠ id) → m'.get? id = none

theorem wellFormed_empty : WellFormed lower (∅ : PositionTable) where
  unique := uniqueIndex_empty
  filed := by intro id p h; simp at h

theorem openIndex_of_open (ho : p.status = .open)
    (hk : indexKey lower p.account p.subaccountId p.marketId = key) :
    p.openIndex lower = some key := by
  rw [PerpPosition.openIndex, if_pos ho, hk]

theorem openIndex_of_not_open (ho : p.status ≠ .open) : p.openIndex lower = none := by
  rw [PerpPosition.openIndex, if_neg ho]

theorem openAt_spec (h : openAt lower m key = some p) :
    p.status = .open ∧ indexKey lower p.account p.subaccountId p.marketId = key := by
  obtain ⟨_, _, hk⟩ := of_at? h
  unfold PerpPosition.openIndex at hk
  split at hk
  · next ho => exact ⟨ho, some.inj hk⟩
  · cases hk

theorem openIndex_of_openAt (h : openAt lower m key = some p) : p.openIndex lower = some key :=
  openIndex_of_open (openAt_spec h).1 (openAt_spec h).2

namespace WellFormed

section

variable (h : WellFormed lower m)
include h

theorem get?_id (hp : openAt lower m key = some p) : m.get? p.id = some p := by
  obtain ⟨id, hid, _⟩ := of_at? hp
  rwa [h.filed hid]

theorem openAt_of_get? {id : Uuid} (hp : m.get? id = some p) (ho : p.status = .open) :
    openAt lower m (indexKey lower p.account p.subaccountId p.marketId) = some p :=
  h.unique.at?_of_get? hp (openIndex_of_open ho rfl)

theorem filed_set {id : Uuid} (hp : p.id = id) (hq : (m.set id p).get? id' = some q) : q.id = id' :=
  forall_set hq hp h.filed

/-- A fresh position is opened under a free key. -/
theorem opens (hid : m.get? p.id = none)
    (ho : p.openIndex lower = some key) (hkey : openAt lower m key = none) :
    Writes lower m key (some p) (m.set p.id p) := by
  obtain ⟨hunique, hat⟩ := h.unique.set_new hid ho hkey
  refine ⟨⟨hunique, h.filed_set rfl⟩, hat, fun f _ => ?_, fun id hnone hne => ?_⟩
  · rw [hkey, sumBy_set_new hid]
    simp [add_comm]
  · rw [get?_set_ne m (Ne.symm (hne p rfl)), hnone]

theorem changes (hp : openAt lower m key = some p) (hid : p'.id = p.id)
    (ho : p'.openIndex lower = some key) : Writes lower m key (some p') (m.set p.id p') := by
  have hrow := h.get?_id hp
  obtain ⟨hunique, hat⟩ := h.unique.set_same hrow (openIndex_of_openAt hp) ho
  refine ⟨⟨hunique, h.filed_set hid⟩, hat, fun f _ => ?_, fun id hnone _ => ?_⟩
  · rw [hp]
    exact sumBy_set_old hrow p' f
  · have hne : id ≠ p.id := by rintro rfl; rw [hrow] at hnone; cases hnone
    rw [get?_set_ne m hne, hnone]

theorem ends (hp : openAt lower m key = some p) (hid : p'.id = p.id)
    (ho : p'.status ≠ .open) : Writes lower m key none (m.set p.id p') := by
  have hrow := h.get?_id hp
  obtain ⟨hunique, hat⟩ :=
    h.unique.set_gone hrow (openIndex_of_openAt hp) (openIndex_of_not_open ho)
  refine ⟨⟨hunique, h.filed_set hid⟩, hat, fun f hf => ?_, fun id hnone _ => ?_⟩
  · rw [hp, ← hf p' ho]
    exact sumBy_set_old hrow p' f
  · have hne : id ≠ p.id := by rintro rfl; rw [hrow] at hnone; cases hnone
    rw [get?_set_ne m hne, hnone]

end

end WellFormed

/-! ### The open rows -/

def openRows (m : PositionTable) : List PerpPosition := m.vals.filter fun p => p.status = .open

theorem mem_openRows : p ∈ m.openRows ↔ (∃ id, m.get? id = some p) ∧ p.status = .open := by
  simp [openRows, mem_vals]

theorem WellFormed.openAt_eq_some_iff (hm : WellFormed lower m) {p : PerpPosition} :
    openAt lower m key = some p ↔ p ∈ m.openRows ∧ p.key lower = key := by
  constructor
  · intro hp
    obtain ⟨hopen, hkey⟩ := openAt_spec hp
    exact ⟨mem_openRows.2 ⟨⟨p.id, hm.get?_id hp⟩, hopen⟩, hkey⟩
  · rintro ⟨hp, rfl⟩
    obtain ⟨⟨id, hid⟩, hopen⟩ := mem_openRows.1 hp
    exact hm.openAt_of_get? hid hopen

/-- No key is open twice. -/
theorem WellFormed.nodup_keys (hm : WellFormed lower m) :
    (m.openRows.map (PerpPosition.key lower)).Nodup := by
  have hids : (m.vals.map (·.id)).Nodup := nodup_vals_map fun h => hm.filed h
  have hrows : m.openRows.Nodup := (hids.of_map).filter _
  refine hrows.map_on fun p hp q hq hkey => ?_
  have hp' := hm.openAt_eq_some_iff.2 ⟨hp, hkey⟩
  have hq' := hm.openAt_eq_some_iff.2 ⟨hq, rfl⟩
  exact some.inj (hp'.symm.trans hq')

end PositionTable

/-! ## Well-formed stores -/

namespace PerpPositionsStore

def openAt (lower : String → String) (s : PerpPositionsStore) (key : IndexKey) :
    Option PerpPosition :=
  PositionTable.openAt lower s.byId key

/-- The rows are well-formed, and the index agrees with them. -/
structure WellFormed (lower : String → String) (s : PerpPositionsStore) : Prop where
  rows : PositionTable.WellFormed lower s.byId
  /-- The index finds the open positions, and nothing else. -/
  agrees : ∀ key, s.activeByAccountSubaccountMarket.get? key = (s.openAt lower key).map (·.id)

structure Writes (lower : String → String) (s : PerpPositionsStore) (key : IndexKey)
    (new : Option PerpPosition) (s' : PerpPositionsStore) : Prop where
  rows : PositionTable.Writes lower s.byId key new s'.byId
  /-- The index still agrees. -/
  agrees : ∀ key, s'.activeByAccountSubaccountMarket.get? key = (s'.openAt lower key).map (·.id)

theorem wellFormed_empty : WellFormed lower empty where
  rows := PositionTable.wellFormed_empty
  agrees := by simp [empty, openAt, PositionTable.openAt]

namespace Writes

theorem wellFormed (h : Writes lower s key new s') : WellFormed lower s' :=
  ⟨h.rows.wellFormed, h.agrees⟩

theorem openAt_eq (h : Writes lower s key new s') (k : IndexKey) :
    s'.openAt lower k = if k = key then new else s.openAt lower k :=
  h.rows.openAt_eq k

end Writes

namespace WellFormed

section

variable (h : WellFormed lower s)
include h

/-- The index is a faithful shortcut. -/
theorem getActive_eq (account : AccountId) (subaccountId : Nat) (marketId : String) :
    s.getActive lower account subaccountId marketId =
      s.openAt lower (indexKey lower account subaccountId marketId) := by
  rw [getActive, h.agrees]
  cases hp : s.openAt lower (indexKey lower account subaccountId marketId) with
  | none => rfl
  | some => exact h.rows.get?_id hp

theorem opens (hid : s.byId.get? p.id = none) (ho : p.openIndex lower = some key)
    (hkey : s.openAt lower key = none) :
    Writes lower s key (some p)
      ⟨s.byId.set p.id p, s.activeByAccountSubaccountMarket.set key p.id⟩ := by
  have hw := h.rows.opens hid ho hkey
  refine ⟨hw, fun k => ?_⟩
  rw [get?_set, openAt, hw.openAt_eq, h.agrees]
  split <;> rfl

theorem changes (hp : s.openAt lower key = some p) (hid : p'.id = p.id)
    (ho : p'.openIndex lower = some key) :
    Writes lower s key (some p') { s with byId := s.byId.set p.id p' } := by
  have hw := h.rows.changes hp hid ho
  refine ⟨hw, fun k => ?_⟩
  rw [openAt, hw.openAt_eq, h.agrees]
  split
  · next e => rw [e, hp, map_some, map_some, hid]
  · rfl

theorem ends (hp : s.openAt lower key = some p) (hid : p'.id = p.id) (ho : p'.status ≠ .open) :
    Writes lower s key none
      ⟨s.byId.set p.id p', s.activeByAccountSubaccountMarket.del key⟩ := by
  have hw := h.rows.ends hp hid ho
  refine ⟨hw, fun k => ?_⟩
  rw [get?_del, openAt, hw.openAt_eq, h.agrees]
  split <;> rfl

end

end WellFormed

/-! ## The operations on a well-formed store -/

section

variable (h : WellFormed lower s)
include h

theorem updateActive_eq (mutator : PerpPosition → PerpPosition)
    (hp : s.openAt lower (indexKey lower account subaccountId marketId) = some p) :
    updateActive lower account subaccountId marketId now mutator s =
      (.ok ((mutator p).touched now),
        { s with byId := s.byId.set p.id ((mutator p).touched now) }) := by
  simp [updateActive, h.agrees, hp, h.rows.get?_id hp]

theorem endActive_eq (ending : PerpPosition → PerpPosition)
    (hp : s.openAt lower (indexKey lower account subaccountId marketId) = some p) :
    endActive lower account subaccountId marketId now ending s =
      (.ok ((ending p).touched now),
        ⟨s.byId.set p.id ((ending p).touched now),
          s.activeByAccountSubaccountMarket.del
            (indexKey lower account subaccountId marketId)⟩) := by
  simp [endActive, h.agrees, hp, h.rows.get?_id hp]

/-- Closing a position and writing its PnL to the closed row leaves one row
written. -/
theorem closeActive_realizing (now : TimestampMs) (delta1e8 : Int)
    (hp : s.openAt lower (indexKey lower account subaccountId marketId) = some p) :
    ∃ mid row,
      closeActive lower account subaccountId marketId now s =
        (.ok ((p.asClosed now).touched now), mid) ∧
      updateClosedRealizedPnl p.id delta1e8 now mid =
        (.ok row, ⟨s.byId.set p.id row,
          s.activeByAccountSubaccountMarket.del (indexKey lower account subaccountId marketId)⟩) ∧
      row.id = p.id ∧ row.status ≠ .open := by
  refine ⟨_, { ((p.asClosed now).touched now).realizing delta1e8 with updatedAtMs := now },
    endActive_eq h _ hp, ?_, rfl, ?_⟩
  · have hst : ((p.asClosed now).touched now).status = .closed := rfl
    simp [updateClosedRealizedPnl, hst, set_set]
  · simp [PerpPosition.realizing, PerpPosition.touched, PerpPosition.asClosed]

theorem insertOpen_eq (ho : p.openIndex lower = some key) (hkey : s.openAt lower key = none) :
    insertOpen lower p s =
      (.ok p, ⟨s.byId.set p.id p, s.activeByAccountSubaccountMarket.set key p.id⟩) := by
  unfold PerpPosition.openIndex at ho
  split at ho
  · next hs =>
      cases ho
      simp [insertOpen, hs, h.agrees, hkey]
  · cases ho

end

end PerpPositionsStore

end DeoptBackend
