import KasbOKar.Shop.Tables
import KasbOKar.Lib.ReadCommitted

/-!
# The first messages of a customer

`get_or_create_customer` of `customer_service.py` selects the customer and inserts one if there is none.
Of two transactions that both find none, the second one waits at the unique index until the first has
ended, and its `INSERT` fails if that one has committed: the handler is aborted and the message is lost
(`greeting_lost`).

The index keeps the row unique in any case.  `first_contact_iff` says that no call fails in a run if and
only if the answer of each `SELECT` that found no customer is still right when the `INSERT` comes.
-/

namespace KasbOKar

open ReadCommitted

/-- The row changes of `get_or_create_customer`. -/
inductive ContactEdit where
  /-- `INSERT INTO customers` -/
  | insertCustomer (c : Customer)
  /-- `UPDATE customers SET …`, with the names that have changed -/
  | seen (customerId : ℕ) (now : Datetime) (firstName username : Option String)
  deriving DecidableEq

/-- The address of a row.  `customerKey` is an entry of the unique index on `customers`; it holds no row
of its own and is only ever locked. -/
inductive ContactRow where
  | customer (id : ℕ)
  | customerKey (shopBotId : ℕ) (telegramId : ℤ)
  deriving DecidableEq

namespace ContactEdit

/-- The row an edit writes. -/
def row : ContactEdit → ContactRow
  | insertCustomer c => .customer c.id
  | seen customerId _ _ _ => .customer customerId

/-- The edits that insert a row. -/
def isNew : ContactEdit → Bool
  | insertCustomer _ => true
  | seen _ _ _ _ => false

end ContactEdit

namespace ShopDb

theorem seenAgain_id (now : Datetime) (firstName username : Option String) (c : Customer) :
    Keyed.id (seenAgain now firstName username c) = Keyed.id c := rfl

/-- The effect of an edit. -/
def apply (db : ShopDb) : ContactEdit → ShopDb
  | .insertCustomer c => { db with customers := db.customers.insert c }
  | .seen customerId now firstName username =>
    { db with
      customers := db.customers.modify customerId (seenAgain now firstName username)
        (seenAgain_id now firstName username) }

/-- The content of a row. -/
def get (db : ShopDb) : ContactRow → Option Customer
  | .customer i => db.customers.find? i
  | .customerKey _ _ => none

theorem get_apply_of_ne (db : ShopDb) (e : ContactEdit) (k : ContactRow) (h : k ≠ e.row) :
    (db.apply e).get k = db.get k := by
  cases k with
  | customerKey s t => rfl
  | customer i =>
    cases e with
    | insertCustomer c =>
      have hi : i ≠ Keyed.id c := fun hi => h (congrArg _ hi)
      exact Table.find?_insert_of_ne hi
    | seen j now firstName username =>
      have hi : i ≠ j := fun hi => h (congrArg _ hi)
      exact Table.find?_modify_of_ne (seenAgain_id now firstName username) hi

theorem get_apply_row (db db' : ShopDb) (e : ContactEdit) (h : db'.get e.row = db.get e.row) :
    (db'.apply e).get e.row = (db.apply e).get e.row := by
  cases e with
  | insertCustomer c =>
    have hc : db'.customers.find? c.id = db.customers.find? c.id := h
    show (db'.customers.insert c).find? c.id = (db.customers.insert c).find? c.id
    rw [Table.find?_insert, Table.find?_insert, hc]
  | seen j now firstName username =>
    have hj : db'.customers.find? j = db.customers.find? j := h
    show (db'.customers.modify j _ (seenAgain_id now firstName username)).find? j =
      (db.customers.modify j _ (seenAgain_id now firstName username)).find? j
    rw [Table.find?_modify, Table.find?_modify, hj]

instance : Store ShopDb ContactEdit ContactRow Customer where
  apply := apply
  row := ContactEdit.row
  isNew := ContactEdit.isNew
  get := get
  get_apply_of_ne := get_apply_of_ne
  get_apply_row := get_apply_row

end ShopDb

abbrev ContactProg := Prog ShopDb ContactEdit ContactRow Customer

abbrev ContactConfig (ι : Type) := Config ι ShopDb ContactEdit ContactRow Customer

/-- The arguments of a call that come with the message, and the time of the call. -/
structure ContactCall where
  now : Datetime
  firstName : Option String
  username : Option String

namespace ContactCall

/-- The names fit their columns. -/
def fits (call : ContactCall) : Bool :=
  call.firstName.all (fun s => decide (s.length ≤ 255)) &&
    call.username.all fun s => decide (s.length ≤ 255)

/-- The value that the flush writes for a column, if it has changed. -/
def changed (loaded new : Option String) : Option String := if new = loaded then none else new

/-- The `UPDATE` for a customer that was loaded. -/
def update (call : ContactCall) (c : Customer) : ContactEdit :=
  .seen c.id call.now (changed c.firstName call.firstName) (changed c.username call.username)

/-- The customer as the call returns it. -/
def seen (call : ContactCall) (c : Customer) : Customer :=
  ShopDb.seenAgain call.now call.firstName call.username c

/-- The row that is inserted. -/
def customer (call : ContactCall) (shopBotId : ℕ) (telegramId : ℤ) (id : ℕ) : Customer :=
  { id := id, shopBotId := shopBotId, telegramId := telegramId, firstName := call.firstName,
    username := call.username, lastMessageAt := some call.now }

end ContactCall

namespace ShopDb

/-- The `INSERT`, from the entry of the unique index on: it waits there, and is then checked against the
index and the foreign key. -/
def insertCustomerTx (shopBotId : ℕ) (telegramId : ℤ) (call : ContactCall) : ContactProg :=
  .lock (.customerKey shopBotId telegramId) fun db =>
    if shopBotId ∉ db.shops.ids ∨ (db.getCustomer shopBotId telegramId).isSome then .rollback
    else
      .insert (fun id => .insertCustomer (call.customer shopBotId telegramId id)) fun id =>
        .commit (call.customer shopBotId telegramId id)

/-- A transaction that calls `get_or_create_customer`.  A statement that raises ends the handler. -/
def getOrCreateCustomerTx (shopBotId : ℕ) (telegramId : ℤ) (call : ContactCall) : ContactProg :=
  .read fun db =>
    if !call.fits then .rollback
    else
      match db.getCustomer shopBotId telegramId with
      | some c => .exec (call.update c) (.commit (call.seen c))
      | none => insertCustomerTx shopBotId telegramId call

/-- The keys that a serial column hands out. -/
def serial (db : ShopDb) (_ : ℕ → ContactEdit) : ℕ := db.customers.nextId

theorem or_changed (loaded new : Option String) :
    (ContactCall.changed loaded new).or loaded = new.or loaded := by
  unfold ContactCall.changed
  split_ifs with h
  · rw [h]
    cases loaded <;> rfl
  · rfl

/-- Alone, the transaction is the function. -/
theorem solo_getOrCreateCustomerTx (db : ShopDb) (shopBotId : ℕ) (telegramId : ℤ) (call : ContactCall) :
    solo serial (getOrCreateCustomerTx shopBotId telegramId call) db =
      (db.getOrCreateCustomer call.now shopBotId telegramId call.firstName call.username).toOption := by
  have hfits : (!call.fits) = true ↔
      call.firstName.any (fun s => 255 < s.length) ∨ call.username.any fun s => 255 < s.length := by
    unfold ContactCall.fits
    cases call.firstName <;> cases call.username <;> simp
  unfold getOrCreateCustomerTx getOrCreateCustomer
  rw [solo]
  by_cases hlong : (!call.fits) = true
  · rw [if_pos hlong, if_pos (hfits.1 hlong)]
    rfl
  rw [if_neg hlong, if_neg (mt hfits.2 hlong)]
  cases hc : db.getCustomer shopBotId telegramId with
  | some c =>
    have hrows : db.apply (call.update c) =
        db.apply (.seen c.id call.now call.firstName call.username) := by
      refine congrArg (fun customers => ({ db with customers := customers } : ShopDb))
        (Table.modify_congr (seenAgain_id _ _ _) (seenAgain_id _ _ _) fun r hr hid => ?_)
      rw [Table.eq_of_id_eq hr (getCustomer_some hc).1 hid]
      unfold seenAgain
      rw [or_changed, or_changed]
    dsimp only
    rw [solo, solo]
    exact congrArg (fun d => some (d, call.seen c)) hrows
  | none =>
    unfold insertCustomerTx
    dsimp only
    rw [solo, hc]
    by_cases hshop : shopBotId ∉ db.shops.ids
    · rw [if_pos (Or.inl hshop), if_pos hshop]
      rfl
    · rw [if_neg (by simpa using hshop), if_neg hshop]
      rfl

/-! ## Where a call stands -/

/-- The rows of a customer of a shop. -/
def customersOf (db : ShopDb) (shopBotId : ℕ) (telegramId : ℤ) : List Customer :=
  db.customers.rows.filter fun c => c.shopBotId == shopBotId && c.telegramId == telegramId

theorem customersOf_eq_nil {db : ShopDb} {shopBotId : ℕ} {telegramId : ℤ} :
    db.customersOf shopBotId telegramId = [] ↔ db.getCustomer shopBotId telegramId = none := by
  unfold customersOf getCustomer
  rw [List.filter_eq_nil_iff, List.find?_eq_none]

theorem customersOf_update (db : ShopDb) (call : ContactCall) (c : Customer) (shopBotId : ℕ)
    (telegramId : ℤ) :
    ((db.apply (call.update c)).customersOf shopBotId telegramId).length =
      (db.customersOf shopBotId telegramId).length := by
  unfold customersOf
  rw [← List.countP_eq_length_filter, ← List.countP_eq_length_filter]
  show List.countP _ (db.customers.modify c.id _ (seenAgain_id _ _ _)).rows = _
  unfold Table.modify
  rw [List.countP_map]
  refine List.countP_congr fun r _ => ?_
  dsimp only [Function.comp]
  split_ifs <;> rfl

theorem customersOf_insert {db : ShopDb} {c : Customer} (h : db.get (.customer c.id) = none) :
    (db.apply (.insertCustomer c)).customersOf c.shopBotId c.telegramId =
      db.customersOf c.shopBotId c.telegramId ++ [c] := by
  have hid : Keyed.id c ∉ db.customers.ids := Table.find?_eq_none_iff.1 h
  show (db.customers.insert c).rows.filter _ = _
  rw [Table.insert_rows hid, List.filter_append]
  refine congrArg (db.customersOf c.shopBotId c.telegramId ++ ·) ?_
  simp

/-- A transaction between two statements of its call: what it has still to do, has sent and locked, and
what it knows about the committed rows. -/
inductive Stands (shopBotId : ℕ) (telegramId : ℤ) (call : ContactCall) (d : ShopDb) :
    Tx ShopDb ContactEdit ContactRow Customer → Prop
  | selecting (reads : List ShopDb) :
    Stands shopBotId telegramId call d
      ⟨.running (getOrCreateCustomerTx shopBotId telegramId call), [], [], reads⟩
  | updating (c : Customer) (reads : List ShopDb) (hrow : d.customersOf shopBotId telegramId ≠ []) :
    Stands shopBotId telegramId call d
      ⟨.running (.exec (call.update c) (.commit (call.seen c))), [], [], reads⟩
  | updated (c : Customer) (locks : List ContactRow) (reads : List ShopDb)
      (hrow : d.customersOf shopBotId telegramId ≠ []) :
    Stands shopBotId telegramId call d
      ⟨.running (.commit (call.seen c)), [call.update c], locks, reads⟩
  | waiting (reads : List ShopDb) :
    Stands shopBotId telegramId call d
      ⟨.running (insertCustomerTx shopBotId telegramId call), [], [], reads⟩
  | checked (reads : List ShopDb) (hrow : d.customersOf shopBotId telegramId = []) :
    Stands shopBotId telegramId call d
      ⟨.running (.insert (fun id => .insertCustomer (call.customer shopBotId telegramId id)) fun id =>
        .commit (call.customer shopBotId telegramId id)), [], [.customerKey shopBotId telegramId], reads⟩
  | refused (locks : List ContactRow) (reads : List ShopDb) :
    Stands shopBotId telegramId call d ⟨.running .rollback, [], locks, reads⟩
  | inserted (id : ℕ) (locks : List ContactRow) (reads : List ShopDb)
      (hlock : .customerKey shopBotId telegramId ∈ locks)
      (hrow : d.customersOf shopBotId telegramId = []) :
    Stands shopBotId telegramId call d
      ⟨.running (.commit (call.customer shopBotId telegramId id)),
        [.insertCustomer (call.customer shopBotId telegramId id)], locks, reads⟩
  | returned (c : Customer) (edits : List ContactEdit) (locks : List ContactRow) (reads : List ShopDb)
      (hrow : d.customersOf shopBotId telegramId ≠ []) :
    Stands shopBotId telegramId call d ⟨.committed c, edits, locks, reads⟩
  | ended (locks : List ContactRow) (reads : List ShopDb) :
    Stands shopBotId telegramId call d ⟨.rolledBack, [], locks, reads⟩

/-- Rows are only added, and none behind the back of a transaction that holds the entry of the index. -/
theorem Stands.mono {shopBotId : ℕ} {telegramId : ℤ} {call : ContactCall} {d d' : ShopDb}
    {t : Tx ShopDb ContactEdit ContactRow Customer} (h : Stands shopBotId telegramId call d t)
    (hsome : d.customersOf shopBotId telegramId ≠ [] → d'.customersOf shopBotId telegramId ≠ [])
    (hnone : .customerKey shopBotId telegramId ∈ t.locks → d.customersOf shopBotId telegramId = [] →
      d'.customersOf shopBotId telegramId = []) : Stands shopBotId telegramId call d' t := by
  cases h with
  | selecting reads => exact .selecting reads
  | updating c reads hrow => exact .updating c reads (hsome hrow)
  | updated c locks reads hrow => exact .updated c locks reads (hsome hrow)
  | waiting reads => exact .waiting reads
  | checked reads hrow => exact .checked reads (hnone List.mem_cons_self hrow)
  | refused locks reads => exact .refused locks reads
  | inserted id locks reads hlock hrow => exact .inserted id locks reads hlock (hnone hlock hrow)
  | returned c edits locks reads hrow => exact .returned c edits locks reads (hsome hrow)
  | ended locks reads => exact .ended locks reads

/-! ## Every interleaving -/

section Interleaving

variable {ι : Type} {shopBotId : ℕ} {telegramId : ℤ} {call : ι → ContactCall}

/-- A statement of the call has raised, so that the handler is about to be rolled back. -/
def raised (c : ContactConfig ι) (i : ι) : Bool :=
  match (c.tx i).status with
  | .running .rollback => true
  | _ => false

theorem raised_iff {c : ContactConfig ι} {i : ι} :
    raised c i = true ↔ (c.tx i).status = .running .rollback := by
  unfold raised
  split
  · rename_i h
    exact ⟨fun _ => h, fun _ => rfl⟩
  · rename_i h
    exact ⟨fun hfalse => (by cases hfalse), fun hstatus => absurd hstatus h⟩

/-- A call that has found no customer and gets past the entry of the unique index: there still is none. -/
def answerCurrent (d : ShopDb) (t : Tx ShopDb ContactEdit ContactRow Customer) : Bool :=
  match t.status with
  | .running (.lock (.customerKey shopBotId telegramId) _) => (d.getCustomer shopBotId telegramId).isNone
  | _ => true

/-- The answer of the `SELECT` is still right when the call gets to its `INSERT`. -/
def contactCurrent (c : ContactConfig ι) : Act ι → Bool
  | .next i _ => answerCurrent c.db (c.tx i)
  | .abort _ => true

/-- What holds in all interleavings of calls for the customer. -/
structure ContactInv (shopBotId : ℕ) (telegramId : ℤ) (call : ι → ContactCall) (c : ContactConfig ι) :
    Prop where
  shop : shopBotId ∈ c.db.shops.ids
  once : (c.db.customersOf shopBotId telegramId).length ≤ 1
  locked : Locked c
  stands : ∀ i, Stands shopBotId telegramId (call i) c.db (c.tx i)

/-- What a commit makes of the rows of the customer. -/
theorem ContactInv.view {c : ContactConfig ι} (h : ContactInv shopBotId telegramId call c) {i : ι}
    {r : Customer} (hi : (c.tx i).status = .running (.commit r)) :
    shopBotId ∈ (c.view i).shops.ids ∧
    ((c.view i).customersOf shopBotId telegramId).length = 1 ∧
    (c.db.customersOf shopBotId telegramId = [] → .customerKey shopBotId telegramId ∈ (c.tx i).locks) := by
  have hs := h.stands i
  have hfresh := h.locked.fresh i _ hi
  have hshops : ∀ es : List ContactEdit, ∀ d : ShopDb, (applyAll d es).shops = d.shops := by
    intro es
    induction es with
    | nil => exact fun _ => rfl
    | cons e es ih =>
      intro d
      rw [applyAll_cons, ih]
      cases e <;> rfl
  refine ⟨by unfold Config.view; rw [hshops]; exact h.shop, ?_⟩
  unfold Config.view
  generalize c.tx i = t at hs hi hfresh
  cases hs with
  | updated d locks reads hrow =>
    refine ⟨?_, fun hnil => absurd hnil hrow⟩
    have hpos := List.length_pos_iff.2 hrow
    have hlen := customersOf_update c.db (call i) d shopBotId telegramId
    have honce := h.once
    show ((c.db.apply ((call i).update d)).customersOf shopBotId telegramId).length = 1
    omega
  | inserted id locks reads hlock hrow =>
    refine ⟨?_, fun _ => hlock⟩
    have hfree : c.db.get (.customer ((call i).customer shopBotId telegramId id).id) = none :=
      hfresh.1 rfl
    have hnew := customersOf_insert hfree
    show ((c.db.apply (.insertCustomer ((call i).customer shopBotId telegramId id))).customersOf shopBotId
      telegramId).length = 1
    rw [show ((call i).customer shopBotId telegramId id).shopBotId = shopBotId from rfl,
      show ((call i).customer shopBotId telegramId id).telegramId = telegramId from rfl, hrow] at hnew
    rw [hnew]
    rfl
  | _ => cases hi

theorem contactInv_start {db : ShopDb} (hshop : shopBotId ∈ db.shops.ids)
    (hnew : db.getCustomer shopBotId telegramId = none) :
    ContactInv shopBotId telegramId call
      (start db fun i => getOrCreateCustomerTx shopBotId telegramId (call i)) where
  shop := hshop
  once := by
    show (db.customersOf shopBotId telegramId).length ≤ 1
    rw [customersOf_eq_nil.2 hnew]
    exact Nat.zero_le 1
  locked := locked_start _ _
  stands _ := .selecting []

/-- No call has raised; and once one has committed, the customer has exactly one row. -/
structure Welcomed (shopBotId : ℕ) (telegramId : ℤ) (c : ContactConfig ι) : Prop where
  returns : ∀ i, raised c i = false
  once : (∃ i, (c.outcome i).isSome = true) → (c.db.customersOf shopBotId telegramId).length = 1

theorem ContactInv.welcomed {c : ContactConfig ι} (h : ContactInv shopBotId telegramId call c)
    (hnone : ∀ i, raised c i = false) : Welcomed shopBotId telegramId c := by
  refine ⟨hnone, ?_⟩
  rintro ⟨i, hi⟩
  have hs := h.stands i
  have honce := h.once
  unfold Config.outcome at hi
  generalize c.tx i = t at hs hi
  cases hs with
  | returned r edits locks reads hrow =>
    have hpos := List.length_pos_iff.2 hrow
    omega
  | _ => cases hi

variable [Fintype ι] [DecidableEq ι]

/-- A step changes what one transaction does, and its call raises exactly if the answer of its `SELECT`
is out of date; or it is a commit. -/
theorem contact_cases {c c' : ContactConfig ι} {a : Act ι}
    (h : ContactInv shopBotId telegramId call c) (hfits : ∀ i, (call i).fits = true)
    (hs : c.step a = some c') :
    (∃ i t, c' = c.set i t ∧ Stands shopBotId telegramId (call i) c.db t ∧
      (t.status = .running .rollback ↔ contactCurrent c a = false) ∧
      (t.status = .rolledBack → a = .abort i ∨ raised c i = true)) ∨
    ∃ i r, c' = c.publish i r ∧ (c.tx i).status = .running (.commit r) ∧ contactCurrent c a = true := by
  cases a with
  | abort i =>
    change c.abort i = some c' at hs
    unfold Config.abort at hs
    split at hs
    · cases hs
      exact Or.inl ⟨i, _, rfl, .ended _ _, by simp [contactCurrent], fun _ => Or.inl rfl⟩
    · cases hs
  | next i n =>
    change c.next i n = some c' at hs
    unfold Config.next at hs
    have hi := h.stands i
    show (∃ j t, c' = c.set j t ∧ Stands shopBotId telegramId (call j) c.db t ∧
      (t.status = .running .rollback ↔ answerCurrent c.db (c.tx i) = false) ∧
      (t.status = .rolledBack → Act.next i n = .abort j ∨ raised c j = true)) ∨
      ∃ j r, c' = c.publish j r ∧ (c.tx j).status = .running (.commit r) ∧
        answerCurrent c.db (c.tx i) = true
    have hview : (c.tx i).edits = [] → c.view i = c.db := fun hnil => by
      unfold Config.view
      rw [hnil]
      rfl
    generalize ht : c.tx i = t at hi hs hview
    cases hi with
    | selecting reads =>
      cases hs
      refine Or.inl ⟨i, _, rfl, ?_⟩
      rw [hview rfl]
      dsimp only
      rw [hfits i]
      cases hc : c.db.getCustomer shopBotId telegramId with
      | none => exact
        ⟨.waiting _, by simp [answerCurrent, insertCustomerTx, getOrCreateCustomerTx], fun h => by cases h⟩
      | some d =>
        refine ⟨.updating d _ fun hnil => ?_, by simp [answerCurrent, getOrCreateCustomerTx],
          fun h => by cases h⟩
        rw [customersOf_eq_nil, hc] at hnil
        cases hnil
    | updating d reads hrow =>
      dsimp only at hs
      split_ifs at hs
      cases hs
      exact Or.inl ⟨i, _, rfl, .updated d _ _ hrow, by simp [answerCurrent, Tx.write],
        fun h => by cases h⟩
    | updated d locks reads hrow =>
      cases hs
      exact Or.inr ⟨i, _, rfl, by rw [ht], rfl⟩
    | waiting reads =>
      dsimp only [insertCustomerTx] at hs
      rw [hview rfl] at hs
      have hanswer : answerCurrent c.db
          ⟨.running (insertCustomerTx shopBotId telegramId (call i)), [], [], reads⟩ =
            (c.db.getCustomer shopBotId telegramId).isNone := rfl
      rw [hanswer]
      split_ifs at hs with hfree hrefused
      · cases hs
        have hsome := hrefused.resolve_left (not_not.2 h.shop)
        refine Or.inl ⟨i, _, rfl, .refused _ _, ?_, fun h => by cases h⟩
        rw [Option.isSome_iff_exists] at hsome
        obtain ⟨d, hd⟩ := hsome
        simp [hd]
      · cases hs
        rw [not_or, Bool.not_eq_true, Option.isSome_eq_false_iff, Option.isNone_iff_eq_none] at hrefused
        refine Or.inl ⟨i, _, rfl, .checked _ (customersOf_eq_nil.2 hrefused.2), ?_,
          fun h => by cases h⟩
        simp [hrefused.2]
    | checked reads hrow =>
      dsimp only at hs
      split_ifs at hs
      cases hs
      refine Or.inl ⟨i, _, rfl, .inserted n _ _ ?_ hrow, by simp [answerCurrent, Tx.write],
        fun h => by cases h⟩
      exact List.mem_cons_of_mem _ List.mem_cons_self
    | refused locks reads =>
      cases hs
      exact Or.inl ⟨i, _, rfl, .ended _ _, by simp [answerCurrent],
        fun _ => Or.inr (raised_iff.2 (by rw [ht]))⟩
    | inserted id locks reads hlock hrow =>
      cases hs
      exact Or.inr ⟨i, _, rfl, by rw [ht], rfl⟩
    | returned d edits locks reads hrow => cases hs
    | ended locks reads => cases hs

/-- **One step of an interleaving.** -/
theorem ContactInv.step {c c' : ContactConfig ι} {a : Act ι}
    (h : ContactInv shopBotId telegramId call c) (hfits : ∀ i, (call i).fits = true)
    (hs : c.step a = some c') : ContactInv shopBotId telegramId call c' := by
  have hlocked := h.locked.step hs
  obtain ⟨i, t, rfl, ht, -⟩ | ⟨i, r, rfl, hi, -⟩ := contact_cases h hfits hs
  · refine ⟨h.shop, h.once, hlocked, fun j => ?_⟩
    by_cases hj : j = i
    · subst hj
      rw [set_tx_self]
      exact ht
    · rw [set_tx_of_ne hj]
      exact h.stands j
  · obtain ⟨hshop, hlen, hkey⟩ := h.view hi
    have hsome : (c.view i).customersOf shopBotId telegramId ≠ [] := by
      intro hnil
      rw [hnil] at hlen
      cases hlen
    refine ⟨hshop, hlen.le, hlocked, fun j => ?_⟩
    by_cases hj : j = i
    · subst hj
      rw [publish_tx_self]
      exact .returned r _ _ _ hsome
    · rw [publish_tx_of_ne hj]
      refine (h.stands j).mono (fun _ => hsome) fun hlock hnil => ?_
      exact absurd hlock (h.locked.disjoint i j (Ne.symm hj) _ (hkey hnil))

/-- As long as no call has raised, a step makes one raise exactly if an answer is out of date. -/
theorem raised_step {c c' : ContactConfig ι} {a : Act ι} (h : ContactInv shopBotId telegramId call c)
    (hfits : ∀ i, (call i).fits = true) (hnone : ∀ i, raised c i = false) (hs : c.step a = some c') :
    (∀ i, raised c' i = false) ↔ contactCurrent c a = true := by
  obtain ⟨i, t, rfl, -, hraised, -⟩ | ⟨i, r, rfl, hi, hcurrent⟩ := contact_cases h hfits hs
  · rw [← Bool.not_eq_false, ← hraised]
    constructor
    · intro hall hstatus
      have hi : raised (c.set i t) i = true := raised_iff.2 (by rw [set_tx_self]; exact hstatus)
      rw [hall i] at hi
      cases hi
    · intro hstatus j
      rw [← Bool.not_eq_true, raised_iff]
      by_cases hj : j = i
      · subst hj
        rw [set_tx_self]
        exact hstatus
      · rw [set_tx_of_ne hj, ← raised_iff, hnone j]
        simp
  · refine iff_of_true (fun j => ?_) hcurrent
    rw [← Bool.not_eq_true, raised_iff]
    by_cases hj : j = i
    · subst hj
      rw [publish_tx_self]
      rintro ⟨⟩
    · rw [publish_tx_of_ne hj, ← raised_iff, hnone j]
      simp

/-- Without a rollback from outside, a transaction whose call does not raise is never rolled back. -/
theorem not_rolledBack_step {c c' : ContactConfig ι} {a : Act ι}
    (h : ContactInv shopBotId telegramId call c) (hfits : ∀ i, (call i).fits = true)
    (hnone : ∀ i, raised c i = false) (hkept : ∀ i, (c.tx i).status ≠ .rolledBack)
    (ha : ∀ i, a ≠ .abort i) (hs : c.step a = some c') : ∀ i, (c'.tx i).status ≠ .rolledBack := by
  intro j hj
  obtain ⟨i, t, rfl, -, -, hended⟩ | ⟨i, r, rfl, -, -⟩ := contact_cases h hfits hs
  · by_cases hji : j = i
    · subst hji
      rw [set_tx_self] at hj
      rcases hended hj with habort | hraised
      · exact ha j habort
      · rw [hnone j] at hraised
        cases hraised
    · rw [set_tx_of_ne hji] at hj
      exact hkept j hj
  · by_cases hji : j = i
    · subst hji
      rw [publish_tx_self] at hj
      cases hj
    · rw [publish_tx_of_ne hji] at hj
      exact hkept j hj

/-- **First contacts.** In every interleaving of any number of calls for a new customer, with any of the
transactions rolled back from outside: no call raises, and there is exactly one row once one of them has
committed, in all states of the run if and only if the answers of the `SELECT`s that found no customer
are still right when their calls get to the `INSERT`.  Then, if none is rolled back from outside, all
calls return.  The row is unique in any case. -/
theorem first_contact_iff (shopBotId : ℕ) (telegramId : ℤ) (call : ι → ContactCall)
    (hfits : ∀ i, (call i).fits = true) (db : ShopDb) (hshop : shopBotId ∈ db.shops.ids)
    (hnew : db.getCustomer shopBotId telegramId = none) (as : List (Act ι)) (c : ContactConfig ι)
    (hrun : Runs.exec Config.step
      (start db fun i => getOrCreateCustomerTx shopBotId telegramId (call i)) as = some c) :
    (Runs.Always Config.step (Welcomed shopBotId telegramId)
        (start db fun i => getOrCreateCustomerTx shopBotId telegramId (call i)) as ↔
      Runs.Along Config.step (fun c a => contactCurrent c a = true)
        (start db fun i => getOrCreateCustomerTx shopBotId telegramId (call i)) as) ∧
    (Runs.Along Config.step (fun c a => contactCurrent c a = true)
        (start db fun i => getOrCreateCustomerTx shopBotId telegramId (call i)) as →
      (∀ i, Act.abort i ∉ as) → c.Finished → ∀ i, (c.outcome i).isSome = true) ∧
    (c.db.customersOf shopBotId telegramId).length ≤ 1 := by
  set s₀ : ContactConfig ι := start db fun i => getOrCreateCustomerTx shopBotId telegramId (call i)
  have h₀ : ContactInv shopBotId telegramId call s₀ := contactInv_start hshop hnew
  have hinv : ∀ before s', Runs.exec Config.step s₀ before = some s' →
      ContactInv shopBotId telegramId call s' := fun before s' hs =>
    Runs.exec_inv_of_step (fun s a s' hI hstep => hI.step hfits hstep) before s₀ s' h₀ hs
  have hiff := Runs.always_iff (D := fun _ : Act ι => True)
    (I := fun s => ContactInv shopBotId telegramId call s ∧ ∀ i, raised s i = false)
    (C := fun s a => contactCurrent s a = true)
    (fun s a s' hI _ hs => by
      rw [and_iff_right (hI.1.step hfits hs)]
      exact raised_step hI.1 hfits hI.2 hs)
    as s₀ c ⟨h₀, fun _ => rfl⟩ (fun _ _ => trivial) hrun
  refine ⟨?_, fun hcurrent habort hfinished i => ?_, (hinv as c hrun).once⟩
  · rw [← hiff]
    constructor
    · exact fun hall before after s' hsplit hs =>
        ⟨hinv before s' hs, (hall before after s' hsplit hs).returns⟩
    · intro hall before after s' hsplit hs
      obtain ⟨hI, hnone⟩ := hall before after s' hsplit hs
      exact hI.welcomed hnone
  · have hend := Runs.exec_inv
      (C := fun s a => contactCurrent s a = true ∧ ∀ i, a ≠ .abort i)
      (I := fun s => ContactInv shopBotId telegramId call s ∧ (∀ i, raised s i = false) ∧
        ∀ i, (s.tx i).status ≠ .rolledBack)
      (fun s a s' hI hC hs => ⟨hI.1.step hfits hs, (raised_step hI.1 hfits hI.2.1 hs).2 hC.1,
        not_rolledBack_step hI.1 hfits hI.2.1 hI.2.2 hC.2 hs⟩)
      as s₀ c ⟨h₀, fun _ => rfl, fun _ hstatus => by cases hstatus⟩
      (hcurrent.and_mem (D := fun a => ∀ i, a ≠ .abort i) fun a ha i hai => habort i
        (by rw [← hai]; exact ha)) hrun
    unfold Config.outcome
    cases hstatus : (c.tx i).status with
    | running p => exact absurd hstatus (hfinished i p)
    | committed r => rfl
    | rolledBack => exact absurd hstatus (hend.2.2 i)

end Interleaving

/-- A shop nobody has written to yet. -/
def newShop : ShopDb :=
  { owners := ⟨[{ id := 1, telegramId := 140 }], List.nodup_singleton _⟩
    referrals := .empty
    shops := ⟨[{ id := 1, shopOwnerId := 1, encryptedToken := "n", botTelegramId := 540,
                 botUsername := "new_bot", webhookSecretToken := "n" }], List.nodup_singleton _⟩
    customers := .empty
    products := .empty
    orders := .empty
    settings := {} }

/-- A greeting and a question of the same user. -/
def twoContacts : Bool → ContactCall
  | false => ⟨0, some "Sara", none⟩
  | true => ⟨1, some "Sara", some "sara"⟩

def startContacts : ContactConfig Bool :=
  start newShop fun i => getOrCreateCustomerTx 1 940 (twoContacts i)

/-- The question comes when the greeting has been committed. -/
def contactsInTurn : List (Act Bool) :=
  [.next false 0, .next false 0, .next false 1, .next false 0, .next true 0, .next true 0, .next true 0]

/-- Both look for the customer before the first one is committed. -/
def contactsAtOnce : List (Act Bool) :=
  [.next false 0, .next true 0, .next false 0, .next false 1, .next false 0, .next true 0]

theorem contactsInTurn_isSome : (Runs.exec Config.step startContacts contactsInTurn).isSome = true := by
  decide +kernel

theorem first_contact_iff_inTurn :
    ∃ c, Runs.exec Config.step startContacts contactsInTurn = some c ∧
      (∀ i, (c.outcome i).isSome = true) ∧ (c.db.customersOf 1 940).length = 1 ∧
      Runs.Always Config.step (Welcomed 1 940) startContacts contactsInTurn :=
  ⟨_, (Option.some_get contactsInTurn_isSome).symm, by decide +kernel, by decide +kernel,
    (first_contact_iff 1 940 twoContacts (by decide) newShop (by decide) rfl contactsInTurn _
      (Option.some_get contactsInTurn_isSome).symm).1.2 (by decide +kernel)⟩

theorem contactsAtOnce_isSome : (Runs.exec Config.step startContacts contactsAtOnce).isSome = true := by
  decide +kernel

/-- The call for the question raises at the unique index: its handler is about to be rolled back. -/
theorem greeting_lost :
    (∀ i, (twoContacts i).fits = true) ∧ 1 ∈ newShop.shops.ids ∧ newShop.getCustomer 1 940 = none ∧
    ∃ c, Runs.exec Config.step startContacts contactsAtOnce = some c ∧
      (c.outcome false).isSome = true ∧ raised c true = true ∧ ¬ Welcomed 1 940 c := by
  refine ⟨by decide, by decide, rfl, _, (Option.some_get contactsAtOnce_isSome).symm, by decide +kernel,
    by decide +kernel, fun h => ?_⟩
  exact absurd (h.returns true) (by decide +kernel)

end ShopDb

end KasbOKar
