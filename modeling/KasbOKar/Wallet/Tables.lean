import KasbOKar.Models
import KasbOKar.Lib.ReadCommitted

/-!
# The wallet tables and the statements that change them

`WalletEdit` lists the row changes that `app/services/wallet_service.py` sends to the database.
The services below and their transactions are both built from these edits, so one lemma about an
edit serves the sequential and the interleaved development.
-/

namespace KasbOKar

open ReadCommitted

/-- The tables `shop_owners`, `wallet_charges` and `wallet_transactions`. -/
structure WalletDb where
  owners : Table ShopOwner
  charges : Table WalletCharge
  transactions : Table WalletTransaction

/-- The row changes of the wallet service. -/
inductive WalletEdit where
  /-- `INSERT INTO wallet_charges` -/
  | insertCharge (c : WalletCharge)
  /-- `UPDATE wallet_charges SET remaining_toman = …`, an absolute value -/
  | setRemaining (chargeId : ℕ) (remaining : ℤ)
  /-- `UPDATE wallet_charges SET remaining_toman = 0, is_expired = true` -/
  | closeCharge (chargeId : ℕ)
  /-- `UPDATE shop_owners SET wallet_balance_toman = wallet_balance_toman + delta` -/
  | addBalance (ownerId : ℕ) (delta : ℤ)
  /-- `UPDATE shop_owners SET wallet_balance_toman = greatest(0, wallet_balance_toman - amount)` -/
  | lowerBalance (ownerId : ℕ) (amount : ℤ)
  /-- `UPDATE shop_owners SET wallet_empty_notified_at = NULL, wallet_low_balance_notified_at = NULL` -/
  | clearNotified (ownerId : ℕ)
  /-- `INSERT INTO wallet_transactions` -/
  | insertTransaction (t : WalletTransaction)
  deriving DecidableEq

/-- The address of a row. -/
inductive WalletRow where
  | owner (id : ℕ)
  | charge (id : ℕ)
  | transaction (id : ℕ)
  deriving DecidableEq

/-- The content of a row. -/
inductive WalletRecord where
  | owner (o : ShopOwner)
  | charge (c : WalletCharge)
  | transaction (t : WalletTransaction)
  deriving DecidableEq

namespace WalletEdit

/-- The row an edit writes. -/
def row : WalletEdit → WalletRow
  | insertCharge c => .charge c.id
  | setRemaining chargeId _ => .charge chargeId
  | closeCharge chargeId => .charge chargeId
  | addBalance ownerId _ => .owner ownerId
  | lowerBalance ownerId _ => .owner ownerId
  | clearNotified ownerId => .owner ownerId
  | insertTransaction t => .transaction t.id

/-- The edits that insert a row. -/
def isNew : WalletEdit → Bool
  | insertCharge _ => true
  | insertTransaction _ => true
  | _ => false

end WalletEdit

namespace WalletDb

/-- The effect of an edit. -/
def apply (db : WalletDb) : WalletEdit → WalletDb
  | .insertCharge c => { db with charges := db.charges.insert c }
  | .setRemaining chargeId remaining =>
    { db with charges := db.charges.modify chargeId fun c => { c with remainingToman := remaining } }
  | .closeCharge chargeId =>
    { db with
      charges := db.charges.modify chargeId fun c => { c with remainingToman := 0, isExpired := true } }
  | .addBalance ownerId delta =>
    { db with
      owners := db.owners.modify ownerId fun o =>
        { o with walletBalanceToman := o.walletBalanceToman + delta } }
  | .lowerBalance ownerId amount =>
    { db with
      owners := db.owners.modify ownerId fun o =>
        { o with walletBalanceToman := max 0 (o.walletBalanceToman - amount) } }
  | .clearNotified ownerId =>
    { db with
      owners := db.owners.modify ownerId fun o =>
        { o with walletEmptyNotifiedAt := none, walletLowBalanceNotifiedAt := none } }
  | .insertTransaction t => { db with transactions := db.transactions.insert t }

/-- The content of a row. -/
def get (db : WalletDb) : WalletRow → Option WalletRecord
  | .owner i => (db.owners.find? i).map .owner
  | .charge i => (db.charges.find? i).map .charge
  | .transaction i => (db.transactions.find? i).map .transaction

theorem find?_owners_apply (db : WalletDb) (e : WalletEdit) {i : ℕ} (h : e.row ≠ .owner i) :
    (db.apply e).owners.find? i = db.owners.find? i := by
  cases e with
  | insertCharge c => rfl
  | setRemaining j r => rfl
  | closeCharge j => rfl
  | insertTransaction t => rfl
  | addBalance j x =>
    have hi : i ≠ j := fun hi => h (congrArg _ hi.symm)
    simp only [apply, Table.find?_modify_of_ne _ hi]
  | lowerBalance j x =>
    have hi : i ≠ j := fun hi => h (congrArg _ hi.symm)
    simp only [apply, Table.find?_modify_of_ne _ hi]
  | clearNotified j =>
    have hi : i ≠ j := fun hi => h (congrArg _ hi.symm)
    simp only [apply, Table.find?_modify_of_ne _ hi]

theorem find?_charges_apply (db : WalletDb) (e : WalletEdit) {i : ℕ} (h : e.row ≠ .charge i) :
    (db.apply e).charges.find? i = db.charges.find? i := by
  cases e with
  | insertCharge c => exact Table.find?_insert_of_ne fun hi => h (congrArg _ hi.symm)
  | setRemaining j r =>
    have hi : i ≠ j := fun hi => h (congrArg _ hi.symm)
    simp only [apply, Table.find?_modify_of_ne _ hi]
  | closeCharge j =>
    have hi : i ≠ j := fun hi => h (congrArg _ hi.symm)
    simp only [apply, Table.find?_modify_of_ne _ hi]
  | insertTransaction t => rfl
  | addBalance j x => rfl
  | lowerBalance j x => rfl
  | clearNotified j => rfl

theorem find?_transactions_apply (db : WalletDb) (e : WalletEdit) {i : ℕ}
    (h : e.row ≠ .transaction i) :
    (db.apply e).transactions.find? i = db.transactions.find? i := by
  cases e with
  | insertTransaction t => exact Table.find?_insert_of_ne fun hi => h (congrArg _ hi.symm)
  | insertCharge c => rfl
  | setRemaining j r => rfl
  | closeCharge j => rfl
  | addBalance j x => rfl
  | lowerBalance j x => rfl
  | clearNotified j => rfl

theorem get_apply_of_ne (db : WalletDb) (e : WalletEdit) (k : WalletRow) (h : k ≠ e.row) :
    (db.apply e).get k = db.get k := by
  cases k with
  | owner i => simp only [get, find?_owners_apply db e h.symm]
  | charge i => simp only [get, find?_charges_apply db e h.symm]
  | transaction i => simp only [get, find?_transactions_apply db e h.symm]

theorem owner_injective : Function.Injective WalletRecord.owner := fun _ _ h => by cases h; rfl
theorem charge_injective : Function.Injective WalletRecord.charge := fun _ _ h => by cases h; rfl
theorem transaction_injective : Function.Injective WalletRecord.transaction :=
  fun _ _ h => by cases h; rfl

theorem get_owner_eq {db db' : WalletDb} {i : ℕ} (h : db'.get (.owner i) = db.get (.owner i)) :
    db'.owners.find? i = db.owners.find? i := Option.map_injective owner_injective h

theorem get_charge_eq {db db' : WalletDb} {i : ℕ} (h : db'.get (.charge i) = db.get (.charge i)) :
    db'.charges.find? i = db.charges.find? i := Option.map_injective charge_injective h

theorem get_transaction_eq {db db' : WalletDb} {i : ℕ}
    (h : db'.get (.transaction i) = db.get (.transaction i)) :
    db'.transactions.find? i = db.transactions.find? i :=
  Option.map_injective transaction_injective h

theorem get_apply_row (db db' : WalletDb) (e : WalletEdit) (h : db'.get e.row = db.get e.row) :
    (db'.apply e).get e.row = (db.apply e).get e.row := by
  cases e with
  | insertCharge c =>
    have := get_charge_eq h
    simp only [WalletEdit.row, get, apply, Table.find?_insert, this]
  | insertTransaction t =>
    have := get_transaction_eq h
    simp only [WalletEdit.row, get, apply, Table.find?_insert, this]
  | setRemaining i r =>
    have := get_charge_eq h
    simp only [WalletEdit.row, get, apply, Table.find?_modify, this]
  | closeCharge i =>
    have := get_charge_eq h
    simp only [WalletEdit.row, get, apply, Table.find?_modify, this]
  | addBalance i x =>
    have := get_owner_eq h
    simp only [WalletEdit.row, get, apply, Table.find?_modify, this]
  | lowerBalance i x =>
    have := get_owner_eq h
    simp only [WalletEdit.row, get, apply, Table.find?_modify, this]
  | clearNotified i =>
    have := get_owner_eq h
    simp only [WalletEdit.row, get, apply, Table.find?_modify, this]

instance : Store WalletDb WalletEdit WalletRow WalletRecord where
  apply := apply
  row := WalletEdit.row
  isNew := WalletEdit.isNew
  get := get
  get_apply_of_ne := get_apply_of_ne
  get_apply_row := get_apply_row

/-! ## The three sums that have to agree -/

/-- The sum of `remaining_toman` over the owner's non-expired charges. -/
def remainingOf (db : WalletDb) (ownerId : ℕ) : ℤ :=
  db.charges.sum fun c => if c.shopOwnerId = ownerId ∧ c.isExpired = false then c.remainingToman else 0

/-- The sum of `amount_toman` over the owner's ledger rows. -/
def ledgerOfOwner (db : WalletDb) (ownerId : ℕ) : ℤ :=
  db.transactions.sum fun t => if t.shopOwnerId = ownerId then t.amountToman else 0

/-- The sum of `amount_toman` over the ledger rows that carry the charge. -/
def ledgerOfCharge (db : WalletDb) (chargeId : ℕ) : ℤ :=
  db.transactions.sum fun t => if t.walletChargeId = some chargeId then t.amountToman else 0

/-- The credits among the ledger rows that carry the charge. -/
def creditsOfCharge (db : WalletDb) (chargeId : ℕ) : ℤ :=
  db.transactions.sum fun t => if t.walletChargeId = some chargeId then max 0 t.amountToman else 0

/-- The debits among the ledger rows that carry the charge, as a positive number. -/
def debitsOfCharge (db : WalletDb) (chargeId : ℕ) : ℤ :=
  db.transactions.sum fun t => if t.walletChargeId = some chargeId then max 0 (-t.amountToman) else 0

theorem ledgerOfCharge_eq (db : WalletDb) (chargeId : ℕ) :
    db.ledgerOfCharge chargeId = db.creditsOfCharge chargeId - db.debitsOfCharge chargeId := by
  unfold ledgerOfCharge creditsOfCharge debitsOfCharge
  rw [← Table.sum_sub]
  refine Table.sum_congr fun t _ => ?_
  split_ifs
  · omega
  · omega

/-- The cached balance of an owner; 0 for an owner without a row. -/
def balance (db : WalletDb) (ownerId : ℕ) : ℤ :=
  ((db.owners.find? ownerId).map ShopOwner.walletBalanceToman).getD 0

end WalletDb

end KasbOKar
