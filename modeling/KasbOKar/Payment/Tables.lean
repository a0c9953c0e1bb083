import KasbOKar.Wallet.Transactions

/-!
# The payment tables and the statements that change them

A settlement touches the wallet, the payment, the discount code with its usages, the referral and,
for the older purpose, the subscriptions.  `PaymentDb` puts the wallet tables next to the others;
its edits are those of the wallet and one constructor for each other `INSERT` or `UPDATE` of
`app/services/payment_service.py`, `discount_service.py` and `referral_service.py`.
-/

namespace KasbOKar

open ReadCommitted

structure PaymentDb where
  wallet : WalletDb
  payments : Table Payment
  codes : Table DiscountCode
  usages : Table DiscountCodeUsage
  referrals : Table Referral
  subscriptions : Table Subscription
  settings : AdminSettings

/-- Who approves a payment: the columns that each of the three approval functions sets. -/
inductive Approval where
  | zarinpal (refId : String)
  | bale (transactionId : String)
  | admin (adminTelegramId : ℤ)
  deriving DecidableEq

/-- The reviewed value fits its column. -/
def Approval.fits : Approval → Bool
  | zarinpal refId => decide (refId.length ≤ 64)
  | bale transactionId => decide (transactionId.length ≤ 128)
  | admin _ => true

/-- A review of a payment. -/
inductive Review where
  | approve (a : Approval)
  | reject (adminTelegramId : Option ℤ) (reason : Option String)
  deriving DecidableEq

namespace Review

/-- The status a review sets. -/
def status : Review → PaymentStatus
  | approve _ => .APPROVED
  | reject _ _ => .REJECTED

/-- The columns a review sets. -/
def write (now : Datetime) (p : Payment) : Review → Payment
  | approve (.zarinpal refId) =>
    { p with status := .APPROVED, zarinpalRefId := some refId, reviewedAt := some now }
  | approve (.bale transactionId) =>
    { p with status := .APPROVED, baleTransactionId := some transactionId, reviewedAt := some now }
  | approve (.admin adminTelegramId) =>
    { p with status := .APPROVED, reviewedAt := some now, reviewedByAdminId := some adminTelegramId }
  | reject adminTelegramId reason =>
    { p with status := .REJECTED, reviewedAt := some now, reviewedByAdminId := adminTelegramId,
             rejectionReason := reason }

theorem write_cases (r : Review) : (∃ x, r = approve (.zarinpal x)) ∨ (∃ x, r = approve (.bale x)) ∨
    (∃ x, r = approve (.admin x)) ∨ ∃ a x, r = reject a x := by
  cases r with
  | approve a => cases a <;> simp
  | reject a x => simp

@[simp] theorem write_id (now : Datetime) (p : Payment) (r : Review) : (r.write now p).id = p.id := by
  obtain ⟨x, rfl⟩ | ⟨x, rfl⟩ | ⟨x, rfl⟩ | ⟨a, x, rfl⟩ := r.write_cases <;> rfl

@[simp] theorem write_status (now : Datetime) (p : Payment) (r : Review) :
    (r.write now p).status = r.status := by
  obtain ⟨x, rfl⟩ | ⟨x, rfl⟩ | ⟨x, rfl⟩ | ⟨a, x, rfl⟩ := r.write_cases <;> rfl

@[simp] theorem write_shopOwnerId (now : Datetime) (p : Payment) (r : Review) :
    (r.write now p).shopOwnerId = p.shopOwnerId := by
  obtain ⟨x, rfl⟩ | ⟨x, rfl⟩ | ⟨x, rfl⟩ | ⟨a, x, rfl⟩ := r.write_cases <;> rfl

@[simp] theorem write_purpose (now : Datetime) (p : Payment) (r : Review) :
    (r.write now p).purpose = p.purpose := by
  obtain ⟨x, rfl⟩ | ⟨x, rfl⟩ | ⟨x, rfl⟩ | ⟨a, x, rfl⟩ := r.write_cases <;> rfl

end Review

/-- The row changes of the payment services. -/
inductive PaymentEdit where
  | wallet (e : WalletEdit)
  /-- `INSERT INTO payments` -/
  | insertPayment (p : Payment)
  /-- `UPDATE payments SET status = …, reviewed_at = …, …` -/
  | review (paymentId : ℕ) (now : Datetime) (r : Review)
  /-- `INSERT INTO discount_code_usages` -/
  | insertUsage (u : DiscountCodeUsage)
  /-- `UPDATE discount_codes SET used_count = …`, an absolute value -/
  | setUsedCount (codeId : ℕ) (usedCount : ℤ)
  /-- `INSERT INTO subscriptions` -/
  | insertSubscription (s : Subscription)
  /-- `UPDATE referrals SET reward_status = 'rewarded', rewarded_at = …` -/
  | setRewarded (referredId : ℕ) (now : Datetime)
  deriving DecidableEq

/-- The address of a row.  `usageKey` is an entry of the unique index on `discount_code_usages`;
it holds no row of its own and is only ever locked. -/
inductive PaymentRow where
  | wallet (r : WalletRow)
  | payment (id : ℕ)
  | usage (id : ℕ)
  | usageKey (codeId ownerId : ℕ)
  | code (id : ℕ)
  | subscription (id : ℕ)
  | referral (referredId : ℕ)
  deriving DecidableEq

/-- The content of a row. -/
inductive PaymentRecord where
  | wallet (r : WalletRecord)
  | payment (p : Payment)
  | usage (u : DiscountCodeUsage)
  | code (c : DiscountCode)
  | subscription (s : Subscription)
  | referral (r : Referral)
  deriving DecidableEq

namespace PaymentEdit

/-- The row an edit writes. -/
def row : PaymentEdit → PaymentRow
  | wallet e => .wallet e.row
  | insertPayment p => .payment p.id
  | review paymentId _ _ => .payment paymentId
  | insertUsage u => .usage u.id
  | setUsedCount codeId _ => .code codeId
  | insertSubscription s => .subscription s.id
  | setRewarded referredId _ => .referral referredId

/-- The edits that insert a row. -/
def isNew : PaymentEdit → Bool
  | wallet e => e.isNew
  | insertPayment _ => true
  | insertUsage _ => true
  | insertSubscription _ => true
  | _ => false

end PaymentEdit

namespace PaymentDb

/-- The effect of an edit. -/
def apply (db : PaymentDb) : PaymentEdit → PaymentDb
  | .wallet e => { db with wallet := db.wallet.apply e }
  | .insertPayment p => { db with payments := db.payments.insert p }
  | .review paymentId now r =>
    { db with
      payments := db.payments.modify paymentId (fun p => r.write now p) fun p => r.write_id now p }
  | .insertUsage u => { db with usages := db.usages.insert u }
  | .setUsedCount codeId usedCount =>
    { db with codes := db.codes.modify codeId fun c => { c with usedCount := usedCount } }
  | .insertSubscription s => { db with subscriptions := db.subscriptions.insert s }
  | .setRewarded referredId now =>
    { db with
      referrals := db.referrals.modify referredId fun r =>
        { r with rewardStatus := .REWARDED, rewardedAt := some now } }

/-- The content of a row. -/
def get (db : PaymentDb) : PaymentRow → Option PaymentRecord
  | .wallet r => (db.wallet.get r).map .wallet
  | .payment i => (db.payments.find? i).map .payment
  | .usage i => (db.usages.find? i).map .usage
  | .usageKey _ _ => none
  | .code i => (db.codes.find? i).map .code
  | .subscription i => (db.subscriptions.find? i).map .subscription
  | .referral i => (db.referrals.find? i).map .referral

theorem get_apply_of_ne (db : PaymentDb) (e : PaymentEdit) (k : PaymentRow) (h : k ≠ e.row) :
    (db.apply e).get k = db.get k := by
  cases e with
  | wallet e =>
    cases k with
    | wallet r =>
      have hr : r ≠ e.row := fun hr => h (congrArg _ hr)
      simp only [get, apply, WalletDb.get_apply_of_ne db.wallet e r hr]
    | _ => rfl
  | insertPayment p =>
    cases k with
    | payment i =>
      have hi : i ≠ Keyed.id p := fun hi => h (congrArg _ hi)
      simp only [get, apply, Table.find?_insert_of_ne hi]
    | _ => rfl
  | review j now r =>
    cases k with
    | payment i =>
      have hi : i ≠ j := fun hi => h (congrArg _ hi)
      simp only [get, apply, Table.find?_modify_of_ne _ hi]
    | _ => rfl
  | insertUsage u =>
    cases k with
    | usage i =>
      have hi : i ≠ Keyed.id u := fun hi => h (congrArg _ hi)
      simp only [get, apply, Table.find?_insert_of_ne hi]
    | _ => rfl
  | setUsedCount j n =>
    cases k with
    | code i =>
      have hi : i ≠ j := fun hi => h (congrArg _ hi)
      simp only [get, apply, Table.find?_modify_of_ne _ hi]
    | _ => rfl
  | insertSubscription s =>
    cases k with
    | subscription i =>
      have hi : i ≠ Keyed.id s := fun hi => h (congrArg _ hi)
      simp only [get, apply, Table.find?_insert_of_ne hi]
    | _ => rfl
  | setRewarded j now =>
    cases k with
    | referral i =>
      have hi : i ≠ j := fun hi => h (congrArg _ hi)
      simp only [get, apply, Table.find?_modify_of_ne _ hi]
    | _ => rfl

theorem get_wallet_eq {db db' : PaymentDb} {r : WalletRow}
    (h : db'.get (.wallet r) = db.get (.wallet r)) : db'.wallet.get r = db.wallet.get r :=
  Option.map_injective (fun _ _ h => by cases h; rfl) h

theorem get_apply_row (db db' : PaymentDb) (e : PaymentEdit) (h : db'.get e.row = db.get e.row) :
    (db'.apply e).get e.row = (db.apply e).get e.row := by
  cases e with
  | wallet e =>
    simp only [PaymentEdit.row, get, apply, WalletDb.get_apply_row _ _ e (get_wallet_eq h)]
  | insertPayment p =>
    have : db'.payments.find? p.id = db.payments.find? p.id :=
      Option.map_injective (fun _ _ h => by cases h; rfl) h
    simp only [PaymentEdit.row, get, apply, Table.find?_insert, this]
  | review i now r =>
    have : db'.payments.find? i = db.payments.find? i :=
      Option.map_injective (fun _ _ h => by cases h; rfl) h
    simp only [PaymentEdit.row, get, apply, Table.find?_modify, this]
  | insertUsage u =>
    have : db'.usages.find? u.id = db.usages.find? u.id :=
      Option.map_injective (fun _ _ h => by cases h; rfl) h
    simp only [PaymentEdit.row, get, apply, Table.find?_insert, this]
  | setUsedCount i n =>
    have : db'.codes.find? i = db.codes.find? i :=
      Option.map_injective (fun _ _ h => by cases h; rfl) h
    simp only [PaymentEdit.row, get, apply, Table.find?_modify, this]
  | insertSubscription s =>
    have : db'.subscriptions.find? s.id = db.subscriptions.find? s.id :=
      Option.map_injective (fun _ _ h => by cases h; rfl) h
    simp only [PaymentEdit.row, get, apply, Table.find?_insert, this]
  | setRewarded i now =>
    have : db'.referrals.find? i = db.referrals.find? i :=
      Option.map_injective (fun _ _ h => by cases h; rfl) h
    simp only [PaymentEdit.row, get, apply, Table.find?_modify, this]

theorem mem_payments_review {db : PaymentDb} {paymentId : ℕ} {now : Datetime} {r : Review} {q : Payment}
    (h : q ∈ (db.apply (.review paymentId now r)).payments.rows) :
    (q ∈ db.payments.rows ∧ q.id ≠ paymentId) ∨
      ∃ p ∈ db.payments.rows, p.id = paymentId ∧ q = r.write now p :=
  Table.mem_modify_cases (f := fun p => r.write now p) (fun p => r.write_id now p) h

/-- The rows after a review: the others, and the payment as it was written. -/
theorem mem_payments_reviewed {db : PaymentDb} {payment : Payment} {now : Datetime} {r : Review}
    {q : Payment} (hmem : payment ∈ db.payments.rows)
    (h : q ∈ (db.apply (.review payment.id now r)).payments.rows) :
    (q ∈ db.payments.rows ∧ q.id ≠ payment.id) ∨ q = r.write now payment := by
  rcases mem_payments_review h with hq | ⟨p, hp, hid, rfl⟩
  · exact Or.inl hq
  · rw [Table.eq_of_id_eq hp hmem hid]
    exact Or.inr rfl

instance : Store PaymentDb PaymentEdit PaymentRow PaymentRecord where
  apply := apply
  row := PaymentEdit.row
  isNew := PaymentEdit.isNew
  get := get
  get_apply_of_ne := get_apply_of_ne
  get_apply_row := get_apply_row

end PaymentDb

end KasbOKar
