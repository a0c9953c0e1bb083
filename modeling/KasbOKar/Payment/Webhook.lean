import KasbOKar.Payment.Handlers
import KasbOKar.Lib.Runs

/-!
# Forged and replayed Bale webhooks

Anybody who knows an invoice payload and a transaction id can post a `successful_payment` body.
The handler asks Bale whether the transaction is genuine, but not whether it has paid for another
payment before.  `bale_transaction_unique` says for which sequences of bodies no two approved
payments carry the same transaction; `bale_transaction_reused` is a sequence outside of them.
-/

namespace KasbOKar

namespace PaymentDb

/-- No two approved payments carry the same `bale_transaction_id`. -/
def UniqueTransactions (db : PaymentDb) : Prop :=
  ∀ p ∈ db.payments.rows, ∀ q ∈ db.payments.rows, p.status = .APPROVED → q.status = .APPROVED →
    ∀ t, p.baleTransactionId = some t → q.baleTransactionId = some t → p.id = q.id

/-- A posted body, with the time and the outcomes of the notifications. -/
structure Post where
  now : Datetime
  outcome : TelegramCall → Bool
  body : SuccessfulPayment

/-- The tables after a post. -/
def post (W : World) (inquire : JsonValue → Inquiry) (db : PaymentDb) (p : Post) : Option PaymentDb :=
  some (handleBaleSuccessfulPayment W p.outcome inquire db p.now p.body).db

/-- The body pairs the payload of a pending payment with a transaction id that an approved payment
already carries. -/
def reuses (db : PaymentDb) (p : Post) : Bool :=
  match p.body.invoicePayload, p.body.transactionId with
  | .str payload, .str transactionId =>
    (db.payments.rows.any fun q => q.status == .PENDING && q.baleInvoicePayload == some payload) &&
      db.payments.rows.any fun q => q.status == .APPROVED && q.baleTransactionId == some transactionId
  | _, _ => false

/-- **What one post can do**: nothing to the tables, or approve the pending payment with the posted
payload under the posted transaction id. -/
theorem handleBaleSuccessfulPayment_cases (W : World) (outcome : TelegramCall → Bool)
    (inquire : JsonValue → Inquiry) (db : PaymentDb) (now : Datetime) (body : SuccessfulPayment) :
    (handleBaleSuccessfulPayment W outcome inquire db now body).db = db ∨
    ∃ payload transactionId payment effect reward, body.invoicePayload = .str payload ∧
      body.transactionId = .str transactionId ∧ db.getByBalePayload payload = .ok (some payment) ∧
      payment.status = .PENDING ∧
      db.approveBalePayment W now payment transactionId =
        .ok ((handleBaleSuccessfulPayment W outcome inquire db now body).db, effect, reward) := by
  generalize hend : handleBaleSuccessfulPayment W outcome inquire db now body = ended
  unfold handleBaleSuccessfulPayment at hend
  dsimp only at hend
  split_ifs at hend with htruthy
  · exact Or.inl (hend ▸ rfl)
  split at hend
  swap
  · exact Or.inl (hend ▸ rfl)
  rename_i payload hpayload
  split at hend
  · exact Or.inl (hend ▸ rfl)
  · exact Or.inl (hend ▸ rfl)
  rename_i payment hget
  split_ifs at hend with hpending
  · exact Or.inl (hend ▸ rfl)
  split at hend
  · exact Or.inl (hend ▸ rfl)
  · exact Or.inl (hend ▸ rfl)
  split_ifs at hend with hstatus
  swap
  · exact Or.inl (hend ▸ rfl)
  split at hend
  swap
  · exact Or.inl (hend ▸ rfl)
  rename_i transactionId htx
  split at hend
  · exact Or.inl (hend ▸ rfl)
  rename_i db' effect reward hok
  split at hend
  · exact Or.inl (hend ▸ rfl)
  -- the session is committed whether or not the notifications raise
  have hdb : ended.db = db' := by
    split at hend <;> exact hend ▸ rfl
  exact Or.inr ⟨payload, transactionId, payment, effect, reward, hpayload, htx, hget,
    not_not.1 hpending, hdb ▸ hok⟩

/-- A post that reuses no transaction keeps the transactions unique. -/
theorem UniqueTransactions.post {W : World} {inquire : JsonValue → Inquiry} {db db' : PaymentDb}
    {p : Post} (h : UniqueTransactions db) (hnew : db.reuses p = false)
    (hstep : db.post W inquire p = some db') : UniqueTransactions db' := by
  have hdb : (handleBaleSuccessfulPayment W p.outcome inquire db p.now p.body).db = db' :=
    Option.some.inj hstep
  rcases handleBaleSuccessfulPayment_cases W p.outcome inquire db p.now p.body with hsame | hcase
  · rw [← hdb, hsame]
    exact h
  obtain ⟨payload, transactionId, payment, effect, reward, hpayload, htx, hget, hpending, hok⟩ := hcase
  rw [hdb] at hok
  have hmem := getByBalePayload_some hget
  -- no approved payment carries the posted id yet
  have hfree : ∀ q ∈ db.payments.rows, q.status = .APPROVED →
      q.baleTransactionId ≠ some transactionId := by
    intro q hq hqs hqt
    have : db.reuses p = true := by
      unfold reuses
      rw [hpayload, htx]
      simp only [Bool.and_eq_true, List.any_eq_true]
      exact ⟨⟨payment, hmem.1, by simp [hpending, hmem.2]⟩, q, hq, by simp [hqs, hqt]⟩
    rw [this] at hnew
    cases hnew
  have hrows : ∀ q ∈ db'.payments.rows, (q ∈ db.payments.rows ∧ q.id ≠ payment.id) ∨
      (q.id = payment.id ∧ q.baleTransactionId = some transactionId) := by
    intro q hq
    rw [approve_payments hok] at hq
    rcases mem_payments_review hq with hq | ⟨r, -, hid, rfl⟩
    · exact Or.inl hq
    · exact Or.inr ⟨hid, rfl⟩
  intro q₁ h₁ q₂ h₂ hs₁ hs₂ t ht₁ ht₂
  rcases hrows q₁ h₁ with ⟨h₁, -⟩ | ⟨hid₁, hnew₁⟩ <;> rcases hrows q₂ h₂ with ⟨h₂, -⟩ | ⟨hid₂, hnew₂⟩
  · exact h q₁ h₁ q₂ h₂ hs₁ hs₂ t ht₁ ht₂
  · rw [hnew₂] at ht₂
    exact absurd (ht₁.trans ht₂.symm) (hfree q₁ h₁ hs₁)
  · rw [hnew₁] at ht₁
    exact absurd (ht₂.trans ht₁.symm) (hfree q₂ h₂ hs₂)
  · rw [hid₁, hid₂]

/-- **Every sequence of posts** in which no body pairs a pending payment's payload with a transaction
id that an approved payment already carries leaves each transaction with at most one approved
payment, whatever `inquireTransaction` answers. -/
theorem bale_transaction_unique (W : World) (inquire : JsonValue → Inquiry) (db db' : PaymentDb)
    (h : UniqueTransactions db) (posts : List Post)
    (hnew : Runs.Along (post W inquire) (fun db p => db.reuses p = false) db posts)
    (hrun : Runs.exec (post W inquire) db posts = some db') : UniqueTransactions db' :=
  Runs.exec_inv (fun _ _ _ hI hC hs => hI.post hC hs) posts db db' h hnew hrun

/-- A pending Bale top-up of the shop `id`, with payload `payload`. -/
def baleTopup (id : ℕ) (payload : String) : Payment :=
  { id := id, shopOwnerId := id, purpose := .WALLET_TOPUP, baseAmount := 50000, finalAmount := 50000,
    method := .BALE_PAY, baleInvoicePayload := some payload }

/-- Two shops with one open invoice each. -/
def twoInvoices : PaymentDb :=
  { wallet := WalletDb.ofOwners WalletDb.twoOwners,
    payments := ⟨[baleTopup 1 "payment-1-0a", baleTopup 2 "payment-2-0b"], by decide⟩,
    codes := .empty, usages := .empty, referrals := .empty, subscriptions := .empty, settings := {} }

theorem uniqueTransactions_twoInvoices : UniqueTransactions twoInvoices := by
  intro p hp q _ hs
  have : ∀ p ∈ twoInvoices.payments.rows, p.status ≠ .APPROVED := by decide
  exact absurd hs (this p hp)

/-- Bale knows two transactions. -/
def knownTransactions (t : JsonValue) : Inquiry :=
  if t = .str "T1" ∨ t = .str "T2" then .status "successful" else .baleError

/-- A body with a payload and a transaction id. -/
def paid (payload transactionId : String) : Post :=
  { now := 0, outcome := fun _ => true,
    body := { invoicePayload := .str payload, telegramPaymentChargeId := .str transactionId } }

/-- The transaction ids of the approved payments. -/
def approvedTransactions (db : PaymentDb) : List (ℕ × Option String) :=
  (db.payments.rows.filter fun p => p.status == .APPROVED).map fun p => (p.id, p.baleTransactionId)

theorem bale_transaction_unique_two_transactions :
    ∃ db', Runs.exec (post .noMonths knownTransactions) twoInvoices
        [paid "payment-1-0a" "T1", paid "payment-1-0a" "T1", paid "payment-2-0b" "T2"] = some db' ∧
      approvedTransactions db' = [(1, some "T1"), (2, some "T2")] ∧ UniqueTransactions db' :=
  ⟨_, rfl, by decide +kernel, bale_transaction_unique .noMonths knownTransactions twoInvoices _
    uniqueTransactions_twoInvoices
    [paid "payment-1-0a" "T1", paid "payment-1-0a" "T1", paid "payment-2-0b" "T2"]
    (by decide +kernel) rfl⟩

/-- One genuine transaction approves both invoices. -/
theorem bale_transaction_reused :
    ∃ db', Runs.exec (post .noMonths knownTransactions) twoInvoices
        [paid "payment-1-0a" "T1", paid "payment-2-0b" "T1"] = some db' ∧
      UniqueTransactions twoInvoices ∧
      approvedTransactions db' = [(1, some "T1"), (2, some "T1")] ∧ ¬ UniqueTransactions db' := by
  refine ⟨_, rfl, uniqueTransactions_twoInvoices, by decide +kernel, fun h => ?_⟩
  have hid := h (Review.write 0 (baleTopup 1 "payment-1-0a") (.approve (.bale "T1")))
    List.mem_cons_self (Review.write 0 (baleTopup 2 "payment-2-0b") (.approve (.bale "T1")))
    (List.mem_cons_of_mem _ List.mem_cons_self) rfl rfl "T1" rfl rfl
  cases hid

end PaymentDb

end KasbOKar
