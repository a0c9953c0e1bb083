import KasbOKar.Payment.Books
import KasbOKar.Payment.Concurrent

/-!
# Payments and ledger

The revenue of the platform is read off from the approved payments, the owners' credit from the charges
and the ledger.  `books_reconcile` says that these accounts of the same money agree after every run:
each approved top-up has one charge, of its amount and owner, and the `TOPUP` rows add up to the
approved top-ups.  A reviewed payment keeps its status.
-/

namespace KasbOKar

namespace PaymentDb

/-- The payment is an approved top-up. -/
def settledTopup (p : Payment) : Bool := p.status == .APPROVED && p.purpose == .WALLET_TOPUP

/-- Payments, charges and ledger agree. -/
structure Reconciled (db : PaymentDb) : Prop where
  count : ∀ p ∈ db.payments.rows, (db.chargesOf p.id).length = if settledTopup p then 1 else 0
  charge : ∀ p ∈ db.payments.rows, ∀ c ∈ db.chargesOf p.id,
    c.amountToman = p.finalAmount ∧ c.shopOwnerId = p.shopOwnerId
  ledger : db.topupTotal = db.payments.sum fun p => if settledTopup p then p.finalAmount else 0

/-- The same in terms of what stays of the charges; and a charge belongs to a payment that exists. -/
structure KeysReconciled (db : PaymentDb) : Prop where
  count : ∀ p ∈ db.payments.rows,
    db.wallet.chargeKeys.countP (fun k => k.1 == some p.id) = if settledTopup p then 1 else 0
  key : ∀ p ∈ db.payments.rows, ∀ k ∈ db.wallet.chargeKeys, k.1 = some p.id →
    k.2 = (p.shopOwnerId, p.finalAmount)
  known : ∀ k ∈ db.wallet.chargeKeys, ∀ i, k.1 = some i → i ∈ db.payments.ids
  ledger : db.topupTotal = db.payments.sum fun p => if settledTopup p then p.finalAmount else 0

/-- No payment, no charge and no ledger row yet. -/
structure NoBooks (db : PaymentDb) : Prop where
  payments : db.payments.rows = []
  charges : db.wallet.charges.rows = []
  transactions : db.wallet.transactions.rows = []

variable {W : World} {db db' : PaymentDb} {now : Datetime}

theorem KeysReconciled.reconciled (h : KeysReconciled db) : Reconciled db := by
  refine ⟨fun p hp => ?_, fun p hp c hc => ?_, h.ledger⟩
  · rw [← h.count p hp]
    unfold chargesOf WalletDb.chargeKeys
    rw [List.countP_map, List.countP_eq_length_filter]
    rfl
  · obtain ⟨hc, hpay⟩ := List.mem_filter.1 hc
    have hkey := h.key p hp _ (List.mem_map_of_mem hc) (by simpa using hpay)
    simp only [Prod.mk.injEq] at hkey
    exact ⟨hkey.2, hkey.1⟩

theorem NoBooks.keysReconciled (h : NoBooks db) : KeysReconciled db := by
  have hkeys : db.wallet.chargeKeys = [] := by
    unfold WalletDb.chargeKeys
    rw [h.charges]
    rfl
  refine ⟨fun p hp => ?_, fun p hp => ?_, fun k hk => ?_, ?_⟩
  · rw [h.payments] at hp
    cases hp
  · rw [h.payments] at hp
    cases hp
  · rw [hkeys] at hk
    cases hk
  · unfold topupTotal WalletDb.ledgerOf Table.sum
    rw [h.transactions, h.payments]
    rfl

/-- Keys without a payment do not count. -/
theorem countP_of_none {extra : List (Option ℕ × ℕ × ℤ)} (h : ∀ k ∈ extra, k.1 = none) (i : ℕ) :
    extra.countP (fun k => k.1 == some i) = 0 := by
  rw [List.countP_eq_zero]
  intro k hk
  rw [h k hk]
  nofun

/-! ## The steps -/

/-- Charges without a payment. -/
theorem KeysReconciled.credited (h : KeysReconciled db) (hc : Credited db db') : KeysReconciled db' := by
  obtain ⟨extra, hkeys, hnone⟩ := hc.charges
  have htotal : db'.topupTotal = db.topupTotal := by
    unfold topupTotal
    rw [hc.topups]
  refine ⟨fun p hp => ?_, fun p hp k hk hp' => ?_, fun k hk i hi => ?_, ?_⟩
  · rw [hc.payments] at hp
    rw [hkeys, List.countP_append, countP_of_none hnone, add_zero]
    exact h.count p hp
  · rw [hc.payments] at hp
    rw [hkeys] at hk
    rcases List.mem_append.1 hk with hk | hk
    · exact h.key p hp k hk hp'
    · rw [hnone k hk] at hp'
      cases hp'
  · rw [hc.payments]
    rw [hkeys] at hk
    rcases List.mem_append.1 hk with hk | hk
    · exact h.known k hk i hi
    · rw [hnone k hk] at hi
      cases hi
  · rw [htotal, hc.payments]
    exact h.ledger

theorem KeysReconciled.registered (h : KeysReconciled db) {telegramId : ℤ}
    {referredByCode : Option String} {owner : ShopOwner}
    (hr : Registered db db' telegramId referredByCode owner) : KeysReconciled db' := by
  have hkeys : db'.wallet.chargeKeys = db.wallet.chargeKeys := by
    unfold WalletDb.chargeKeys
    rw [hr.charges]
  have htotal : db'.topupTotal = db.topupTotal := by
    unfold topupTotal WalletDb.ledgerOf
    rw [hr.transactions]
  refine ⟨?_, ?_, ?_, ?_⟩
  · rw [hkeys, hr.payments]
    exact h.count
  · rw [hkeys, hr.payments]
    exact h.key
  · rw [hkeys, hr.payments]
    exact h.known
  · rw [htotal, hr.payments]
    exact h.ledger

/-- A new payment has no charge. -/
theorem KeysReconciled.opened (h : KeysReconciled db) {p : Payment} (hnew : db.NewPayment p) :
    KeysReconciled (db.apply (.insertPayment p)) := by
  have hfresh : Keyed.id p ∉ db.payments.ids := by
    show p.id ∉ db.payments.ids
    rw [hnew.id]
    exact Table.nextId_notMem _
  have hunsettled : settledTopup p = false := by
    unfold settledTopup
    rw [hnew.status]
    rfl
  refine ⟨fun q hq => ?_, fun q hq k hk hq' => ?_, fun k hk i hi => ?_, ?_⟩
  · rcases (Table.mem_insert hfresh).1 hq with hq | rfl
    · exact h.count q hq
    · rw [hunsettled, if_neg nofun, List.countP_eq_zero]
      intro k hk hkq
      exact hfresh (h.known k hk q.id (by simpa using hkq))
  · rcases (Table.mem_insert hfresh).1 hq with hq | rfl
    · exact h.key q hq k hk hq'
    · exact absurd (h.known k hk q.id hq') hfresh
  · have hmem := h.known k hk i hi
    obtain ⟨q, hq, rfl⟩ := Table.mem_ids.1 hmem
    exact Table.id_mem_ids (Table.mem_insert_of_mem hq)
  · show db.topupTotal = (db.payments.insert p).sum _
    rw [Table.sum_insert hfresh, hunsettled, if_neg nofun, add_zero]
    exact h.ledger

/-- What a review adds: the charge of a top-up that is approved. -/
def reviewKeys (r : Review) (p : Payment) : List (Option ℕ × ℕ × ℤ) :=
  if r.status = .APPROVED then topupKeys p else []

theorem write_finalAmount (p : Payment) (r : Review) : (r.write now p).finalAmount = p.finalAmount := by
  obtain ⟨x, rfl⟩ | ⟨x, rfl⟩ | ⟨x, rfl⟩ | ⟨a, x, rfl⟩ := r.write_cases <;> rfl

theorem settledTopup_write (p : Payment) (r : Review) :
    settledTopup (r.write now p) = (r.status == .APPROVED && p.purpose == .WALLET_TOPUP) := by
  unfold settledTopup
  rw [Review.write_status, Review.write_purpose]

theorem countP_reviewKeys (r : Review) (p : Payment) (i : ℕ) :
    (reviewKeys r p).countP (fun k => k.1 == some i) =
      if settledTopup (r.write now p) ∧ i = p.id then 1 else 0 := by
  rw [settledTopup_write]
  unfold reviewKeys topupKeys
  by_cases hr : r.status = .APPROVED
  · by_cases hp : p.purpose = .WALLET_TOPUP
    · by_cases hi : i = p.id
      · simp [hr, hp, hi]
      · simp [hr, hp, hi, Ne.symm hi]
    · simp [hr, hp]
  · simp [hr]

theorem mem_reviewKeys {r : Review} {p : Payment} {k : Option ℕ × ℕ × ℤ} (hk : k ∈ reviewKeys r p) :
    k = (some p.id, p.shopOwnerId, p.finalAmount) := by
  unfold reviewKeys topupKeys at hk
  split_ifs at hk
  · exact List.mem_singleton.1 hk
  · cases hk
  · cases hk

/-- A review of a pending payment, with the charge that goes with it. -/
theorem KeysReconciled.review (h : KeysReconciled db) {payment : Payment} (r : Review)
    (hget : db.getById payment.id = some payment) (hpending : payment.status = .PENDING)
    (hpayments : db'.payments = (db.apply (.review payment.id now r)).payments)
    {extra : List (Option ℕ × ℕ × ℤ)} (hnone : ∀ k ∈ extra, k.1 = none)
    (hkeys : db'.wallet.chargeKeys = db.wallet.chargeKeys ++ reviewKeys r payment ++ extra)
    (htotal : db'.topupTotal = db.topupTotal +
      if settledTopup (r.write now payment) then payment.finalAmount else 0) : KeysReconciled db' := by
  have hmem : payment ∈ db.payments.rows := Table.mem_of_find? hget
  have hunsettled : settledTopup payment = false := by
    unfold settledTopup
    rw [hpending]
    rfl
  have hrows : ∀ q ∈ db'.payments.rows, (q ∈ db.payments.rows ∧ q.id ≠ payment.id) ∨
      q = r.write now payment := by
    intro q hq
    rw [hpayments] at hq
    exact mem_payments_reviewed hmem hq
  have hids : db'.payments.ids = db.payments.ids := by
    rw [hpayments]
    exact Table.ids_modify (f := fun p => r.write now p) fun p => r.write_id now p
  have hcount : ∀ i, db'.wallet.chargeKeys.countP (fun k => k.1 == some i) =
      db.wallet.chargeKeys.countP (fun k => k.1 == some i) +
        if settledTopup (r.write now payment) ∧ i = payment.id then 1 else 0 := by
    intro i
    rw [hkeys, List.countP_append, List.countP_append, countP_of_none hnone, add_zero,
      countP_reviewKeys]
  refine ⟨fun q hq => ?_, fun q hq k hk hq' => ?_, fun k hk i hi => ?_, ?_⟩
  · rcases hrows q hq with ⟨hq, hne⟩ | rfl
    · rw [hcount, if_neg (fun h => hne h.2), add_zero]
      exact h.count q hq
    · rw [hcount, Review.write_id, h.count payment hmem, hunsettled, if_neg nofun, zero_add]
      simp only [and_true]
  · rw [hkeys] at hk
    rcases List.mem_append.1 hk with hk | hk
    swap
    · rw [hnone k hk] at hq'
      cases hq'
    rcases hrows q hq with ⟨hq, hne⟩ | rfl
    · rcases List.mem_append.1 hk with hk | hk
      · exact h.key q hq k hk hq'
      · rw [mem_reviewKeys hk] at hq'
        exact absurd (Option.some.inj hq').symm hne
    · rw [Review.write_id] at hq'
      rw [Review.write_shopOwnerId, write_finalAmount]
      rcases List.mem_append.1 hk with hk | hk
      · exact h.key payment hmem k hk hq'
      · rw [mem_reviewKeys hk]
  · rw [hids]
    rw [hkeys] at hk
    rcases List.mem_append.1 hk with hk | hk
    · rcases List.mem_append.1 hk with hk | hk
      · exact h.known k hk i hi
      · rw [mem_reviewKeys hk] at hi
        rw [← Option.some.inj hi]
        exact Table.id_mem_ids hmem
    · rw [hnone k hk] at hi
      cases hi
  · rw [htotal, hpayments, h.ledger]
    show _ = (db.payments.modify payment.id (fun p => r.write now p) fun p => r.write_id now p).sum _
    rw [Table.sum_modify (f := fun p => r.write now p) (fun p => r.write_id now p) hget,
      write_finalAmount, hunsettled, if_neg Bool.false_ne_true, sub_zero]

/-- **A step keeps the accounts in agreement.** -/
theorem KeysReconciled.step (h : KeysReconciled db) {a : Datetime × Bool × BookAct}
    (hs : db.book W a = some db') : KeysReconciled db' := by
  cases book_step hs with
  | credited hc => exact h.credited hc
  | registered hact hr => exact h.registered hr
  | opened hnew => exact h.opened hnew
  | @rejected payment adminTelegramId reason hget hpending =>
    refine h.review (.reject adminTelegramId reason) hget hpending rfl
      (fun _ hk => absurd hk List.not_mem_nil) ?_ ?_
    · rw [List.append_nil]
      exact (List.append_nil _).symm
    · rw [settledTopup_write]
      exact (add_zero _).symm
  | @approved _ payment approval effect reward hget hpending hok =>
    have hbooks := approve_books hok
    obtain ⟨extra, hkeys, hnone⟩ := hbooks.charges
    refine h.review (.approve approval) hget hpending (approve_payments hok) hnone hkeys ?_
    rw [hbooks.topups, settledTopup_write]
    unfold topupValue
    simp [Review.status]

/-- A reviewed payment keeps its status. -/
theorem status_step {a : Datetime × Bool × BookAct} (hs : db.book W a = some db') {i : ℕ} {p : Payment}
    (hp : db.getById i = some p) (hreviewed : p.status ≠ .PENDING) : db'.getById i = some p := by
  have hother : ∀ {payment : Payment} {now : Datetime} {r : Review},
      db.getById payment.id = some payment → payment.status = .PENDING →
      (db.apply (.review payment.id now r)).getById i = some p := by
    intro payment now r hget hpending
    have hne : i ≠ payment.id := by
      rintro rfl
      rw [hget] at hp
      cases hp
      exact hreviewed hpending
    exact (Table.find?_modify_of_ne (f := fun p => r.write now p) (fun p => r.write_id now p) hne).trans hp
  cases book_step hs with
  | credited hc =>
    unfold getById
    rw [hc.payments]
    exact hp
  | registered hact hr =>
    unfold getById
    rw [hr.payments]
    exact hp
  | @opened q hnew =>
    have hne : i ≠ Keyed.id q := by
      rintro rfl
      have hmem : q.id ∈ db.payments.ids := Table.mem_ids.2 ⟨p, Table.mem_of_find? hp, Table.id_of_find? hp⟩
      rw [hnew.id] at hmem
      exact Table.nextId_notMem _ hmem
    exact (Table.find?_insert_of_ne hne).trans hp
  | rejected hget hpending => exact hother hget hpending
  | approved hget hpending hok =>
    unfold getById
    rw [approve_payments hok]
    exact hother hget hpending

/-- **Payments and ledger reconcile.** In every run that starts without payments, each step of it
committed or rolled back: every payment has one charge if it is an approved top-up and none otherwise,
the charge has the amount and the owner of the payment, the `TOPUP` rows of the ledger add up to the
approved top-ups, and a payment that was reviewed at any point of the run is the same row at its end. -/
theorem books_reconcile (W : World) (db db' : PaymentDb) (hnone : NoBooks db)
    (acts : List (Datetime × Bool × BookAct)) (hrun : Runs.exec (book W) db acts = some db') :
    Reconciled db' ∧
    ∀ before after db₁, acts = before ++ after → Runs.exec (book W) db before = some db₁ →
      ∀ p ∈ db₁.payments.rows, p.status ≠ .PENDING → db'.getById p.id = some p := by
  constructor
  · exact (Runs.exec_inv_of_step (I := KeysReconciled) (fun _ _ _ h hs => h.step hs) acts db db'
      hnone.keysReconciled hrun).reconciled
  · intro before after db₁ hsplit hbefore p hp hreviewed
    rw [hsplit, Runs.exec_append, hbefore, Option.bind_some] at hrun
    exact Runs.exec_inv_of_step (I := fun db => db.getById p.id = some p)
      (fun _ _ _ h hs => status_step hs h hreviewed) after db₁ db' (Table.find?_of_mem hp) hrun

/-- A platform before its first user. -/
def newBooks : PaymentDb :=
  { wallet := ⟨.empty, .empty, .empty⟩, payments := .empty, codes := .empty, usages := .empty,
    referrals := .empty, subscriptions := .empty, settings := {} }

theorem noBooks_newBooks : NoBooks newBooks := ⟨rfl, rfl, rfl⟩

/-- Two owners; a trial, a gift, a card payment and a transaction of a gateway that calls back twice, a
rejected payment, a message, a step that is rolled back, and a sweep. -/
def busyMonth : List (Datetime × Bool × BookAct) :=
  [(0, true, .register 11 none "AAAA"), (0, true, .register 22 none "BBBB"),
    (1, true, .activateTrial 11), (1, true, .ownerGift 2 7000),
    (2, true, .createCard (fun _ => Panel.draw₁) 1 100000 none none .WALLET_TOPUP),
    (3, true, .createZarinpal 2 60000 none "A2" none .WALLET_TOPUP),
    (4, true, .createBale 2 30000 none "P3" none .WALLET_TOPUP),
    (5, true, .adminApprove (fun _ => true) 1 7),
    (6, false, .zarinpalCallback (fun _ => true) (fun _ _ _ => some "R1") "A2" "OK"),
    (6, true, .zarinpalCallback (fun _ => true) (fun _ _ _ => some "R1") "A2" "OK"),
    (7, true, .zarinpalCallback (fun _ => true) (fun _ _ _ => some "R1") "A2" "OK"),
    (8, true, .adminReject (fun _ => true) 3 7), (9, true, .adminApprove (fun _ => true) 3 7),
    (9, true, .deduct .plain 1 500 .chatMessage),
    (10, true, .ownerWalletCorrection .plain 2 (-1000) "refund"),
    (days 400, true, .expireStaleCharges .plain)]

theorem busyMonth_isSome : (Runs.exec (book .noMonths) newBooks busyMonth).isSome = true := by
  decide +kernel

theorem books_reconcile_busyMonth :
    ∃ db', Runs.exec (book .noMonths) newBooks busyMonth = some db' ∧
      db'.payments.rows.map Payment.status = [.APPROVED, .APPROVED, .REJECTED] ∧
      db'.topupTotal = 100010 + 60000 ∧ Reconciled db' := by
  refine ⟨_, (Option.some_get busyMonth_isSome).symm, by decide +kernel, by decide +kernel, ?_⟩
  exact (books_reconcile .noMonths newBooks _ noBooks_newBooks busyMonth
    (Option.some_get busyMonth_isSome).symm).1

end PaymentDb

end KasbOKar
