import KasbOKar.Payment.Webhook
import KasbOKar.Payment.Panel
import KasbOKar.Wallet.Trial
import KasbOKar.Shop.Tables

/-!
# The books of the platform

Everything that writes to the owners, payments, charges and the ledger, as steps of one system:
registrations, new payments, the four ways to settle one, credits, deductions and the expiry sweep.
Each step is committed or rolled back as a whole.

`BookStep` lists what a step can do, in terms of what never changes once it is written: the payment,
owner and amount of a charge, the ledger rows of a reason, the referrer of an owner.  The laws of the
following modules are read off from it.
-/

namespace KasbOKar

open ReadCommitted

namespace WalletDb

/-! ## What stays of the wallet's rows -/

/-- The columns of the charges that never change. -/
def chargeKeys (db : WalletDb) : List (Option ℕ × ℕ × ℤ) :=
  db.charges.rows.map fun c => (c.paymentId, c.shopOwnerId, c.amountToman)

/-- The ledger rows with a reason. -/
def ledgerOf (db : WalletDb) (reason : WalletTransactionReason) : List WalletTransaction :=
  db.transactions.rows.filter fun t => t.reason == reason

/-- The edit inserts a charge, or a ledger row with this reason. -/
def writes (reason : WalletTransactionReason) : WalletEdit → Bool
  | .insertCharge _ => true
  | .insertTransaction t => t.reason == reason
  | _ => false

/-- Nothing is added that the books of this reason show. -/
structure SameBooks (reason : WalletTransactionReason) (db db' : WalletDb) : Prop where
  charges : db'.chargeKeys = db.chargeKeys
  ledger : db'.ledgerOf reason = db.ledgerOf reason
  owners : db'.ownerKeys = db.ownerKeys

theorem SameBooks.refl (reason : WalletTransactionReason) (db : WalletDb) : SameBooks reason db db :=
  ⟨rfl, rfl, rfl⟩

theorem SameBooks.trans {reason : WalletTransactionReason} {db db' db'' : WalletDb}
    (h : SameBooks reason db db') (h' : SameBooks reason db' db'') : SameBooks reason db db'' :=
  ⟨h'.charges.trans h.charges, h'.ledger.trans h.ledger, h'.owners.trans h.owners⟩

theorem ledgerOf_insert {db : WalletDb} {t : WalletTransaction} (ht : t.id ∉ db.transactions.ids)
    (reason : WalletTransactionReason) :
    (db.apply (.insertTransaction t)).ledgerOf reason =
      db.ledgerOf reason ++ if t.reason = reason then [t] else [] := by
  show (db.transactions.insert t).rows.filter _ = _
  rw [Table.insert_rows ht, List.filter_append]
  refine congrArg _ ?_
  by_cases h : t.reason = reason
  · rw [if_pos h, List.filter_cons_of_pos (by simpa using h), List.filter_nil]
  · rw [if_neg h, List.filter_cons_of_neg (by simpa using h), List.filter_nil]

theorem sameBooks_apply {reason : WalletTransactionReason} (db : WalletDb) {e : WalletEdit}
    (he : writes reason e = false) : SameBooks reason db (db.apply e) := by
  have howners := ownerKeys_apply db e
  cases e with
  | insertCharge c => cases he
  | addBalance i n => exact ⟨rfl, rfl, howners⟩
  | lowerBalance i n => exact ⟨rfl, rfl, howners⟩
  | clearNotified i => exact ⟨rfl, rfl, howners⟩
  | setRemaining i n =>
    refine ⟨?_, rfl, rfl⟩
    exact Table.map_modify_of_eq (f := fun c : WalletCharge => { c with remainingToman := n })
      (fun _ => rfl) fun _ => rfl
  | closeCharge i =>
    refine ⟨?_, rfl, rfl⟩
    exact Table.map_modify_of_eq (f := fun c : WalletCharge =>
      { c with remainingToman := 0, isExpired := true }) (fun _ => rfl) fun _ => rfl
  | insertTransaction t =>
    refine ⟨rfl, ?_, rfl⟩
    by_cases ht : Keyed.id t ∈ db.transactions.ids
    · show (db.transactions.insert t).rows.filter _ = _
      unfold Table.insert
      rw [dif_pos ht]
      rfl
    · have hne : t.reason ≠ reason := beq_eq_false_iff_ne.1 he
      rw [ledgerOf_insert ht, if_neg hne, List.append_nil]

theorem sameBooks_applyAll {reason : WalletTransactionReason} {es : List WalletEdit} :
    ∀ (db : WalletDb), (∀ e ∈ es, writes reason e = false) → SameBooks reason db (applyAll db es) := by
  induction es with
  | nil => intro db _; exact .refl reason db
  | cons e es ih =>
    intro db he
    exact (sameBooks_apply db (he e List.mem_cons_self)).trans
      (ih _ fun e' he' => he e' (List.mem_cons_of_mem _ he'))

/-! ## What the wallet operations add -/

/-- `add_charge` adds one charge and one ledger row. -/
theorem addCharge_books {db db' : WalletDb} {settings : AdminSettings} {now : Datetime} {ownerId : ℕ}
    {amount : ℤ} {reason : WalletTransactionReason} {paymentId : Option ℕ} {validityMonths : Option ℤ}
    {reference : Option String} {c : WalletCharge}
    (h : db.addCharge settings now ownerId amount reason paymentId validityMonths reference =
      .ok (db', c)) :
    db'.chargeKeys = db.chargeKeys ++ [(paymentId, ownerId, amount)] ∧ db'.ownerKeys = db.ownerKeys ∧
      ∃ t : WalletTransaction, t.shopOwnerId = ownerId ∧ t.amountToman = amount ∧ t.reason = reason ∧
        ∀ q, db'.ledgerOf q = db.ledgerOf q ++ if reason = q then [t] else [] := by
  obtain ⟨-, -, hid, howner, hpay, hamount, -, -, rfl⟩ := addCharge_ok h
  set t := chargeTransaction c reason reference db.transactions.nextId with ht
  refine ⟨?_, ownerKeys_applyAll _ db, t, howner, hamount, rfl, fun q => ?_⟩
  · have hfresh : Keyed.id c ∉ db.charges.ids := by
      show c.id ∉ db.charges.ids
      rw [hid]
      exact Table.nextId_notMem _
    show (db.charges.insert c).rows.map _ = _
    rw [Table.insert_rows hfresh, List.map_append, List.map_singleton, hpay, howner, hamount]
    rfl
  · exact ledgerOf_insert (Table.nextId_notMem db.transactions) q

theorem writes_takeEdits {reason q : WalletTransactionReason} (hq : reason ≠ q) {ownerId : ℕ}
    {reference : Option String} (xs : List (WalletCharge × ℤ)) :
    ∀ ids, ∀ e ∈ takeEdits ownerId reason reference xs ids, writes q e = false := by
  induction xs with
  | nil => intro ids e he; cases he
  | cons x xs ih =>
    intro ids e he
    cases ids with
    | nil => cases he
    | cons id ids =>
      unfold takeEdits at he
      rcases List.mem_cons.1 he with rfl | he
      · rfl
      rcases List.mem_cons.1 he with rfl | he
      · exact beq_eq_false_iff_ne.2 hq
      · exact ih ids e he

/-- `deduct` adds nothing to the books of other reasons. -/
theorem deduct_books {db db' : WalletDb} {scan : Scan WalletCharge} {ownerId : ℕ} {amount : ℤ}
    {reason q : WalletTransactionReason} {reference : Option String} {ok : Bool} (hq : reason ≠ q)
    (h : db.deduct scan ownerId amount reason reference = .ok (db', ok)) : SameBooks q db db' := by
  obtain ⟨rfl, -⟩ | ⟨-, -, -, rfl⟩ := deduct_ok h
  · exact .refl q db'
  · obtain ⟨ids, -, -, htakes⟩ := flushTakes_eq ownerId reason reference
      (splitDeduction (db.deductibleCharges scan ownerId) amount).1 db
    rw [htakes]
    exact (sameBooks_applyAll db (writes_takeEdits hq _ ids)).trans (sameBooks_apply _ rfl)

/-- The sweep adds expiry rows only. -/
theorem expireStaleCharges_books {q : WalletTransactionReason} (hq : .EXPIRY ≠ q) (db : WalletDb)
    (scan : Scan WalletCharge) (now : Datetime) :
    SameBooks q db (db.expireStaleCharges scan now).1 := by
  have hround : ∀ (db' : WalletDb) (c : WalletCharge), SameBooks q db' (expireCharge db.owners db' c) := by
    intro db' c
    unfold expireCharge
    split
    · exact .refl q db'
    · have hrow : ∀ id, writes q (.insertTransaction (expiryTransaction c id)) = false :=
        fun _ => beq_eq_false_iff_ne.2 hq
      exact ((sameBooks_apply db' rfl).trans (sameBooks_apply _ (hrow _))).trans (sameBooks_apply _ rfl)
  have hloop : ∀ (cs : List WalletCharge) (db' : WalletDb),
      SameBooks q db' (cs.foldl (expireCharge db.owners) db') := by
    intro cs
    induction cs with
    | nil => intro db'; exact .refl q db'
    | cons c cs ih => intro db'; exact (hround db' c).trans (ih _)
  exact hloop _ db

end WalletDb

/-! ## The system -/

/-- What a customer's message is charged for. -/
inductive Usage where
  | chatMessage
  | photoAnalysis
  | voiceTranscription
  | orderDetection
  deriving DecidableEq

/-- The reason that `_deduct_and_notify` gets. -/
def Usage.reason : Usage → WalletTransactionReason
  | chatMessage => .CHAT_MESSAGE
  | photoAnalysis => .PHOTO_ANALYSIS
  | voiceTranscription => .VOICE_TRANSCRIPTION
  | orderDetection => .ORDER_DETECTION

/-- What writes to the books. -/
inductive BookAct where
  /-- `get_or_create_shop_owner`; `code` is the code its loop ends with. -/
  | register (telegramId : ℤ) (referredByCode : Option String) (code : String)
  | createCard (draws : Fin 30 → Fin 90) (ownerId : ℕ) (baseAmount : ℤ) (discountCodeId : Option ℕ)
      (durationMonths : Option ℤ) (purpose : PaymentPurpose)
  | createZarinpal (ownerId : ℕ) (baseAmount : ℤ) (discountCodeId : Option ℕ) (authority : String)
      (durationMonths : Option ℤ) (purpose : PaymentPurpose)
  | createBale (ownerId : ℕ) (baseAmount : ℤ) (discountCodeId : Option ℕ) (invoicePayload : String)
      (durationMonths : Option ℤ) (purpose : PaymentPurpose)
  | adminApprove (outcome : TelegramCall → Bool) (paymentId : ℕ) (adminTelegramId : ℤ)
  | adminReject (outcome : TelegramCall → Bool) (paymentId : ℕ) (adminTelegramId : ℤ)
  | zarinpalCallback (outcome : TelegramCall → Bool)
      (verify : Option String → ℤ → String → Option String) (authority status : String)
  | baleWebhook (outcome : TelegramCall → Bool) (inquire : PaymentDb.JsonValue → PaymentDb.Inquiry)
      (body : PaymentDb.SuccessfulPayment)
  | activateTrial (telegramId : ℤ)
  | ownerGift (ownerId : ℕ) (amountToman : ℤ)
  | ownerWalletCorrection (scan : Scan WalletCharge) (ownerId : ℕ) (amountToman : ℤ) (note : String)
  | deduct (scan : Scan WalletCharge) (ownerId : ℕ) (amountToman : ℤ) (usage : Usage)
  | expireStaleCharges (scan : Scan WalletCharge)
  | setSettings (settings : AdminSettings)

namespace PaymentDb

/-- The tables that `shop_owner_service` works on. -/
def ownerTables (db : PaymentDb) : ShopDb :=
  { owners := db.wallet.owners, referrals := db.referrals, shops := .empty, customers := .empty,
    products := .empty, orders := .empty, settings := db.settings }

/-- `get_or_create_shop_owner` on these tables. -/
def getOrCreateShopOwner (db : PaymentDb) (telegramId : ℤ) (referredByCode : Option String)
    (code : String) : Except PyError PaymentDb := do
  let (tables, _) ← db.ownerTables.getOrCreateShopOwner telegramId referredByCode code
  return { db with wallet := { db.wallet with owners := tables.owners }, referrals := tables.referrals }

/-- `owner_gift_amount_entered`, from the parsed amount on. -/
def ownerGiftAmountEntered (db : PaymentDb) (now : Datetime) (ownerId : ℕ) (amountToman : ℤ) :
    Except PyError PaymentDb :=
  if amountToman ≤ 0 ∨ ownerId ∉ db.wallet.owners.ids then .ok db
  else do
    let (db, _) ← db.addCharge now ownerId amountToman .ADMIN_GRANT none
    return db

/-- `owner_wallet_correction_reason_entered`, from `note = message.text.strip()` on. -/
def ownerWalletCorrectionReasonEntered (db : PaymentDb) (now : Datetime) (scan : Scan WalletCharge)
    (ownerId : ℕ) (amountToman : ℤ) (note : String) : Except PyError PaymentDb :=
  if note = "" ∨ 255 < note.length ∨ ownerId ∉ db.wallet.owners.ids then .ok db
  else if 0 < amountToman then do
    let (wallet, _) ← db.wallet.addCharge db.settings now ownerId amountToman .ADMIN_CORRECTION none none
      (some note)
    return { db with wallet := wallet }
  else do
    let (wallet, _) ← db.wallet.deduct scan ownerId |amountToman| .ADMIN_CORRECTION (some note)
    return { db with wallet := wallet }

/-- What an action does if it is committed. -/
def perform (W : World) (db : PaymentDb) (now : Datetime) : BookAct → Except PyError PaymentDb
  | .register telegramId referredByCode code => db.getOrCreateShopOwner telegramId referredByCode code
  | .createCard draws ownerId baseAmount discountCodeId durationMonths purpose =>
    (db.createCardToCardPayment now draws ownerId baseAmount (db.getDiscountOrNone discountCodeId)
      durationMonths purpose).map Prod.fst
  | .createZarinpal ownerId baseAmount discountCodeId authority durationMonths purpose =>
    (db.createZarinpalPayment ownerId baseAmount (db.getDiscountOrNone discountCodeId) authority
      durationMonths purpose).map Prod.fst
  | .createBale ownerId baseAmount discountCodeId invoicePayload durationMonths purpose =>
    (db.createBalePayment ownerId baseAmount (db.getDiscountOrNone discountCodeId) invoicePayload
      durationMonths purpose).map Prod.fst
  | .adminApprove outcome paymentId adminTelegramId =>
    .ok (cbAdminApprovePayment W outcome db now paymentId adminTelegramId).db
  | .adminReject outcome paymentId adminTelegramId =>
    .ok (cbAdminRejectPayment outcome db now paymentId adminTelegramId).db
  | .zarinpalCallback outcome verify authority status =>
    .ok (PaymentDb.zarinpalCallback W outcome verify db now authority status).db
  | .baleWebhook outcome inquire body =>
    .ok (handleBaleSuccessfulPayment W outcome inquire db now body).db
  | .activateTrial telegramId => do
    let wallet ← db.wallet.cbActivateTrial db.settings now telegramId
    return { db with wallet := wallet }
  | .ownerGift ownerId amountToman => db.ownerGiftAmountEntered now ownerId amountToman
  | .ownerWalletCorrection scan ownerId amountToman note =>
    db.ownerWalletCorrectionReasonEntered now scan ownerId amountToman note
  | .deduct scan ownerId amountToman usage => do
    let (wallet, _) ← db.wallet.deduct scan ownerId amountToman usage.reason none
    return { db with wallet := wallet }
  | .expireStaleCharges scan => .ok { db with wallet := (db.wallet.expireStaleCharges scan now).1 }
  | .setSettings settings => .ok { db with settings := settings }

/-- One step, at a time: it is committed, unless it raises or its commit fails. -/
def book (W : World) (db : PaymentDb) (a : Datetime × Bool × BookAct) : Option PaymentDb :=
  match db.perform W a.1 a.2.2 with
  | .error _ => some db
  | .ok db' => some (if a.2.1 then db' else db)

/-! ## What a step can do -/

/-- Only credits without a payment are added, with other reasons than the two. -/
structure Credited (db db' : PaymentDb) : Prop where
  payments : db'.payments = db.payments
  referrals : db'.referrals = db.referrals
  charges : ∃ extra, db'.wallet.chargeKeys = db.wallet.chargeKeys ++ extra ∧ ∀ k ∈ extra, k.1 = none
  topups : db'.wallet.ledgerOf .TOPUP = db.wallet.ledgerOf .TOPUP
  rewards : db'.wallet.ledgerOf .REFERRAL_REWARD = db.wallet.ledgerOf .REFERRAL_REWARD
  owners : db'.wallet.ownerKeys = db.wallet.ownerKeys

/-- A new owner, with the referrer whose code was given. -/
structure Registered (db db' : PaymentDb) (telegramId : ℤ) (referredByCode : Option String)
    (owner : ShopOwner) : Prop where
  absent : db.ownerTables.ownerByTelegramId telegramId = none
  telegramId : owner.telegramId = telegramId
  id : owner.id = db.wallet.owners.nextId
  referrer : owner.referredById = db.ownerTables.referrerOf referredByCode
  payments : db'.payments = db.payments
  charges : db'.wallet.charges = db.wallet.charges
  transactions : db'.wallet.transactions = db.wallet.transactions
  owners : db'.wallet.owners = db.wallet.owners.insert owner
  referrals : db'.referrals = match owner.referredById with
    | none => db.referrals
    | some referrerId => db.referrals.insert { referredId := owner.id, referrerId := referrerId }

/-- **What a step can do.** -/
inductive BookStep (W : World) (db : PaymentDb) (now : Datetime) (act : BookAct) : PaymentDb → Prop
  | credited {db' : PaymentDb} (h : Credited db db') : BookStep W db now act db'
  | registered {db' : PaymentDb} {telegramId : ℤ} {referredByCode : Option String} {code : String}
      {owner : ShopOwner} (hact : act = .register telegramId referredByCode code)
      (h : Registered db db' telegramId referredByCode owner) : BookStep W db now act db'
  | opened {p : Payment} (hnew : db.NewPayment p) : BookStep W db now act (db.apply (.insertPayment p))
  | rejected {payment : Payment} {adminTelegramId : Option ℤ} {reason : Option String}
      (hget : db.getById payment.id = some payment) (hpending : payment.status = .PENDING) :
      BookStep W db now act (db.apply (.review payment.id now (.reject adminTelegramId reason)))
  | approved {db' : PaymentDb} {payment : Payment} {approval : Approval} {effect : Effect}
      {reward : Option PyDict} (hget : db.getById payment.id = some payment)
      (hpending : payment.status = .PENDING)
      (hok : db.approve W now payment approval = .ok (db', effect, reward)) : BookStep W db now act db'

theorem Credited.refl (db : PaymentDb) : Credited db db :=
  ⟨rfl, rfl, ⟨[], (List.append_nil _).symm, fun _ hk => absurd hk List.not_mem_nil⟩, rfl, rfl, rfl⟩

/-! ## What an approval adds -/

/-- The charge of a top-up, and its ledger row. -/
def topupKeys (p : Payment) : List (Option ℕ × ℕ × ℤ) :=
  if p.purpose = .WALLET_TOPUP then [(some p.id, p.shopOwnerId, p.finalAmount)] else []

def topupValue (p : Payment) : ℤ := if p.purpose = .WALLET_TOPUP then p.finalAmount else 0

/-- The sum of the `TOPUP` rows of the ledger. -/
def topupTotal (db : PaymentDb) : ℤ := ((db.wallet.ledgerOf .TOPUP).map WalletTransaction.amountToman).sum

/-- What an approval adds to the books. -/
structure ApprovedBooks (db : PaymentDb) (payment : Payment) (db' : PaymentDb) : Prop where
  charges : ∃ extra, db'.wallet.chargeKeys = db.wallet.chargeKeys ++ topupKeys payment ++ extra ∧
    ∀ k ∈ extra, k.1 = none
  topups : db'.topupTotal = db.topupTotal + topupValue payment
  owners : db'.wallet.ownerKeys = db.wallet.ownerKeys
  /-- The reward of the referrer, if one is paid. -/
  rewards : (db'.wallet.ledgerOf .REFERRAL_REWARD = db.wallet.ledgerOf .REFERRAL_REWARD ∧
      db'.referrals = db.referrals) ∨
    ∃ (referral : Referral) (t : WalletTransaction) (rewardedAt : Datetime),
      db.isFirstApprovedPayment payment.shopOwnerId payment.id = true ∧
      db.pendingReferral payment.shopOwnerId = some referral ∧ t.shopOwnerId = referral.referrerId ∧
      t.amountToman = db.commission payment.finalAmount ∧ 0 < t.amountToman ∧
      db'.wallet.ledgerOf .REFERRAL_REWARD = db.wallet.ledgerOf .REFERRAL_REWARD ++ [t] ∧
      db'.referrals = (db.apply (.setRewarded referral.referredId rewardedAt)).referrals

section Approval

variable {W : World} {db db' : PaymentDb} {now : Datetime} {payment : Payment}

theorem addCharge_topupTotal {ownerId : ℕ} {amount : ℤ} {reason : WalletTransactionReason}
    {paymentId : Option ℕ} {c : WalletCharge}
    (h : db.addCharge now ownerId amount reason paymentId = .ok (db', c)) :
    db'.topupTotal = db.topupTotal + if reason = .TOPUP then amount else 0 := by
  obtain ⟨wallet, h₁, rfl⟩ := addCharge_ok h
  obtain ⟨-, -, t, -, hamount, -, hledger⟩ := WalletDb.addCharge_books h₁
  unfold topupTotal
  dsimp only
  rw [hledger, List.map_append, List.sum_append]
  split_ifs
  · rw [List.map_singleton, List.sum_singleton, hamount]
  · rfl

theorem applyPaymentEffect_books {effect : Effect}
    (h : db.applyPaymentEffect W now payment = .ok (db', effect)) :
    db'.wallet.chargeKeys = db.wallet.chargeKeys ++ topupKeys payment ∧
      db'.topupTotal = db.topupTotal + topupValue payment ∧ db'.wallet.ownerKeys = db.wallet.ownerKeys ∧
      db'.wallet.ledgerOf .REFERRAL_REWARD = db.wallet.ledgerOf .REFERRAL_REWARD := by
  unfold applyPaymentEffect at h
  unfold topupKeys topupValue
  split at h
  · rename_i hpurpose
    obtain ⟨⟨db₁, c⟩, h₁, h⟩ := bind_ok h
    cases h
    have htotal := addCharge_topupTotal h₁
    obtain ⟨wallet, h₂, rfl⟩ := addCharge_ok h₁
    obtain ⟨hcharges, howners, t, -, -, -, hledger⟩ := WalletDb.addCharge_books h₂
    rw [if_pos rfl] at htotal
    rw [if_pos hpurpose, if_pos hpurpose]
    refine ⟨hcharges, htotal, howners, ?_⟩
    have := hledger .REFERRAL_REWARD
    rwa [if_neg nofun, List.append_nil] at this
  · rename_i hpurpose
    obtain ⟨⟨db₁, s⟩, h₁, h⟩ := bind_ok h
    cases h
    obtain ⟨-, -, rfl⟩ := purchaseOrRenew_ok h₁
    have hno : payment.purpose ≠ .WALLET_TOPUP := by
      rw [hpurpose]
      nofun
    rw [if_neg hno, if_neg hno, List.append_nil, add_zero]
    exact ⟨rfl, rfl, rfl, rfl⟩

/-- What `process_referral_reward` adds to the books. -/
structure Rewarded (db : PaymentDb) (ownerId : ℕ) (amount : ℤ) (db' : PaymentDb) (referral : Referral)
    (t : WalletTransaction) : Prop where
  pending : db.pendingReferral ownerId = some referral
  referrer : t.shopOwnerId = referral.referrerId
  commission : t.amountToman = db.commission amount
  pos : 0 < t.amountToman
  charges : db'.wallet.chargeKeys = db.wallet.chargeKeys ++ [(none, t.shopOwnerId, t.amountToman)]
  topups : db'.topupTotal = db.topupTotal
  owners : db'.wallet.ownerKeys = db.wallet.ownerKeys
  rewards : db'.wallet.ledgerOf .REFERRAL_REWARD = db.wallet.ledgerOf .REFERRAL_REWARD ++ [t]

theorem processReferralReward_books {ownerId : ℕ} {amount : ℤ} {reward : Option PyDict}
    (h : db.processReferralReward now ownerId amount = .ok (db', reward)) :
    db' = db ∨ ∃ referral t, Rewarded db ownerId amount db' referral t ∧
      db'.referrals = (db.apply (.setRewarded referral.referredId now)).referrals := by
  obtain ⟨rfl, -, -⟩ | ⟨referral, referrer, db₁, c, hpending, hreferrer, hpos, hadd, rfl, -⟩ :=
    processReferralReward_cases h
  · exact Or.inl rfl
  have htotal := addCharge_topupTotal hadd
  rw [if_neg nofun, add_zero] at htotal
  obtain ⟨wallet, hcharge, rfl⟩ := addCharge_ok hadd
  obtain ⟨hcharges, howners, t, htowner, htamount, -, hledger⟩ := WalletDb.addCharge_books hcharge
  have hid : referrer.id = referral.referrerId := Table.id_of_find? hreferrer
  refine Or.inr ⟨referral, t, ⟨hpending, htowner.trans hid, htamount, ?_, ?_, htotal, howners, ?_⟩, rfl⟩
  · rw [htamount]
    exact hpos
  · rw [htowner, htamount]
    exact hcharges
  · have := hledger .REFERRAL_REWARD
    rwa [if_pos rfl] at this

/-- **What an approval adds to the books.** -/
theorem approve_books {approval : Approval} {effect : Effect} {reward : Option PyDict}
    (h : db.approve W now payment approval = .ok (db', effect, reward)) :
    ApprovedBooks db payment db' := by
  obtain ⟨-, db₁, db₂, h₁, h₂, h₃⟩ := approve_ok h
  obtain ⟨hsame₁, hwallet, -⟩ := recordUsageOf_same h₁
  have hwallet : db₁.wallet = db.wallet := hwallet
  have hsame : SameContext db db₂ := by
    have hsame := hsame₁.trans (applyPaymentEffect_same h₂).1
    exact ⟨hsame.referrals, hsame.settings, hsame.owners⟩
  obtain ⟨hcharges, htotal, howners, hrewards⟩ := applyPaymentEffect_books h₂
  have htotal₁ : db₁.topupTotal = db.topupTotal := by
    unfold topupTotal
    rw [hwallet]
  rw [htotal₁] at htotal
  rw [hwallet] at hcharges howners hrewards
  have hnothing : ApprovedBooks db payment db₂ := by
    refine ⟨⟨[], ?_, fun _ hk => absurd hk List.not_mem_nil⟩, htotal, howners,
      Or.inl ⟨hrewards, hsame.referrals⟩⟩
    rw [List.append_nil]
    exact hcharges
  rcases h₃ with ⟨hfirst, h₃⟩ | ⟨-, rfl, -⟩
  swap
  · exact hnothing
  obtain rfl | ⟨referral, t, hreward, hreferrals⟩ := processReferralReward_books h₃
  · exact hnothing
  have hcommission : db₂.commission payment.finalAmount = db.commission payment.finalAmount := by
    unfold PaymentDb.commission
    rw [hsame.settings]
  have hpending : db₂.pendingReferral payment.shopOwnerId = db.pendingReferral payment.shopOwnerId := by
    unfold pendingReferral
    rw [hsame.referrals]
  refine ⟨⟨[(none, t.shopOwnerId, t.amountToman)], ?_, fun k hk => ?_⟩, hreward.topups.trans htotal,
    hreward.owners.trans howners, Or.inr ⟨referral, t, now, hfirst, hpending ▸ hreward.pending,
      hreward.referrer, hreward.commission.trans hcommission, hreward.pos, ?_, ?_⟩⟩
  · rw [hreward.charges, hcharges]
  · rw [List.mem_singleton.1 hk]
  · rw [hreward.rewards, hrewards]
  · rw [hreferrals]
    unfold PaymentDb.apply
    dsimp only
    rw [hsame.referrals]

end Approval

section Steps

variable {W : World} {db db' : PaymentDb} {now : Datetime} {act : BookAct}

/-- A step of the wallet alone that adds no charge. -/
theorem Credited.of_sameBooks {wallet : WalletDb}
    (h : ∀ q, q = .TOPUP ∨ q = .REFERRAL_REWARD → db.wallet.SameBooks q wallet) :
    Credited db { db with wallet := wallet } := by
  have htopup := h .TOPUP (Or.inl rfl)
  have hreward := h .REFERRAL_REWARD (Or.inr rfl)
  refine ⟨rfl, rfl, ⟨[], ?_, fun _ hk => absurd hk List.not_mem_nil⟩, htopup.ledger, hreward.ledger,
    htopup.owners⟩
  rw [List.append_nil]
  exact htopup.charges

/-- A step that adds one charge without a payment. -/
theorem Credited.of_addCharge {wallet : WalletDb} {settings : AdminSettings} {ownerId : ℕ} {amount : ℤ}
    {reason : WalletTransactionReason} {validityMonths : Option ℤ} {reference : Option String}
    {c : WalletCharge}
    (h : db.wallet.addCharge settings now ownerId amount reason none validityMonths reference =
      .ok (wallet, c)) (htopup : reason ≠ .TOPUP) (hreward : reason ≠ .REFERRAL_REWARD) :
    Credited db { db with wallet := wallet } := by
  obtain ⟨hcharges, howners, t, -, -, -, hledger⟩ := WalletDb.addCharge_books h
  refine ⟨rfl, rfl, ⟨_, hcharges, fun k hk => ?_⟩, ?_, ?_, howners⟩
  · rw [List.mem_singleton.1 hk]
  · have := hledger .TOPUP
    rwa [if_neg htopup, List.append_nil] at this
  · have := hledger .REFERRAL_REWARD
    rwa [if_neg hreward, List.append_nil] at this

/-! ### The handlers -/

theorem cbAdminApprovePayment_step (outcome : TelegramCall → Bool) (paymentId : ℕ) (adminTelegramId : ℤ) :
    BookStep W db now act (cbAdminApprovePayment W outcome db now paymentId adminTelegramId).db := by
  have hsame : BookStep W db now act db := .credited (.refl db)
  unfold cbAdminApprovePayment
  dsimp only
  split
  · exact hsame
  · rename_i payment hget
    split_ifs with hpending
    · exact hsame
    · split
      · exact hsame
      · rename_i hok
        have hid : payment.id = paymentId := Table.id_of_find? hget
        split
        · exact .approved (hid.symm ▸ hget) (not_not.1 hpending) hok
        · exact hsame

theorem cbAdminRejectPayment_step (outcome : TelegramCall → Bool) (paymentId : ℕ) (adminTelegramId : ℤ) :
    BookStep W db now act (cbAdminRejectPayment outcome db now paymentId adminTelegramId).db := by
  have hsame : BookStep W db now act db := .credited (.refl db)
  unfold cbAdminRejectPayment
  dsimp only
  split
  · exact hsame
  · rename_i payment hget
    split_ifs with hpending
    · exact hsame
    · have hid : payment.id = paymentId := Table.id_of_find? hget
      split
      · exact .rejected (hid.symm ▸ hget) (not_not.1 hpending)
      · exact hsame

theorem zarinpalCallback_step (outcome : TelegramCall → Bool)
    (verify : Option String → ℤ → String → Option String) (authority status : String) :
    BookStep W db now act (PaymentDb.zarinpalCallback W outcome verify db now authority status).db := by
  have hsame : BookStep W db now act db := .credited (.refl db)
  unfold PaymentDb.zarinpalCallback
  split_ifs with hstatus
  · exact hsame
  split
  · exact hsame
  · exact hsame
  rename_i payment hget
  split_ifs with hpending
  · exact hsame
  split
  · exact hsame
  split
  · exact hsame
  rename_i hok
  have hfind : db.getById payment.id = some payment :=
    Table.find?_of_mem (getByZarinpalAuthority_some hget).1
  have happroved : BookStep W db now act _ := .approved hfind (not_not.1 hpending) hok
  split
  · exact hsame
  split
  · exact happroved
  · exact happroved

theorem handleBaleSuccessfulPayment_step (outcome : TelegramCall → Bool) (inquire : JsonValue → Inquiry)
    (body : SuccessfulPayment) :
    BookStep W db now act (handleBaleSuccessfulPayment W outcome inquire db now body).db := by
  rcases handleBaleSuccessfulPayment_cases W outcome inquire db now body with hsame |
    ⟨payload, transactionId, payment, effect, reward, -, -, hget, hpending, hok⟩
  · rw [hsame]
    exact .credited (.refl db)
  · exact .approved (Table.find?_of_mem (getByBalePayload_some hget).1) hpending hok

theorem getOrCreateShopOwner_step {telegramId : ℤ} {referredByCode : Option String} {code : String}
    (hact : act = .register telegramId referredByCode code)
    (h : db.getOrCreateShopOwner telegramId referredByCode code = .ok db') : BookStep W db now act db' := by
  obtain ⟨⟨tables, owner⟩, h₁, h⟩ := bind_ok h
  cases h
  unfold ShopDb.getOrCreateShopOwner at h₁
  split at h₁
  · cases h₁
    exact .credited (.refl db)
  · rename_i habsent
    split_ifs at h₁
    cases h₁
    exact .registered hact ⟨habsent, rfl, rfl, rfl, rfl, rfl, rfl, rfl, rfl⟩

theorem Opens.step (h : Opens db db') : BookStep W db now act db' := by
  rcases h with rfl | ⟨p, hnew, rfl⟩
  · exact .credited (.refl _)
  · exact .opened hnew

theorem createCardToCardPayment_opens {draws : Fin 30 → Fin 90} {ownerId : ℕ} {baseAmount : ℤ}
    {codeId : Option ℕ} {durationMonths : Option ℤ} {purpose : PaymentPurpose} {p : Payment}
    (h : db.createCardToCardPayment now draws ownerId baseAmount (db.getDiscountOrNone codeId)
      durationMonths purpose = .ok (db', p)) : Opens db db' := by
  obtain ⟨discounted, -, h⟩ := bind_ok h
  obtain ⟨final, -, h⟩ := bind_ok h
  obtain ⟨reserved, -, h⟩ := bind_ok h
  exact opens_of_insert h rfl rfl rfl

theorem createZarinpalPayment_opens {ownerId : ℕ} {baseAmount : ℤ} {codeId : Option ℕ}
    {authority : String} {durationMonths : Option ℤ} {purpose : PaymentPurpose} {p : Payment}
    (h : db.createZarinpalPayment ownerId baseAmount (db.getDiscountOrNone codeId) authority
      durationMonths purpose = .ok (db', p)) : Opens db db' := by
  obtain ⟨discounted, -, h⟩ := bind_ok h
  exact opens_of_insert h rfl rfl rfl

theorem createBalePayment_opens {ownerId : ℕ} {baseAmount : ℤ} {codeId : Option ℕ}
    {invoicePayload : String} {durationMonths : Option ℤ} {purpose : PaymentPurpose} {p : Payment}
    (h : db.createBalePayment ownerId baseAmount (db.getDiscountOrNone codeId) invoicePayload
      durationMonths purpose = .ok (db', p)) : Opens db db' := by
  obtain ⟨discounted, -, h⟩ := bind_ok h
  exact opens_of_insert h rfl rfl rfl

theorem cbActivateTrial_credited {telegramId : ℤ} {wallet : WalletDb}
    (h : db.wallet.cbActivateTrial db.settings now telegramId = .ok wallet) :
    Credited db { db with wallet := wallet } := by
  unfold WalletDb.cbActivateTrial at h
  split at h
  · cases h
  · split_ifs at h
    · cases h
      exact .refl db
    · obtain ⟨⟨wallet', c⟩, h₁, h⟩ := bind_ok h
      cases h
      exact .of_addCharge h₁ nofun nofun

theorem ownerGiftAmountEntered_credited {ownerId : ℕ} {amount : ℤ}
    (h : db.ownerGiftAmountEntered now ownerId amount = .ok db') : Credited db db' := by
  unfold ownerGiftAmountEntered at h
  split_ifs at h
  · cases h
    exact .refl db
  · obtain ⟨⟨db₁, c⟩, h₁, h⟩ := bind_ok h
    cases h
    obtain ⟨wallet, h₂, rfl⟩ := addCharge_ok h₁
    exact .of_addCharge h₂ nofun nofun

theorem ownerWalletCorrectionReasonEntered_credited {scan : Scan WalletCharge} {ownerId : ℕ} {amount : ℤ}
    {note : String} (h : db.ownerWalletCorrectionReasonEntered now scan ownerId amount note = .ok db') :
    Credited db db' := by
  unfold ownerWalletCorrectionReasonEntered at h
  split_ifs at h
  · cases h
    exact .refl db
  · obtain ⟨⟨wallet, c⟩, h₁, h⟩ := bind_ok h
    cases h
    exact .of_addCharge h₁ nofun nofun
  · obtain ⟨⟨wallet, ok⟩, h₁, h⟩ := bind_ok h
    cases h
    refine .of_sameBooks fun q hq => WalletDb.deduct_books ?_ h₁
    rcases hq with rfl | rfl <;> nofun

theorem deduct_credited {scan : Scan WalletCharge} {ownerId : ℕ} {amount : ℤ} {usage : Usage}
    {wallet : WalletDb} {ok : Bool}
    (h : db.wallet.deduct scan ownerId amount usage.reason none = .ok (wallet, ok)) :
    Credited db { db with wallet := wallet } := by
  refine .of_sameBooks fun q hq => WalletDb.deduct_books ?_ h
  rcases hq with rfl | rfl <;> cases usage <;> nofun

theorem expireStaleCharges_credited (scan : Scan WalletCharge) :
    Credited db { db with wallet := (db.wallet.expireStaleCharges scan now).1 } := by
  refine .of_sameBooks fun q hq => WalletDb.expireStaleCharges_books ?_ db.wallet scan now
  rcases hq with rfl | rfl <;> nofun

/-- **Every step is one of these.** -/
theorem book_step {a : Datetime × Bool × BookAct} (hs : db.book W a = some db') :
    BookStep W db a.1 a.2.2 db' := by
  obtain ⟨now, committed, act⟩ := a
  have hsame : BookStep W db now act db := .credited (.refl db)
  unfold book at hs
  split at hs
  · cases hs
    exact hsame
  rename_i db₁ hperform
  dsimp only at hs hperform
  cases committed with
  | false =>
    cases hs
    exact hsame
  | true =>
    cases hs
    cases act with
    | register telegramId referredByCode code => exact getOrCreateShopOwner_step rfl hperform
    | createCard draws ownerId baseAmount discountCodeId durationMonths purpose =>
      obtain ⟨⟨db₂, p⟩, h, rfl⟩ := map_ok hperform
      exact (createCardToCardPayment_opens h).step
    | createZarinpal ownerId baseAmount discountCodeId authority durationMonths purpose =>
      obtain ⟨⟨db₂, p⟩, h, rfl⟩ := map_ok hperform
      exact (createZarinpalPayment_opens h).step
    | createBale ownerId baseAmount discountCodeId invoicePayload durationMonths purpose =>
      obtain ⟨⟨db₂, p⟩, h, rfl⟩ := map_ok hperform
      exact (createBalePayment_opens h).step
    | adminApprove outcome paymentId adminTelegramId =>
      cases hperform
      exact cbAdminApprovePayment_step ..
    | adminReject outcome paymentId adminTelegramId =>
      cases hperform
      exact cbAdminRejectPayment_step ..
    | zarinpalCallback outcome verify authority status =>
      cases hperform
      exact zarinpalCallback_step ..
    | baleWebhook outcome inquire body =>
      cases hperform
      exact handleBaleSuccessfulPayment_step ..
    | activateTrial telegramId =>
      obtain ⟨wallet, h, hperform⟩ := bind_ok hperform
      cases hperform
      exact .credited (cbActivateTrial_credited h)
    | ownerGift ownerId amountToman => exact .credited (ownerGiftAmountEntered_credited hperform)
    | ownerWalletCorrection scan ownerId amountToman note =>
      exact .credited (ownerWalletCorrectionReasonEntered_credited hperform)
    | deduct scan ownerId amountToman usage =>
      obtain ⟨⟨wallet, ok⟩, h, hperform⟩ := bind_ok hperform
      cases hperform
      exact .credited (deduct_credited h)
    | expireStaleCharges scan =>
      cases hperform
      exact .credited (expireStaleCharges_credited scan)
    | setSettings settings =>
      cases hperform
      exact .credited ⟨rfl, rfl, ⟨[], (List.append_nil _).symm, fun _ hk => absurd hk List.not_mem_nil⟩,
        rfl, rfl, rfl⟩

end Steps

end PaymentDb

end KasbOKar
