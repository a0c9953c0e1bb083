import KasbOKar.Payment.Tables

/-!
# Payments, discounts and referral rewards

`app/services/payment_service.py` with what it calls in `discount_service.py`,
`referral_service.py` and `subscription_service.py`, as functions that run alone.  A function that
raises returns an error; its caller's session is then rolled back.
-/

namespace KasbOKar

/-! ## Numbers -/

/-- `str` of a `Numeric(10, 2)`, given in hundredths. -/
def decimalStr (cents : ℤ) : String :=
  (if cents < 0 then "-" else "") ++ toString (cents.natAbs / 100) ++ "." ++
    (if cents.natAbs % 100 < 10 then "0" else "") ++ toString (cents.natAbs % 100)

/-! ## Dictionaries -/

/-- The values of `reward_info`. -/
inductive PyValue where
  | int (n : ℤ)
  | str (s : String)
  deriving DecidableEq, Repr

/-- A Python `dict` with string keys. -/
abbrev PyDict := List (String × PyValue)

/-- `d[key]`. -/
def PyDict.getItem (d : PyDict) (key : String) : Except PyError PyValue :=
  match d.lookup key with
  | some v => .ok v
  | none => .error .KeyError

theorem PyDict.getItem_of_notMem {d : PyDict} {key : String} (h : key ∉ d.map Prod.fst) :
    d.getItem key = .error .KeyError := by
  have hnone : d.lookup key = none := by
    rw [List.lookup_eq_none_iff]
    intro x hx
    refine bne_iff_ne.2 fun e => h ?_
    rw [e]
    exact List.mem_map_of_mem hx
  unfold PyDict.getItem
  rw [hnone]

theorem PyDict.exists_getItem {d : PyDict} {key : String} (h : key ∈ d.map Prod.fst) :
    ∃ v, d.getItem key = .ok v := by
  obtain ⟨x, hx, rfl⟩ := List.mem_map.1 h
  unfold PyDict.getItem
  cases hv : d.lookup x.1 with
  | none => exact absurd (List.lookup_eq_none_iff.1 hv x hx) (by simp)
  | some v => exact ⟨v, rfl⟩

/-- What lies outside the repository: `start + relativedelta(months=n)`. -/
structure World where
  addMonths : Datetime → ℤ → Except PyError Datetime

/-- A world for runs in which no subscription is bought: adding no months leaves the instant. -/
def World.noMonths : World := ⟨fun start n => if n = 0 then .ok start else .error .OverflowError⟩

/-- What a payment bought. -/
inductive Effect where
  | charge (c : WalletCharge)
  | subscription (s : Subscription)
  deriving DecidableEq

/-! ## Discounts -/

/-- `apply_discount`. -/
def applyDiscount (baseAmount : ℤ) (discount : DiscountCode) : Except PyError ℤ :=
  match discount.type with
  | .PERCENT =>
    let base := nearestFloat baseAmount
    let product := nearestFloat (base * nearestFloat (discount.valueCents / 100))
    -- an `int` beyond the largest `float` cannot be converted, and an infinite product not back
    if (2 : ℚ) ^ 1024 ≤ |base| ∨ (2 : ℚ) ^ 1024 ≤ |product| then .error .OverflowError
    else .ok (max (baseAmount - truncate (nearestFloat (product / 100))) 0)
  | .FIXED => .ok (max (baseAmount - discount.valueCents.tdiv 100) 0)

example : applyDiscount 99999 ⟨1, "A", .PERCENT, 1250, none, 0, none, true⟩ = .ok 87500 := by
  decide +kernel

namespace PaymentDb

/-- `get_by_code`, from `code.strip().upper()` on. -/
def getByCode (db : PaymentDb) (code : String) : Option DiscountCode :=
  db.codes.rows.find? fun c => c.code == code

/-- The usages of a code by an owner. -/
def usagesOf (db : PaymentDb) (codeId ownerId : ℕ) : List DiscountCodeUsage :=
  db.usages.rows.filter fun u => u.discountCodeId == codeId && u.shopOwnerId == ownerId

/-- `validate_code`. -/
def validateCode (db : PaymentDb) (now : Datetime) (rawCode : String) (ownerId : ℕ) :
    Except PyError (Option DiscountCode) :=
  match db.getByCode rawCode with
  | none => .ok none
  | some discount =>
    if !discount.isActive then .ok none
    else if discount.expiresAt.any (fun t => decide (t < now)) then .ok none
    else if discount.maxUses.any (fun m => decide (m ≤ discount.usedCount)) then .ok none
    else do
      let usage ← scalarOneOrNone (db.usagesOf discount.id ownerId)
      if usage.isSome then return none else return some discount

/-- `record_usage`: the `INSERT` is checked against the unique index and the foreign key. -/
def recordUsage (db : PaymentDb) (codeId ownerId paymentId : ℕ) : Except PyError PaymentDb :=
  match db.codes.find? codeId with
  | none => .error .IntegrityError
  | some discount =>
    if db.usagesOf codeId ownerId ≠ [] then .error .IntegrityError
    else if ¬ Int4 (discount.usedCount + 1) then .error .DataError
    else .ok ((db.apply (.insertUsage
      { id := db.usages.nextId, discountCodeId := codeId, shopOwnerId := ownerId,
        paymentId := paymentId })).apply (.setUsedCount codeId (discount.usedCount + 1)))

/-! ## Reading payments -/

/-- `get_by_id`. -/
def getById (db : PaymentDb) (paymentId : ℕ) : Option Payment := db.payments.find? paymentId

/-- `get_by_zarinpal_authority`. -/
def getByZarinpalAuthority (db : PaymentDb) (authority : String) :
    Except PyError (Option Payment) :=
  scalarOneOrNone (db.payments.rows.filter fun p => p.zarinpalAuthority == some authority)

/-- `get_by_bale_payload`. -/
def getByBalePayload (db : PaymentDb) (payload : String) : Except PyError (Option Payment) :=
  scalarOneOrNone (db.payments.rows.filter fun p => p.baleInvoicePayload == some payload)

theorem getByZarinpalAuthority_some {db : PaymentDb} {authority : String} {payment : Payment}
    (h : db.getByZarinpalAuthority authority = .ok (some payment)) :
    payment ∈ db.payments.rows ∧ payment.zarinpalAuthority = some authority := by
  have := List.mem_filter.1 (scalarOneOrNone_some h ▸ List.mem_singleton_self payment)
  exact ⟨this.1, by simpa using this.2⟩

theorem getByBalePayload_some {db : PaymentDb} {payload : String} {payment : Payment}
    (h : db.getByBalePayload payload = .ok (some payment)) :
    payment ∈ db.payments.rows ∧ payment.baleInvoicePayload = some payload := by
  have := List.mem_filter.1 (scalarOneOrNone_some h ▸ List.mem_singleton_self payment)
  exact ⟨this.1, by simpa using this.2⟩

/-- `_is_first_approved_payment`. -/
def isFirstApprovedPayment (db : PaymentDb) (ownerId excludingPaymentId : ℕ) : Bool :=
  (db.payments.rows.filter fun p => p.shopOwnerId == ownerId && p.status == .APPROVED &&
    p.id != excludingPaymentId).length == 0

/-- `_amount_currently_reserved`; the amount is a parameter of the `SELECT` and has to fit. -/
def amountCurrentlyReserved (db : PaymentDb) (now : Datetime) (amount : ℤ) : Except PyError Bool :=
  if ¬ Int4 amount then .error .DataError
  else do
    let payment ← scalarOneOrNone (db.payments.rows.filter fun p => p.finalAmount == amount &&
      p.status == .PENDING && p.reservedUntil.any fun t => decide (now < t))
    return payment.isSome

/-- The loop of `_generate_unique_amount`, over the suffixes that are drawn. -/
def tryAmounts (db : PaymentDb) (now : Datetime) (baseAmount : ℤ) : List ℤ → Except PyError ℤ
  | [] => .error .RuntimeError
  | suffix :: suffixes => do
    let reserved ← db.amountCurrentlyReserved now (baseAmount + suffix)
    if reserved then db.tryAmounts now baseAmount suffixes else return baseAmount + suffix

/-- `_generate_unique_amount`; `draws` are the thirty values of `secrets.randbelow(90)`. -/
def generateUniqueAmount (db : PaymentDb) (now : Datetime) (baseAmount : ℤ)
    (draws : Fin 30 → Fin 90) : Except PyError ℤ :=
  db.tryAmounts now baseAmount (List.ofFn fun i => ((draws i : ℕ) : ℤ) + 10)

/-! ## Creating payments -/

/-- `discount_service.apply_discount(base_amount, discount) if discount else base_amount`. -/
def discountedAmount (baseAmount : ℤ) : Option DiscountCode → Except PyError ℤ
  | none => .ok baseAmount
  | some discount => applyDiscount baseAmount discount

/-- `session.add(payment); await session.flush()`, with the columns' ranges and foreign keys. -/
def insertPayment (db : PaymentDb) (p : Payment) : Except PyError (PaymentDb × Payment) :=
  if ¬ Int4 p.baseAmount ∨ ¬ Int4 p.finalAmount ∨ p.zarinpalAuthority.any (fun a => 64 < a.length) ∨
      p.baleInvoicePayload.any (fun a => 128 < a.length) then .error .DataError
  else if p.shopOwnerId ∉ db.wallet.owners.ids then .error .IntegrityError
  else .ok (db.apply (.insertPayment p), p)

/-- `create_card_to_card_payment`. -/
def createCardToCardPayment (db : PaymentDb) (now : Datetime) (draws : Fin 30 → Fin 90)
    (ownerId : ℕ) (baseAmount : ℤ) (discount : Option DiscountCode) (durationMonths : Option ℤ)
    (purpose : PaymentPurpose) : Except PyError (PaymentDb × Payment) := do
  let discounted ← discountedAmount baseAmount discount
  let finalAmount ← db.generateUniqueAmount now discounted draws
  let reservedUntil ← datetimeAdd now (minutes db.settings.paymentReservationMinutes)
  db.insertPayment
    { id := db.payments.nextId, shopOwnerId := ownerId, purpose := purpose,
      durationMonths := durationMonths, baseAmount := baseAmount, finalAmount := finalAmount,
      method := .CARD_TO_CARD, discountCodeId := discount.map DiscountCode.id,
      reservedUntil := some reservedUntil }

/-- `create_zarinpal_payment`. -/
def createZarinpalPayment (db : PaymentDb) (ownerId : ℕ) (baseAmount : ℤ)
    (discount : Option DiscountCode) (authority : String) (durationMonths : Option ℤ)
    (purpose : PaymentPurpose) : Except PyError (PaymentDb × Payment) := do
  let finalAmount ← discountedAmount baseAmount discount
  db.insertPayment
    { id := db.payments.nextId, shopOwnerId := ownerId, purpose := purpose,
      durationMonths := durationMonths, baseAmount := baseAmount, finalAmount := finalAmount,
      method := .ZARINPAL, discountCodeId := discount.map DiscountCode.id,
      zarinpalAuthority := some authority }

/-- `create_bale_payment`. -/
def createBalePayment (db : PaymentDb) (ownerId : ℕ) (baseAmount : ℤ)
    (discount : Option DiscountCode) (invoicePayload : String) (durationMonths : Option ℤ)
    (purpose : PaymentPurpose) : Except PyError (PaymentDb × Payment) := do
  let finalAmount ← discountedAmount baseAmount discount
  db.insertPayment
    { id := db.payments.nextId, shopOwnerId := ownerId, purpose := purpose,
      durationMonths := durationMonths, baseAmount := baseAmount, finalAmount := finalAmount,
      method := .BALE_PAY, discountCodeId := discount.map DiscountCode.id,
      baleInvoicePayload := some invoicePayload }

/-! ## Settling payments -/

/-- `wallet_service.add_charge` on an owner that `session.get` may not have found. -/
def addCharge (db : PaymentDb) (now : Datetime) (ownerId : ℕ) (amountToman : ℤ)
    (reason : WalletTransactionReason) (paymentId : Option ℕ) :
    Except PyError (PaymentDb × WalletCharge) :=
  match db.wallet.owners.find? ownerId with
  | none => .error (if amountToman ≤ 0 then .ValueError else .AttributeError)
  | some owner => do
    let (wallet, charge) ← db.wallet.addCharge db.settings now owner.id amountToman reason paymentId
      none none
    return ({ db with wallet := wallet }, charge)

/-- `get_latest_subscription_by_owner_id`. -/
def getLatestSubscription (db : PaymentDb) (ownerId : ℕ) : Option Subscription :=
  ((db.subscriptions.rows.filter fun s => s.shopOwnerId == ownerId).mergeSort
    fun a b => decide (b.id ≤ a.id)).head?

/-- `session.add(subscription); await session.flush()`. -/
def insertSubscription (db : PaymentDb) (s : Subscription) :
    Except PyError (PaymentDb × Subscription) :=
  if ¬ Int4 s.durationMonths then .error .DataError
  else if s.shopOwnerId ∉ db.wallet.owners.ids then .error .IntegrityError
  else .ok (db.apply (.insertSubscription s), s)

/-- `purchase_or_renew`; `relativedelta(months=None)` raises. -/
def purchaseOrRenew (W : World) (db : PaymentDb) (now : Datetime) (ownerId : ℕ) :
    Option ℤ → Except PyError (PaymentDb × Subscription)
  | none => .error .TypeError
  | some durationMonths => do
    let start := match db.getLatestSubscription ownerId with
      | some latest => if now < latest.endDate then latest.endDate else now
      | none => now
    let endDate ← W.addMonths start durationMonths
    db.insertSubscription
      { id := db.subscriptions.nextId, shopOwnerId := ownerId, durationMonths := durationMonths,
        startDate := start, endDate := endDate }

/-- `_apply_payment_effect`. -/
def applyPaymentEffect (W : World) (db : PaymentDb) (now : Datetime) (payment : Payment) :
    Except PyError (PaymentDb × Effect) :=
  match payment.purpose with
  | .WALLET_TOPUP => do
    let (db, charge) ← db.addCharge now payment.shopOwnerId payment.finalAmount .TOPUP
      (some payment.id)
    return (db, .charge charge)
  | .SUBSCRIPTION => do
    let (db, subscription) ← db.purchaseOrRenew W now payment.shopOwnerId payment.durationMonths
    return (db, .subscription subscription)

/-- The pending referral of an owner. -/
def pendingReferral (db : PaymentDb) (referredOwnerId : ℕ) : Option Referral :=
  (db.referrals.find? referredOwnerId).filter fun r => r.rewardStatus == .PENDING

/-- The commission of the referrer: `payment_amount_toman * percent / 100`, rounded. -/
def commission (db : PaymentDb) (paymentAmountToman : ℤ) : ℤ :=
  roundHalfEven (paymentAmountToman * db.settings.referralRewardValueCents / 10000 : ℚ)

/-- The dictionary that `process_referral_reward` returns. -/
def rewardInfo (db : PaymentDb) (referrer : ShopOwner) (amount : ℤ) : PyDict :=
  [("referrer_telegram_id", .int referrer.telegramId), ("amount_toman", .int amount),
    ("percent", .str (decimalStr db.settings.referralRewardValueCents))]

/-- `process_referral_reward`. -/
def processReferralReward (db : PaymentDb) (now : Datetime) (referredOwnerId : ℕ)
    (paymentAmountToman : ℤ) : Except PyError (PaymentDb × Option PyDict) :=
  match db.pendingReferral referredOwnerId with
  | none => .ok (db, none)
  | some referral =>
    let amount := db.commission paymentAmountToman
    if amount ≤ 0 then .ok (db, none)
    else
      match db.wallet.owners.find? referral.referrerId with
      | none => .error .AttributeError
      | some referrer => do
        let (db', _) ← db.addCharge now referrer.id amount .REFERRAL_REWARD none
        return (db'.apply (.setRewarded referral.referredId now), some (db.rewardInfo referrer amount))

/-- `if payment.discount_code_id is not None: record_usage(…)`. -/
def recordUsageOf (db : PaymentDb) (payment : Payment) : Except PyError PaymentDb :=
  match payment.discountCodeId with
  | none => .ok db
  | some codeId => db.recordUsage codeId payment.shopOwnerId payment.id

/-- The body that the three approval functions share; they differ in the columns they set. -/
def approve (W : World) (db : PaymentDb) (now : Datetime) (payment : Payment)
    (approval : Approval) : Except PyError (PaymentDb × Effect × Option PyDict) :=
  let isFirst := db.isFirstApprovedPayment payment.shopOwnerId payment.id
  if !approval.fits then .error .DataError
  else do
    let db ← (db.apply (.review payment.id now (.approve approval))).recordUsageOf payment
    let (db, effect) ← db.applyPaymentEffect W now payment
    if isFirst then do
      let (db, rewardInfo) ← db.processReferralReward now payment.shopOwnerId payment.finalAmount
      return (db, effect, rewardInfo)
    else return (db, effect, none)

/-- `approve_zarinpal_payment`. -/
def approveZarinpalPayment (W : World) (db : PaymentDb) (now : Datetime) (payment : Payment)
    (refId : String) : Except PyError (PaymentDb × Effect × Option PyDict) :=
  db.approve W now payment (.zarinpal refId)

/-- `approve_bale_payment`. -/
def approveBalePayment (W : World) (db : PaymentDb) (now : Datetime) (payment : Payment)
    (transactionId : String) : Except PyError (PaymentDb × Effect × Option PyDict) :=
  db.approve W now payment (.bale transactionId)

/-- `approve_payment`. -/
def approvePayment (W : World) (db : PaymentDb) (now : Datetime) (payment : Payment)
    (adminTelegramId : ℤ) : Except PyError (PaymentDb × Effect × Option PyDict) :=
  db.approve W now payment (.admin adminTelegramId)

/-- `reject_payment`. -/
def rejectPayment (db : PaymentDb) (now : Datetime) (payment : Payment)
    (adminTelegramId : Option ℤ) (reason : Option String) : PaymentDb :=
  db.apply (.review payment.id now (.reject adminTelegramId reason))

end PaymentDb

end KasbOKar
