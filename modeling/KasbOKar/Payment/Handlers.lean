import KasbOKar.Payment.Approval

/-!
# The settlement handlers

`cb_admin_approve_payment` under `DbSessionMiddleware`, `zarinpal_callback` and
`_handle_bale_successful_payment`: what they commit, what they send and how they end, for every
outcome of their calls to Telegram.

`approval_durable_iff` says exactly when an approval survives its own notifications.  The handlers
read a key out of `reward_info` that `process_referral_reward` does not put there, so they raise
whenever a referral reward is due; the admin handler is then rolled back with its messages already
sent (`approve_rolled_back`).
-/

namespace KasbOKar

/-! ## Calls to Telegram -/

/-- The texts of the notifications, by the functions of `texts.py` that build them. -/
inductive Notice where
  | paymentApproved (isWalletTopup : Bool) (walletAmountToman : Option ℤ)
  | paymentRejected (reason : Option String)
  | referrerReward (amountToman : PyValue)
  | referredReward (amountToman : PyValue)
  deriving DecidableEq

inductive TelegramCall where
  | answer (alreadyReviewed : Bool)
  | editCaption
  | send (chat : PyValue) (notice : Notice)
  deriving DecidableEq

/-- Code that sends messages and may raise; the state is the list of calls that went through. -/
abbrev Notify := ExceptT PyError (StateM (List TelegramCall))

/-- One call; `outcome` says whether Telegram accepts it. -/
def telegram (outcome : TelegramCall → Bool) (call : TelegramCall) : Notify Unit :=
  if outcome call then modify (· ++ [call]) else throw .TelegramAPIError

/-- `try: … except TelegramAPIError: logger.exception(…)`. -/
def logged (x : Notify Unit) : Notify Unit :=
  tryCatch x fun e => if e = .TelegramAPIError then pure () else throw e

/-- A computation without messages. -/
def ofExcept {α : Type} (x : Except PyError α) : Notify α := ExceptT.mk (pure x)

/-- The part of a handler that reads `reward_info`. -/
def notifyReward (outcome : TelegramCall → Bool) (rewardInfo : PyDict) : Notify Unit := do
  logged do
    let chat ← ofExcept (rewardInfo.getItem "referrer_telegram_id")
    let amount ← ofExcept (rewardInfo.getItem "amount_toman")
    telegram outcome (.send chat (.referrerReward amount))
  logged do
    let chat ← ofExcept (rewardInfo.getItem "referred_telegram_id")
    let amount ← ofExcept (rewardInfo.getItem "amount_toman")
    telegram outcome (.send chat (.referredReward amount))

/-- `_notify_payment_result`, and the same lines of the admin handler. -/
def notifyPaymentResult (outcome : TelegramCall → Bool) (ownerTelegramId : ℤ) (isTopup : Bool)
    (walletAmountToman : Option ℤ) (rewardInfo : Option PyDict) : Notify Unit := do
  logged (telegram outcome (.send (.int ownerTelegramId) (.paymentApproved isTopup walletAmountToman)))
  match rewardInfo with
  | none => pure ()
  | some d => if d = [] then pure () else notifyReward outcome d

/-- How a request ends: the committed tables, the result and the calls that went through. -/
structure Ended (α : Type) where
  db : PaymentDb
  result : Except PyError α
  calls : List TelegramCall

namespace PaymentDb

/-- The arguments of `payment_approved_notification`. -/
def topupAmount (payment : Payment) : Option ℤ :=
  if payment.purpose = .WALLET_TOPUP then some payment.finalAmount else none

/-! ## The admin's approval -/

/-- The lines of `cb_admin_approve_payment` after `approve_payment`. -/
def announceApproval (outcome : TelegramCall → Bool) (owner : Option ShopOwner) (payment : Payment)
    (rewardInfo : Option PyDict) : Notify Unit := do
  telegram outcome (.answer false)
  match owner with
  | none => throw .AttributeError
  | some owner => do
    telegram outcome .editCaption
    notifyPaymentResult outcome owner.telegramId (payment.purpose == .WALLET_TOPUP)
      (topupAmount payment) rewardInfo

/-- `cb_admin_approve_payment` under `DbSessionMiddleware`, which commits when the handler returns
and rolls back when it raises. -/
def cbAdminApprovePayment (W : World) (outcome : TelegramCall → Bool) (db : PaymentDb)
    (now : Datetime) (paymentId : ℕ) (adminTelegramId : ℤ) : Ended Unit :=
  let already : Ended Unit :=
    let (r, calls) := (telegram outcome (.answer true)).run.run []
    ⟨db, r, calls⟩
  match db.getById paymentId with
  | none => already
  | some payment =>
    if payment.status ≠ .PENDING then already
    else
      match db.approvePayment W now payment adminTelegramId with
      | .error e => ⟨db, .error e, []⟩
      | .ok (db', _, rewardInfo) =>
        match (announceApproval outcome (db.wallet.owners.find? payment.shopOwnerId) payment
          rewardInfo).run.run [] with
        | (.ok (), calls) => ⟨db', .ok (), calls⟩
        | (.error e, calls) => ⟨db, .error e, calls⟩

/-- The lines of `cb_admin_reject_payment` after `reject_payment`. -/
def announceRejection (outcome : TelegramCall → Bool) (owner : Option ShopOwner) : Notify Unit := do
  telegram outcome (.answer false)
  match owner with
  | none => throw .AttributeError
  | some owner => do
    telegram outcome .editCaption
    logged (telegram outcome (.send (.int owner.telegramId) (.paymentRejected none)))

/-- `cb_admin_reject_payment` under `DbSessionMiddleware`. -/
def cbAdminRejectPayment (outcome : TelegramCall → Bool) (db : PaymentDb) (now : Datetime)
    (paymentId : ℕ) (adminTelegramId : ℤ) : Ended Unit :=
  let already : Ended Unit :=
    let (r, calls) := (telegram outcome (.answer true)).run.run []
    ⟨db, r, calls⟩
  match db.getById paymentId with
  | none => already
  | some payment =>
    if payment.status ≠ .PENDING then already
    else
      match (announceRejection outcome (db.wallet.owners.find? payment.shopOwnerId)).run.run [] with
      | (.ok (), calls) =>
        ⟨db.rejectPayment now payment (some adminTelegramId) none, .ok (), calls⟩
      | (.error e, calls) => ⟨db, .error e, calls⟩

/-! ## The gateways' callbacks -/

/-- The two pages of the Zarinpal callback. -/
inductive Page where
  | failed
  | successful
  deriving DecidableEq

/-- `zarinpal_callback`.  `verify` is the gateway: the merchant, the amount and the authority give
a reference, or `ZarinpalError`.  The session is committed before the notifications. -/
def zarinpalCallback (W : World) (outcome : TelegramCall → Bool)
    (verify : Option String → ℤ → String → Option String) (db : PaymentDb) (now : Datetime)
    (authority status : String) : Ended Page :=
  if status ≠ "OK" then ⟨db, .ok .failed, []⟩
  else
    match db.getByZarinpalAuthority authority with
    | .error e => ⟨db, .error e, []⟩
    | .ok none => ⟨db, .ok .failed, []⟩
    | .ok (some payment) =>
      if payment.status ≠ .PENDING then ⟨db, .ok .failed, []⟩
      else
        match verify db.settings.zarinpalMerchantId payment.finalAmount authority with
        | none => ⟨db, .ok .failed, []⟩
        | some refId =>
          match db.approveZarinpalPayment W now payment refId with
          | .error e => ⟨db, .error e, []⟩
          | .ok (db', _, rewardInfo) =>
            match db'.wallet.owners.find? payment.shopOwnerId with
            | none => ⟨db, .error .AttributeError, []⟩
            | some owner =>
              match (notifyPaymentResult outcome owner.telegramId (payment.purpose == .WALLET_TOPUP)
                (topupAmount payment) rewardInfo).run.run [] with
              | (.ok (), calls) => ⟨db', .ok .successful, calls⟩
              | (.error e, calls) => ⟨db', .error e, calls⟩

/-- A value of a posted JSON body; `other` is an array or an object. -/
inductive JsonValue where
  | null
  | bool (b : Bool)
  | num (n : ℚ)
  | str (s : String)
  | other (isEmpty : Bool)
  deriving DecidableEq

namespace JsonValue

/-- `bool(value)`. -/
def truthy : JsonValue → Bool
  | null => false
  | bool b => b
  | num n => n != 0
  | str s => s != ""
  | other isEmpty => !isEmpty

end JsonValue

/-- The keys of a `successful_payment` that the handler reads; a missing key is `null`. -/
structure SuccessfulPayment where
  invoicePayload : JsonValue := .null
  telegramPaymentChargeId : JsonValue := .null
  providerPaymentChargeId : JsonValue := .null
  deriving DecidableEq

/-- The answer of `inquireTransaction`. -/
inductive Inquiry where
  | baleError
  | notADict
  /-- `str(transaction.get("status", "")).lower()` -/
  | status (s : String)
  deriving DecidableEq

/-- The transaction id of a body: the first of the two names that is set. -/
def SuccessfulPayment.transactionId (body : SuccessfulPayment) : JsonValue :=
  if body.telegramPaymentChargeId.truthy then body.telegramPaymentChargeId
  else body.providerPaymentChargeId

/-- The statuses the handler accepts. -/
def acceptedStatuses : List String := ["successful", "success", "paid", "ok"]

/-- `_handle_bale_successful_payment`.  A payload or transaction id that is not a string is refused
by the driver when it reaches a query. -/
def handleBaleSuccessfulPayment (W : World) (outcome : TelegramCall → Bool)
    (inquire : JsonValue → Inquiry) (db : PaymentDb) (now : Datetime) (body : SuccessfulPayment) :
    Ended Unit :=
  let ignored : Ended Unit := ⟨db, .ok (), []⟩
  if !body.invoicePayload.truthy || !body.transactionId.truthy then ignored
  else
    match body.invoicePayload with
    | .str payload =>
      match db.getByBalePayload payload with
      | .error e => ⟨db, .error e, []⟩
      | .ok none => ignored
      | .ok (some payment) =>
        if payment.status ≠ .PENDING then ignored
        else
          match inquire body.transactionId with
          | .baleError => ignored
          | .notADict => ⟨db, .error .AttributeError, []⟩
          | .status s =>
            if s ∉ acceptedStatuses then ignored
            else
              match body.transactionId with
              | .str transactionId =>
                match db.approveBalePayment W now payment transactionId with
                | .error e => ⟨db, .error e, []⟩
                | .ok (db', _, rewardInfo) =>
                  match db'.wallet.owners.find? payment.shopOwnerId with
                  | none => ⟨db, .error .AttributeError, []⟩
                  | some owner =>
                    match (notifyPaymentResult outcome owner.telegramId
                      (payment.purpose == .WALLET_TOPUP) (topupAmount payment)
                      rewardInfo).run.run [] with
                    | (.ok (), calls) => ⟨db', .ok (), calls⟩
                    | (.error e, calls) => ⟨db', .error e, calls⟩
              | _ => ⟨db, .error .DataError, []⟩
    | _ => ⟨db, .error .DataError, []⟩

end PaymentDb

/-! ## How the notifications end -/

section Notify

variable (outcome : TelegramCall → Bool) (sent : List TelegramCall)

theorem run_bind {α β : Type} (x : Notify α) (f : α → Notify β) :
    (x >>= f).run.run sent =
      match x.run.run sent with
      | (.ok a, sent') => (f a).run.run sent'
      | (.error e, sent') => (.error e, sent') := by
  show (ExceptT.bindCont f (x.run.run sent).1).run (x.run.run sent).2 = _
  rcases x.run.run sent with ⟨_ | a, sent'⟩ <;> rfl

theorem ofExcept_ok_bind {α β : Type} (a : α) (f : α → Notify β) : (ofExcept (.ok a) >>= f) = f a :=
  rfl

theorem ofExcept_error_bind {α β : Type} (e : PyError) (f : α → Notify β) :
    (ofExcept (.error e) >>= f) = throw e := rfl

theorem run_telegram (call : TelegramCall) : (telegram outcome call).run.run sent =
    if outcome call then (.ok (), sent ++ [call]) else (.error .TelegramAPIError, sent) := by
  unfold telegram
  split_ifs <;> rfl

/-- A guarded call never raises. -/
theorem run_logged_telegram (call : TelegramCall) : (logged (telegram outcome call)).run.run sent =
    (.ok (), if outcome call then sent ++ [call] else sent) := by
  unfold logged telegram
  split_ifs <;> rfl

/-- The dictionary of a reward has no `referred_telegram_id`, and the `KeyError` is not caught. -/
theorem run_notifyReward {d : PyDict} (hd : d.map Prod.fst = PaymentDb.rewardKeys) :
    ∃ calls, (notifyReward outcome d).run.run sent = (.error .KeyError, calls) := by
  obtain ⟨chat, hchat⟩ : ∃ v, d.getItem "referrer_telegram_id" = .ok v :=
    PyDict.exists_getItem (by rw [hd]; decide)
  obtain ⟨amount, hamount⟩ : ∃ v, d.getItem "amount_toman" = .ok v :=
    PyDict.exists_getItem (by rw [hd]; decide)
  have hmissing : d.getItem "referred_telegram_id" = .error .KeyError :=
    PyDict.getItem_of_notMem (by rw [hd]; decide)
  refine ⟨if outcome (.send chat (.referrerReward amount)) then
    sent ++ [.send chat (.referrerReward amount)] else sent, ?_⟩
  unfold notifyReward
  rw [hchat, hamount, hmissing]
  simp only [ofExcept_ok_bind, ofExcept_error_bind]
  rw [run_bind, run_logged_telegram]
  rfl

/-- The notifications end normally just when there is no reward to announce. -/
theorem run_notifyPaymentResult (ownerTelegramId : ℤ) (isTopup : Bool) (amount : Option ℤ)
    {rewardInfo : Option PyDict}
    (hkeys : ∀ d, rewardInfo = some d → d.map Prod.fst = PaymentDb.rewardKeys) :
    ∃ calls, (notifyPaymentResult outcome ownerTelegramId isTopup amount rewardInfo).run.run sent =
      (if rewardInfo.isSome then .error .KeyError else .ok (), calls) := by
  set call : TelegramCall := .send (.int ownerTelegramId) (.paymentApproved isTopup amount)
  set sent' := if outcome call then sent ++ [call] else sent
  have hfirst : (logged (telegram outcome call)).run.run sent = (.ok (), sent') :=
    run_logged_telegram outcome sent call
  cases rewardInfo with
  | none =>
    refine ⟨sent', ?_⟩
    unfold notifyPaymentResult
    rw [run_bind, hfirst]
    rfl
  | some d =>
    have hd := hkeys d rfl
    have hne : d ≠ [] := by
      rintro rfl
      cases hd
    obtain ⟨calls, hcalls⟩ := run_notifyReward outcome sent' hd
    refine ⟨calls, ?_⟩
    unfold notifyPaymentResult
    rw [run_bind, hfirst]
    simp only [if_neg hne]
    exact hcalls

/-- `callback.answer()` and `edit_caption` are not guarded. -/
theorem run_announceApproval (owner : ShopOwner) (payment : Payment) {rewardInfo : Option PyDict}
    (hkeys : ∀ d, rewardInfo = some d → d.map Prod.fst = PaymentDb.rewardKeys) :
    ∃ calls, (PaymentDb.announceApproval outcome (some owner) payment rewardInfo).run.run sent =
      (if outcome (.answer false) = true ∧ outcome .editCaption = true then
        if rewardInfo.isSome then .error .KeyError else .ok ()
      else .error .TelegramAPIError, calls) := by
  unfold PaymentDb.announceApproval
  rw [run_bind, run_telegram]
  by_cases ha : outcome (.answer false) = true
  · rw [if_pos ha]
    simp only [run_bind, run_telegram]
    by_cases he : outcome .editCaption = true
    · obtain ⟨calls, hcalls⟩ := run_notifyPaymentResult outcome
        (sent ++ [.answer false] ++ [.editCaption]) owner.telegramId
        (payment.purpose == .WALLET_TOPUP) (PaymentDb.topupAmount payment) hkeys
      rw [if_pos he, if_pos ⟨ha, he⟩]
      exact ⟨calls, hcalls⟩
    · rw [if_neg he, if_neg fun h => he h.2]
      exact ⟨_, rfl⟩
  · rw [if_neg ha, if_neg fun h => ha h.1]
    exact ⟨_, rfl⟩

end Notify

namespace PaymentDb

/-! ## When an approval survives its notifications -/

/-- An approval that returns finds the owner before and after. -/
theorem exists_owner_of_approve {W : World} {db db' : PaymentDb} {now : Datetime} {payment : Payment}
    {approval : Approval} {effect : Effect} {reward : Option PyDict}
    (h : db.approve W now payment approval = .ok (db', effect, reward)) :
    (∃ owner, db.wallet.owners.find? payment.shopOwnerId = some owner) ∧
      ∃ owner, db'.wallet.owners.find? payment.shopOwnerId = some owner := by
  have howner := (approve_reward h).1
  exact ⟨Table.exists_find? howner, Table.exists_find? (approve_owners h ▸ howner)⟩

section Durable

variable {W : World} {outcome : TelegramCall → Bool} {db db' : PaymentDb} {now : Datetime}
  {payment : Payment} {effect : Effect} {reward : Option PyDict}

theorem cbAdminApprovePayment_iff {adminTelegramId : ℤ} (hpending : payment.status = .PENDING)
    (hget : db.getById payment.id = some payment)
    (hok : db.approvePayment W now payment adminTelegramId = .ok (db', effect, reward)) :
    ((cbAdminApprovePayment W outcome db now payment.id adminTelegramId).result = .ok () ∧
        (cbAdminApprovePayment W outcome db now payment.id adminTelegramId).db = db') ↔
      outcome (.answer false) = true ∧ outcome .editCaption = true ∧
        db.rewardDue payment = false := by
  obtain ⟨-, hdue, hkeys⟩ := approve_reward hok
  obtain ⟨⟨owner, howner⟩, -⟩ := exists_owner_of_approve hok
  obtain ⟨calls, hcalls⟩ := run_announceApproval outcome [] owner payment hkeys
  rw [← hdue]
  simp only [cbAdminApprovePayment, hget, hpending, ne_eq, not_true_eq_false, if_false, hok, howner,
    hcalls]
  by_cases hcall : outcome (.answer false) = true ∧ outcome .editCaption = true
  · cases hr : reward.isSome <;> simp [hcall]
  · rw [if_neg hcall]
    simp only [reduceCtorEq, false_and, false_iff]
    exact fun h => hcall ⟨h.1, h.2.1⟩

theorem zarinpalCallback_iff {verify : Option String → ℤ → String → Option String}
    {authority refId : String} (hpending : payment.status = .PENDING)
    (hget : db.getByZarinpalAuthority authority = .ok (some payment))
    (hverify : verify db.settings.zarinpalMerchantId payment.finalAmount authority = some refId)
    (hok : db.approveZarinpalPayment W now payment refId = .ok (db', effect, reward)) :
    (zarinpalCallback W outcome verify db now authority "OK").db = db' ∧
    ((zarinpalCallback W outcome verify db now authority "OK").result = .ok .successful ↔
      db.rewardDue payment = false) := by
  obtain ⟨-, hdue, hkeys⟩ := approve_reward hok
  obtain ⟨-, owner, howner⟩ := exists_owner_of_approve hok
  obtain ⟨calls, hcalls⟩ := run_notifyPaymentResult outcome [] owner.telegramId
    (payment.purpose == .WALLET_TOPUP) (topupAmount payment) hkeys
  rw [← hdue]
  simp only [zarinpalCallback, hget, hpending, hverify, ne_eq, not_true_eq_false, if_false, hok,
    howner, hcalls]
  cases hr : reward.isSome <;> simp

theorem handleBaleSuccessfulPayment_iff {inquire : JsonValue → Inquiry} {body : SuccessfulPayment}
    {payload transactionId status : String} (hpending : payment.status = .PENDING)
    (hpayload : body.invoicePayload = .str payload) (hne : payload ≠ "")
    (htx : body.transactionId = .str transactionId) (htxne : transactionId ≠ "")
    (hget : db.getByBalePayload payload = .ok (some payment))
    (hinquire : inquire (.str transactionId) = .status status) (hstatus : status ∈ acceptedStatuses)
    (hok : db.approveBalePayment W now payment transactionId = .ok (db', effect, reward)) :
    (handleBaleSuccessfulPayment W outcome inquire db now body).db = db' ∧
    ((handleBaleSuccessfulPayment W outcome inquire db now body).result = .ok () ↔
      db.rewardDue payment = false) := by
  obtain ⟨-, hdue, hkeys⟩ := approve_reward hok
  obtain ⟨-, owner, howner⟩ := exists_owner_of_approve hok
  obtain ⟨calls, hcalls⟩ := run_notifyPaymentResult outcome [] owner.telegramId
    (payment.purpose == .WALLET_TOPUP) (topupAmount payment) hkeys
  have htruthy : (!(JsonValue.str payload).truthy || !(JsonValue.str transactionId).truthy) = false := by
    simp [JsonValue.truthy, hne, htxne]
  rw [← hdue]
  simp only [handleBaleSuccessfulPayment, hpayload, htx, htruthy, hget, hpending, hinquire, hstatus,
    ne_eq, not_true_eq_false, if_false, hok, howner, hcalls, Bool.false_eq_true]
  cases hr : reward.isSome <;> simp

/-- **When an approval is durable.** For a pending payment whose approval function returns and for
every outcome of the calls to Telegram: the admin handler ends normally and commits the approval
just when its two unguarded calls succeed and no referral reward is due; the two gateway handlers
have committed it in any case, and return normally just when no reward is due. -/
theorem approval_durable_iff (payment : Payment) (hpending : payment.status = .PENDING) :
    (∀ adminTelegramId, db.getById payment.id = some payment →
      db.approvePayment W now payment adminTelegramId = .ok (db', effect, reward) →
      (((cbAdminApprovePayment W outcome db now payment.id adminTelegramId).result = .ok () ∧
          (cbAdminApprovePayment W outcome db now payment.id adminTelegramId).db = db') ↔
        outcome (.answer false) = true ∧ outcome .editCaption = true ∧
          db.rewardDue payment = false)) ∧
    (∀ verify authority refId, db.getByZarinpalAuthority authority = .ok (some payment) →
      verify db.settings.zarinpalMerchantId payment.finalAmount authority = some refId →
      db.approveZarinpalPayment W now payment refId = .ok (db', effect, reward) →
      (zarinpalCallback W outcome verify db now authority "OK").db = db' ∧
      ((zarinpalCallback W outcome verify db now authority "OK").result = .ok .successful ↔
        db.rewardDue payment = false)) ∧
    (∀ inquire body payload transactionId status, body.invoicePayload = .str payload →
      payload ≠ "" → body.transactionId = .str transactionId → transactionId ≠ "" →
      db.getByBalePayload payload = .ok (some payment) →
      inquire (.str transactionId) = .status status → status ∈ acceptedStatuses →
      db.approveBalePayment W now payment transactionId = .ok (db', effect, reward) →
      (handleBaleSuccessfulPayment W outcome inquire db now body).db = db' ∧
      ((handleBaleSuccessfulPayment W outcome inquire db now body).result = .ok () ↔
        db.rewardDue payment = false)) :=
  ⟨fun _ hget hok => cbAdminApprovePayment_iff hpending hget hok,
    fun _ _ _ hget hverify hok => zarinpalCallback_iff hpending hget hverify hok,
    fun _ _ _ _ _ hpayload hne htx htxne hget hinquire hstatus hok =>
      handleBaleSuccessfulPayment_iff hpending hpayload hne htx htxne hget hinquire hstatus hok⟩

end Durable

/-- A pending card-to-card top-up of the first shop. -/
def cardTopup : Payment :=
  { id := 1, shopOwnerId := 1, purpose := .WALLET_TOPUP, baseAmount := 100000, finalAmount := 100000,
    method := .CARD_TO_CARD }

/-- Two shops, the pending top-up and some referrals. -/
def cardShop (referrals : Table Referral) : PaymentDb :=
  { wallet := WalletDb.ofOwners WalletDb.twoOwners, payments := ⟨[cardTopup], by decide⟩,
    codes := .empty, usages := .empty, referrals := referrals, subscriptions := .empty,
    settings := {} }

/-- The first shop was referred by the second. -/
def oneReferral : Table Referral := ⟨[{ referredId := 1, referrerId := 2 }], by decide⟩

theorem approval_durable_without_referral :
    ∃ db' effect reward, (cardShop .empty).approvePayment .noMonths 0 cardTopup 7 =
        .ok (db', effect, reward) ∧
      (cbAdminApprovePayment .noMonths (fun _ => true) (cardShop .empty) 0 1 7).result = .ok () ∧
      (cbAdminApprovePayment .noMonths (fun _ => true) (cardShop .empty) 0 1 7).db = db' :=
  ⟨_, _, _, rfl, (approval_durable_iff cardTopup rfl).1 7 rfl rfl |>.2
    ⟨rfl, rfl, rfl⟩⟩

/-- With a referral due, `approve_payment` returns and every message is delivered, up to the one that
announces the credit; then the handler raises and the approval is rolled back. -/
theorem approve_rolled_back :
    ((cardShop oneReferral).approvePayment .noMonths 0 cardTopup 7).isOk = true ∧
      (cbAdminApprovePayment .noMonths (fun _ => true) (cardShop oneReferral) 0 1 7).result =
        .error .KeyError ∧
      TelegramCall.send (.int 11) (.paymentApproved true (some 100000)) ∈
        (cbAdminApprovePayment .noMonths (fun _ => true) (cardShop oneReferral) 0 1 7).calls ∧
      (cbAdminApprovePayment .noMonths (fun _ => true) (cardShop oneReferral) 0 1 7).db.getById 1 =
        some cardTopup ∧
      (cbAdminApprovePayment .noMonths (fun _ => true) (cardShop oneReferral) 0 1 7).db.wallet.charges.rows =
        [] := by
  decide +kernel

end PaymentDb

end KasbOKar
