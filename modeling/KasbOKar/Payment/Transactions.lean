import KasbOKar.Payment.Handlers

/-!
# The settlement requests as transactions

The three approval functions and the four handlers that settle a payment, statement by statement.
Each handler loads the payment with a plain `SELECT`, checks its status, may wait for the gateway
and then writes; `approveTx` is what the three approvals share.

`solo_approveTx` says that an approval that runs alone does what `PaymentDb.approve` does, and
`alone_zarinpalCallbackTx` and its siblings say the same of the handlers.
-/

namespace KasbOKar

open ReadCommitted

/-- What a settlement request did to its payment. -/
inductive SettlementReply where
  | ignored
  | approved
  | rejected
  deriving DecidableEq

abbrev PaymentProg := Prog PaymentDb PaymentEdit PaymentRow SettlementReply

namespace PaymentDb

/-! ## The programs -/

/-- `record_usage`.  `session.get` flushes the new row before it selects the code; the `INSERT`
waits at the entry of the unique index.  The counter is written back as the value selected plus
one. -/
def recordUsageTx (codeId ownerId paymentId : ℕ) (k : PaymentProg) : PaymentProg :=
  .lock (.usageKey codeId ownerId) fun db =>
    if db.usagesOf codeId ownerId ≠ [] then .rollback
    else
      .insert (fun id => .insertUsage
        { id := id, discountCodeId := codeId, shopOwnerId := ownerId, paymentId := paymentId })
        fun _ =>
          .read fun db =>
            match db.codes.find? codeId with
            | none => .rollback
            | some discount =>
              if ¬ Int4 (discount.usedCount + 1) then .rollback
              else .exec (.setUsedCount codeId (discount.usedCount + 1)) k

/-- `if payment.discount_code_id is not None: record_usage(…)`. -/
def recordUsageOfTx (payment : Payment) (k : PaymentProg) : PaymentProg :=
  match payment.discountCodeId with
  | none => k
  | some codeId => recordUsageTx codeId payment.shopOwnerId payment.id k

/-- The continuation after `add_charge`. -/
def withCharge (k : WalletCharge → PaymentProg) : WalletReply → PaymentProg
  | .charge c => k c
  | _ => .rollback

/-- `wallet_service.add_charge` on an owner that `session.get` may not have found. -/
def addChargeTx (now : Datetime) (ownerId : ℕ) (amountToman : ℤ) (reason : WalletTransactionReason)
    (paymentId : Option ℕ) (k : WalletCharge → PaymentProg) : PaymentProg :=
  .read fun db =>
    match db.wallet.owners.find? ownerId with
    | none => .rollback
    | some owner =>
      (WalletDb.addChargeTx db.settings now owner.id amountToman reason paymentId none none).embed
        PaymentDb.wallet .wallet .wallet (withCharge k)

/-- `purchase_or_renew`. -/
def purchaseOrRenewTx (W : World) (now : Datetime) (ownerId : ℕ) (durationMonths : Option ℤ)
    (k : Subscription → PaymentProg) : PaymentProg :=
  .read fun db =>
    match db.purchaseOrRenew W now ownerId durationMonths with
    | .error _ => .rollback
    | .ok (_, s) =>
      .insert (fun id => .insertSubscription { s with id := id }) fun id => k { s with id := id }

/-- `_apply_payment_effect`. -/
def applyPaymentEffectTx (W : World) (now : Datetime) (payment : Payment) (k : Effect → PaymentProg) :
    PaymentProg :=
  match payment.purpose with
  | .WALLET_TOPUP =>
    addChargeTx now payment.shopOwnerId payment.finalAmount .TOPUP (some payment.id) fun c =>
      k (.charge c)
  | .SUBSCRIPTION =>
    purchaseOrRenewTx W now payment.shopOwnerId payment.durationMonths fun s => k (.subscription s)

/-- `process_referral_reward`. -/
def processReferralRewardTx (now : Datetime) (referredOwnerId : ℕ) (paymentAmountToman : ℤ)
    (k : Option PyDict → PaymentProg) : PaymentProg :=
  .read fun db =>
    match db.pendingReferral referredOwnerId with
    | none => k none
    | some referral =>
      if db.commission paymentAmountToman ≤ 0 then k none
      else
        match db.wallet.owners.find? referral.referrerId with
        | none => .rollback
        | some referrer =>
          addChargeTx now referrer.id (db.commission paymentAmountToman) .REFERRAL_REWARD none fun _ =>
            .exec (.setRewarded referral.referredId now)
              (k (some (db.rewardInfo referrer (db.commission paymentAmountToman))))

/-- The body that the three approval functions share. -/
def approveTx (W : World) (now : Datetime) (payment : Payment) (approval : Approval)
    (k : Option PyDict → PaymentProg) : PaymentProg :=
  .read fun db =>
    if !approval.fits then .rollback
    else
      .exec (.review payment.id now (.approve approval)) <|
        recordUsageOfTx payment <|
          applyPaymentEffectTx W now payment fun _ =>
            if db.isFirstApprovedPayment payment.shopOwnerId payment.id then
              processReferralRewardTx now payment.shopOwnerId payment.finalAmount k
            else k none

/-- `owner.telegram_id` after the approval, before the session is committed. -/
def readOwnerTx (ownerId : ℕ) : PaymentProg :=
  .read fun db =>
    match db.wallet.owners.find? ownerId with
    | none => .rollback
    | some _ => .commit .approved

/-- `zarinpal_callback` up to the end of its session. -/
def zarinpalCallbackTx (W : World) (verify : Option String → ℤ → String → Option String)
    (now : Datetime) (authority status : String) : PaymentProg :=
  if status ≠ "OK" then .commit .ignored
  else
    .read fun db =>
      match db.getByZarinpalAuthority authority with
      | .error _ => .rollback
      | .ok none => .commit .ignored
      | .ok (some payment) =>
        if payment.status ≠ .PENDING then .commit .ignored
        else
          .read fun db =>
            match verify db.settings.zarinpalMerchantId payment.finalAmount authority with
            | none => .commit .ignored
            | some refId =>
              approveTx W now payment (.zarinpal refId) fun _ => readOwnerTx payment.shopOwnerId

/-- `_handle_bale_successful_payment` up to the end of its session. -/
def handleBaleSuccessfulPaymentTx (W : World) (inquire : JsonValue → Inquiry) (now : Datetime)
    (body : SuccessfulPayment) : PaymentProg :=
  if !body.invoicePayload.truthy || !body.transactionId.truthy then .commit .ignored
  else
    match body.invoicePayload with
    | .str payload =>
      .read fun db =>
        match db.getByBalePayload payload with
        | .error _ => .rollback
        | .ok none => .commit .ignored
        | .ok (some payment) =>
          if payment.status ≠ .PENDING then .commit .ignored
          else
            match inquire body.transactionId with
            | .baleError => .commit .ignored
            | .notADict => .rollback
            | .status s =>
              if s ∉ acceptedStatuses then .commit .ignored
              else
                match body.transactionId with
                | .str transactionId =>
                  approveTx W now payment (.bale transactionId) fun _ =>
                    readOwnerTx payment.shopOwnerId
                | _ => .rollback
    | _ => .rollback

/-- The end of an admin handler under `DbSessionMiddleware`: its messages decide. -/
def endHandler (messages : Notify Unit) (r : SettlementReply) : PaymentProg :=
  match (messages.run.run []).1 with
  | .ok () => .commit r
  | .error _ => .rollback

/-- `cb_admin_approve_payment`. -/
def cbAdminApprovePaymentTx (W : World) (outcome : TelegramCall → Bool) (now : Datetime)
    (paymentId : ℕ) (adminTelegramId : ℤ) : PaymentProg :=
  .read fun db =>
    match db.getById paymentId with
    | none => endHandler (telegram outcome (.answer true)) .ignored
    | some payment =>
      if payment.status ≠ .PENDING then endHandler (telegram outcome (.answer true)) .ignored
      else
        .read fun db =>
          approveTx W now payment (.admin adminTelegramId) fun rewardInfo =>
            endHandler (announceApproval outcome (db.wallet.owners.find? payment.shopOwnerId) payment
              rewardInfo) .approved

/-- `cb_admin_reject_payment`. -/
def cbAdminRejectPaymentTx (outcome : TelegramCall → Bool) (now : Datetime) (paymentId : ℕ)
    (adminTelegramId : ℤ) : PaymentProg :=
  .read fun db =>
    match db.getById paymentId with
    | none => endHandler (telegram outcome (.answer true)) .ignored
    | some payment =>
      if payment.status ≠ .PENDING then endHandler (telegram outcome (.answer true)) .ignored
      else
        .read fun db =>
          .exec (.review payment.id now (.reject (some adminTelegramId) none)) <|
            endHandler (announceRejection outcome (db.wallet.owners.find? payment.shopOwnerId)) .rejected

/-! ## A transaction alone -/

/-- The keys that a serial column hands out. -/
def serial (db : PaymentDb) (e : ℕ → PaymentEdit) : ℕ :=
  match e 0 with
  | .wallet e' => db.wallet.serial fun _ => e'
  | .insertUsage _ => db.usages.nextId
  | .insertSubscription _ => db.subscriptions.nextId
  | _ => 0

theorem solo_recordUsageOfTx (payment : Payment) (k : PaymentProg) (db : PaymentDb) :
    solo serial (recordUsageOfTx payment k) db =
      match db.recordUsageOf payment with
      | .error _ => none
      | .ok db' => solo serial k db' := by
  unfold recordUsageOfTx recordUsageOf
  cases payment.discountCodeId with
  | none => rfl
  | some codeId =>
    simp only [recordUsageTx, recordUsage, solo]
    by_cases hused : db.usagesOf codeId payment.shopOwnerId ≠ []
    · rw [if_pos hused]
      cases db.codes.find? codeId with
      | none => rfl
      | some discount => simp only [if_pos hused, solo]
    · rw [if_neg hused]
      simp only [solo, if_neg hused]
      -- the new usage leaves the codes alone
      show solo serial (match db.codes.find? codeId with
        | none => _
        | some discount => _) _ = _
      cases db.codes.find? codeId with
      | none => rfl
      | some discount =>
        dsimp only
        split_ifs <;> rfl

theorem solo_addChargeTx (now : Datetime) (ownerId : ℕ) (amount : ℤ)
    (reason : WalletTransactionReason) (paymentId : Option ℕ) (k : WalletCharge → PaymentProg)
    (db : PaymentDb) :
    solo serial (addChargeTx now ownerId amount reason paymentId k) db =
      match db.addCharge now ownerId amount reason paymentId with
      | .error _ => none
      | .ok (db', c) => solo serial (k c) db' := by
  unfold addChargeTx addCharge
  rw [solo]
  cases db.wallet.owners.find? ownerId with
  | none => rfl
  | some owner =>
    dsimp only
    rw [solo_embed (fun d w => { d with wallet := w }) WalletDb.serial (fun _ _ => rfl)
      (fun _ _ _ => rfl) (fun _ => rfl) (fun _ _ => rfl) (fun _ _ => rfl), WalletDb.solo_addChargeTx]
    cases db.wallet.addCharge db.settings now owner.id amount reason paymentId none none <;> rfl

theorem solo_purchaseOrRenewTx (W : World) (now : Datetime) (ownerId : ℕ)
    (durationMonths : Option ℤ) (k : Subscription → PaymentProg) (db : PaymentDb) :
    solo serial (purchaseOrRenewTx W now ownerId durationMonths k) db =
      match db.purchaseOrRenew W now ownerId durationMonths with
      | .error _ => none
      | .ok (db', s) => solo serial (k s) db' := by
  unfold purchaseOrRenewTx
  rw [solo]
  cases h : db.purchaseOrRenew W now ownerId durationMonths with
  | error e => rfl
  | ok x =>
    obtain ⟨db', s⟩ := x
    obtain ⟨-, hid, rfl⟩ := purchaseOrRenew_ok h
    show solo serial (k { s with id := db.subscriptions.nextId })
      (db.apply (.insertSubscription { s with id := db.subscriptions.nextId })) = _
    rw [← hid]

theorem solo_applyPaymentEffectTx (W : World) (now : Datetime) (payment : Payment)
    (k : Effect → PaymentProg) (db : PaymentDb) :
    solo serial (applyPaymentEffectTx W now payment k) db =
      match db.applyPaymentEffect W now payment with
      | .error _ => none
      | .ok (db', effect) => solo serial (k effect) db' := by
  unfold applyPaymentEffectTx applyPaymentEffect
  cases payment.purpose with
  | SUBSCRIPTION =>
    simp only [solo_purchaseOrRenewTx]
    cases db.purchaseOrRenew W now payment.shopOwnerId payment.durationMonths <;> rfl
  | WALLET_TOPUP =>
    simp only [solo_addChargeTx]
    cases db.addCharge now payment.shopOwnerId payment.finalAmount .TOPUP (some payment.id) <;> rfl

theorem solo_processReferralRewardTx (now : Datetime) (ownerId : ℕ) (amount : ℤ)
    (k : Option PyDict → PaymentProg) (db : PaymentDb) :
    solo serial (processReferralRewardTx now ownerId amount k) db =
      match db.processReferralReward now ownerId amount with
      | .error _ => none
      | .ok (db', rewardInfo) => solo serial (k rewardInfo) db' := by
  simp only [processReferralRewardTx, processReferralReward, solo]
  cases db.pendingReferral ownerId with
  | none => rfl
  | some referral =>
    dsimp only
    split_ifs with hle
    · rfl
    cases db.wallet.owners.find? referral.referrerId with
    | none => rfl
    | some referrer =>
      dsimp only
      rw [solo_addChargeTx]
      cases db.addCharge now referrer.id (db.commission amount) .REFERRAL_REWARD none <;> rfl

/-- **Alone, the transaction is the function.** -/
theorem solo_approveTx (W : World) (now : Datetime) (payment : Payment) (approval : Approval)
    (k : Option PyDict → PaymentProg) (db : PaymentDb) :
    solo serial (approveTx W now payment approval k) db =
      match db.approve W now payment approval with
      | .error _ => none
      | .ok (db', _, rewardInfo) => solo serial (k rewardInfo) db' := by
  simp only [approveTx, approve, solo]
  by_cases hfits : approval.fits = true
  swap
  · simp only [hfits, Bool.not_false, if_true]
    rfl
  simp only [hfits, Bool.not_true, Bool.false_eq_true, if_false, solo, solo_recordUsageOfTx, bind,
    Except.bind]
  cases (db.apply (.review payment.id now (.approve approval))).recordUsageOf payment with
  | error e => rfl
  | ok db₁ =>
    simp only [solo_applyPaymentEffectTx]
    cases db₁.applyPaymentEffect W now payment with
    | error e => rfl
    | ok x =>
      obtain ⟨db₂, effect⟩ := x
      dsimp only
      split_ifs with hfirst
      · rw [solo_processReferralRewardTx]
        cases db₂.processReferralReward now payment.shopOwnerId payment.finalAmount <;> rfl
      · rfl

/-- The committed tables after a transaction that runs alone. -/
def alone (p : PaymentProg) (db : PaymentDb) : PaymentDb :=
  match solo serial p db with
  | some (db', _) => db'
  | none => db

/-- Alone, the transaction leaves what the handler leaves. -/
theorem alone_zarinpalCallbackTx (W : World) (outcome : TelegramCall → Bool)
    (verify : Option String → ℤ → String → Option String) (now : Datetime)
    (authority status : String) (db : PaymentDb) :
    alone (zarinpalCallbackTx W verify now authority status) db =
      (zarinpalCallback W outcome verify db now authority status).db := by
  unfold alone zarinpalCallbackTx zarinpalCallback
  split_ifs with hok
  · rfl
  simp only [solo]
  rcases db.getByZarinpalAuthority authority with e | _ | payment
  · rfl
  · rfl
  dsimp only
  split_ifs with hpending
  · rfl
  simp only [solo]
  cases verify db.settings.zarinpalMerchantId payment.finalAmount authority with
  | none => rfl
  | some refId =>
    dsimp only
    rw [solo_approveTx]
    unfold approveZarinpalPayment
    rcases db.approve W now payment (.zarinpal refId) with e | ⟨db', effect, rewardInfo⟩
    · rfl
    simp only [readOwnerTx, solo]
    cases db'.wallet.owners.find? payment.shopOwnerId with
    | none => rfl
    | some owner =>
      dsimp only
      rcases (notifyPaymentResult outcome owner.telegramId (payment.purpose == .WALLET_TOPUP)
        (topupAmount payment) rewardInfo).run.run [] with ⟨_ | _, calls⟩ <;> rfl

theorem alone_handleBaleSuccessfulPaymentTx (W : World) (outcome : TelegramCall → Bool)
    (inquire : JsonValue → Inquiry) (now : Datetime) (body : SuccessfulPayment) (db : PaymentDb) :
    alone (handleBaleSuccessfulPaymentTx W inquire now body) db =
      (handleBaleSuccessfulPayment W outcome inquire db now body).db := by
  simp only [alone, handleBaleSuccessfulPaymentTx, handleBaleSuccessfulPayment]
  split_ifs with htruthy
  · rfl
  rcases body.invoicePayload with _ | _ | _ | payload | _
  · rfl
  · rfl
  · rfl
  swap
  · rfl
  simp only [solo]
  rcases db.getByBalePayload payload with e | _ | payment
  · rfl
  · rfl
  dsimp only
  split_ifs with hpending
  · rfl
  cases inquire body.transactionId with
  | baleError => rfl
  | notADict => rfl
  | status s =>
    dsimp only
    split_ifs with hstatus
    swap
    · rfl
    rcases body.transactionId with _ | _ | _ | transactionId | _
    · rfl
    · rfl
    · rfl
    swap
    · rfl
    dsimp only
    rw [solo_approveTx]
    unfold approveBalePayment
    rcases db.approve W now payment (.bale transactionId) with e | ⟨db', effect, rewardInfo⟩
    · rfl
    simp only [readOwnerTx, solo]
    cases db'.wallet.owners.find? payment.shopOwnerId with
    | none => rfl
    | some owner =>
      dsimp only
      rcases (notifyPaymentResult outcome owner.telegramId (payment.purpose == .WALLET_TOPUP)
        (topupAmount payment) rewardInfo).run.run [] with ⟨_ | _, calls⟩ <;> rfl

theorem solo_endHandler (messages : Notify Unit) (r : SettlementReply) (db : PaymentDb) :
    solo serial (endHandler messages r) db =
      match messages.run.run [] with
      | (.ok (), _) => some (db, r)
      | (.error _, _) => none := by
  unfold endHandler
  rcases messages.run.run [] with ⟨_ | _, calls⟩ <;> rfl

theorem alone_endHandler (messages : Notify Unit) (r : SettlementReply) (db : PaymentDb) :
    alone (endHandler messages r) db = db := by
  unfold alone
  rw [solo_endHandler]
  rcases messages.run.run [] with ⟨_ | _, calls⟩ <;> rfl

theorem alone_cbAdminApprovePaymentTx (W : World) (outcome : TelegramCall → Bool) (now : Datetime)
    (paymentId : ℕ) (adminTelegramId : ℤ) (db : PaymentDb) :
    alone (cbAdminApprovePaymentTx W outcome now paymentId adminTelegramId) db =
      (cbAdminApprovePayment W outcome db now paymentId adminTelegramId).db := by
  unfold cbAdminApprovePaymentTx cbAdminApprovePayment
  cases hget : db.getById paymentId with
  | none =>
    simp only [alone, solo, hget]
    exact alone_endHandler _ _ _
  | some payment =>
    simp only [alone, solo, hget]
    split_ifs with hpending
    · exact alone_endHandler _ _ _
    simp only [solo, solo_approveTx, approvePayment]
    rcases db.approve W now payment (.admin adminTelegramId) with e | ⟨db', effect, rewardInfo⟩
    · rfl
    simp only [solo_endHandler]
    rcases (announceApproval outcome (db.wallet.owners.find? payment.shopOwnerId) payment
      rewardInfo).run.run [] with ⟨_ | _, calls⟩ <;> rfl

theorem alone_cbAdminRejectPaymentTx (outcome : TelegramCall → Bool) (now : Datetime)
    (paymentId : ℕ) (adminTelegramId : ℤ) (db : PaymentDb) :
    alone (cbAdminRejectPaymentTx outcome now paymentId adminTelegramId) db =
      (cbAdminRejectPayment outcome db now paymentId adminTelegramId).db := by
  unfold cbAdminRejectPaymentTx cbAdminRejectPayment
  cases hget : db.getById paymentId with
  | none =>
    simp only [alone, solo, hget]
    exact alone_endHandler _ _ _
  | some payment =>
    simp only [alone, solo, hget]
    split_ifs with hpending
    · exact alone_endHandler _ _ _
    simp only [solo, solo_endHandler]
    rcases (announceRejection outcome (db.wallet.owners.find? payment.shopOwnerId)).run.run [] with
      ⟨_ | _, calls⟩ <;> rfl

end PaymentDb

end KasbOKar
