import KasbOKar.Payment.Books
import Mathlib.Logic.Relation

/-!
# The wallet under the books

The owners' balances, the charges and the ledger are written by the operations of `wallet_service` and by
registrations, whatever handler they are called from.  `perform_trace` says so for every act on the books,
with the reasons for which the operations are called; what an operation keeps is therefore kept by the
whole program.
-/

namespace KasbOKar

namespace WalletDb

/-! ## Operations of the wallet -/

/-- The reasons for which `add_charge` is called. -/
def creditReasons : List WalletTransactionReason :=
  [.TOPUP, .TRIAL, .REFERRAL_REWARD, .ADMIN_GRANT, .ADMIN_CORRECTION]

/-- The reasons for which `deduct` is called. -/
def debitReasons : List WalletTransactionReason :=
  [.CHAT_MESSAGE, .PHOTO_ANALYSIS, .VOICE_TRANSCRIPTION, .ORDER_DETECTION, .ADMIN_CORRECTION]

/-- A call of the wallet service for one of these reasons, or a new owner. -/
inductive Move (reasons : List WalletTransactionReason) (db : WalletDb) : WalletDb → Prop
  | added {db' : WalletDb} {settings : AdminSettings} {now : Datetime} {ownerId : ℕ} {amount : ℤ}
      {reason : WalletTransactionReason} {paymentId : Option ℕ} {validityMonths : Option ℤ}
      {reference : Option String} {c : WalletCharge} (hreason : reason ∈ reasons)
      (hcredit : reason ∈ creditReasons)
      (h : db.addCharge settings now ownerId amount reason paymentId validityMonths reference =
        .ok (db', c)) : Move reasons db db'
  | taken {db' : WalletDb} {scan : Scan WalletCharge} {ownerId : ℕ} {amount : ℤ}
      {reason : WalletTransactionReason} {reference : Option String} {ok : Bool}
      (hreason : reason ∈ reasons) (hdebit : reason ∈ debitReasons)
      (h : db.deduct scan ownerId amount reason reference = .ok (db', ok)) : Move reasons db db'
  | swept (hreason : .EXPIRY ∈ reasons) (scan : Scan WalletCharge) (now : Datetime) :
      Move reasons db (db.expireStaleCharges scan now).1
  | registered {owner : ShopOwner} (hid : owner.id = db.owners.nextId)
      (hbalance : owner.walletBalanceToman = 0) :
      Move reasons db { db with owners := db.owners.insert owner }

/-- Any number of them. -/
abbrev Trace (reasons : List WalletTransactionReason) : WalletDb → WalletDb → Prop :=
  Relation.ReflTransGen (Move reasons)

section Trace

variable {db db' : WalletDb} {reasons reasons' : List WalletTransactionReason}

theorem Move.mono (hsub : reasons ⊆ reasons') (h : Move reasons db db') : Move reasons' db db' := by
  cases h with
  | added hreason hcredit h => exact .added (hsub hreason) hcredit h
  | taken hreason hdebit h => exact .taken (hsub hreason) hdebit h
  | swept hreason scan now => exact .swept (hsub hreason) scan now
  | registered hid hbalance => exact .registered hid hbalance

theorem Trace.mono (hsub : reasons ⊆ reasons') (h : Trace reasons db db') : Trace reasons' db db' :=
  Relation.ReflTransGen.mono (fun _ _ => Move.mono hsub) _ _ h

/-- Other reasons than these get no ledger row. -/
theorem Move.ledger (h : Move reasons db db') {q : WalletTransactionReason} (hq : q ∉ reasons) :
    db'.ledgerOf q = db.ledgerOf q := by
  cases h with
  | added hreason hcredit h =>
    obtain ⟨-, -, t, -, -, -, hledger⟩ := addCharge_books h
    rw [hledger, if_neg (ne_of_mem_of_not_mem hreason hq), List.append_nil]
  | taken hreason hdebit h => exact (deduct_books (ne_of_mem_of_not_mem hreason hq) h).ledger
  | swept hreason scan now =>
    exact (expireStaleCharges_books (ne_of_mem_of_not_mem hreason hq) db scan now).ledger
  | registered hid hbalance => rfl

theorem Trace.ledger (h : Trace reasons db db') {q : WalletTransactionReason} (hq : q ∉ reasons) :
    db'.ledgerOf q = db.ledgerOf q := by
  induction h with
  | refl => rfl
  | tail _ hmove ih => rw [hmove.ledger hq, ih]

/-- What every operation keeps. -/
theorem Trace.keeps {I : WalletDb → Prop} (hstep : ∀ db db', I db → Move reasons db db' → I db')
    (h : Trace reasons db db') (hI : I db) : I db' := by
  induction h with
  | refl => exact hI
  | tail _ hmove ih => exact hstep _ _ ih hmove

end Trace

end WalletDb

open WalletDb (Trace)

/-- The reasons for which an act calls the wallet service. -/
def BookAct.reasons : BookAct → List WalletTransactionReason
  | .adminApprove .. => [.TOPUP, .REFERRAL_REWARD]
  | .zarinpalCallback .. => [.TOPUP, .REFERRAL_REWARD]
  | .baleWebhook .. => [.TOPUP, .REFERRAL_REWARD]
  | .activateTrial _ => [.TRIAL]
  | .ownerGift .. => [.ADMIN_GRANT]
  | .ownerWalletCorrection .. => [.ADMIN_CORRECTION]
  | .deduct _ _ _ usage => [usage.reason]
  | .expireStaleCharges _ => [.EXPIRY]
  | _ => []

namespace PaymentDb

/-! ## Acts on the books -/

/-- The settings stay, and the wallet is moved for these reasons. -/
structure Moved (reasons : List WalletTransactionReason) (db db' : PaymentDb) : Prop where
  settings : db'.settings = db.settings
  wallet : Trace reasons db.wallet db'.wallet

section Moved

variable {W : World} {db db' : PaymentDb} {now : Datetime} {reasons : List WalletTransactionReason}

theorem Moved.refl (reasons : List WalletTransactionReason) (db : PaymentDb) : Moved reasons db db :=
  ⟨rfl, .refl⟩

theorem Moved.trans {db'' : PaymentDb} (h : Moved reasons db db') (h' : Moved reasons db' db'') :
    Moved reasons db db'' :=
  ⟨h'.settings.trans h.settings, h.wallet.trans h'.wallet⟩

/-- Other tables than the wallet. -/
theorem Moved.of_eq (hsettings : db'.settings = db.settings) (hwallet : db'.wallet = db.wallet) :
    Moved reasons db db' :=
  ⟨hsettings, hwallet ▸ .refl⟩

theorem addCharge_moved {ownerId : ℕ} {amount : ℤ} {reason : WalletTransactionReason}
    {paymentId : Option ℕ} {c : WalletCharge}
    (h : db.addCharge now ownerId amount reason paymentId = .ok (db', c)) (hreason : reason ∈ reasons)
    (hcredit : reason ∈ WalletDb.creditReasons) : Moved reasons db db' := by
  obtain ⟨wallet, hadd, rfl⟩ := addCharge_ok h
  exact ⟨rfl, .single (.added hreason hcredit hadd)⟩

theorem applyPaymentEffect_moved {payment : Payment} {effect : Effect}
    (h : db.applyPaymentEffect W now payment = .ok (db', effect)) : Moved [.TOPUP] db db' := by
  unfold applyPaymentEffect at h
  split at h
  · obtain ⟨⟨db₁, c⟩, hadd, h⟩ := bind_ok h
    cases h
    exact addCharge_moved hadd (by decide) (by decide)
  · obtain ⟨⟨db₁, s⟩, hbuy, h⟩ := bind_ok h
    cases h
    obtain ⟨-, -, rfl⟩ := purchaseOrRenew_ok hbuy
    exact .of_eq rfl rfl

theorem processReferralReward_moved {ownerId : ℕ} {amount : ℤ} {reward : Option PyDict}
    (h : db.processReferralReward now ownerId amount = .ok (db', reward)) :
    Moved [.REFERRAL_REWARD] db db' := by
  obtain ⟨rfl, -, -⟩ | ⟨referral, referrer, db₁, c, -, -, -, hadd, rfl, -⟩ := processReferralReward_cases h
  · exact .refl _ db'
  · have hmoved : Moved [.REFERRAL_REWARD] db db₁ := addCharge_moved hadd (by decide) (by decide)
    exact ⟨hmoved.settings, hmoved.wallet⟩

/-- What a settled payment calls the wallet service for. -/
def settlement : List WalletTransactionReason := [.TOPUP, .REFERRAL_REWARD]

theorem approve_moved {payment : Payment} {approval : Approval} {effect : Effect} {reward : Option PyDict}
    (h : db.approve W now payment approval = .ok (db', effect, reward)) : Moved settlement db db' := by
  obtain ⟨-, db₁, db₂, husage, heffect, hreward⟩ := approve_ok h
  obtain ⟨hsame, hwallet, -⟩ := recordUsageOf_same husage
  have hfirst : Moved settlement db db₁ := .of_eq hsame.settings hwallet
  have hpaid := applyPaymentEffect_moved heffect
  have hrest : Moved settlement db db₂ :=
    hfirst.trans ⟨hpaid.settings, hpaid.wallet.mono (by decide)⟩
  rcases hreward with ⟨-, hreward⟩ | ⟨-, rfl, -⟩
  · have hrewarded := processReferralReward_moved hreward
    exact hrest.trans ⟨hrewarded.settings, hrewarded.wallet.mono (by decide)⟩
  · exact hrest

theorem cbAdminApprovePayment_moved (outcome : TelegramCall → Bool) (paymentId : ℕ)
    (adminTelegramId : ℤ) :
    Moved settlement db (cbAdminApprovePayment W outcome db now paymentId adminTelegramId).db := by
  unfold cbAdminApprovePayment
  dsimp only
  split
  · exact .refl _ db
  split_ifs
  · exact .refl _ db
  split
  · exact .refl _ db
  · rename_i hok
    split
    · exact approve_moved hok
    · exact .refl _ db

theorem cbAdminRejectPayment_moved (outcome : TelegramCall → Bool) (paymentId : ℕ)
    (adminTelegramId : ℤ) :
    Moved reasons db (cbAdminRejectPayment outcome db now paymentId adminTelegramId).db := by
  unfold cbAdminRejectPayment
  dsimp only
  split
  · exact .refl _ db
  split_ifs
  · exact .refl _ db
  split
  · exact .of_eq rfl rfl
  · exact .refl _ db

theorem zarinpalCallback_moved (outcome : TelegramCall → Bool)
    (verify : Option String → ℤ → String → Option String) (authority status : String) :
    Moved settlement db (PaymentDb.zarinpalCallback W outcome verify db now authority status).db := by
  unfold PaymentDb.zarinpalCallback
  split_ifs
  · exact .refl _ db
  split
  · exact .refl _ db
  · exact .refl _ db
  split_ifs
  · exact .refl _ db
  split
  · exact .refl _ db
  split
  · exact .refl _ db
  rename_i hok
  split
  · exact .refl _ db
  split
  · exact approve_moved hok
  · exact approve_moved hok

theorem handleBaleSuccessfulPayment_moved (outcome : TelegramCall → Bool) (inquire : JsonValue → Inquiry)
    (body : SuccessfulPayment) :
    Moved settlement db (handleBaleSuccessfulPayment W outcome inquire db now body).db := by
  rcases handleBaleSuccessfulPayment_cases W outcome inquire db now body with hsame |
    ⟨payload, transactionId, payment, effect, reward, -, -, -, -, hok⟩
  · rw [hsame]
    exact .refl _ db
  · exact approve_moved hok

theorem getOrCreateShopOwner_moved {telegramId : ℤ} {referredByCode : Option String} {code : String}
    (h : db.getOrCreateShopOwner telegramId referredByCode code = .ok db') : Moved reasons db db' := by
  obtain ⟨⟨tables, owner⟩, hget, h⟩ := bind_ok h
  cases h
  unfold ShopDb.getOrCreateShopOwner at hget
  split at hget
  · cases hget
    exact .refl _ db
  · split_ifs at hget
    cases hget
    exact ⟨rfl, .single (.registered rfl rfl)⟩

theorem Opens.moved (h : Opens db db') : Moved reasons db db' := by
  rcases h with rfl | ⟨p, -, rfl⟩
  · exact .refl _ _
  · exact .of_eq rfl rfl

theorem cbActivateTrial_moved {telegramId : ℤ} {wallet : WalletDb}
    (h : db.wallet.cbActivateTrial db.settings now telegramId = .ok wallet) :
    Moved [.TRIAL] db { db with wallet := wallet } := by
  unfold WalletDb.cbActivateTrial at h
  split at h
  · cases h
  · split_ifs at h
    · cases h
      exact .refl _ db
    · obtain ⟨⟨wallet', c⟩, hadd, h⟩ := bind_ok h
      cases h
      exact ⟨rfl, .single (.added (by decide) (by decide) hadd)⟩

theorem ownerGiftAmountEntered_moved {ownerId : ℕ} {amount : ℤ}
    (h : db.ownerGiftAmountEntered now ownerId amount = .ok db') : Moved [.ADMIN_GRANT] db db' := by
  unfold ownerGiftAmountEntered at h
  split_ifs at h
  · cases h
    exact .refl _ db
  · obtain ⟨⟨db₁, c⟩, hadd, h⟩ := bind_ok h
    cases h
    exact addCharge_moved hadd (by decide) (by decide)

theorem ownerWalletCorrectionReasonEntered_moved {scan : Scan WalletCharge} {ownerId : ℕ} {amount : ℤ}
    {note : String} (h : db.ownerWalletCorrectionReasonEntered now scan ownerId amount note = .ok db') :
    Moved [.ADMIN_CORRECTION] db db' := by
  unfold ownerWalletCorrectionReasonEntered at h
  split_ifs at h
  · cases h
    exact .refl _ db
  · obtain ⟨⟨wallet, c⟩, hadd, h⟩ := bind_ok h
    cases h
    exact ⟨rfl, .single (.added (by decide) (by decide) hadd)⟩
  · obtain ⟨⟨wallet, ok⟩, hdeduct, h⟩ := bind_ok h
    cases h
    exact ⟨rfl, .single (.taken (by decide) (by decide) hdeduct)⟩

/-- An act moves the wallet for its own reasons; the settings are assigned by one act only. -/
theorem perform_moved {act : BookAct} (hact : ∀ settings, act ≠ .setSettings settings)
    (h : db.perform W now act = .ok db') : Moved act.reasons db db' := by
  cases act with
  | register telegramId referredByCode code => exact getOrCreateShopOwner_moved h
  | createCard draws ownerId baseAmount discountCodeId durationMonths purpose =>
    obtain ⟨⟨db₂, p⟩, hcreate, rfl⟩ := map_ok h
    exact (createCardToCardPayment_opens hcreate).moved
  | createZarinpal ownerId baseAmount discountCodeId authority durationMonths purpose =>
    obtain ⟨⟨db₂, p⟩, hcreate, rfl⟩ := map_ok h
    exact (createZarinpalPayment_opens hcreate).moved
  | createBale ownerId baseAmount discountCodeId invoicePayload durationMonths purpose =>
    obtain ⟨⟨db₂, p⟩, hcreate, rfl⟩ := map_ok h
    exact (createBalePayment_opens hcreate).moved
  | adminApprove outcome paymentId adminTelegramId =>
    cases h
    exact cbAdminApprovePayment_moved outcome paymentId adminTelegramId
  | adminReject outcome paymentId adminTelegramId =>
    cases h
    exact cbAdminRejectPayment_moved outcome paymentId adminTelegramId
  | zarinpalCallback outcome verify authority status =>
    cases h
    exact zarinpalCallback_moved outcome verify authority status
  | baleWebhook outcome inquire body =>
    cases h
    exact handleBaleSuccessfulPayment_moved outcome inquire body
  | activateTrial telegramId =>
    obtain ⟨wallet, htrial, h⟩ := bind_ok h
    cases h
    exact cbActivateTrial_moved htrial
  | ownerGift ownerId amountToman => exact ownerGiftAmountEntered_moved h
  | ownerWalletCorrection scan ownerId amountToman note =>
    exact ownerWalletCorrectionReasonEntered_moved h
  | deduct scan ownerId amountToman usage =>
    obtain ⟨⟨wallet, ok⟩, hdeduct, h⟩ := bind_ok h
    cases h
    exact ⟨rfl, .single (.taken List.mem_cons_self (by cases usage <;> decide) hdeduct)⟩
  | expireStaleCharges scan =>
    cases h
    exact ⟨rfl, .single (.swept List.mem_cons_self scan now)⟩
  | setSettings settings => exact absurd rfl (hact settings)

/-- **The wallet is moved by its service.** -/
theorem perform_trace {act : BookAct} (h : db.perform W now act = .ok db') :
    Trace act.reasons db.wallet db'.wallet := by
  by_cases hact : ∃ settings, act = .setSettings settings
  · obtain ⟨settings, rfl⟩ := hact
    cases h
    exact .refl
  · exact (perform_moved (fun settings heq => hact ⟨settings, heq⟩) h).wallet

theorem book_moved {committed : Bool} {act : BookAct} (hact : ∀ settings, act ≠ .setSettings settings)
    (h : db.book W (now, committed, act) = some db') : Moved act.reasons db db' := by
  unfold book at h
  split at h
  · cases h
    exact .refl _ db
  · rename_i db₁ hperform
    cases committed with
    | false =>
      cases h
      exact .refl _ db
    | true =>
      cases h
      exact perform_moved hact hperform

/-- What every operation of the wallet keeps, the books keep. -/
theorem book_keeps {I : WalletDb → Prop}
    (hstep : ∀ reasons db db', I db → WalletDb.Move reasons db db' → I db')
    {a : Datetime × Bool × BookAct} (h : db.book W a = some db') (hI : I db.wallet) : I db'.wallet := by
  obtain ⟨now, committed, act⟩ := a
  unfold book at h
  split at h
  · cases h
    exact hI
  · rename_i db₁ hperform
    cases committed with
    | false =>
      cases h
      exact hI
    | true =>
      cases h
      exact (perform_trace hperform).keeps (hstep _) hI

end Moved

end PaymentDb

end KasbOKar
