import KasbOKar.Payment.Panel

/-!
# The kill switch of the top-ups

While `allow_wallet_topups` is off, no top-up should be opened.  `cb_topup_start` looks at the switch,
and it is the first of five steps: the buttons for the amount, the discount code and the three payment
methods go by the conversation data alone, and work from old messages as well
(`topup_while_disabled`).  `disabled_topups` says that a payment method is the only way.
-/

namespace KasbOKar

/-- What `cb_topup_start` answers. -/
inductive TopupReply where
  | walletTopupsDisabled
  | askTopupAmount
  deriving DecidableEq

/-- `cb_topup_start`: it writes nothing, neither to the tables nor to the conversation. -/
def cbTopupStart (settings : AdminSettings) : TopupReply :=
  if !settings.allowWalletTopups then .walletTopupsDisabled else .askTopupAmount

/-- An update of the main bot, as far as it matters to the payments. -/
inductive TopupAct where
  | panel (a : PanelAct)
  /-- The button `topup_start`. -/
  | topupStart (telegramId : ℤ)
  /-- The button `admin_toggle_topups`; it is rolled back if an answer is not delivered. -/
  | toggleTopups (delivered : Bool)
  /-- A super admin changes another setting. -/
  | setSettings (settings : AdminSettings)
  /-- A handler of another dialog sets a state of its own; the data of the payment stay. -/
  | otherDialog (telegramId : ℤ)

namespace Panel

/-- `cb_toggle_topups`. -/
def cbToggleTopups (s : Panel) (delivered : Bool) : Panel :=
  if delivered then
    { s with db := { s.db with settings.allowWalletTopups := !s.db.settings.allowWalletTopups } }
  else s

/-- One update. -/
def topupStep (W : World) (baleBotToken : String) (s : Panel) (a : Datetime × TopupAct) :
    Option Panel :=
  match a.2 with
  | .panel act => s.step W baleBotToken (a.1, act)
  | .topupStart _ => some s
  | .toggleTopups delivered => some (s.cbToggleTopups delivered)
  | .setSettings settings =>
    some { s with db := { s.db with
      settings := { settings with allowWalletTopups := s.db.settings.allowWalletTopups } } }
  | .otherDialog telegramId =>
    let chat := s.chats telegramId
    some (s.setChat telegramId { chat with state := none })

/-! ## The way to a payment -/

/-- The event gets as far as `create_card_to_card_payment`, `create_zarinpal_payment` or
`create_bale_payment`, and its messages are delivered. -/
def reachesPayment (baleBotToken : String) (s : Panel) (telegramId : ℤ) : PanelEvent → Bool
  | .payCard _ delivered =>
    delivered && (s.chats telegramId).data.baseAmount.isSome && (s.db.currentOwner telegramId).isSome
  | .payZarinpal authority delivered =>
    delivered && s.db.settings.zarinpalEnabled && s.db.settings.zarinpalMerchantId.getD "" != "" &&
      (s.chats telegramId).data.finalAmount.isSome && authority.isSome &&
      (s.chats telegramId).data.baseAmount.isSome && (s.db.currentOwner telegramId).isSome
  | .payBale _ linked delivered =>
    delivered && s.db.settings.balePayEnabled && s.db.settings.baleProviderToken.getD "" != "" &&
      baleBotToken != "" && (s.chats telegramId).data.finalAmount.isSome && linked &&
      (s.chats telegramId).data.baseAmount.isSome && (s.db.currentOwner telegramId).isSome
  | _ => false

/-- A payment method is chosen for a top-up. -/
def paysTopup (baleBotToken : String) (s : Panel) (a : Datetime × TopupAct) : Bool :=
  match a.2 with
  | .panel (.user telegramId e) =>
    PaymentDb.purposeOf (s.chats telegramId) == .WALLET_TOPUP &&
      s.reachesPayment baleBotToken telegramId e
  | _ => false

end Panel

namespace PaymentDb

/-- A handler leaves the tables alone, or it gets to a payment of this purpose. -/
def OpensOnly (db db' : PaymentDb) (purpose : PaymentPurpose) (reached : Bool) : Prop :=
  db' = db ∨ (reached = true ∧ ∃ p, db' = db.apply (.insertPayment p) ∧ p.purpose = purpose)

theorem ids_payments_review (db : PaymentDb) (paymentId : ℕ) (now : Datetime) (r : Review) :
    (db.apply (.review paymentId now r)).payments.ids = db.payments.ids :=
  Table.ids_modify (f := fun p => r.write now p) fun p => r.write_id now p

end PaymentDb

namespace Panel

variable {baleBotToken : String} {s : Panel} {telegramId : ℤ}

open PaymentDb

/-- **What an event of a user can open.** -/
theorem handle_opensOnly (now : Datetime) (e : PanelEvent) :
    OpensOnly s.db (s.handle baleBotToken now telegramId e).db (purposeOf (s.chats telegramId))
      (s.reachesPayment baleBotToken telegramId e) := by
  obtain hsame | ⟨chat, db, hdb, ⟨draws, rfl, h⟩ | ⟨authority, rfl, h⟩ | ⟨token, linked, rfl, h⟩⟩ :=
    handle_cases baleBotToken s now telegramId e
  · exact Or.inl hsame
  · obtain ⟨p, hp, hopen⟩ := cbPaymentMethodCard_opens h
    refine Or.inr ⟨?_, p, hdb.trans hopen, hp.purpose⟩
    simp [reachesPayment, hp.base, hp.user]
  · obtain hsame | ⟨henabled, hmerchant, hfinal, hauthority, p, hp, hopen⟩ :=
      cbPaymentMethodZarinpal_opens h
    · exact Or.inl (hdb.trans hsame)
    · refine Or.inr ⟨?_, p, hdb.trans hopen, hp.purpose⟩
      simp [reachesPayment, henabled, hmerchant, hfinal, hauthority, hp.base, hp.user]
  · obtain hsame | ⟨henabled, hprovider, htoken, hfinal, hlinked, p, hp, hopen⟩ :=
      cbPaymentMethodBale_opens h
    · exact Or.inl (hdb.trans hsame)
    · refine Or.inr ⟨?_, p, hdb.trans hopen, hp.purpose⟩
      simp [reachesPayment, henabled, hprovider, htoken, hfinal, hlinked, hp.base, hp.user]

/-- A review opens no payment. -/
theorem opened_of_ids {s s' : Panel} (h : s'.db.payments.ids = s.db.payments.ids) :
    s.opened s' = [] := by
  refine List.filter_eq_nil_iff.2 fun p hp hnew => ?_
  have hmem : p.id ∈ s'.db.payments.ids := Table.id_mem_ids hp
  rw [h] at hmem
  exact of_decide_eq_true hnew hmem

theorem opened_insert {s s' : Panel} {p q : Payment}
    (h : s'.db = s.db.apply (.insertPayment p)) (hq : q ∈ s.opened s') : q = p := by
  obtain ⟨hq, hnew⟩ := List.mem_filter.1 hq
  have hnew : q.id ∉ s.db.payments.ids := of_decide_eq_true hnew
  rw [h] at hq
  change q ∈ (s.db.payments.insert p).rows at hq
  by_cases hp : Keyed.id p ∈ s.db.payments.ids
  · unfold Table.insert at hq
    rw [dif_pos hp] at hq
    exact absurd (Table.id_mem_ids hq) hnew
  · rcases (Table.mem_insert hp).1 hq with hq | rfl
    · exact absurd (Table.id_mem_ids hq) hnew
    · rfl

/-- **A step opens no top-up**, unless a payment method is chosen for one. -/
theorem topupStep_opened {W : World} {s' : Panel} {a : Datetime × TopupAct}
    (hpays : s.paysTopup baleBotToken a = false) (hs : s.topupStep W baleBotToken a = some s') :
    ∀ p ∈ s.opened s', p.purpose ≠ .WALLET_TOPUP := by
  have hnone : s'.db.payments.ids = s.db.payments.ids → ∀ p ∈ s.opened s', p.purpose ≠ .WALLET_TOPUP := by
    intro hids p hp
    rw [opened_of_ids hids] at hp
    cases hp
  obtain ⟨now, act⟩ := a
  cases act with
  | panel act =>
    cases act with
    | user telegramId e =>
      cases hs
      obtain hsame | ⟨hreached, p, hinsert, hpurpose⟩ :=
        @handle_opensOnly baleBotToken s telegramId now e
      · exact hnone (by rw [hsame])
      · intro q hq htopup
        rw [opened_insert hinsert hq, hpurpose] at htopup
        unfold paysTopup at hpays
        dsimp only at hpays
        rw [htopup, hreached] at hpays
        cases hpays
    | approve paymentId approval =>
      refine hnone ?_
      dsimp only [topupStep, step] at hs
      split at hs
      · cases hs
        rfl
      split at hs
      · cases hs
        rfl
      · rename_i hok
        cases hs
        rw [PaymentDb.approve_payments hok, ids_payments_review]
    | reject paymentId adminTelegramId reason =>
      refine hnone ?_
      dsimp only [topupStep, step] at hs
      split at hs
      · cases hs
        rfl
      · cases hs
        exact ids_payments_review ..
  | topupStart telegramId =>
    cases hs
    exact hnone rfl
  | toggleTopups delivered =>
    cases hs
    refine hnone ?_
    unfold cbToggleTopups
    split_ifs
    · rfl
    · rfl
  | setSettings settings =>
    cases hs
    exact hnone rfl
  | otherDialog telegramId =>
    cases hs
    exact hnone rfl

/-- **The top-ups stay closed.** In every run in which no payment method is chosen for a top-up while
the switch is off, no step that is taken while the switch is off opens a top-up. -/
theorem disabled_topups (W : World) (baleBotToken : String) (s : Panel)
    (as : List (Datetime × TopupAct))
    (hpays : Runs.Along (topupStep W baleBotToken) (fun s a =>
      s.db.settings.allowWalletTopups = false → s.paysTopup baleBotToken a = false) s as) :
    Runs.Along (topupStep W baleBotToken) (fun s a => s.db.settings.allowWalletTopups = false →
      ∀ s', s.topupStep W baleBotToken a = some s' →
        ∀ p ∈ s.opened s', p.purpose ≠ .WALLET_TOPUP) s as :=
  hpays.mono fun _ _ h hoff _ hs => topupStep_opened (h hoff) hs

/-- A top-up in time, another one that stops before the payment method, and the approval of the
first after the switch was turned off. -/
def topupInTime : List (Datetime × TopupAct) :=
  [(0, .topupStart 11), (0, .panel (.user 11 (.topupAmount (some 100000)))),
    (0, .panel (.user 11 (.payCard (fun _ => draw₁) true))),
    (0, .panel (.user 12 (.topupAmount (some 50000)))), (1, .toggleTopups true), (2, .topupStart 12),
    (2, .otherDialog 12), (3, .panel (.approve 1 (.admin 7)))]

theorem disabled_topups_topupInTime :
    Runs.Along (topupStep .noMonths "") (fun s a => s.db.settings.allowWalletTopups = false →
      ∀ s', s.topupStep .noMonths "" a = some s' →
        ∀ p ∈ s.opened s', p.purpose ≠ .WALLET_TOPUP) codeShop topupInTime :=
  disabled_topups .noMonths "" codeShop topupInTime (by decide +kernel)

/-- The amount is chosen before the switch is turned off, and the card after it. -/
def lateCard : List (Datetime × TopupAct) :=
  [(0, .panel (.user 11 (.topupAmount (some 100000)))), (1, .toggleTopups true)]

theorem lateCard_isSome : (Runs.exec (topupStep .noMonths "") codeShop lateCard).isSome = true := by
  decide +kernel

theorem topup_while_disabled :
    ∃ s s', Runs.exec (topupStep .noMonths "") codeShop lateCard = some s ∧
      s.db.settings.allowWalletTopups = false ∧ cbTopupStart s.db.settings = .walletTopupsDisabled ∧
      s.topupStep .noMonths "" (2, .panel (.user 11 (.payCard (fun _ => 0) true))) = some s' ∧
      (s.opened s').map Payment.purpose = [.WALLET_TOPUP] := by
  refine ⟨_, _, (Option.some_get lateCard_isSome).symm, ?_, ?_, rfl, ?_⟩
  · decide +kernel
  · decide +kernel
  · decide +kernel

end Panel

end KasbOKar
