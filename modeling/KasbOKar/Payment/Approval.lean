import KasbOKar.Payment.Service

/-!
# What an approval does

`approve_ok` takes an approval that returns apart into its stages.  From the stages follow what it
leaves alone (`SameContext`), when it returns a `reward_info` and with which keys (`approve_reward`),
what it writes (`approve_frame`, `approve_topup_charges`), and what it needs in order to return
(`approve_isOk`).
-/

namespace KasbOKar

namespace PaymentDb

/-! ## What the functions leave alone -/

/-- The tables that decide about a reward, and the owners' keys. -/
structure SameContext (db db' : PaymentDb) : Prop where
  referrals : db'.referrals = db.referrals
  settings : db'.settings = db.settings
  owners : db'.wallet.owners.ids = db.wallet.owners.ids

theorem SameContext.refl (db : PaymentDb) : SameContext db db := ⟨rfl, rfl, rfl⟩

theorem SameContext.trans {db db' db'' : PaymentDb} (h : SameContext db db')
    (h' : SameContext db' db'') : SameContext db db'' :=
  ⟨h'.referrals.trans h.referrals, h'.settings.trans h.settings, h'.owners.trans h.owners⟩

theorem recordUsage_ok {db db' : PaymentDb} {codeId ownerId paymentId : ℕ}
    (h : db.recordUsage codeId ownerId paymentId = .ok db') :
    ∃ discount, db.codes.find? codeId = some discount ∧ db.usagesOf codeId ownerId = [] ∧
      Int4 (discount.usedCount + 1) ∧
      db' = (db.apply (.insertUsage ⟨db.usages.nextId, codeId, ownerId, paymentId⟩)).apply
        (.setUsedCount codeId (discount.usedCount + 1)) := by
  unfold recordUsage at h
  split at h
  · cases h
  · rename_i discount hcode
    split_ifs at h with hused hint
    cases h
    exact ⟨discount, hcode, not_not.1 hused, hint, rfl⟩

theorem recordUsageOf_same {db db' : PaymentDb} {payment : Payment}
    (h : db.recordUsageOf payment = .ok db') :
    SameContext db db' ∧ db'.wallet = db.wallet ∧ db'.payments = db.payments := by
  unfold recordUsageOf at h
  split at h
  · cases h
    exact ⟨SameContext.refl db, rfl, rfl⟩
  · obtain ⟨discount, -, -, -, rfl⟩ := recordUsage_ok h
    exact ⟨⟨rfl, rfl, rfl⟩, rfl, rfl⟩

/-- `add_charge` on these tables, read back. -/
theorem addCharge_ok {db db' : PaymentDb} {now : Datetime} {ownerId : ℕ} {amount : ℤ}
    {reason : WalletTransactionReason} {paymentId : Option ℕ} {c : WalletCharge}
    (h : db.addCharge now ownerId amount reason paymentId = .ok (db', c)) :
    ∃ wallet, db.wallet.addCharge db.settings now ownerId amount reason paymentId none none =
      .ok (wallet, c) ∧ db' = { db with wallet := wallet } := by
  unfold addCharge at h
  split at h
  · cases h
  · rename_i owner ho
    obtain ⟨⟨wallet, c'⟩, h₁, h⟩ := bind_ok h
    cases h
    have hid : owner.id = ownerId := Table.id_of_find? ho
    rw [hid] at h₁
    exact ⟨wallet, h₁, rfl⟩

theorem addCharge_same {db db' : PaymentDb} {now : Datetime} {ownerId : ℕ} {amount : ℤ}
    {reason : WalletTransactionReason} {paymentId : Option ℕ} {c : WalletCharge}
    (h : db.addCharge now ownerId amount reason paymentId = .ok (db', c)) :
    SameContext db db' ∧ ownerId ∈ db.wallet.owners.ids ∧ db'.payments = db.payments := by
  obtain ⟨wallet, h₁, rfl⟩ := addCharge_ok h
  obtain ⟨-, howner, -, -, -, -, -, -, rfl⟩ := WalletDb.addCharge_ok h₁
  exact ⟨⟨rfl, rfl, WalletDb.ids_owners_applyAll _ _⟩, howner, rfl⟩

theorem purchaseOrRenew_ok {W : World} {db db' : PaymentDb} {now : Datetime} {ownerId : ℕ}
    {durationMonths : Option ℤ} {s : Subscription}
    (h : db.purchaseOrRenew W now ownerId durationMonths = .ok (db', s)) :
    ownerId ∈ db.wallet.owners.ids ∧ s.id = db.subscriptions.nextId ∧
      db' = db.apply (.insertSubscription s) := by
  cases durationMonths with
  | none => cases h
  | some n =>
    obtain ⟨endDate, -, h⟩ := bind_ok h
    unfold insertSubscription at h
    split_ifs at h with hint howner
    cases h
    exact ⟨howner, rfl, rfl⟩

theorem purchaseOrRenew_same {W : World} {db db' : PaymentDb} {now : Datetime} {ownerId : ℕ}
    {durationMonths : Option ℤ} {s : Subscription}
    (h : db.purchaseOrRenew W now ownerId durationMonths = .ok (db', s)) :
    SameContext db db' ∧ ownerId ∈ db.wallet.owners.ids ∧ db'.payments = db.payments := by
  obtain ⟨howner, -, rfl⟩ := purchaseOrRenew_ok h
  exact ⟨⟨rfl, rfl, rfl⟩, howner, rfl⟩

theorem applyPaymentEffect_same {W : World} {db db' : PaymentDb} {now : Datetime}
    {payment : Payment} {effect : Effect}
    (h : db.applyPaymentEffect W now payment = .ok (db', effect)) :
    SameContext db db' ∧ payment.shopOwnerId ∈ db.wallet.owners.ids ∧
      db'.payments = db.payments := by
  unfold applyPaymentEffect at h
  split at h
  · obtain ⟨⟨db₁, c⟩, h₁, h⟩ := bind_ok h
    cases h
    exact addCharge_same h₁
  · obtain ⟨⟨db₁, s⟩, h₁, h⟩ := bind_ok h
    cases h
    exact purchaseOrRenew_same h₁

/-! ## Rewards -/

/-- A referral reward is due with this payment: it is the owner's first approved one, the owner's
referral is still pending, and the commission is positive. -/
def rewardDue (db : PaymentDb) (payment : Payment) : Bool :=
  db.isFirstApprovedPayment payment.shopOwnerId payment.id &&
    (db.pendingReferral payment.shopOwnerId).isSome &&
      decide (0 < db.commission payment.finalAmount)

/-- The keys of `reward_info`. -/
def rewardKeys : List String := ["referrer_telegram_id", "amount_toman", "percent"]

/-- What `process_referral_reward` does: nothing, or it credits the commission to the referrer. -/
theorem processReferralReward_cases {db db' : PaymentDb} {now : Datetime} {ownerId : ℕ} {amount : ℤ}
    {reward : Option PyDict} (h : db.processReferralReward now ownerId amount = .ok (db', reward)) :
    (db' = db ∧ reward = none ∧
      ((db.pendingReferral ownerId).isSome && decide (0 < db.commission amount)) = false) ∨
    ∃ referral referrer db₁ c, db.pendingReferral ownerId = some referral ∧
      db.wallet.owners.find? referral.referrerId = some referrer ∧ 0 < db.commission amount ∧
      db.addCharge now referrer.id (db.commission amount) .REFERRAL_REWARD none = .ok (db₁, c) ∧
      db' = db₁.apply (.setRewarded referral.referredId now) ∧
      reward = some (db.rewardInfo referrer (db.commission amount)) := by
  unfold processReferralReward at h
  split at h
  · rename_i hr
    cases h
    exact Or.inl ⟨rfl, rfl, by rw [hr]; rfl⟩
  · rename_i referral hr
    dsimp only at h
    split_ifs at h with hle
    · cases h
      exact Or.inl ⟨rfl, rfl, by rw [decide_eq_false (not_lt.2 hle), Bool.and_false]⟩
    · split at h
      · cases h
      · rename_i referrer hreferrer
        obtain ⟨⟨db₁, c⟩, h₁, h⟩ := bind_ok h
        cases h
        exact Or.inr ⟨referral, referrer, db₁, c, hr, hreferrer, not_le.1 hle, h₁, rfl, rfl⟩

/-- `process_referral_reward` returns a dictionary, with these keys, just when a reward is due. -/
theorem processReferralReward_ok {db db' : PaymentDb} {now : Datetime} {ownerId : ℕ} {amount : ℤ}
    {reward : Option PyDict} (h : db.processReferralReward now ownerId amount = .ok (db', reward)) :
    (db'.payments = db.payments ∧ db'.wallet.owners.ids = db.wallet.owners.ids) ∧
    reward.isSome = ((db.pendingReferral ownerId).isSome && decide (0 < db.commission amount)) ∧
    ∀ d, reward = some d → d.map Prod.fst = rewardKeys := by
  obtain ⟨rfl, rfl, hno⟩ | ⟨referral, referrer, db₁, c, hr, -, hpos, h₁, rfl, rfl⟩ :=
    processReferralReward_cases h
  · exact ⟨⟨rfl, rfl⟩, hno.symm, fun d hd => by cases hd⟩
  · obtain ⟨hsame, -, hpay⟩ := addCharge_same h₁
    refine ⟨⟨hpay, hsame.owners⟩, by rw [hr, decide_eq_true hpos]; rfl, ?_⟩
    intro d hd
    cases hd
    rfl

/-- The stages of an approval that returns. -/
theorem approve_ok {W : World} {db db' : PaymentDb} {now : Datetime} {payment : Payment}
    {approval : Approval} {effect : Effect} {reward : Option PyDict}
    (h : db.approve W now payment approval = .ok (db', effect, reward)) :
    approval.fits = true ∧ ∃ db₁ db₂,
      (db.apply (.review payment.id now (.approve approval))).recordUsageOf payment = .ok db₁ ∧
      db₁.applyPaymentEffect W now payment = .ok (db₂, effect) ∧
      ((db.isFirstApprovedPayment payment.shopOwnerId payment.id = true ∧
          db₂.processReferralReward now payment.shopOwnerId payment.finalAmount = .ok (db', reward)) ∨
        (db.isFirstApprovedPayment payment.shopOwnerId payment.id = false ∧ db' = db₂ ∧
          reward = none)) := by
  simp only [approve] at h
  split_ifs at h with hfits hfirst
  · obtain ⟨db₁, h₁, h⟩ := bind_ok h
    obtain ⟨⟨db₂, e⟩, h₂, h⟩ := bind_ok h
    obtain ⟨⟨db₃, r⟩, h₃, h⟩ := bind_ok h
    cases h
    exact ⟨by simpa using hfits, db₁, db₂, h₁, h₂, Or.inl ⟨hfirst, h₃⟩⟩
  · obtain ⟨db₁, h₁, h⟩ := bind_ok h
    obtain ⟨⟨db₂, e⟩, h₂, h⟩ := bind_ok h
    cases h
    exact ⟨by simpa using hfits, db₁, db₂, h₁, h₂, Or.inr ⟨by simpa using hfirst, rfl, rfl⟩⟩

/-- What an approval that returns does to the payments. -/
theorem approve_payments {W : World} {db db' : PaymentDb} {now : Datetime} {payment : Payment}
    {approval : Approval} {effect : Effect} {reward : Option PyDict}
    (h : db.approve W now payment approval = .ok (db', effect, reward)) :
    db'.payments = (db.apply (.review payment.id now (.approve approval))).payments := by
  obtain ⟨-, db₁, db₂, h₁, h₂, h₃⟩ := approve_ok h
  have e₁ := (recordUsageOf_same h₁).2.2
  have e₂ := (applyPaymentEffect_same h₂).2.2
  rcases h₃ with ⟨-, h₃⟩ | ⟨-, rfl, -⟩
  · rw [(processReferralReward_ok h₃).1.1, e₂, e₁]
  · rw [e₂, e₁]

theorem approve_owners {W : World} {db db' : PaymentDb} {now : Datetime} {payment : Payment}
    {approval : Approval} {effect : Effect} {reward : Option PyDict}
    (h : db.approve W now payment approval = .ok (db', effect, reward)) :
    db'.wallet.owners.ids = db.wallet.owners.ids := by
  obtain ⟨-, db₁, db₂, h₁, h₂, h₃⟩ := approve_ok h
  have hsame := (recordUsageOf_same h₁).1.trans (applyPaymentEffect_same h₂).1
  rcases h₃ with ⟨-, h₃⟩ | ⟨-, rfl, -⟩
  · rw [(processReferralReward_ok h₃).1.2, hsame.owners]
    rfl
  · rw [hsame.owners]
    rfl

/-- An approval that returns has found the owner, and returns `reward_info` just when a reward was
due before it. -/
theorem approve_reward {W : World} {db db' : PaymentDb} {now : Datetime} {payment : Payment}
    {approval : Approval} {effect : Effect} {reward : Option PyDict}
    (h : db.approve W now payment approval = .ok (db', effect, reward)) :
    payment.shopOwnerId ∈ db.wallet.owners.ids ∧ reward.isSome = db.rewardDue payment ∧
      ∀ d, reward = some d → d.map Prod.fst = rewardKeys := by
  obtain ⟨-, db₁, db₂, h₁, h₂, h₃⟩ := approve_ok h
  obtain ⟨hsame₁, hw, -⟩ := recordUsageOf_same h₁
  obtain ⟨hsame₂, howner, -⟩ := applyPaymentEffect_same h₂
  have hsame := hsame₁.trans hsame₂
  refine ⟨hsame₁.owners ▸ howner, ?_⟩
  unfold rewardDue
  rcases h₃ with ⟨hfirst, h₃⟩ | ⟨hfirst, -, rfl⟩
  · obtain ⟨-, hsome, hkeys⟩ := processReferralReward_ok h₃
    refine ⟨?_, hkeys⟩
    rw [hsome, hfirst, Bool.true_and]
    unfold pendingReferral commission
    rw [hsame.referrals, hsame.settings]
    rfl
  · rw [hfirst]
    exact ⟨rfl, fun d hd => by cases hd⟩

/-! ## What an approval writes -/

theorem addCharge_charges {db db' : PaymentDb} {now : Datetime} {ownerId : ℕ} {amount : ℤ}
    {reason : WalletTransactionReason} {paymentId : Option ℕ} {c : WalletCharge}
    (h : db.addCharge now ownerId amount reason paymentId = .ok (db', c)) :
    db'.wallet.charges.rows = db.wallet.charges.rows ++ [c] ∧ c.paymentId = paymentId ∧
      c.amountToman = amount := by
  obtain ⟨wallet, h₁, rfl⟩ := addCharge_ok h
  obtain ⟨-, -, hid, -, hpay, hamount, -, -, rfl⟩ := WalletDb.addCharge_ok h₁
  refine ⟨Table.insert_rows ?_, hpay, hamount⟩
  show c.id ∉ db.wallet.charges.ids
  rw [hid]
  exact Table.nextId_notMem _

theorem addCharge_balance {db db' : PaymentDb} {now : Datetime} {ownerId : ℕ} {amount : ℤ}
    {reason : WalletTransactionReason} {paymentId : Option ℕ} {c : WalletCharge}
    (h : db.addCharge now ownerId amount reason paymentId = .ok (db', c)) (i : ℕ) :
    db'.wallet.balance i = db.wallet.balance i + if i = ownerId then amount else 0 := by
  obtain ⟨wallet, h₁, rfl⟩ := addCharge_ok h
  obtain ⟨-, howner, -, hco, -, hca, -, -, rfl⟩ := WalletDb.addCharge_ok h₁
  show (ReadCommitted.applyAll db.wallet _).balance i = _
  rw [WalletDb.balance_addChargeEdits (hco ▸ howner), hco, hca]

/-- The tables of the discounts and referrals after some settlement work for `payment`. -/
structure SettlementFrame (payment : Payment) (db db' : PaymentDb) : Prop where
  codes : db'.codes.ids = db.codes.ids
  usages : ∀ k o, db.usagesOf k o = [] → ¬ (payment.discountCodeId = some k ∧ payment.shopOwnerId = o) →
    db'.usagesOf k o = []
  referrers : ∀ r ∈ db'.referrals.rows, ∃ r₀ ∈ db.referrals.rows, r₀.referrerId = r.referrerId
  charges : ∀ c ∈ db'.wallet.charges.rows, c ∈ db.wallet.charges.rows ∨
    c.paymentId = some payment.id ∨ c.paymentId = none

theorem SettlementFrame.of_eq (payment : Payment) {db db' : PaymentDb} (hcodes : db'.codes = db.codes)
    (husages : db'.usages = db.usages) (hreferrals : db'.referrals = db.referrals)
    (hcharges : db'.wallet.charges = db.wallet.charges) : SettlementFrame payment db db' where
  codes := by rw [hcodes]
  usages k o hk _ := by
    unfold usagesOf at hk ⊢
    rw [husages]
    exact hk
  referrers r hr := ⟨r, hreferrals ▸ hr, rfl⟩
  charges c hc := Or.inl (hcharges ▸ hc)

theorem SettlementFrame.trans {payment : Payment} {db db' db'' : PaymentDb}
    (h : SettlementFrame payment db db') (h' : SettlementFrame payment db' db'') :
    SettlementFrame payment db db'' where
  codes := h'.codes.trans h.codes
  usages k o hk hno := h'.usages k o (h.usages k o hk hno) hno
  referrers r hr := by
    obtain ⟨r₁, hr₁, he₁⟩ := h'.referrers r hr
    obtain ⟨r₀, hr₀, he₀⟩ := h.referrers r₁ hr₁
    exact ⟨r₀, hr₀, he₀.trans he₁⟩
  charges c hc := by
    rcases h'.charges c hc with hc | hc
    · exact h.charges c hc
    · exact Or.inr hc

theorem recordUsageOf_frame {db db' : PaymentDb} {payment : Payment}
    (h : db.recordUsageOf payment = .ok db') : SettlementFrame payment db db' := by
  unfold recordUsageOf at h
  split at h
  · cases h
    exact .of_eq payment rfl rfl rfl rfl
  · rename_i codeId hcode
    obtain ⟨discount, -, -, -, rfl⟩ := recordUsage_ok h
    refine ⟨by simp only [apply, Table.ids_modify], fun k o hk hno => ?_,
      fun r hr => ⟨r, hr, rfl⟩, fun c hc => Or.inl hc⟩
    show (db.usages.insert _).rows.filter _ = []
    rw [Table.insert_rows (Table.nextId_notMem db.usages), List.filter_append]
    refine List.append_eq_nil_iff.2 ⟨hk, List.filter_eq_nil_iff.2 fun u hu he => hno ?_⟩
    rw [List.mem_singleton.1 hu] at he
    simp only [Bool.and_eq_true, beq_iff_eq] at he
    rw [hcode, he.1, he.2]
    exact ⟨rfl, rfl⟩

theorem addCharge_frame (payment : Payment) {db db' : PaymentDb} {now : Datetime} {ownerId : ℕ}
    {amount : ℤ} {reason : WalletTransactionReason} {paymentId : Option ℕ} {c : WalletCharge}
    (h : db.addCharge now ownerId amount reason paymentId = .ok (db', c))
    (hpay : paymentId = some payment.id ∨ paymentId = none) : SettlementFrame payment db db' := by
  obtain ⟨hrows, hc, -⟩ := addCharge_charges h
  obtain ⟨wallet, -, rfl⟩ := addCharge_ok h
  refine ⟨rfl, fun _ _ hk _ => hk, fun r hr => ⟨r, hr, rfl⟩, fun c' hc' => ?_⟩
  rw [hrows] at hc'
  rcases List.mem_append.1 hc' with hc' | hc'
  · exact Or.inl hc'
  · rw [List.mem_singleton.1 hc', hc]
    exact Or.inr hpay

theorem applyPaymentEffect_frame {W : World} {db db' : PaymentDb} {now : Datetime}
    {payment : Payment} {effect : Effect}
    (h : db.applyPaymentEffect W now payment = .ok (db', effect)) :
    SettlementFrame payment db db' := by
  unfold applyPaymentEffect at h
  split at h
  · obtain ⟨⟨db₁, c⟩, h₁, h⟩ := bind_ok h
    cases h
    exact addCharge_frame payment h₁ (Or.inl rfl)
  · obtain ⟨⟨db₁, s⟩, h₁, h⟩ := bind_ok h
    cases h
    obtain ⟨-, -, rfl⟩ := purchaseOrRenew_ok h₁
    exact .of_eq payment rfl rfl rfl rfl

/-- The reward adds at most one charge, which belongs to no payment. -/
theorem processReferralReward_charges {db db' : PaymentDb} {now : Datetime} {ownerId : ℕ} {amount : ℤ}
    {reward : Option PyDict} (h : db.processReferralReward now ownerId amount = .ok (db', reward)) :
    ∃ extra, db'.wallet.charges.rows = db.wallet.charges.rows ++ extra ∧
      ∀ c ∈ extra, c.paymentId = none := by
  obtain ⟨rfl, -, -⟩ | ⟨referral, referrer, db₁, c, -, -, -, h₁, rfl, -⟩ := processReferralReward_cases h
  · exact ⟨[], (List.append_nil _).symm, fun c hc => absurd hc List.not_mem_nil⟩
  · obtain ⟨hrows, hc, -⟩ := addCharge_charges h₁
    refine ⟨[c], hrows, fun c' hc' => ?_⟩
    rw [List.mem_singleton.1 hc', hc]

theorem processReferralReward_frame {payment : Payment} {db db' : PaymentDb} {now : Datetime}
    {ownerId : ℕ} {amount : ℤ} {reward : Option PyDict}
    (h : db.processReferralReward now ownerId amount = .ok (db', reward)) :
    SettlementFrame payment db db' := by
  obtain ⟨rfl, -, -⟩ | ⟨referral, referrer, db₁, c, -, -, -, h₁, rfl, -⟩ := processReferralReward_cases h
  · exact .of_eq payment rfl rfl rfl rfl
  · have hframe := addCharge_frame payment h₁ (Or.inr rfl)
    refine ⟨hframe.codes, hframe.usages, fun r hr => ?_, hframe.charges⟩
    rcases Table.mem_modify_cases (f := fun r : Referral =>
      { r with rewardStatus := .REWARDED, rewardedAt := some now }) (fun _ => rfl) hr with
      ⟨hr, -⟩ | ⟨r₁, hr₁, -, rfl⟩
    · exact hframe.referrers r hr
    · exact hframe.referrers r₁ hr₁

/-- **What an approval writes**: the review, at most one usage of its own code, and charges for this
payment or for none. -/
theorem approve_frame {W : World} {db db' : PaymentDb} {now : Datetime} {payment : Payment}
    {approval : Approval} {effect : Effect} {reward : Option PyDict}
    (h : db.approve W now payment approval = .ok (db', effect, reward)) :
    SettlementFrame payment db db' := by
  obtain ⟨-, db₁, db₂, h₁, h₂, h₃⟩ := approve_ok h
  have hreview : SettlementFrame payment db
      (db.apply (.review payment.id now (.approve approval))) := .of_eq payment rfl rfl rfl rfl
  have hframe := (hreview.trans (recordUsageOf_frame h₁)).trans (applyPaymentEffect_frame h₂)
  rcases h₃ with ⟨-, h₃⟩ | ⟨-, rfl, -⟩
  · exact hframe.trans (processReferralReward_frame h₃)
  · exact hframe

/-- The approval of a top-up adds one charge for the payment and at most one other, for none. -/
theorem approve_topup_charges {W : World} {db db' : PaymentDb} {now : Datetime} {payment : Payment}
    {approval : Approval} {effect : Effect} {reward : Option PyDict}
    (htopup : payment.purpose = .WALLET_TOPUP)
    (h : db.approve W now payment approval = .ok (db', effect, reward)) :
    ∃ c extra, effect = .charge c ∧ db'.wallet.charges.rows = db.wallet.charges.rows ++ c :: extra ∧
      c.paymentId = some payment.id ∧ c.amountToman = payment.finalAmount ∧
      ∀ e ∈ extra, e.paymentId = none := by
  obtain ⟨-, db₁, db₂, h₁, h₂, h₃⟩ := approve_ok h
  have hw := (recordUsageOf_same h₁).2.1
  unfold applyPaymentEffect at h₂
  rw [htopup] at h₂
  obtain ⟨⟨db₃, c⟩, hadd, h₂⟩ := bind_ok h₂
  cases h₂
  obtain ⟨hrows, hpay, hamount⟩ := addCharge_charges hadd
  rw [hw] at hrows
  rcases h₃ with ⟨-, h₃⟩ | ⟨-, rfl, -⟩
  · obtain ⟨extra, hextra, hnone⟩ := processReferralReward_charges h₃
    refine ⟨c, extra, rfl, ?_, hpay, hamount, hnone⟩
    rw [hextra, hrows, List.append_assoc, List.singleton_append]
    rfl
  · exact ⟨c, [], rfl, hrows, hpay, hamount, fun e he => absurd he List.not_mem_nil⟩

/-! ## What an approval needs -/

theorem recordUsageOf_isOk (db : PaymentDb) (payment : Payment)
    (h : ∀ k, payment.discountCodeId = some k → db.usagesOf k payment.shopOwnerId = [] ∧
      ∃ code, db.codes.find? k = some code ∧ Int4 (code.usedCount + 1)) :
    ∃ db', db.recordUsageOf payment = .ok db' := by
  unfold recordUsageOf
  cases hk : payment.discountCodeId with
  | none => exact ⟨db, rfl⟩
  | some k =>
    obtain ⟨hused, code, hcode, hint⟩ := h k hk
    simp only [recordUsage, hcode, hused, ne_eq, not_true_eq_false, if_false, hint]
    exact ⟨_, rfl⟩

/-- The instant a top-up of now expires at can be represented. -/
def ExpiryFits (db : PaymentDb) (now : Datetime) : Prop :=
  InDatetimeRange (now + days (db.settings.walletTopupValidityMonths * 30))

theorem addCharge_isOk (db : PaymentDb) (now : Datetime) {ownerId : ℕ} {amount : ℤ}
    (reason : WalletTransactionReason) (paymentId : Option ℕ) (hpos : 0 < amount) (hint : Int4 amount)
    (hexp : db.ExpiryFits now) (howner : ownerId ∈ db.wallet.owners.ids)
    (hbal : Int4 (db.wallet.balance ownerId + amount)) :
    ∃ db' c, db.addCharge now ownerId amount reason paymentId = .ok (db', c) := by
  obtain ⟨wallet, c, hok⟩ := WalletDb.addCharge_isOk db.settings now none reason paymentId
    none hpos hint hexp howner hbal
  obtain ⟨o, ho⟩ := Table.exists_find? howner
  have hid : o.id = ownerId := Table.id_of_find? ho
  unfold addCharge
  simp only [ho, hid, hok]
  exact ⟨_, _, rfl⟩

theorem processReferralReward_isOk {db : PaymentDb} {now : Datetime} {ownerId : ℕ} {amount : ℤ}
    (hexp : db.ExpiryFits now)
    (h : ∀ r, db.pendingReferral ownerId = some r → 0 < db.commission amount →
      r.referrerId ∈ db.wallet.owners.ids ∧ Int4 (db.commission amount) ∧
        Int4 (db.wallet.balance r.referrerId + db.commission amount)) :
    ∃ db' reward, db.processReferralReward now ownerId amount = .ok (db', reward) := by
  unfold processReferralReward
  cases hr : db.pendingReferral ownerId with
  | none => exact ⟨_, _, rfl⟩
  | some r =>
    dsimp only
    split_ifs with hle
    · exact ⟨_, _, rfl⟩
    obtain ⟨hmem, hint, hbal⟩ := h r hr (not_le.1 hle)
    obtain ⟨o, ho⟩ := Table.exists_find? hmem
    have hid : o.id = r.referrerId := Table.id_of_find? ho
    obtain ⟨db', c, hok⟩ := addCharge_isOk db now .REFERRAL_REWARD none (not_le.1 hle) hint hexp hmem
      hbal
    simp only [ho, hid, hok, bind, Except.bind]
    exact ⟨_, _, rfl⟩

/-- There is room for what the approval of a top-up writes: the review and the expiry fit their
columns, and so do the balances and the counter after it. -/
structure Room (db : PaymentDb) (now : Datetime) (payment : Payment) (approval : Approval) : Prop where
  review : approval.fits = true
  expiry : db.ExpiryFits now
  balance : Int4 (db.wallet.balance payment.shopOwnerId + payment.finalAmount)
  uses : ∀ k code, payment.discountCodeId = some k → db.codes.find? k = some code →
    Int4 (code.usedCount + 1)
  reward : ∀ r, db.rewardDue payment = true → db.pendingReferral payment.shopOwnerId = some r →
    Int4 (db.commission payment.finalAmount) ∧
    Int4 (db.wallet.balance r.referrerId +
      (if r.referrerId = payment.shopOwnerId then payment.finalAmount else 0) +
      db.commission payment.finalAmount)

/-- **What an approval needs**: a top-up of a positive amount whose owner exists and has not used
its code yet is approved, if there is room for it. -/
theorem approve_isOk {W : World} {db : PaymentDb} {now : Datetime} {payment : Payment}
    {approval : Approval} (htopup : payment.purpose = .WALLET_TOPUP)
    (hpos : 0 < payment.finalAmount) (hint : Int4 payment.finalAmount)
    (howner : payment.shopOwnerId ∈ db.wallet.owners.ids)
    (hcode : ∀ k, payment.discountCodeId = some k → k ∈ db.codes.ids ∧
      db.usagesOf k payment.shopOwnerId = [])
    (hreferrer : ∀ r ∈ db.referrals.rows, r.referrerId ∈ db.wallet.owners.ids)
    (hroom : db.Room now payment approval) :
    ∃ db' effect reward, db.approve W now payment approval = .ok (db', effect, reward) := by
  obtain ⟨db₁, h₁⟩ := recordUsageOf_isOk (db.apply (.review payment.id now (.approve approval)))
    payment fun k hk => by
      obtain ⟨hk', hused⟩ := hcode k hk
      obtain ⟨code, hfind⟩ := Table.exists_find? hk'
      exact ⟨hused, code, hfind, hroom.uses k code hk hfind⟩
  obtain ⟨hsame₁, hw₁, -⟩ := recordUsageOf_same h₁
  have hset₁ : db₁.settings = db.settings := hsame₁.settings
  have hw₁ : db₁.wallet = db.wallet := hw₁
  obtain ⟨db₂, c, h₂⟩ := addCharge_isOk db₁ now .TOPUP (some payment.id) hpos
    hint (by unfold ExpiryFits; rw [hset₁]; exact hroom.expiry) (hw₁ ▸ howner)
    (hw₁ ▸ hroom.balance)
  have heffect : db₁.applyPaymentEffect W now payment = .ok (db₂, .charge c) := by
    unfold applyPaymentEffect
    rw [htopup, h₂]
    rfl
  have hsame : SameContext db db₂ := by
    have h := hsame₁.trans (addCharge_same h₂).1
    exact ⟨h.referrals, h.settings, h.owners⟩
  unfold approve
  simp only [hroom.review, Bool.not_true, Bool.false_eq_true, if_false, bind, Except.bind, h₁, heffect]
  split_ifs with hfirst
  swap
  · exact ⟨_, _, _, rfl⟩
  -- the first approved payment: the referrer's commission
  have hpend : db₂.pendingReferral payment.shopOwnerId = db.pendingReferral payment.shopOwnerId := by
    unfold pendingReferral
    rw [hsame.referrals]
  have hcomm : db₂.commission payment.finalAmount = db.commission payment.finalAmount := by
    unfold commission
    rw [hsame.settings]
  have hreward : ∃ db₃ reward, db₂.processReferralReward now payment.shopOwnerId
      payment.finalAmount = .ok (db₃, reward) := by
    refine processReferralReward_isOk (by unfold ExpiryFits; rw [hsame.settings]; exact hroom.expiry)
      fun r hr hdue => ?_
    rw [hcomm] at hdue ⊢
    rw [hpend] at hr
    have hdue' : db.rewardDue payment = true := by
      unfold rewardDue
      rw [hfirst, hr, decide_eq_true hdue]
      rfl
    obtain ⟨hcint, hbal⟩ := hroom.reward r hdue' hr
    have hrow : r ∈ db.referrals.rows := by
      unfold pendingReferral at hr
      exact Table.mem_of_find? (Option.filter_eq_some_iff.1 hr).1
    have hbal₂ := addCharge_balance h₂ r.referrerId
    rw [hw₁] at hbal₂
    exact ⟨hsame.owners ▸ hreferrer r hrow, hcint, by rw [hbal₂]; exact hbal⟩
  obtain ⟨db₃, reward, h₃⟩ := hreward
  rw [h₃]
  exact ⟨_, _, _, rfl⟩

end PaymentDb

end KasbOKar
