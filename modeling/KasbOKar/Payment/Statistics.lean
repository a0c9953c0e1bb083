import KasbOKar.Lib.Aggregate
import KasbOKar.Payment.Reconcile
import KasbOKar.Payment.Trace

/-!
# The statistics of the platform

`get_platform_stats` adds up what was earned, given away and consumed, from the payments and from the ledger.
`platform_stats_balance` accounts for every toman in them: what came in, together with the corrections of the
admins, is what was consumed, what expired and what the owners still have.
-/

namespace KasbOKar

open ReadCommitted

/-- The dictionary that `get_platform_stats` returns. -/
structure PlatformStats where
  totalOwners : ℕ
  totalActiveBots : ℕ
  ownersWithWalletBalance : ℕ
  totalRevenueToman : ℤ
  ordersCount : ℕ
  consultationsCount : ℕ
  totalWalletConsumedToman : ℤ
  totalGivenAwayToman : ℤ
  deriving DecidableEq, Repr

namespace WalletDb

def usageReasons : List WalletTransactionReason :=
  [.CHAT_MESSAGE, .PHOTO_ANALYSIS, .VOICE_TRANSCRIPTION, .ORDER_DETECTION]

def giveawayReasons : List WalletTransactionReason := [.TRIAL, .REFERRAL_REWARD, .ADMIN_GRANT]

/-- `SELECT coalesce(sum(amount_toman), 0) … WHERE reason IN reasons`. -/
def totalOf (db : WalletDb) (reasons : List WalletTransactionReason) : ℤ :=
  db.transactions.sum fun t => if t.reason ∈ reasons then t.amountToman else 0

end WalletDb

open WalletDb

/-- `get_platform_stats`. -/
def getPlatformStats (db : PaymentDb) (shops : Table ShopBot) (orders : Table OrderConsultation) :
    PlatformStats where
  totalOwners := db.wallet.owners.rows.countP fun o => o.registrationCompleted
  totalActiveBots := shops.rows.countP fun s => s.isActive
  ownersWithWalletBalance := db.wallet.owners.rows.countP fun o => 0 < o.walletBalanceToman
  totalRevenueToman := db.payments.sum fun p => if p.status = .APPROVED then p.finalAmount else 0
  ordersCount := orders.rows.countP fun o => o.type = .ORDER
  consultationsCount := orders.rows.countP fun o => o.type = .CONSULTATION
  totalWalletConsumedToman := |db.wallet.totalOf usageReasons|
  totalGivenAwayToman := db.wallet.totalOf giveawayReasons

namespace WalletDb

/-! ## The rows of the ledger -/

/-- A row of an owner, with the sign of its reason. -/
structure Signed (owners : List ℕ) (t : WalletTransaction) : Prop where
  owner : t.shopOwnerId ∈ owners
  usage : t.reason ∈ usageReasons → t.amountToman ≤ 0
  expiry : t.reason = .EXPIRY → t.amountToman ≤ 0
  giveaway : t.reason ∈ giveawayReasons → 0 < t.amountToman

/-- Balances, charges and ledger agree, and every ledger row is in order. -/
structure Reconciled (db : WalletDb) : Prop where
  balanced : Balanced db
  signed : ∀ t ∈ db.transactions.rows, Signed db.owners.ids t

variable {db db' : WalletDb} {reasons : List WalletTransactionReason}

theorem Signed.mono {owners owners' : List ℕ} {t : WalletTransaction} (h : Signed owners t)
    (hsub : owners ⊆ owners') : Signed owners' t := ⟨hsub h.owner, h.usage, h.expiry, h.giveaway⟩

/-- New ledger rows come from the edits that insert them. -/
theorem mem_transactions_applyAll {es : List WalletEdit} :
    ∀ {db : WalletDb} {t : WalletTransaction}, t ∈ (applyAll db es).transactions.rows →
      t ∈ db.transactions.rows ∨ .insertTransaction t ∈ es := by
  induction es with
  | nil => intro db t h; exact Or.inl h
  | cons e es ih =>
    intro db t h
    rcases ih h with h | h
    · cases e with
      | insertTransaction u =>
        by_cases hu : Keyed.id u ∈ db.transactions.ids
        · refine Or.inl ?_
          change t ∈ (db.transactions.insert u).rows at h
          unfold Table.insert at h
          rwa [dif_pos hu] at h
        · rcases (Table.mem_insert hu).1 h with h | rfl
          · exact Or.inl h
          · exact Or.inr List.mem_cons_self
      | _ => exact Or.inl h
    · exact Or.inr (List.mem_cons_of_mem _ h)

theorem mem_takeEdits {ownerId : ℕ} {reason : WalletTransactionReason} {reference : Option String}
    {t : WalletTransaction} : ∀ {xs : List (WalletCharge × ℤ)} {ids : List ℕ},
      .insertTransaction t ∈ takeEdits ownerId reason reference xs ids →
        ∃ x ∈ xs, t = takeTransaction ownerId reason reference x t.id := by
  intro xs
  induction xs with
  | nil => intro ids h; cases h
  | cons x xs ih =>
    intro ids h
    cases ids with
    | nil => cases h
    | cons id ids =>
      unfold takeEdits at h
      rcases List.mem_cons.1 h with h | h
      · cases h
      rcases List.mem_cons.1 h with h | h
      · cases h
        exact ⟨x, List.mem_cons_self, rfl⟩
      · obtain ⟨y, hy, heq⟩ := ih h
        exact ⟨y, List.mem_cons_of_mem _ hy, heq⟩

theorem mem_sweepEdits {t : WalletTransaction} : ∀ {cs : List WalletCharge} {ids : List ℕ},
    .insertTransaction t ∈ sweepEdits cs ids → ∃ c ∈ cs, t = expiryTransaction c t.id := by
  intro cs
  induction cs with
  | nil => intro ids h; cases h
  | cons c cs ih =>
    intro ids h
    cases ids with
    | nil => cases h
    | cons id ids =>
      unfold sweepEdits expireEdits at h
      rcases List.mem_append.1 h with h | h
      · rcases List.mem_cons.1 h with h | h
        · cases h
        rcases List.mem_cons.1 h with h | h
        · cases h
          exact ⟨c, List.mem_cons_self, rfl⟩
        · cases List.mem_singleton.1 h
      · obtain ⟨d, hd, heq⟩ := ih h
        exact ⟨d, List.mem_cons_of_mem _ hd, heq⟩

theorem signed_applyAll {es : List WalletEdit}
    (h : ∀ t ∈ db.transactions.rows, Signed db.owners.ids t)
    (hes : ∀ t, .insertTransaction t ∈ es → Signed db.owners.ids t) :
    ∀ t ∈ (applyAll db es).transactions.rows, Signed (applyAll db es).owners.ids t := by
  intro t ht
  rw [ids_owners_applyAll]
  rcases mem_transactions_applyAll ht with ht | ht
  · exact h t ht
  · exact hes t ht

/-! ## The operations -/

theorem notMem_of_credit : ∀ q ∈ creditReasons, q ∉ usageReasons ∧ q ≠ .EXPIRY := by decide

theorem notMem_of_debit : ∀ q ∈ debitReasons, q ∉ giveawayReasons := by decide

theorem Reconciled.added (h : Reconciled db) {settings : AdminSettings} {now : Datetime} {ownerId : ℕ}
    {amount : ℤ} {reason : WalletTransactionReason} {paymentId : Option ℕ} {validityMonths : Option ℤ}
    {reference : Option String} {c : WalletCharge} (hcredit : reason ∈ creditReasons)
    (hadd : db.addCharge settings now ownerId amount reason paymentId validityMonths reference =
      .ok (db', c)) : Reconciled db' := by
  refine ⟨h.balanced.addCharge hadd, ?_⟩
  obtain ⟨hpos, howner, -, hco, -, hca, -, -, rfl⟩ := addCharge_ok hadd
  refine signed_applyAll h.signed fun t ht => ?_
  have hrow : t = chargeTransaction c reason reference db.transactions.nextId := by
    simpa [addChargeEdits] using ht
  rw [hrow]
  have hamount : 0 < c.amountToman := hca ▸ hpos
  obtain ⟨husage, hexpiry⟩ := notMem_of_credit reason hcredit
  refine ⟨?_, fun hmem => absurd hmem husage, fun heq => absurd heq hexpiry, fun _ => hamount⟩
  show c.shopOwnerId ∈ _
  rw [hco]
  exact howner

theorem Reconciled.taken (h : Reconciled db) {scan : Scan WalletCharge} {ownerId : ℕ} {amount : ℤ}
    {reason : WalletTransactionReason} {reference : Option String} {ok : Bool}
    (hdebit : reason ∈ debitReasons)
    (hdeduct : db.deduct scan ownerId amount reason reference = .ok (db', ok)) : Reconciled db' := by
  refine ⟨h.balanced.deduct hdeduct, ?_⟩
  rcases deduct_ok hdeduct with ⟨rfl, -⟩ | ⟨-, -, -, rfl⟩
  · exact h.signed
  obtain ⟨htakes, -⟩ := splitDeduction_takes db scan ownerId amount
  obtain ⟨ids, -, -, heq⟩ := flushTakes_eq ownerId reason reference
    (splitDeduction (db.deductibleCharges scan ownerId) amount).1 db
  rw [heq]
  have hedits : ∀ t, .insertTransaction t ∈ takeEdits ownerId reason reference
      (splitDeduction (db.deductibleCharges scan ownerId) amount).1 ids → Signed db.owners.ids t := by
    intro t ht
    obtain ⟨x, hx, hrow⟩ := mem_takeEdits ht
    obtain ⟨hfind, howner, -, hpos, -⟩ := htakes x hx
    have hmem : ownerId ∈ db.owners.ids :=
      howner ▸ h.balanced.charge_owner x.1 (Table.mem_of_find? hfind)
    have hamount : -x.2 ≤ 0 := by omega
    rw [hrow]
    exact ⟨hmem, fun _ => hamount, fun _ => hamount,
      fun hgiveaway => absurd hgiveaway (notMem_of_debit reason hdebit)⟩
  intro t ht
  rw [ids_owners_apply]
  exact signed_applyAll h.signed hedits t ht

theorem Reconciled.swept (h : Reconciled db) (scan : Scan WalletCharge) (now : Datetime) :
    Reconciled (db.expireStaleCharges scan now).1 := by
  refine ⟨h.balanced.expireStaleCharges scan now, ?_⟩
  obtain ⟨hcs, -⟩ := h.balanced.stale scan now
  obtain ⟨ids, -, -, heq⟩ := foldl_expireCharge_eq (db.staleCharges scan now) (fun c hc => (hcs c hc).2.2) db
  unfold expireStaleCharges
  dsimp only
  rw [heq]
  refine signed_applyAll h.signed fun t ht => ?_
  obtain ⟨c, hc, hrow⟩ := mem_sweepEdits ht
  obtain ⟨hfind, -, howner⟩ := hcs c hc
  have hamount : -c.remainingToman ≤ 0 :=
    neg_nonpos.2 (h.balanced.remaining_nonneg c (Table.mem_of_find? hfind))
  rw [hrow]
  exact ⟨howner, fun _ => hamount, fun _ => hamount, nofun⟩

/-- A new owner has nothing yet. -/
theorem Reconciled.registered (h : Reconciled db) {owner : ShopOwner} (hid : owner.id = db.owners.nextId)
    (hbalance : owner.walletBalanceToman = 0) :
    Reconciled { db with owners := db.owners.insert owner } := by
  have hfresh : Keyed.id owner ∉ db.owners.ids := by
    show owner.id ∉ db.owners.ids
    rw [hid]
    exact Table.nextId_notMem _
  have hsub : db.owners.ids ⊆ (db.owners.insert owner).ids := by
    intro i hi
    obtain ⟨o, ho, rfl⟩ := Table.mem_ids.1 hi
    exact Table.id_mem_ids (Table.mem_insert_of_mem ho)
  have hb := h.balanced
  refine ⟨?_, fun t ht => (h.signed t ht).mono hsub⟩
  refine { hb with
    balance_remaining := fun o ho => ?_
    charge_owner := fun c hc => hsub (hb.charge_owner c hc) }
  rcases (Table.mem_insert hfresh).1 ho with ho | rfl
  · exact hb.balance_remaining o ho
  · have hnone : db.remainingOf o.id = 0 := by
      refine Table.sum_eq_zero fun c hc => if_neg ?_
      rintro ⟨heq, -⟩
      have howner := hb.charge_owner c hc
      rw [heq] at howner
      exact hfresh howner
    show o.walletBalanceToman = db.remainingOf o.id + 0
    rw [hbalance, hnone, add_zero]

/-- **Every operation keeps the account.** -/
theorem Reconciled.move (h : Reconciled db) (hmove : Move reasons db db') : Reconciled db' := by
  cases hmove with
  | added hreason hcredit hadd => exact h.added hcredit hadd
  | taken hreason hdebit hdeduct => exact h.taken hdebit hdeduct
  | swept hreason scan now => exact h.swept scan now
  | registered hid hbalance => exact h.registered hid hbalance

/-! ## The totals -/

theorem totalOf_singleton (db : WalletDb) (q : WalletTransactionReason) :
    db.totalOf [q] = ((db.ledgerOf q).map WalletTransaction.amountToman).sum := by
  unfold totalOf Table.sum ledgerOf
  simp only [List.mem_singleton]
  induction db.transactions.rows with
  | nil => rfl
  | cons t rows ih =>
    by_cases hq : t.reason = q
    · simp [hq, ih]
    · simp [hq, ih]

/-- Every reason is in one of the totals. -/
theorem sum_transactions (db : WalletDb) : db.transactions.sum WalletTransaction.amountToman =
    db.totalOf [.TOPUP] + db.totalOf giveawayReasons + db.totalOf [.ADMIN_CORRECTION] +
      db.totalOf usageReasons + db.totalOf [.EXPIRY] := by
  unfold totalOf
  rw [← Table.sum_add, ← Table.sum_add, ← Table.sum_add, ← Table.sum_add]
  refine Table.sum_congr fun t _ => ?_
  cases t.reason <;> simp [giveawayReasons, usageReasons]

/-- The owners have what the ledger adds up to. -/
theorem Reconciled.sum_balances (h : Reconciled db) :
    db.owners.sum ShopOwner.walletBalanceToman = db.transactions.sum WalletTransaction.amountToman := by
  rw [← Table.sum_join (t := db.owners) fun t ht => (h.signed t ht).owner]
  refine Table.sum_congr fun o ho => ?_
  have hbalance := h.balanced.balance_remaining o ho
  rw [← h.balanced.owner_ledger] at hbalance
  exact hbalance.trans (add_zero _)

theorem Reconciled.usage_nonpos (h : Reconciled db) : db.totalOf usageReasons ≤ 0 := by
  refine Table.sum_nonpos fun t ht => ?_
  split_ifs with husage
  · exact (h.signed t ht).usage husage
  · exact le_rfl

theorem Reconciled.expiry_nonpos (h : Reconciled db) : db.totalOf [.EXPIRY] ≤ 0 := by
  refine Table.sum_nonpos fun t ht => ?_
  split_ifs with hexpiry
  · exact (h.signed t ht).expiry (List.mem_singleton.1 hexpiry)
  · exact le_rfl

theorem Reconciled.giveaway_nonneg (h : Reconciled db) : 0 ≤ db.totalOf giveawayReasons := by
  refine Table.sum_nonneg fun t ht => ?_
  split_ifs with hgiveaway
  · exact ((h.signed t ht).giveaway hgiveaway).le
  · exact le_rfl

/-! ### Along a run -/

theorem transactions_apply (db : WalletDb) (e : WalletEdit) :
    db.transactions.rows <+: (db.apply e).transactions.rows := by
  cases e with
  | insertTransaction t =>
    show _ <+: (db.transactions.insert t).rows
    unfold Table.insert
    split_ifs
    · exact List.prefix_rfl
    · exact List.prefix_append _ _
  | _ => exact List.prefix_rfl

theorem transactions_applyAll {es : List WalletEdit} :
    ∀ db : WalletDb, db.transactions.rows <+: (applyAll db es).transactions.rows := by
  induction es with
  | nil => intro db; exact List.prefix_rfl
  | cons e es ih => intro db; exact (transactions_apply db e).trans (ih _)

/-- The ledger only grows. -/
theorem Move.transactions (h : Reconciled db) (hmove : Move reasons db db') :
    db.transactions.rows <+: db'.transactions.rows := by
  cases hmove with
  | added hreason hcredit hadd =>
    obtain ⟨-, -, -, -, -, -, -, -, rfl⟩ := addCharge_ok hadd
    exact transactions_applyAll db
  | @taken _ scan ownerId amount reason reference ok hreason hdebit hdeduct =>
    rcases deduct_ok hdeduct with ⟨rfl, -⟩ | ⟨-, -, -, rfl⟩
    · exact List.prefix_rfl
    · obtain ⟨ids, -, -, heq⟩ := flushTakes_eq ownerId reason reference
        (splitDeduction (db.deductibleCharges scan ownerId) amount).1 db
      rw [heq]
      exact (transactions_applyAll db).trans (transactions_apply _ _)
  | swept hreason scan now =>
    obtain ⟨hcs, -⟩ := h.balanced.stale scan now
    obtain ⟨ids, -, -, heq⟩ :=
      foldl_expireCharge_eq (db.staleCharges scan now) (fun c hc => (hcs c hc).2.2) db
    unfold expireStaleCharges
    dsimp only
    rw [heq]
    exact transactions_applyAll db
  | registered hid hbalance => exact List.prefix_rfl

/-- What was consumed and what was given away only grows. -/
theorem Reconciled.totals_grow (h : Reconciled db') (hgrown : db.transactions.rows <+: db'.transactions.rows) :
    db'.totalOf usageReasons ≤ db.totalOf usageReasons ∧
      db.totalOf giveawayReasons ≤ db'.totalOf giveawayReasons := by
  obtain ⟨rest, hrest⟩ := hgrown
  have hsigned : ∀ t ∈ rest, Signed db'.owners.ids t := fun t ht =>
    h.signed t (hrest ▸ List.mem_append_right _ ht)
  unfold totalOf Table.sum
  rw [← hrest, List.map_append, List.map_append, List.sum_append, List.sum_append]
  have husage : (rest.map fun t => if t.reason ∈ usageReasons then t.amountToman else 0).sum ≤
      (rest.map fun _ => 0).sum := by
    refine List.sum_le_sum fun t ht => ?_
    split_ifs with hmem
    · exact (hsigned t ht).usage hmem
    · exact le_rfl
  have hgiveaway : (rest.map fun _ => 0).sum ≤
      (rest.map fun t => if t.reason ∈ giveawayReasons then t.amountToman else 0).sum := by
    refine List.sum_le_sum fun t ht => ?_
    split_ifs with hmem
    · exact ((hsigned t ht).giveaway hmem).le
    · exact le_rfl
  rw [List.map_const', List.sum_replicate, smul_zero] at husage hgiveaway
  exact ⟨by omega, by omega⟩

end WalletDb

namespace PaymentDb

/-! ## The platform -/

/-- What was paid for subscriptions. -/
def subscriptionRevenue (db : PaymentDb) : ℤ :=
  db.payments.sum fun p => if p.status = .APPROVED ∧ p.purpose = .SUBSCRIPTION then p.finalAmount else 0

/-- Credit that ran out. -/
def expiredToman (db : PaymentDb) : ℤ := |db.wallet.totalOf [.EXPIRY]|

/-- What the admins added and took. -/
def correctedToman (db : PaymentDb) : ℤ := db.wallet.totalOf [.ADMIN_CORRECTION]

/-- The revenue is for one of the two purposes. -/
theorem revenue_eq (db : PaymentDb) (shops : Table ShopBot) (orders : Table OrderConsultation) :
    (getPlatformStats db shops orders).totalRevenueToman =
      (db.payments.sum fun p => if settledTopup p then p.finalAmount else 0) + db.subscriptionRevenue := by
  unfold subscriptionRevenue settledTopup getPlatformStats
  rw [← Table.sum_add]
  refine Table.sum_congr fun p _ => ?_
  cases p.status <;> cases p.purpose <;> simp

variable {W : World} {db₀ db db' : PaymentDb} {acts : List (Datetime × Bool × BookAct)}

theorem reconciled_run (h : db.wallet.Reconciled) (hrun : Runs.exec (book W) db acts = some db') :
    db'.wallet.Reconciled ∧ db.wallet.transactions.rows <+: db'.wallet.transactions.rows := by
  refine Runs.exec_inv_of_step (I := fun db' : PaymentDb => db'.wallet.Reconciled ∧
    db.wallet.transactions.rows <+: db'.wallet.transactions.rows) ?_ acts db db' ⟨h, List.prefix_rfl⟩ hrun
  intro db₁ a db₂ hI hs
  exact book_keeps (I := fun wallet => wallet.Reconciled ∧
    db.wallet.transactions.rows <+: wallet.transactions.rows)
    (fun _ _ _ h hmove => ⟨h.1.move hmove, h.2.trans (hmove.transactions h.1)⟩) hs hI

/-- Before the first charge, with nothing in the wallets. -/
theorem NoBooks.reconciled (h : NoBooks db)
    (hempty : ∀ o ∈ db.wallet.owners.rows, o.walletBalanceToman = 0) : db.wallet.Reconciled := by
  have hcharge : ∀ c, c ∉ db.wallet.charges.rows := fun c => h.charges ▸ List.not_mem_nil
  have hrow : ∀ t, t ∉ db.wallet.transactions.rows := fun t => h.transactions ▸ List.not_mem_nil
  have hnothing : ∀ i, db.wallet.remainingOf i = 0 := fun i =>
    Table.sum_eq_zero fun c hc => absurd hc (hcharge c)
  refine ⟨Books.of_charges (fun c hc => absurd hc (hcharge c)) (fun o ho => ?_) (fun i => ?_)
    fun t ht => absurd ht (hrow t), fun t ht => absurd ht (hrow t)⟩
  · rw [hempty o ho, hnothing]
    rfl
  · rw [hnothing]
    exact Table.sum_eq_zero fun t ht => absurd ht (hrow t)

/-- **The statistics balance.**  In every state that the platform reaches from a start without payments and
without credit: what was earned and given away, with the corrections of the admins, is what was paid for
subscriptions, what was consumed, what expired and what the owners still have; the owners with a balance are
those with usable credit; and what was consumed and given away never falls. -/
theorem platform_stats_balance (hnone : NoBooks db₀)
    (hempty : ∀ o ∈ db₀.wallet.owners.rows, o.walletBalanceToman = 0)
    (hrun : Runs.exec (book W) db₀ acts = some db) (shops : Table ShopBot)
    (orders : Table OrderConsultation) :
    (getPlatformStats db shops orders).totalRevenueToman +
        (getPlatformStats db shops orders).totalGivenAwayToman + db.correctedToman =
      db.subscriptionRevenue + (getPlatformStats db shops orders).totalWalletConsumedToman +
        db.expiredToman + db.wallet.owners.sum ShopOwner.walletBalanceToman ∧
    (getPlatformStats db shops orders).ownersWithWalletBalance =
      db.wallet.owners.rows.countP (fun o => 0 < db.wallet.remainingOf o.id) ∧
    ∀ before after db₁, acts = before ++ after → Runs.exec (book W) db₀ before = some db₁ →
      (getPlatformStats db₁ shops orders).totalWalletConsumedToman ≤
          (getPlatformStats db shops orders).totalWalletConsumedToman ∧
        (getPlatformStats db₁ shops orders).totalGivenAwayToman ≤
          (getPlatformStats db shops orders).totalGivenAwayToman := by
  have hstart : db₀.wallet.Reconciled := hnone.reconciled hempty
  have haccount := (reconciled_run hstart hrun).1
  refine ⟨?_, ?_, fun before after db₁ hsplit hbefore => ?_⟩
  · have hledger := (Runs.exec_inv_of_step (I := KeysReconciled) (fun _ _ _ h hs => h.step hs) acts db₀ db
      hnone.keysReconciled hrun).ledger
    have htopup : db.topupTotal = db.wallet.totalOf [.TOPUP] := (totalOf_singleton db.wallet .TOPUP).symm
    have hsum := haccount.sum_balances
    rw [sum_transactions] at hsum
    rw [revenue_eq, ← hledger, htopup]
    unfold getPlatformStats expiredToman correctedToman
    dsimp only
    rw [abs_of_nonpos haccount.usage_nonpos, abs_of_nonpos haccount.expiry_nonpos]
    omega
  · refine List.countP_congr fun o ho => ?_
    have hbalance := haccount.balanced.balance_remaining o ho
    rw [show o.walletBalanceToman = db.wallet.remainingOf o.id from hbalance.trans (add_zero _)]
  · rw [hsplit, Runs.exec_append, hbefore, Option.bind_some] at hrun
    have haccount₁ := (reconciled_run hstart hbefore).1
    obtain ⟨husage, hgiveaway⟩ := haccount.totals_grow (reconciled_run haccount₁ hrun).2
    unfold getPlatformStats
    dsimp only
    rw [abs_of_nonpos haccount.usage_nonpos, abs_of_nonpos haccount₁.usage_nonpos]
    exact ⟨neg_le_neg husage, hgiveaway⟩

theorem platform_stats_balance_busyMonth :
    ∃ db, Runs.exec (book .noMonths) newBooks busyMonth = some db ∧
      (getPlatformStats db .empty .empty).totalRevenueToman = 160010 ∧
      (getPlatformStats db .empty .empty).totalWalletConsumedToman = 500 ∧
      (getPlatformStats db .empty .empty).totalRevenueToman +
          (getPlatformStats db .empty .empty).totalGivenAwayToman + db.correctedToman =
        db.subscriptionRevenue + (getPlatformStats db .empty .empty).totalWalletConsumedToman +
          db.expiredToman + db.wallet.owners.sum ShopOwner.walletBalanceToman := by
  have hempty : ∀ o ∈ newBooks.wallet.owners.rows, o.walletBalanceToman = 0 :=
    fun _ ho => absurd ho List.not_mem_nil
  obtain ⟨db, hrun⟩ := Option.isSome_iff_exists.1 busyMonth_isSome
  have hstats : ((Runs.exec (book .noMonths) newBooks busyMonth).map fun db =>
      ((getPlatformStats db .empty .empty).totalRevenueToman,
        (getPlatformStats db .empty .empty).totalWalletConsumedToman)) = some (160010, 500) := by
    decide +kernel
  rw [hrun, Option.map_some, Option.some.injEq, Prod.mk.injEq] at hstats
  exact ⟨db, hrun, hstats.1, hstats.2,
    (platform_stats_balance noBooks_newBooks hempty hrun .empty .empty).1⟩

end PaymentDb

end KasbOKar
