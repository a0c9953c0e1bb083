import KasbOKar.Payment.Reconcile

/-!
# The commission of a referrer

An owner who came with the code of another one earns that one a commission, once: with the first
payment of the new owner that is approved.  That it is only once rests on three things, the count of
the approved payments, the flag of the referral and the key of its table.  `referral_law` says that they
do it together, for every run of the books, and to whom the commission goes.
-/

namespace KasbOKar

namespace PaymentDb

/-- The owner `i` was referred by the owner `j`. -/
def ReferredBy (db : PaymentDb) (i j : ℕ) : Prop :=
  ∃ o ∈ db.wallet.owners.rows, o.id = i ∧ o.referredById = some j

/-- A step commits a reward: the ledger row `t`, with the approval of `p`, the first payment of its
owner that is approved, for the owner's referrer. -/
structure Pays (db db' : PaymentDb) (p : Payment) (t : WalletTransaction) : Prop where
  row : db'.wallet.ledgerOf .REFERRAL_REWARD = db.wallet.ledgerOf .REFERRAL_REWARD ++ [t]
  pending : db.getById p.id = some p ∧ p.status = .PENDING
  approved : ∃ q, db'.getById p.id = some q ∧ q.status = .APPROVED ∧ q.shopOwnerId = p.shopOwnerId
  first : ∀ q ∈ db.payments.rows, q.shopOwnerId = p.shopOwnerId → q.status ≠ .APPROVED
  referrer : db.ReferredBy p.shopOwnerId t.shopOwnerId
  other : t.shopOwnerId ≠ p.shopOwnerId
  amount : t.amountToman =
    roundHalfEven (p.finalAmount * db.settings.referralRewardValueCents / 10000 : ℚ)

/-- In the run, the owner `i` was created with the referral code that the owner `j` had. -/
def Introduced (W : World) (start : PaymentDb) (acts : List (Datetime × Bool × BookAct)) (i j : ℕ) :
    Prop :=
  ∃ before now committed telegramId code newCode after db₀ db₁,
    acts = before ++ (now, committed, .register telegramId (some code) newCode) :: after ∧
    Runs.exec (book W) start before = some db₀ ∧
    db₀.book W (now, committed, .register telegramId (some code) newCode) = some db₁ ∧
    i ∉ db₀.wallet.owners.ids ∧ i ∈ db₁.wallet.owners.ids ∧
    (db₀.ownerTables.ownerByReferralCode code).map ShopOwner.id = some j

/-- The step `a` that follows the run `before` commits the reward `t` with the approval of `p`. -/
def PaysAfter (W : World) (start : PaymentDb) (before : List (Datetime × Bool × BookAct))
    (a : Datetime × Bool × BookAct) (p : Payment) (t : WalletTransaction) : Prop :=
  ∃ db db', Runs.exec (book W) start before = some db ∧ db.book W a = some db' ∧ Pays db db' p t

/-- A platform without owners. -/
structure NoOwners (db : PaymentDb) : Prop extends NoBooks db where
  owners : db.wallet.owners.rows = []
  referrals : db.referrals.rows = []

/-- Referrers are older than those they refer, and the referrals say what the owners' rows say. -/
structure Referrals (db : PaymentDb) : Prop where
  older : ∀ i j, db.ReferredBy i j → j < i
  referral : ∀ r ∈ db.referrals.rows, db.ReferredBy r.referredId r.referrerId

variable {W : World} {db db' : PaymentDb} {now : Datetime}

theorem referredBy_iff {i j : ℕ} :
    db.ReferredBy i j ↔ ∃ k ∈ db.wallet.ownerKeys, k.1 = i ∧ k.2.2.2 = some j := by
  unfold ReferredBy WalletDb.ownerKeys
  simp only [List.mem_map, exists_exists_and_eq_and]

theorem referredBy_of_keys (h : db'.wallet.ownerKeys = db.wallet.ownerKeys) {i j : ℕ} :
    db'.ReferredBy i j ↔ db.ReferredBy i j := by
  rw [referredBy_iff, referredBy_iff, h]

/-! ## Registrations -/

theorem referrerOf_some {referredByCode : Option String} {j : ℕ}
    (h : db.ownerTables.referrerOf referredByCode = some j) :
    ∃ code, referredByCode = some code ∧
      (db.ownerTables.ownerByReferralCode code).map ShopOwner.id = some j ∧ j ∈ db.wallet.owners.ids := by
  unfold ShopDb.referrerOf at h
  split at h
  · cases h
  · split_ifs at h
    obtain ⟨o, ho, rfl⟩ := Option.map_eq_some_iff.1 h
    exact ⟨_, rfl, h, Table.id_mem_ids (List.mem_of_find?_eq_some ho)⟩

section Registered

variable {telegramId : ℤ} {referredByCode : Option String} {owner : ShopOwner}

theorem Registered.fresh (hr : Registered db db' telegramId referredByCode owner) :
    Keyed.id owner ∉ db.wallet.owners.ids := by
  show owner.id ∉ db.wallet.owners.ids
  rw [hr.id]
  exact Table.nextId_notMem _

theorem Registered.referredBy (hr : Registered db db' telegramId referredByCode owner) {i j : ℕ} :
    db'.ReferredBy i j ↔ db.ReferredBy i j ∨ (owner.id = i ∧ owner.referredById = some j) := by
  unfold ReferredBy
  rw [hr.owners]
  constructor
  · rintro ⟨o, ho, hid, href⟩
    rcases (Table.mem_insert hr.fresh).1 ho with ho | rfl
    · exact Or.inl ⟨o, ho, hid, href⟩
    · exact Or.inr ⟨hid, href⟩
  · rintro (⟨o, ho, hid, href⟩ | ⟨hid, href⟩)
    · exact ⟨o, Table.mem_insert_of_mem ho, hid, href⟩
    · exact ⟨owner, (Table.mem_insert hr.fresh).2 (Or.inr rfl), hid, href⟩

theorem Referrals.registered (h : Referrals db)
    (hr : Registered db db' telegramId referredByCode owner) : Referrals db' := by
  refine ⟨fun i j hij => ?_, fun r hmem => ?_⟩
  · rcases hr.referredBy.1 hij with hij | ⟨rfl, href⟩
    · exact h.older i j hij
    · rw [hr.referrer] at href
      obtain ⟨-, -, -, hj⟩ := referrerOf_some href
      rw [hr.id]
      exact Nat.lt_succ_of_le (Table.le_foldr_max hj)
  · have hold : ∀ r ∈ db.referrals.rows, db'.ReferredBy r.referredId r.referrerId :=
      fun r hmem => hr.referredBy.2 (Or.inl (h.referral r hmem))
    rw [hr.referrals] at hmem
    split at hmem
    · exact hold r hmem
    · rename_i referrerId href
      -- the new key is not in the table: every referral is for an owner that exists
      have hfresh : Keyed.id (⟨owner.id, referrerId, .PENDING, none⟩ : Referral) ∉ db.referrals.ids := by
        intro hmem
        obtain ⟨r, hr', hid⟩ := Table.mem_ids.1 hmem
        obtain ⟨o, ho, hoid, -⟩ := h.referral r hr'
        refine hr.fresh (Table.mem_ids.2 ⟨o, ho, ?_⟩)
        exact hoid.trans hid
      rcases (Table.mem_insert hfresh).1 hmem with hmem | rfl
      · exact hold r hmem
      · exact hr.referredBy.2 (Or.inr ⟨rfl, href⟩)

end Registered

/-! ## The other steps -/

/-- A step that leaves the owners' keys and the pairs of the referrals. -/
theorem Referrals.of_same (h : Referrals db) (howners : db'.wallet.ownerKeys = db.wallet.ownerKeys)
    (hreferrals : ∀ r' ∈ db'.referrals.rows, ∃ r ∈ db.referrals.rows,
      r.referredId = r'.referredId ∧ r.referrerId = r'.referrerId) : Referrals db' := by
  refine ⟨fun i j hij => h.older i j ((referredBy_of_keys howners).1 hij), fun r' hr' => ?_⟩
  obtain ⟨r, hr, hreferred, hreferrer⟩ := hreferrals r' hr'
  rw [referredBy_of_keys howners, ← hreferred, ← hreferrer]
  exact h.referral r hr

theorem Referrals.approved (h : Referrals db) {payment : Payment}
    (hbooks : ApprovedBooks db payment db') : Referrals db' := by
  refine h.of_same hbooks.owners fun r' hr' => ?_
  rcases hbooks.rewards with ⟨-, hsame⟩ | ⟨referral, t, rewardedAt, -, -, -, -, -, -, hsame⟩
  · rw [hsame] at hr'
    exact ⟨r', hr', rfl, rfl⟩
  · rw [hsame] at hr'
    have hcases := Table.mem_modify_cases (f := fun r : Referral =>
      { r with rewardStatus := .REWARDED, rewardedAt := some rewardedAt }) (fun _ => rfl) hr'
    rcases hcases with ⟨hr', -⟩ | ⟨r, hr, -, rfl⟩
    · exact ⟨r', hr', rfl, rfl⟩
    · exact ⟨r, hr, rfl, rfl⟩

theorem Referrals.step (h : Referrals db) {a : Datetime × Bool × BookAct}
    (hs : db.book W a = some db') : Referrals db' := by
  cases book_step hs with
  | credited hc =>
    refine h.of_same hc.owners fun r hr => ⟨r, ?_, rfl, rfl⟩
    rwa [hc.referrals] at hr
  | registered hact hr => exact h.registered hr
  | opened hnew => exact h.of_same rfl fun r hr => ⟨r, hr, rfl, rfl⟩
  | rejected hget hpending => exact h.of_same rfl fun r hr => ⟨r, hr, rfl, rfl⟩
  | approved hget hpending hok => exact h.approved (approve_books hok)

theorem NoOwners.referrals_hold (h : NoOwners db) : Referrals db := by
  refine ⟨fun i j hij => ?_, fun r hr => ?_⟩
  · obtain ⟨o, ho, -⟩ := hij
    rw [h.owners] at ho
    cases ho
  · rw [h.referrals] at hr
    cases hr

/-! ## The reward of a step -/

/-- The count finds no payment of the owner that is approved, the pending one aside. -/
theorem ne_approved_of_isFirst {p : Payment} (hpending : db.getById p.id = some p ∧ p.status = .PENDING)
    (hfirst : db.isFirstApprovedPayment p.shopOwnerId p.id = true) :
    ∀ q ∈ db.payments.rows, q.shopOwnerId = p.shopOwnerId → q.status ≠ .APPROVED := by
  intro q hq howner hstatus
  unfold isFirstApprovedPayment at hfirst
  rw [beq_iff_eq, List.length_eq_zero_iff, List.filter_eq_nil_iff] at hfirst
  have hne : q.id ≠ p.id := by
    intro hid
    have hsame := Table.eq_of_id_eq hq (Table.mem_of_find? hpending.1) hid
    rw [hsame, hpending.2] at hstatus
    cases hstatus
  refine hfirst q hq ?_
  simp [howner, hstatus, hne]

/-- A pending referral of an owner names the referrer of its row. -/
theorem Referrals.pending (h : Referrals db) {ownerId : ℕ} {referral : Referral}
    (hpending : db.pendingReferral ownerId = some referral) :
    db.ReferredBy ownerId referral.referrerId := by
  obtain ⟨hfind, -⟩ := Option.filter_eq_some_iff.1 hpending
  have hid : referral.referredId = ownerId := Table.id_of_find? hfind
  rw [← hid]
  exact h.referral referral (Table.mem_of_find? hfind)

/-- **A step pays no reward, or the one that is due.** -/
theorem Referrals.reward_step (h : Referrals db) {a : Datetime × Bool × BookAct}
    (hs : db.book W a = some db') :
    db'.wallet.ledgerOf .REFERRAL_REWARD = db.wallet.ledgerOf .REFERRAL_REWARD ∨
      ∃ p t, Pays db db' p t := by
  cases book_step hs with
  | credited hc => exact Or.inl hc.rewards
  | registered hact hr =>
    left
    unfold WalletDb.ledgerOf
    rw [hr.transactions]
  | opened hnew => exact Or.inl rfl
  | rejected hget hpending => exact Or.inl rfl
  | @approved _ payment approval effect reward hget hpending hok =>
    rcases (approve_books hok).rewards with ⟨hsame, -⟩ |
      ⟨referral, t, rewardedAt, hfirst, hreferral, hreferrer, hamount, hpos, hrow, -⟩
    · exact Or.inl hsame
    have hreferred : db.ReferredBy payment.shopOwnerId t.shopOwnerId := by
      rw [hreferrer]
      exact h.pending hreferral
    refine Or.inr ⟨payment, t, hrow, ⟨hget, hpending⟩, ?_, ne_approved_of_isFirst ⟨hget, hpending⟩ hfirst,
      hreferred, (h.older _ _ hreferred).ne, hamount⟩
    refine ⟨(Review.approve approval).write a.1 payment, ?_, Review.write_status ..,
      Review.write_shopOwnerId ..⟩
    unfold getById
    rw [approve_payments hok]
    exact Table.find?_modify_self (fun p => (Review.approve approval).write_id a.1 p) hget

/-! ## Whole runs -/

section Run

variable {start : PaymentDb} {before after acts : List (Datetime × Bool × BookAct)}
  {a a' : Datetime × Bool × BookAct}

theorem Introduced.append {i j : ℕ} (h : Introduced W start before i j) :
    Introduced W start (before ++ after) i j := by
  obtain ⟨before', now, committed, telegramId, code, newCode, after', db₀, db₁, rfl, hrest⟩ := h
  refine ⟨before', now, committed, telegramId, code, newCode, after' ++ after, db₀, db₁, ?_, hrest⟩
  rw [List.append_assoc, List.cons_append]

/-- A referrer is written when the row of the owner is created, and never again. -/
theorem introduced_of_referredBy (hnone : NoOwners start)
    (hrun : Runs.exec (book W) start acts = some db) {i j : ℕ} (hij : db.ReferredBy i j) :
    Introduced W start acts i j := by
  revert i j
  refine Runs.exec_history (C := fun _ _ => True)
    (I := fun acts db => ∀ {i j}, db.ReferredBy i j → Introduced W start acts i j) ?_ ?_ acts db
    (Runs.along_of_forall (fun _ _ => trivial) acts start) hrun
  · intro i j hij
    obtain ⟨o, ho, -⟩ := hij
    rw [hnone.owners] at ho
    cases ho
  intro before db₀ a db₁ hbefore ih _ hs i j hij
  have hkept : db₁.wallet.ownerKeys = db₀.wallet.ownerKeys → Introduced W start (before ++ [a]) i j :=
    fun hkeys => (ih ((referredBy_of_keys hkeys).1 hij)).append
  cases book_step hs with
  | credited hc => exact hkept hc.owners
  | opened hnew => exact hkept rfl
  | rejected hget hpending => exact hkept rfl
  | approved hget hpending hok => exact hkept (approve_books hok).owners
  | @registered _ telegramId referredByCode newCode owner hact hr =>
    rcases hr.referredBy.1 hij with hij | ⟨rfl, href⟩
    · exact (ih hij).append
    rw [hr.referrer] at href
    obtain ⟨code, rfl, hcode, -⟩ := referrerOf_some href
    obtain ⟨now, committed, act⟩ := a
    dsimp only at hact
    subst hact
    refine ⟨before, now, committed, telegramId, code, newCode, [], db₀, db₁, rfl, hbefore, hs, hr.fresh,
      ?_, hcode⟩
    rw [hr.owners]
    exact Table.id_mem_ids ((Table.mem_insert hr.fresh).2 (Or.inr rfl))

/-- The payment that a reward was paid for stays approved, so none of the same owner is a first one
again. -/
theorem not_pays_twice {db₁ db₂ db₃ : PaymentDb} {p p' : Payment} {t t' : WalletTransaction}
    (hpays : Pays db db₁ p t) (hrun : Runs.exec (book W) db₁ acts = some db₂)
    (hpays' : Pays db₂ db₃ p' t') : p.shopOwnerId ≠ p'.shopOwnerId := by
  intro howner
  obtain ⟨q, hq, hstatus, hqowner⟩ := hpays.approved
  have hreviewed : q.status ≠ .PENDING := by
    rw [hstatus]
    nofun
  have hkept : db₂.getById p.id = some q :=
    Runs.exec_inv_of_step (I := fun db => db.getById p.id = some q)
      (fun _ _ _ h hs => status_step hs h hreviewed) acts db₁ db₂ hq hrun
  exact hpays'.first q (Table.mem_of_find? hkept) (hqowner.trans howner) hstatus

/-- The same for two points of a run, one before the other. -/
theorem PaysAfter.prefix_eq {before' after' : List (Datetime × Bool × BookAct)} {p p' : Payment}
    {t t' : WalletTransaction} (hsplit : before ++ a :: after = before' ++ a' :: after')
    (hpays : PaysAfter W start before a p t) (hpays' : PaysAfter W start before' a' p' t')
    (howner : p.shopOwnerId = p'.shopOwnerId) (hpre : before <+: before') : before = before' := by
  obtain ⟨rest, rfl⟩ := hpre
  obtain ⟨db₁, db₂, hrun, hs, hpays⟩ := hpays
  obtain ⟨db₃, db₄, hrun', -, hpays'⟩ := hpays'
  cases rest with
  | nil => rw [List.append_nil]
  | cons b rest =>
    rw [List.append_assoc, List.cons_append] at hsplit
    obtain ⟨rfl, -⟩ := List.cons.inj (List.append_cancel_left hsplit)
    rw [Runs.exec_append, hrun, Option.bind_some] at hrun'
    obtain ⟨db₅, hs', hrest⟩ := Runs.exec_cons hrun'
    rw [hs] at hs'
    cases hs'
    exact absurd howner (not_pays_twice hpays hrest hpays')

end Run

/-- **The referral law.** In every run from a platform without owners, each step of it committed or
rolled back: a step adds no reward to the ledger, or one; then it approves a payment, the first of its
owner that is approved, and the reward is the commission on it, for the other owner whose code was given
when the row of the payment's owner was created.  An owner causes one reward at most.  And nobody is, by
any chain of referrals, referred by himself. -/
theorem referral_law (W : World) (start db' : PaymentDb) (hnone : NoOwners start)
    (acts : List (Datetime × Bool × BookAct)) (hrun : Runs.exec (book W) start acts = some db') :
    (∀ before a after db₁ db₂, acts = before ++ a :: after →
      Runs.exec (book W) start before = some db₁ → db₁.book W a = some db₂ →
      db₂.wallet.ledgerOf .REFERRAL_REWARD = db₁.wallet.ledgerOf .REFERRAL_REWARD ∨
        ∃ p t, Pays db₁ db₂ p t ∧ Introduced W start before p.shopOwnerId t.shopOwnerId) ∧
    (∀ before a after before' a' after' p p' t t', acts = before ++ a :: after →
      acts = before' ++ a' :: after' → PaysAfter W start before a p t →
      PaysAfter W start before' a' p' t' → p.shopOwnerId = p'.shopOwnerId → before = before') ∧
    ∀ i, ¬ Relation.TransGen db'.ReferredBy i i := by
  have hinv : ∀ acts db, Runs.exec (book W) start acts = some db → Referrals db := fun acts db =>
    Runs.exec_inv_of_step (I := Referrals) (fun _ _ _ h hs => h.step hs) acts start db
      hnone.referrals_hold
  refine ⟨?_, ?_, ?_⟩
  · intro before a after db₁ db₂ _ hbefore hs
    rcases (hinv before db₁ hbefore).reward_step hs with hsame | ⟨p, t, hpays⟩
    · exact Or.inl hsame
    · exact Or.inr ⟨p, t, hpays, introduced_of_referredBy hnone hbefore hpays.referrer⟩
  · intro before a after before' a' after' p p' t t' hsplit hsplit' hpays hpays' howner
    have heq : before ++ a :: after = before' ++ a' :: after' := hsplit.symm.trans hsplit'
    rcases List.prefix_or_prefix_of_prefix ⟨_, hsplit.symm⟩ ⟨_, hsplit'.symm⟩ with hpre | hpre
    · exact hpays.prefix_eq heq hpays' howner hpre
    · exact (hpays'.prefix_eq heq.symm hpays howner.symm hpre).symm
  · intro i hcycle
    -- along a chain of referrals the ids go down
    have hlt : ∀ i j, Relation.TransGen db'.ReferredBy i j → j < i := by
      intro i j hchain
      induction hchain with
      | single hij => exact (hinv acts db' hrun).older _ _ hij
      | tail _ hjk ih => exact lt_trans ((hinv acts db' hrun).older _ _ hjk) ih
    exact lt_irrefl i (hlt i i hcycle)

/-- Two owners, the second with the code of the first, and two payments of the second. -/
def referralMonth : List (Datetime × Bool × BookAct) :=
  [(0, true, .register 11 (some "AAAA") "AAAA"), (1, true, .register 22 (some "AAAA") "BBBB"),
    (2, true, .createZarinpal 2 60000 none "A1" none .WALLET_TOPUP),
    (3, true, .zarinpalCallback (fun _ => true) (fun _ _ _ => some "R1") "A1" "OK"),
    (4, true, .createZarinpal 2 90000 none "A2" none .WALLET_TOPUP),
    (5, true, .zarinpalCallback (fun _ => true) (fun _ _ _ => some "R2") "A2" "OK")]

theorem noOwners_newBooks : NoOwners newBooks := ⟨noBooks_newBooks, rfl, rfl⟩

theorem referralMonth_isSome : (Runs.exec (book .noMonths) newBooks referralMonth).isSome = true := by
  decide +kernel

theorem referral_law_referralMonth :
    ∃ db', Runs.exec (book .noMonths) newBooks referralMonth = some db' ∧
      (db'.wallet.ledgerOf .REFERRAL_REWARD).map (fun t => (t.shopOwnerId, t.amountToman)) =
        [(1, 6000)] ∧
      ∀ i, ¬ Relation.TransGen db'.ReferredBy i i := by
  refine ⟨_, (Option.some_get referralMonth_isSome).symm, by decide +kernel, ?_⟩
  exact (referral_law .noMonths newBooks _ noOwners_newBooks referralMonth
    (Option.some_get referralMonth_isSome).symm).2.2

end PaymentDb

end KasbOKar
