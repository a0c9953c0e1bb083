import KasbOKar.Wallet.Transactions

/-!
# The trial credit

`cb_activate_trial` gives a new owner some credit.  Whether the owner has had any is asked with a plain
`SELECT`, before the charge is inserted; there is neither a lock nor a unique index behind it.  Two
taps on the button that overlap are both credited (`trial_twice`).  `trial_once` says that this takes
a `SELECT` that is out of date when its transaction commits.
-/

namespace KasbOKar

open ReadCommitted

namespace WalletDb

/-- `get_by_telegram_id`. -/
def ownerByTelegramId (db : WalletDb) (telegramId : ℤ) : Option ShopOwner :=
  db.owners.rows.find? fun o => o.telegramId == telegramId

/-- `has_ever_had_wallet_activity`. -/
def hasEverHadWalletActivity (db : WalletDb) (ownerId : ℕ) : Bool :=
  db.charges.rows.any fun c => c.shopOwnerId == ownerId

/-- `cb_activate_trial`. -/
def cbActivateTrial (db : WalletDb) (settings : AdminSettings) (now : Datetime) (telegramId : ℤ) :
    Except PyError WalletDb :=
  match db.ownerByTelegramId telegramId with
  | none => .error .AttributeError
  | some owner =>
    if db.hasEverHadWalletActivity owner.id then .ok db
    else do
      let (db, _) ← db.addCharge settings now owner.id settings.walletTrialCreditToman .TRIAL none none
        none
      return db

/-- `cb_activate_trial` as a transaction: two plain `SELECT`s, then `add_charge`. -/
def cbActivateTrialTx (settings : AdminSettings) (now : Datetime) (telegramId : ℤ) : WalletProg :=
  .read fun db =>
    match db.ownerByTelegramId telegramId with
    | none => .rollback
    | some owner =>
      .read fun db =>
        if db.hasEverHadWalletActivity owner.id then .commit (.ok false)
        else addChargeTx settings now owner.id settings.walletTrialCreditToman .TRIAL none none none

/-- Alone, the transaction is the function. -/
theorem solo_cbActivateTrialTx (db : WalletDb) (settings : AdminSettings) (now : Datetime)
    (telegramId : ℤ) :
    (solo serial (cbActivateTrialTx settings now telegramId) db).map Prod.fst =
      (db.cbActivateTrial settings now telegramId).toOption := by
  unfold cbActivateTrialTx cbActivateTrial
  rw [solo]
  cases db.ownerByTelegramId telegramId with
  | none => rfl
  | some owner =>
    dsimp only
    rw [solo]
    split_ifs
    · rfl
    · rw [solo_addChargeTx]
      cases db.addCharge settings now owner.id settings.walletTrialCreditToman .TRIAL none none none <;> rfl

/-! ## Overlapping taps -/

/-- The `TRIAL` rows of an owner. -/
def trialsOf (db : WalletDb) (ownerId : ℕ) : List WalletTransaction :=
  db.transactions.rows.filter fun t => t.shopOwnerId == ownerId && t.reason == .TRIAL

/-- What a transaction for the owner has sent when it commits: nothing, or the credit, after a `SELECT`
that found no charge. -/
def TrialSent (ownerId : ℕ) (d : WalletDb) (rs : List WalletDb) (es : List WalletEdit) (r : WalletReply) :
    Prop :=
  (r = .ok false ∧ es = []) ∨
    ∃ checked selected first c id, rs = [checked, selected, first] ∧
      selected.hasEverHadWalletActivity ownerId = false ∧ r = .charge c ∧ c.shopOwnerId = ownerId ∧
      es = addChargeEdits c (chargeTransaction c .TRIAL none id) ∧ FreshIn d es

/-- The telegram id belongs to this owner. -/
def Belongs (telegramId : ℤ) (ownerId : ℕ) (d : WalletDb) : Prop :=
  ∀ o ∈ d.owners.rows, o.telegramId = telegramId → o.id = ownerId

theorem wp_cbActivateTrialTx {ownerId : ℕ} (settings : AdminSettings) (now : Datetime) (telegramId : ℤ)
    (d : WalletDb) :
    wp (Belongs telegramId ownerId) (TrialSent ownerId) (cbActivateTrialTx settings now telegramId)
      [] [] [] d := by
  intro d₁ hJ _
  dsimp only
  split
  · trivial
  · rename_i owner howner
    have hid : owner.id = ownerId :=
      hJ owner (List.mem_of_find?_eq_some howner) (by simpa using List.find?_some howner)
    rw [hid]
    intro d₂ _ _
    dsimp only
    split_ifs with hactivity
    · exact fun _ _ _ _ => Or.inl ⟨rfl, rfl⟩
    · refine wp_addChargeTx_after fun d' checked c id hsent => ?_
      exact Or.inr ⟨checked, _, _, c, id, rfl, by simpa using hactivity, rfl, hsent.charge_owner, rfl,
        hsent.fresh⟩

/-! ### The credit in the tables -/

/-- The columns of an owner that the wallet leaves alone. -/
def ownerKeys (db : WalletDb) : List (ℕ × ℤ × String × Option ℕ) :=
  db.owners.rows.map fun o => (o.id, o.telegramId, o.referralCode, o.referredById)

theorem ownerKeys_apply (db : WalletDb) (e : WalletEdit) : (db.apply e).ownerKeys = db.ownerKeys := by
  cases e with
  | insertCharge c => rfl
  | setRemaining i n => rfl
  | closeCharge i => rfl
  | insertTransaction t => rfl
  | addBalance i n =>
    exact Table.map_modify_of_eq (f := fun o : ShopOwner =>
      { o with walletBalanceToman := o.walletBalanceToman + n }) (fun _ => rfl) fun _ => rfl
  | lowerBalance i n =>
    exact Table.map_modify_of_eq (f := fun o : ShopOwner =>
      { o with walletBalanceToman := max 0 (o.walletBalanceToman - n) }) (fun _ => rfl) fun _ => rfl
  | clearNotified i =>
    exact Table.map_modify_of_eq (f := fun o : ShopOwner =>
      { o with walletEmptyNotifiedAt := none, walletLowBalanceNotifiedAt := none }) (fun _ => rfl)
      fun _ => rfl

theorem ownerKeys_applyAll (es : List WalletEdit) :
    ∀ db : WalletDb, (applyAll db es).ownerKeys = db.ownerKeys := by
  induction es with
  | nil => intro db; rfl
  | cons e es ih =>
    intro db
    rw [applyAll_cons, ih]
    exact ownerKeys_apply db e

theorem Belongs.applyAll {telegramId : ℤ} {ownerId : ℕ} {d : WalletDb} (h : Belongs telegramId ownerId d)
    (es : List WalletEdit) : Belongs telegramId ownerId (applyAll d es) := by
  intro o ho htg
  have hkey : (o.id, o.telegramId, o.referralCode, o.referredById) ∈ (ReadCommitted.applyAll d es).ownerKeys :=
    List.mem_map.2 ⟨o, ho, rfl⟩
  rw [ownerKeys_applyAll] at hkey
  obtain ⟨o', ho', hkey⟩ := List.mem_map.1 hkey
  simp only [Prod.mk.injEq] at hkey
  rw [← hkey.1]
  exact h o' ho' (hkey.2.1.trans htg)

/-- The credit adds one `TRIAL` row and a charge. -/
theorem trialsOf_credit {ownerId id : ℕ} {d : WalletDb} {c : WalletCharge} (howner : c.shopOwnerId = ownerId)
    (hfresh : FreshIn d (addChargeEdits c (chargeTransaction c .TRIAL none id))) :
    ((applyAll d (addChargeEdits c (chargeTransaction c .TRIAL none id))).trialsOf ownerId).length =
        (d.trialsOf ownerId).length + 1 ∧
      (applyAll d (addChargeEdits c (chargeTransaction c .TRIAL none id))).hasEverHadWalletActivity ownerId =
        true := by
  obtain ⟨hcharge, -, -, htransaction, -⟩ := hfresh
  have hc : Keyed.id c ∉ d.charges.ids := get_charge_eq_none.1 (hcharge rfl)
  have ht : Keyed.id (chargeTransaction c .TRIAL none id) ∉ d.transactions.ids :=
    get_transaction_eq_none.1 (htransaction rfl)
  constructor
  · show ((d.transactions.insert (chargeTransaction c .TRIAL none id)).rows.filter _).length = _
    rw [Table.insert_rows ht, List.filter_append, List.length_append, List.filter_cons_of_pos]
    · rfl
    · simp [chargeTransaction, howner]
  · show (d.charges.insert c).rows.any _ = true
    rw [Table.insert_rows hc, List.any_append, List.any_cons, howner, beq_self_eq_true, Bool.true_or,
      Bool.or_true]

/-! ### Every interleaving -/

section Interleaving

variable {ι : Type} {ownerId : ℕ} {telegramId : ℤ}

/-- When a transaction commits a credit, the answer of its `SELECT` is still right. -/
def activityCurrent (ownerId : ℕ) (c : Config ι WalletDb WalletEdit WalletRow WalletReply) :
    Act ι → Bool
  | .next i _ =>
    match (c.tx i).status, (c.tx i).reads with
    | .running (.commit (.charge _)), [_, selected, _] =>
      selected.hasEverHadWalletActivity ownerId == c.db.hasEverHadWalletActivity ownerId
    | _, _ => true
  | _ => true

theorem activityCurrent_commit {c : Config ι WalletDb WalletEdit WalletRow WalletReply} {i : ι} {n : ℕ}
    {charge : WalletCharge} {checked selected first : WalletDb}
    (h : activityCurrent ownerId c (.next i n) = true)
    (hi : (c.tx i).status = .running (.commit (.charge charge)))
    (hr : (c.tx i).reads = [checked, selected, first]) :
    c.db.hasEverHadWalletActivity ownerId = selected.hasEverHadWalletActivity ownerId := by
  unfold activityCurrent at h
  dsimp only at h
  rw [hi, hr] at h
  exact (beq_iff_eq.1 h).symm

/-- At most one credit, and where there is one there is a charge. -/
structure Credited (telegramId : ℤ) (ownerId : ℕ) (d : WalletDb) : Prop where
  owner : Belongs telegramId ownerId d
  once : (d.trialsOf ownerId).length ≤ 1
  charge : d.trialsOf ownerId ≠ [] → d.hasEverHadWalletActivity ownerId = true

variable [Fintype ι] [DecidableEq ι]

/-- **The trial credit is given once.** In every interleaving of any number of taps of one owner, with
any of them rolled back, in which the `SELECT` of a transaction that commits a credit is not out of
date by then, at most one `TRIAL` row of the owner is committed. -/
theorem trial_once (telegramId : ℤ) (ownerId : ℕ) (settings : ι → AdminSettings) (now : ι → Datetime)
    (db : WalletDb) (howner : Belongs telegramId ownerId db) (hnone : db.trialsOf ownerId = [])
    (as : List (Act ι)) (c : Config ι WalletDb WalletEdit WalletRow WalletReply)
    (hcurrent : Runs.Along Config.step (fun c a => activityCurrent ownerId c a = true)
      (start db fun i => cbActivateTrialTx (settings i) (now i) telegramId) as)
    (hrun : Runs.exec Config.step
      (start db fun i => cbActivateTrialTx (settings i) (now i) telegramId) as = some c) :
    (c.db.trialsOf ownerId).length ≤ 1 := by
  have hstart : Credited telegramId ownerId db :=
    ⟨howner, by rw [hnone]; exact Nat.zero_le 1, fun h => absurd hnone h⟩
  have hinv := inv_exec (C := fun c a => activityCurrent ownerId c a = true)
    (J := Belongs telegramId ownerId) (Q := fun _ => TrialSent ownerId)
    (G := fun d _ => Credited telegramId ownerId d) (fun _ _ h => h.owner)
    (fun c i n r hC hi hG hQ => ?_) hstart
    (fun i => wp_cbActivateTrialTx (settings i) (now i) telegramId db) hcurrent hrun
  · exact hinv.global.once
  · unfold Config.view
    obtain ⟨-, hes⟩ | ⟨checked, selected, first, charge, id, hreads, hselected, rfl, hcharge, hes, hfresh⟩ := hQ
    · rw [hes]
      exact hG
    · rw [hes] at hfresh ⊢
      have hnow : c.db.hasEverHadWalletActivity ownerId = false := by
        rw [activityCurrent_commit hC hi hreads, hselected]
      -- no charge, so no credit before this one
      have hempty : c.db.trialsOf ownerId = [] := by
        by_contra h
        rw [hG.charge h] at hnow
        cases hnow
      obtain ⟨hlength, hactivity⟩ := trialsOf_credit hcharge hfresh
      refine ⟨hG.owner.applyAll _, ?_, fun _ => hactivity⟩
      rw [hlength, hempty]
      exact Nat.le_refl 1

end Interleaving

/-- Two taps of the first owner. -/
def twoTaps : Bool → WalletProg := fun _ => cbActivateTrialTx {} 0 11

/-- The statements of a tap up to its `SELECT`. -/
def tapSelects (i : Bool) : List (Act Bool) := [.next i 0, .next i 0]

/-- The statements after it: the credit, with these keys, and the `COMMIT`. -/
def tapCredits (i : Bool) (n : ℕ) : List (Act Bool) :=
  [.next i 0, .next i n, .next i 0, .next i 0, .next i 0, .next i n, .next i 0]

/-- The second tap comes when the first has committed. -/
def tapsInTurn : List (Act Bool) :=
  tapSelects false ++ tapCredits false 1 ++ tapSelects true ++ [.next true 0]

/-- Both taps have asked before either has committed. -/
def tapsAtOnce : List (Act Bool) :=
  tapSelects false ++ tapSelects true ++ tapCredits false 1 ++ tapCredits true 2

theorem belongs_twoOwners : Belongs 11 1 (ofOwners twoOwners) := by
  unfold Belongs
  decide +kernel

theorem tapsInTurn_isSome :
    (Runs.exec Config.step (start (ofOwners twoOwners) twoTaps) tapsInTurn).isSome = true := by
  decide +kernel

theorem trial_once_inTurn :
    ∃ c, Runs.exec Config.step (start (ofOwners twoOwners) twoTaps) tapsInTurn = some c ∧
      (∀ i, (c.outcome i).isSome = true) ∧ c.db.balance 1 = 50000 ∧ (c.db.trialsOf 1).length ≤ 1 :=
  ⟨_, (Option.some_get tapsInTurn_isSome).symm, by decide +kernel, by decide +kernel,
    trial_once 11 1 (fun _ => {}) (fun _ => 0) (ofOwners twoOwners) belongs_twoOwners rfl tapsInTurn _
      (by decide +kernel) (Option.some_get tapsInTurn_isSome).symm⟩

theorem tapsAtOnce_isSome :
    (Runs.exec Config.step (start (ofOwners twoOwners) twoTaps) tapsAtOnce).isSome = true := by
  decide +kernel

/-- Both taps are credited. -/
theorem trial_twice :
    ∃ c, Runs.exec Config.step (start (ofOwners twoOwners) twoTaps) tapsAtOnce = some c ∧
      (∀ i, (c.outcome i).isSome = true) ∧ (c.db.trialsOf 1).length = 2 ∧ c.db.balance 1 = 100000 :=
  ⟨_, (Option.some_get tapsAtOnce_isSome).symm, by decide +kernel, by decide +kernel, by decide +kernel⟩

end WalletDb

end KasbOKar
