import KasbOKar.Wallet.Tables

/-!
# The wallet service

`app/services/wallet_service.py`, one operation at a time: `addCharge`, `deduct` and
`expireStaleCharges`.  The ORM collects the changes of `deduct`'s loop and sends them with the
next flush, so the loop is modelled by the list of amounts it takes (`splitDeduction`) followed by
the statements of the flush (`flushTakes`).
-/

namespace KasbOKar

open ReadCommitted

namespace WalletDb

/-! ## Adding a charge -/

/-- `session.add(charge); await session.flush()`: the columns' range and the foreign key are
checked by the server. -/
def insertCharge (db : WalletDb) (c : WalletCharge) : Except PyError WalletDb :=
  if ¬ Int4 c.amountToman then .error .DataError
  else if c.shopOwnerId ∉ db.owners.ids then .error .IntegrityError
  else .ok (db.apply (.insertCharge c))

/-- `_apply_balance_delta`.  The value that `RETURNING` brings back is also assigned to the
Python object; if that makes the ORM write it again, it writes the value the row already has. -/
def applyBalanceDelta (db : WalletDb) (ownerId : ℕ) (deltaToman : ℤ) : Except PyError WalletDb :=
  match db.owners.find? ownerId with
  | none => .error .NoResultFound
  | some owner =>
    if Int4 (owner.walletBalanceToman + deltaToman) then
      .ok (db.apply (.addBalance ownerId deltaToman))
    else .error .DataError

/-- `add_charge`. -/
def addCharge (db : WalletDb) (settings : AdminSettings) (now : Datetime) (ownerId : ℕ)
    (amountToman : ℤ) (reason : WalletTransactionReason) (paymentId : Option ℕ)
    (validityMonths : Option ℤ) (reference : Option String) :
    Except PyError (WalletDb × WalletCharge) :=
  if amountToman ≤ 0 then .error .ValueError
  else do
    let months := validityMonths.getD settings.walletTopupValidityMonths
    let expiresAt ← datetimeAdd now (days (months * 30))
    let charge : WalletCharge :=
      { id := db.charges.nextId, shopOwnerId := ownerId, paymentId := paymentId,
        amountToman := amountToman, remainingToman := amountToman, expiresAt := expiresAt }
    let db ← db.insertCharge charge
    let db ← db.applyBalanceDelta ownerId amountToman
    let db := db.apply (.clearNotified ownerId)
    let db := db.apply (.insertTransaction
      { id := db.transactions.nextId, shopOwnerId := ownerId, walletChargeId := some charge.id,
        amountToman := amountToman, reason := reason, reference := reference })
    return (db, charge)

/-! ## Deducting -/

/-- The `WHERE` clause of `deduct`. -/
def deductible (ownerId : ℕ) (c : WalletCharge) : Bool :=
  c.shopOwnerId == ownerId && !c.isExpired && decide (0 < c.remainingToman)

/-- The `SELECT` of `deduct`: the owner's usable charges, earliest expiry first. -/
def deductibleCharges (db : WalletDb) (scan : Scan WalletCharge) (ownerId : ℕ) :
    List WalletCharge :=
  orderBy WalletCharge.expiresAt (db.charges.select scan (deductible ownerId))

/-- `sum(charge.remaining_toman for charge in charges)`. -/
def totalRemaining (charges : List WalletCharge) : ℤ :=
  (charges.map WalletCharge.remainingToman).sum

/-- The loop of `deduct`: what it takes from which charge, and `remaining_to_deduct` at the end. -/
def splitDeduction : List WalletCharge → ℤ → List (WalletCharge × ℤ) × ℤ
  | [], remainingToDeduct => ([], remainingToDeduct)
  | charge :: charges, remainingToDeduct =>
    if remainingToDeduct ≤ 0 then ([], remainingToDeduct)
    else
      let take := min charge.remainingToman remainingToDeduct
      let rest := splitDeduction charges (remainingToDeduct - take)
      ((charge, take) :: rest.1, rest.2)

/-- The ledger row of one amount taken. -/
def takeTransaction (ownerId : ℕ) (reason : WalletTransactionReason) (reference : Option String)
    (x : WalletCharge × ℤ) (id : ℕ) : WalletTransaction :=
  { id := id, shopOwnerId := ownerId, walletChargeId := some x.1.id, amountToman := -x.2,
    reason := reason, reference := reference }

/-- The flush of the loop's changes: `charge.remaining_toman -= take` and one ledger row for each
charge. -/
def flushTakes (ownerId : ℕ) (reason : WalletTransactionReason) (reference : Option String) :
    WalletDb → List (WalletCharge × ℤ) → WalletDb
  | db, [] => db
  | db, x :: xs =>
    flushTakes ownerId reason reference
      ((db.apply (.setRemaining x.1.id (x.1.remainingToman - x.2))).apply
        (.insertTransaction (takeTransaction ownerId reason reference x db.transactions.nextId))) xs

/-- `deduct`.  On the path that the source calls theoretically unreachable the pending changes of
the loop stay in the session, as they do there. -/
def deduct (db : WalletDb) (scan : Scan WalletCharge) (ownerId : ℕ) (amountToman : ℤ)
    (reason : WalletTransactionReason) (reference : Option String) :
    Except PyError (WalletDb × Bool) :=
  if amountToman ≤ 0 then .ok (db, true)
  else
    let charges := db.deductibleCharges scan ownerId
    if totalRemaining charges < amountToman then .ok (db, false)
    else
      let split := splitDeduction charges amountToman
      let db' := flushTakes ownerId reason reference db split.1
      if split.2 > 0 then .ok (db', false)
      else do
        let db' ← db'.applyBalanceDelta ownerId (-amountToman)
        return (db', true)

/-! ## The expiry sweep -/

/-- The `WHERE` clause of `expire_stale_charges`. -/
def stale (now : Datetime) (c : WalletCharge) : Bool :=
  !c.isExpired && decide (c.expiresAt ≤ now) && decide (0 < c.remainingToman)

/-- The `SELECT` of `expire_stale_charges`. -/
def staleCharges (db : WalletDb) (scan : Scan WalletCharge) (now : Datetime) : List WalletCharge :=
  db.charges.select scan (stale now)

/-- The ledger row of a charge that is closed. -/
def expiryTransaction (c : WalletCharge) (id : ℕ) : WalletTransaction :=
  { id := id, shopOwnerId := c.shopOwnerId, walletChargeId := some c.id,
    amountToman := -c.remainingToman, reason := .EXPIRY }

/-- One round of the loop of `expire_stale_charges`; `owners` is `owners_by_id`, loaded before
the loop. -/
def expireCharge (owners : Table ShopOwner) (db : WalletDb) (c : WalletCharge) : WalletDb :=
  match owners.find? c.shopOwnerId with
  | none => db
  | some owner =>
    ((db.apply (.lowerBalance owner.id c.remainingToman)).apply
      (.insertTransaction (expiryTransaction c db.transactions.nextId))).apply (.closeCharge c.id)

/-- `expire_stale_charges`: the tables afterwards and the number of charges closed. -/
def expireStaleCharges (db : WalletDb) (scan : Scan WalletCharge) (now : Datetime) : WalletDb × ℕ :=
  let charges := db.staleCharges scan now
  (charges.foldl (expireCharge db.owners) db,
    (charges.filter fun c => (db.owners.find? c.shopOwnerId).isSome).length)

/-! ## The statements the operations send

The same operations as lists of edits, for any choice of the new rows' keys. -/

/-- The ledger row of a new charge. -/
def chargeTransaction (c : WalletCharge) (reason : WalletTransactionReason)
    (reference : Option String) (id : ℕ) : WalletTransaction :=
  { id := id, shopOwnerId := c.shopOwnerId, walletChargeId := some c.id,
    amountToman := c.amountToman, reason := reason, reference := reference }

/-- The statements of `add_charge`. -/
def addChargeEdits (c : WalletCharge) (t : WalletTransaction) : List WalletEdit :=
  [.insertCharge c, .addBalance c.shopOwnerId c.amountToman, .clearNotified c.shopOwnerId,
    .insertTransaction t]

/-- The statements of the flush in `deduct`. -/
def takeEdits (ownerId : ℕ) (reason : WalletTransactionReason) (reference : Option String) :
    List (WalletCharge × ℤ) → List ℕ → List WalletEdit
  | x :: xs, id :: ids =>
    .setRemaining x.1.id (x.1.remainingToman - x.2) ::
      .insertTransaction (takeTransaction ownerId reason reference x id) ::
        takeEdits ownerId reason reference xs ids
  | _, _ => []

/-- The statements of one round of the sweep. -/
def expireEdits (c : WalletCharge) (id : ℕ) : List WalletEdit :=
  [.lowerBalance c.shopOwnerId c.remainingToman, .insertTransaction (expiryTransaction c id),
    .closeCharge c.id]

/-- The statements of all rounds of the sweep. -/
def sweepEdits : List WalletCharge → List ℕ → List WalletEdit
  | c :: cs, id :: ids => expireEdits c id ++ sweepEdits cs ids
  | _, _ => []

theorem get_transaction_eq_none {db : WalletDb} {i : ℕ} :
    Store.get db (.transaction i) = none ↔ i ∉ db.transactions.ids := by
  show (db.transactions.find? i).map WalletRecord.transaction = none ↔ _
  rw [Option.map_eq_none_iff, Table.find?_eq_none_iff]

theorem get_charge_eq_none {db : WalletDb} {i : ℕ} :
    Store.get db (.charge i) = none ↔ i ∉ db.charges.ids := by
  show (db.charges.find? i).map WalletRecord.charge = none ↔ _
  rw [Option.map_eq_none_iff, Table.find?_eq_none_iff]

/-- A flush sends `takeEdits` for some new keys. -/
theorem flushTakes_eq (ownerId : ℕ) (reason : WalletTransactionReason) (reference : Option String)
    (xs : List (WalletCharge × ℤ)) : ∀ db : WalletDb, ∃ ids, ids.length = xs.length ∧
      FreshIn db (takeEdits ownerId reason reference xs ids) ∧
      flushTakes ownerId reason reference db xs =
        applyAll db (takeEdits ownerId reason reference xs ids) := by
  induction xs with
  | nil => intro db; exact ⟨[], rfl, trivial, rfl⟩
  | cons x xs ih =>
    intro db
    obtain ⟨ids, hlen, hfresh, heq⟩ := ih
      ((db.apply (.setRemaining x.1.id (x.1.remainingToman - x.2))).apply
        (.insertTransaction (takeTransaction ownerId reason reference x db.transactions.nextId)))
    refine ⟨db.transactions.nextId :: ids, by rw [List.length_cons, List.length_cons, hlen],
      ⟨fun hn => Bool.noConfusion hn, fun _ => ?_, hfresh⟩, heq⟩
    exact get_transaction_eq_none.2 (Table.nextId_notMem db.transactions)

theorem expireCharge_eq {owners : Table ShopOwner} (db : WalletDb) {c : WalletCharge}
    (h : c.shopOwnerId ∈ owners.ids) :
    expireCharge owners db c = applyAll db (expireEdits c db.transactions.nextId) := by
  cases ho : owners.find? c.shopOwnerId with
  | none => exact absurd h (Table.find?_eq_none_iff.1 ho)
  | some o =>
    have hid : o.id = c.shopOwnerId := Table.id_of_find? ho
    simp only [expireCharge, ho, hid]
    rfl

/-- The loop of the sweep sends `sweepEdits` for some new keys. -/
theorem foldl_expireCharge_eq {owners : Table ShopOwner} (cs : List WalletCharge)
    (h : ∀ c ∈ cs, c.shopOwnerId ∈ owners.ids) : ∀ db : WalletDb, ∃ ids, ids.length = cs.length ∧
      FreshIn db (sweepEdits cs ids) ∧
      cs.foldl (expireCharge owners) db = applyAll db (sweepEdits cs ids) := by
  induction cs with
  | nil => intro db; exact ⟨[], rfl, trivial, rfl⟩
  | cons c cs ih =>
    intro db
    obtain ⟨ids, hlen, hfresh, heq⟩ := ih (fun c' hc' => h c' (List.mem_cons_of_mem _ hc'))
      (expireCharge owners db c)
    have hc := expireCharge_eq db (h c List.mem_cons_self)
    refine ⟨db.transactions.nextId :: ids, by rw [List.length_cons, List.length_cons, hlen], ?_, ?_⟩
    · rw [sweepEdits, freshIn_append, ← hc]
      exact ⟨⟨fun hn => Bool.noConfusion hn,
        fun _ => get_transaction_eq_none.2 (Table.nextId_notMem db.transactions),
        fun hn => Bool.noConfusion hn, trivial⟩, hfresh⟩
    · rw [List.foldl_cons, heq, hc, sweepEdits, applyAll_append]

/-! ## What the operations return -/

theorem applyBalanceDelta_ok {db db' : WalletDb} {ownerId : ℕ} {delta : ℤ}
    (h : db.applyBalanceDelta ownerId delta = .ok db') :
    (∃ o, db.owners.find? ownerId = some o ∧ Int4 (o.walletBalanceToman + delta)) ∧
      db' = db.apply (.addBalance ownerId delta) := by
  unfold applyBalanceDelta at h
  split at h
  · cases h
  · rename_i o ho
    split_ifs at h with hint
    cases h
    exact ⟨⟨o, ho, hint⟩, rfl⟩

/-- `add_charge` returns only with a positive amount for an existing owner, and then it has sent
`addChargeEdits`. -/
theorem addCharge_ok {db db' : WalletDb} {settings : AdminSettings} {now : Datetime} {ownerId : ℕ}
    {amount : ℤ} {reason : WalletTransactionReason} {paymentId : Option ℕ}
    {validityMonths : Option ℤ} {reference : Option String} {c : WalletCharge}
    (h : db.addCharge settings now ownerId amount reason paymentId validityMonths reference =
      .ok (db', c)) :
    0 < amount ∧ ownerId ∈ db.owners.ids ∧ c.id = db.charges.nextId ∧ c.shopOwnerId = ownerId ∧
      c.paymentId = paymentId ∧ c.amountToman = amount ∧ c.remainingToman = amount ∧
      c.isExpired = false ∧
      db' = applyAll db (addChargeEdits c (chargeTransaction c reason reference
        db.transactions.nextId)) := by
  unfold addCharge at h
  split_ifs at h with hpos
  obtain ⟨expiresAt, -, h⟩ := bind_ok h
  obtain ⟨db₁, h₁, h⟩ := bind_ok h
  obtain ⟨db₂, h₂, h⟩ := bind_ok h
  unfold insertCharge at h₁
  split_ifs at h₁ with hint howner
  cases h₁
  obtain ⟨-, rfl⟩ := applyBalanceDelta_ok h₂
  cases h
  exact ⟨not_le.1 hpos, howner, rfl, rfl, rfl, rfl, rfl, rfl, rfl⟩

/-! ## What the loop of `deduct` takes -/

theorem mem_deductibleCharges {db : WalletDb} {scan : Scan WalletCharge} {ownerId : ℕ}
    {c : WalletCharge} : c ∈ db.deductibleCharges scan ownerId ↔
      c ∈ db.charges.rows ∧ c.shopOwnerId = ownerId ∧ c.isExpired = false ∧ 0 < c.remainingToman := by
  unfold deductibleCharges
  rw [(orderBy_perm _ _).mem_iff, Table.mem_select]
  simp [deductible, and_assoc]

theorem deductibleCharges_nodup (db : WalletDb) (scan : Scan WalletCharge) (ownerId : ℕ) :
    ((db.deductibleCharges scan ownerId).map WalletCharge.id).Nodup := by
  unfold deductibleCharges
  rw [((orderBy_perm _ _).map WalletCharge.id).nodup_iff]
  exact Table.select_nodup _ _ _

theorem splitDeduction_sum (charges : List WalletCharge) :
    ∀ amount, ((splitDeduction charges amount).1.map Prod.snd).sum + (splitDeduction charges amount).2 =
      amount := by
  induction charges with
  | nil => intro amount; simp [splitDeduction]
  | cons c cs ih =>
    intro amount
    unfold splitDeduction
    split_ifs
    · simp
    · have := ih (amount - min c.remainingToman amount)
      simp only [List.map_cons, List.sum_cons]
      omega

/-- The loop touches a prefix of the charges. -/
theorem splitDeduction_initial (charges : List WalletCharge) :
    ∀ amount, (splitDeduction charges amount).1.map Prod.fst <+: charges := by
  induction charges with
  | nil => intro amount; simp [splitDeduction]
  | cons c cs ih =>
    intro amount
    unfold splitDeduction
    split_ifs
    · exact List.nil_prefix
    · simp only [List.map_cons]
      exact (List.prefix_cons_inj c).2 (ih _)

theorem splitDeduction_take {charges : List WalletCharge}
    (hpos : ∀ c ∈ charges, 0 < c.remainingToman) :
    ∀ amount, ∀ x ∈ (splitDeduction charges amount).1, 0 < x.2 ∧ x.2 ≤ x.1.remainingToman := by
  induction charges with
  | nil => intro amount x hx; cases hx
  | cons c cs ih =>
    intro amount x hx
    unfold splitDeduction at hx
    split_ifs at hx
    · cases hx
    · have hc := hpos c List.mem_cons_self
      rcases List.mem_cons.1 hx with rfl | hx
      · simp only
        omega
      · exact ih (fun c' hc' => hpos c' (List.mem_cons_of_mem _ hc')) _ x hx

theorem splitDeduction_of_nonpos (charges : List WalletCharge) {amount : ℤ} (h : amount ≤ 0) :
    splitDeduction charges amount = ([], amount) := by
  cases charges with
  | nil => rfl
  | cons c cs => unfold splitDeduction; rw [if_pos h]

/-- When the charges suffice, nothing is left to deduct. -/
theorem splitDeduction_left (charges : List WalletCharge) :
    ∀ amount, 0 ≤ amount → amount ≤ totalRemaining charges →
      (splitDeduction charges amount).2 = 0 := by
  induction charges with
  | nil =>
    intro amount h0 h
    unfold totalRemaining at h
    rw [List.map_nil, List.sum_nil] at h
    exact le_antisymm h h0
  | cons c cs ih =>
    intro amount h0 h
    unfold splitDeduction
    split_ifs with hle
    · exact le_antisymm hle h0
    · by_cases hc : c.remainingToman ≤ amount
      · refine ih _ (by rw [min_eq_left hc]; omega) ?_
        unfold totalRemaining at h ⊢
        rw [List.map_cons, List.sum_cons] at h
        rw [min_eq_left hc]
        omega
      · show (splitDeduction cs (amount - min c.remainingToman amount)).2 = 0
        rw [min_eq_right (by omega), sub_self, splitDeduction_of_nonpos cs le_rfl]

end WalletDb

end KasbOKar
