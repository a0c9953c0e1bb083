import KasbOKar.Wallet.Ledger

/-!
# The wallet operations as transactions

The same three operations, statement by statement, so that other transactions can commit in
between.  `solo_addChargeTx`, `solo_deductTx` and `solo_expireStaleChargesTx` say that a
transaction that runs alone does what the function of `Wallet.Service` does; the `wp` lemmas say
what it has sent to the server by the time it commits, whatever the others do meanwhile.
-/

namespace KasbOKar

open ReadCommitted

/-- What a wallet transaction returns. -/
inductive WalletReply where
  | charge (c : WalletCharge)
  | ok (b : Bool)
  | count (n : ℕ)
  deriving DecidableEq

abbrev WalletProg := Prog WalletDb WalletEdit WalletRow WalletReply

namespace WalletDb

/-! ## The programs -/

/-- `_apply_balance_delta`: the `UPDATE` waits for the owner's row and acts on its newest version. -/
def applyBalanceDeltaTx (ownerId : ℕ) (delta : ℤ) (k : WalletProg) : WalletProg :=
  .lock (.owner ownerId) fun db =>
    match db.applyBalanceDelta ownerId delta with
    | .error _ => .rollback
    | .ok _ => .exec (.addBalance ownerId delta) k

/-- `add_charge`.  The first `read` is the foreign key check of the `INSERT`. -/
def addChargeTx (settings : AdminSettings) (now : Datetime) (ownerId : ℕ) (amountToman : ℤ)
    (reason : WalletTransactionReason) (paymentId : Option ℕ) (validityMonths : Option ℤ)
    (reference : Option String) : WalletProg :=
  if amountToman ≤ 0 then .rollback
  else
    match datetimeAdd now (days (validityMonths.getD settings.walletTopupValidityMonths * 30)) with
    | .error _ => .rollback
    | .ok expiresAt =>
      let charge : ℕ → WalletCharge := fun id =>
        { id := id, shopOwnerId := ownerId, paymentId := paymentId, amountToman := amountToman,
          remainingToman := amountToman, expiresAt := expiresAt }
      .read fun db =>
        match db.insertCharge (charge db.charges.nextId) with
        | .error _ => .rollback
        | .ok _ =>
          .insert (fun id => .insertCharge (charge id)) fun chargeId =>
            applyBalanceDeltaTx ownerId amountToman <|
              .exec (.clearNotified ownerId) <|
                .insert (fun id => .insertTransaction
                  (chargeTransaction (charge chargeId) reason reference id)) fun _ =>
                    .commit (.charge (charge chargeId))

/-- The row locks of `SELECT … FOR UPDATE`: each candidate row is locked in turn, its newest
version is checked against the `WHERE` clause again, and that version is returned. -/
def lockCharges (ownerId : ℕ) (k : List WalletCharge → WalletProg) :
    List WalletCharge → List WalletCharge → WalletProg
  | [], locked => k locked
  | c :: cs, locked =>
    .lock (.charge c.id) fun db =>
      match db.charges.find? c.id with
      | none => lockCharges ownerId k cs locked
      | some c' =>
        if deductible ownerId c' then lockCharges ownerId k cs (locked ++ [c'])
        else lockCharges ownerId k cs locked

/-- The flush of the loop's changes. -/
def flushTakesTx (ownerId : ℕ) (reason : WalletTransactionReason) (reference : Option String)
    (k : WalletProg) : List (WalletCharge × ℤ) → WalletProg
  | [] => k
  | x :: xs =>
    .exec (.setRemaining x.1.id (x.1.remainingToman - x.2)) <|
      .insert (fun id => .insertTransaction (takeTransaction ownerId reason reference x id)) fun _ =>
        flushTakesTx ownerId reason reference k xs

/-- `deduct` after its `SELECT … FOR UPDATE`. -/
def deductFrom (ownerId : ℕ) (amountToman : ℤ) (reason : WalletTransactionReason)
    (reference : Option String) (charges : List WalletCharge) : WalletProg :=
  if totalRemaining charges < amountToman then .commit (.ok false)
  else
    let split := splitDeduction charges amountToman
    flushTakesTx ownerId reason reference
      (if split.2 > 0 then .commit (.ok false)
      else applyBalanceDeltaTx ownerId (-amountToman) (.commit (.ok true))) split.1

/-- `deduct`. -/
def deductTx (scan : Scan WalletCharge) (ownerId : ℕ) (amountToman : ℤ)
    (reason : WalletTransactionReason) (reference : Option String) : WalletProg :=
  if amountToman ≤ 0 then .commit (.ok true)
  else
    .read fun db =>
      lockCharges ownerId (deductFrom ownerId amountToman reason reference)
        (db.deductibleCharges scan ownerId) []

/-- The loop of `expire_stale_charges`. -/
def expireChargesTx (owners : Table ShopOwner) : List WalletCharge → ℕ → WalletProg
  | [], count => .commit (.count count)
  | c :: cs, count =>
    match owners.find? c.shopOwnerId with
    | none => expireChargesTx owners cs count
    | some owner =>
      .exec (.lowerBalance owner.id c.remainingToman) <|
        .insert (fun id => .insertTransaction (expiryTransaction c id)) fun _ =>
          .exec (.closeCharge c.id) (expireChargesTx owners cs (count + 1))

/-- `expire_stale_charges`: two plain `SELECT`s, then the loop. -/
def expireStaleChargesTx (scan : Scan WalletCharge) (now : Datetime) : WalletProg :=
  .read fun db => .read fun db' => expireChargesTx db'.owners (db.staleCharges scan now) 0

/-! ## A transaction alone -/

/-- The keys that a serial column hands out. -/
def serial (db : WalletDb) (e : ℕ → WalletEdit) : ℕ :=
  match e 0 with
  | .insertCharge _ => db.charges.nextId
  | .insertTransaction _ => db.transactions.nextId
  | _ => 0

theorem solo_applyBalanceDeltaTx (ownerId : ℕ) (delta : ℤ) (k : WalletProg) (db : WalletDb) :
    solo serial (applyBalanceDeltaTx ownerId delta k) db =
      match db.applyBalanceDelta ownerId delta with
      | .error _ => none
      | .ok db' => solo serial k db' := by
  unfold applyBalanceDeltaTx
  rw [solo]
  cases h : db.applyBalanceDelta ownerId delta with
  | error e => rfl
  | ok db' =>
    obtain ⟨-, rfl⟩ := applyBalanceDelta_ok h
    rfl

/-- Alone, the transaction is the function. -/
theorem solo_addChargeTx (db : WalletDb) (settings : AdminSettings) (now : Datetime) (ownerId : ℕ)
    (amount : ℤ) (reason : WalletTransactionReason) (paymentId : Option ℕ)
    (validityMonths : Option ℤ) (reference : Option String) :
    solo serial (addChargeTx settings now ownerId amount reason paymentId validityMonths reference)
        db =
      match db.addCharge settings now ownerId amount reason paymentId validityMonths reference with
      | .error _ => none
      | .ok (db', c) => some (db', .charge c) := by
  unfold addChargeTx addCharge
  split_ifs with h0
  · rfl
  cases ht : datetimeAdd now (days (validityMonths.getD settings.walletTopupValidityMonths * 30)) with
  | error e => simp only [ht, bind, Except.bind]; rfl
  | ok expiresAt =>
    simp only [ht, bind, Except.bind, solo]
    split
    · rename_i hins
      simp only [hins]
      rfl
    · rename_i db₁ hins
      simp only [hins]
      unfold insertCharge at hins
      split_ifs at hins
      cases hins
      rw [solo, solo_applyBalanceDeltaTx]
      show (match (db.apply _).applyBalanceDelta _ _ with
        | .error _ => _
        | .ok _ => _) = _
      split
      · rename_i hbal
        simp only [serial] at hbal
        simp only [hbal]
      · rename_i db₂ hbal
        simp only [serial] at hbal
        simp only [hbal]
        rfl

theorem solo_lockCharges {ownerId : ℕ} {k : List WalletCharge → WalletProg} {db : WalletDb}
    (cs : List WalletCharge) (h : ∀ c ∈ cs, db.charges.find? c.id = some c ∧ deductible ownerId c) :
    ∀ locked, solo serial (lockCharges ownerId k cs locked) db = solo serial (k (locked ++ cs)) db := by
  induction cs with
  | nil => intro locked; rw [lockCharges, List.append_nil]
  | cons c cs ih =>
    intro locked
    obtain ⟨hc, hd⟩ := h c List.mem_cons_self
    rw [lockCharges, solo, hc]
    simp only [hd, if_true]
    rw [ih fun c' hc' => h c' (List.mem_cons_of_mem _ hc'), List.append_assoc, List.singleton_append]

theorem solo_flushTakesTx {ownerId : ℕ} {reason : WalletTransactionReason}
    {reference : Option String} {k : WalletProg} (xs : List (WalletCharge × ℤ)) :
    ∀ db, solo serial (flushTakesTx ownerId reason reference k xs) db =
      solo serial k (flushTakes ownerId reason reference db xs) := by
  induction xs with
  | nil => intro db; rfl
  | cons x xs ih =>
    intro db
    rw [flushTakesTx, solo, solo, ih]
    rfl

/-- Alone, the transaction is the function. -/
theorem solo_deductTx (db : WalletDb) (scan : Scan WalletCharge) (ownerId : ℕ) (amount : ℤ)
    (reason : WalletTransactionReason) (reference : Option String) :
    solo serial (deductTx scan ownerId amount reason reference) db =
      match db.deduct scan ownerId amount reason reference with
      | .error _ => none
      | .ok (db', b) => some (db', .ok b) := by
  unfold deductTx
  simp only [deduct]
  split_ifs with h0 hlt hleft
  · rfl
  all_goals
    rw [solo, solo_lockCharges _ fun c hc => ?_, List.nil_append]
    swap
    · obtain ⟨hrow, hown, hexp, hpos⟩ := mem_deductibleCharges.1 hc
      exact ⟨Table.find?_of_mem hrow, by simp [deductible, hown, hexp, hpos]⟩
  · rw [deductFrom, if_pos hlt]
    rfl
  · simp only [deductFrom, if_neg hlt, solo_flushTakesTx, if_pos hleft]
    rfl
  · simp only [deductFrom, if_neg hlt, solo_flushTakesTx, if_neg hleft, solo_applyBalanceDeltaTx,
      bind, Except.bind]
    split
    · rename_i hbal
      rw [hbal]
    · rename_i db' hbal
      rw [hbal]
      rfl

theorem solo_expireChargesTx {owners : Table ShopOwner} (cs : List WalletCharge) :
    ∀ (count : ℕ) (db : WalletDb), solo serial (expireChargesTx owners cs count) db =
      some (cs.foldl (expireCharge owners) db,
        .count (count + (cs.filter fun c => (owners.find? c.shopOwnerId).isSome).length)) := by
  induction cs with
  | nil => intro count db; rfl
  | cons c cs ih =>
    intro count db
    rw [expireChargesTx, List.foldl_cons, List.filter_cons]
    cases ho : owners.find? c.shopOwnerId with
    | none => simp [expireCharge, ho, ih]
    | some o =>
      simp only [solo, ih, expireCharge, ho, Option.isSome_some, if_true, List.length_cons]
      rw [Nat.add_assoc, Nat.add_comm 1]
      rfl

/-- Alone, the transaction is the function. -/
theorem solo_expireStaleChargesTx (db : WalletDb) (scan : Scan WalletCharge) (now : Datetime) :
    solo serial (expireStaleChargesTx scan now) db =
      some ((db.expireStaleCharges scan now).1, .count (db.expireStaleCharges scan now).2) := by
  rw [expireStaleChargesTx, solo, solo, solo_expireChargesTx, Nat.zero_add]
  rfl

/-! ## What a transaction has sent when it commits -/

theorem ids_owners_apply (db : WalletDb) (e : WalletEdit) :
    (db.apply e).owners.ids = db.owners.ids := by
  cases e <;> simp [apply]

theorem ids_owners_applyAll (es : List WalletEdit) :
    ∀ db : WalletDb, (applyAll db es).owners.ids = db.owners.ids := by
  induction es with
  | nil => intro db; rfl
  | cons e es ih =>
    intro db
    rw [applyAll_cons, ih]
    exact ids_owners_apply db e

theorem mem_ids_of_same {L : List WalletRow} {d d' : WalletDb} {ownerId : ℕ} (hs : Same L d d')
    (hL : .owner ownerId ∈ L) (h : ownerId ∈ d.owners.ids) : ownerId ∈ d'.owners.ids := by
  have hget := get_owner_eq (hs _ hL)
  by_contra hno
  rw [← Table.find?_eq_none_iff, hget, Table.find?_eq_none_iff] at hno
  exact hno h

section Wp

variable {J : WalletDb → Prop} {Q : WalletDb → List WalletDb → List WalletEdit → WalletReply → Prop}
  {ownerId : ℕ} {k : WalletProg} {L : List WalletRow} {rs : List WalletDb} {es : List WalletEdit}
  {d : WalletDb}

/-- After the `UPDATE` the owner's row exists and is locked. -/
theorem wp_applyBalanceDeltaTx {delta : ℤ}
    (hk : ∀ L' d', L ⊆ L' → Same L d d' → .owner ownerId ∈ L' → ownerId ∈ d'.owners.ids →
      wp J Q k L' rs (es ++ [.addBalance ownerId delta]) d') :
    wp J Q (applyBalanceDeltaTx ownerId delta k) L rs es d := by
  intro d₁ _ hs₁
  cases hok : (applyAll d₁ es).applyBalanceDelta ownerId delta with
  | error e =>
    simp only [hok]
    trivial
  | ok db' =>
    simp only [hok]
    obtain ⟨⟨o, ho, -⟩, -⟩ := applyBalanceDelta_ok hok
    have hmem : ownerId ∈ d₁.owners.ids := by
      rw [← ids_owners_applyAll es d₁]
      exact Table.mem_ids.2 ⟨o, Table.find?_eq_some_iff.1 ho⟩
    intro d₂ _ hs₂
    have hown : WalletRow.owner ownerId ∈ WalletRow.owner ownerId :: L := List.mem_cons_self
    refine hk _ d₂ (fun key hkey => List.mem_cons_of_mem _ (List.mem_cons_of_mem _ hkey))
      (hs₁.trans (hs₂.mono fun key hkey => List.mem_cons_of_mem _ hkey)) List.mem_cons_self
      (mem_ids_of_same hs₂ hown hmem)

/-- The flush sends `takeEdits`; rows locked before it stay as they are. -/
theorem wp_flushTakesTx {reason : WalletTransactionReason} {reference : Option String}
    (xs : List (WalletCharge × ℤ)) :
    ∀ {L : List WalletRow} {es : List WalletEdit} {d : WalletDb},
      (∀ ids L' d', ids.length = xs.length → L ⊆ L' → Same L d d' →
        wp J Q k L' rs (es ++ takeEdits ownerId reason reference xs ids) d') →
      wp J Q (flushTakesTx ownerId reason reference k xs) L rs es d := by
  induction xs with
  | nil =>
    intro L es d hk
    have := hk [] L d rfl (fun _ h => h) (Same.refl _ _)
    rwa [show takeEdits ownerId reason reference [] [] = [] from rfl, List.append_nil] at this
  | cons x xs ih =>
    intro L es d hk d₁ _ hs₁ d₂ _ hs₂ n
    refine ih fun ids L' d' hlen hL hs => ?_
    have hs₂' : Same L d₁ d₂ := hs₂.mono fun key hkey => List.mem_cons_of_mem _ hkey
    have hsub : L ⊆ L' := fun key hkey => hL (List.mem_cons_of_mem _ (List.mem_cons_of_mem _ hkey))
    have hs' : Same L d₂ d' :=
      hs.mono fun key hkey => List.mem_cons_of_mem _ (List.mem_cons_of_mem _ hkey)
    have := hk (n :: ids) L' d' (by rw [List.length_cons, List.length_cons, hlen]) hsub
      (hs₁.trans (hs₂'.trans hs'))
    rwa [takeEdits, List.append_cons, List.append_cons] at this

/-- The rows that `SELECT … FOR UPDATE` returned: locked, as they are in the database, and
satisfying the `WHERE` clause. -/
structure Held (ownerId : ℕ) (charges : List WalletCharge) (L : List WalletRow) (d : WalletDb) :
    Prop where
  locked : ∀ c ∈ charges, WalletRow.charge c.id ∈ L
  row : ∀ c ∈ charges, d.charges.find? c.id = some c
  deductible : ∀ c ∈ charges, deductible ownerId c
  nodup : (charges.map WalletCharge.id).Nodup

theorem Held.same {charges : List WalletCharge} {L L' : List WalletRow} {d d' : WalletDb}
    (h : Held ownerId charges L d) (hL : L ⊆ L') (hs : Same L d d') :
    Held ownerId charges L' d' where
  locked c hc := hL (h.locked c hc)
  row c hc := (get_charge_eq (hs _ (h.locked c hc))).trans (h.row c hc)
  deductible := h.deductible
  nodup := h.nodup

theorem wp_lockCharges {k : List WalletCharge → WalletProg} (cs : List WalletCharge) :
    ∀ {locked : List WalletCharge} {L : List WalletRow} {d : WalletDb},
      ((locked ++ cs).map WalletCharge.id).Nodup → Held ownerId locked L d →
      (∀ charges L' d', Held ownerId charges L' d' → wp J Q (k charges) L' rs [] d') →
      wp J Q (lockCharges ownerId k cs locked) L rs [] d := by
  induction cs with
  | nil => intro locked L d _ hheld hk; exact hk locked L d hheld
  | cons c cs ih =>
    intro locked L d hnd hheld hk d₁ _ hs
    have hheld₁ : Held ownerId locked (.charge c.id :: L) d₁ :=
      hheld.same (fun key hkey => List.mem_cons_of_mem _ hkey) hs
    -- the row is skipped when its newest version no longer satisfies the `WHERE` clause
    have hskip : ((locked ++ cs).map WalletCharge.id).Nodup :=
      hnd.sublist (List.Sublist.map _ (List.Sublist.append_left (List.sublist_cons_self _ _) _))
    cases hc' : (applyAll d₁ ([] : List WalletEdit)).charges.find? c.id with
    | none =>
      simp only [hc']
      exact ih hskip hheld₁ hk
    | some c' =>
      simp only [hc']
      have hid : c'.id = c.id := Table.id_of_find? hc'
      split_ifs with hd
      · have hnd' : ((locked ++ [c'] ++ cs).map WalletCharge.id).Nodup := by
          rw [List.map_append, List.map_cons] at hnd
          rwa [List.append_assoc, List.map_append, List.singleton_append, List.map_cons, hid]
        refine ih hnd' ⟨fun x hx => ?_, fun x hx => ?_, fun x hx => ?_, ?_⟩ hk
        · rcases List.mem_append.1 hx with hx | hx
          · exact hheld₁.locked x hx
          · rw [List.mem_singleton.1 hx, hid]
            exact List.mem_cons_self
        · rcases List.mem_append.1 hx with hx | hx
          · exact hheld₁.row x hx
          · rw [List.mem_singleton.1 hx, hid]
            exact hc'
        · rcases List.mem_append.1 hx with hx | hx
          · exact hheld₁.deductible x hx
          · rw [List.mem_singleton.1 hx]
            exact hd
        · rw [List.map_append] at hnd'
          exact (List.nodup_append.1 hnd').1
      · exact ih hskip hheld₁ hk

end Wp

/-- What `add_charge` has sent when it commits. -/
structure AddChargeSent (ownerId : ℕ) (amount : ℤ) (d : WalletDb) (es : List WalletEdit)
    (c : WalletCharge) (t : WalletTransaction) : Prop where
  edits : es = addChargeEdits c t
  fresh : FreshIn d es
  pos : 0 < amount
  charge_owner : c.shopOwnerId = ownerId
  charge_amount : c.amountToman = amount
  charge_remaining : c.remainingToman = amount
  charge_usable : c.isExpired = false
  exists_owner : ownerId ∈ d.owners.ids
  ledger_charge : t.walletChargeId = some c.id
  ledger_owner : t.shopOwnerId = ownerId
  ledger_amount : t.amountToman = amount

/-- `add_charge` inside a transaction that has only read so far. -/
theorem wp_addChargeTx_after {J : WalletDb → Prop}
    {Q : WalletDb → List WalletDb → List WalletEdit → WalletReply → Prop} {settings : AdminSettings}
    {now : Datetime} {ownerId : ℕ} {amount : ℤ} {reason : WalletTransactionReason} {paymentId : Option ℕ}
    {validityMonths : Option ℤ} {reference : Option String} {L : List WalletRow} {rs : List WalletDb}
    {d : WalletDb}
    (hQ : ∀ d' checked c id, AddChargeSent ownerId amount d'
        (addChargeEdits c (chargeTransaction c reason reference id)) c
        (chargeTransaction c reason reference id) →
      Q d' (checked :: rs) (addChargeEdits c (chargeTransaction c reason reference id)) (.charge c)) :
    wp J Q (addChargeTx settings now ownerId amount reason paymentId validityMonths reference) L rs [] d := by
  unfold addChargeTx
  split_ifs with h0
  · trivial
  split
  · trivial
  · rename_i expiresAt _
    intro d₁ _ _
    dsimp only
    split
    · trivial
    · intro d₂ _ _ n
      refine wp_applyBalanceDeltaTx fun L' d₃ _ _ hlock howner => ?_
      intro d₄ _ hs₄ d₅ _ hs₅ m d₆ _ hs₆ hfresh
      have hs : Same L' d₃ d₆ := hs₄.trans ((hs₅.mono fun key hkey => List.mem_cons_of_mem _ hkey).trans
        (hs₆.mono fun key hkey => List.mem_cons_of_mem _ (List.mem_cons_of_mem _ hkey)))
      exact hQ d₆ _ _ m ⟨rfl, hfresh, not_le.1 h0, rfl, rfl, rfl, rfl, mem_ids_of_same hs hlock howner,
        rfl, rfl, rfl⟩

theorem wp_addChargeTx {J : WalletDb → Prop} {settings : AdminSettings} {now : Datetime} {ownerId : ℕ}
    {amount : ℤ} {reason : WalletTransactionReason} {paymentId : Option ℕ} {validityMonths : Option ℤ}
    {reference : Option String} (d : WalletDb) :
    wp J (fun d _ es r => ∃ c t, r = .charge c ∧ AddChargeSent ownerId amount d es c t)
      (addChargeTx settings now ownerId amount reason paymentId validityMonths reference)
      [] [] [] d :=
  wp_addChargeTx_after fun _ _ c _ hsent => ⟨c, _, rfl, hsent⟩

/-- What a deduction has sent when it commits after it has taken the amounts `xs`. -/
structure DeductSent (ownerId : ℕ) (amount : ℤ) (reason : WalletTransactionReason)
    (reference : Option String) (d : WalletDb) (es : List WalletEdit)
    (xs : List (WalletCharge × ℤ)) (ids : List ℕ) : Prop where
  edits : es = takeEdits ownerId reason reference xs ids ++ [.addBalance ownerId (-amount)]
  fresh : FreshIn d es
  pos : 0 < amount
  length : ids.length = xs.length
  takes : ∀ x ∈ xs, d.charges.find? x.1.id = some x.1 ∧ x.1.shopOwnerId = ownerId ∧
    x.1.isExpired = false ∧ 0 < x.2 ∧ x.2 ≤ x.1.remainingToman
  nodup : (xs.map fun x => x.1.id).Nodup
  total : (xs.map Prod.snd).sum = amount
  exists_owner : ownerId ∈ d.owners.ids

/-- A deduction either sends nothing, or takes its amount from charges that are still as it has
read them. -/
theorem wp_deductTx {J : WalletDb → Prop} {scan : Scan WalletCharge} {ownerId : ℕ} {amount : ℤ}
    {reason : WalletTransactionReason} {reference : Option String} (d : WalletDb) :
    wp J (fun d _ es r => (r = .ok (decide (amount ≤ 0)) ∧ es = []) ∨
        (r = .ok true ∧ ∃ xs ids, DeductSent ownerId amount reason reference d es xs ids))
      (deductTx scan ownerId amount reason reference) [] [] [] d := by
  unfold deductTx
  split_ifs with h0
  · exact fun _ _ _ _ => Or.inl ⟨by rw [decide_eq_true h0], rfl⟩
  intro d₁ _ _
  have hnil : Held ownerId [] [] d₁ :=
    ⟨fun _ hc => absurd hc List.not_mem_nil, fun _ hc => absurd hc List.not_mem_nil,
      fun _ hc => absurd hc List.not_mem_nil, List.nodup_nil⟩
  refine wp_lockCharges _ (deductibleCharges_nodup d₁ scan ownerId) hnil ?_
  intro charges L d₂ hheld
  simp only [deductFrom]
  split_ifs with hlt hleft
  · exact fun _ _ _ _ => Or.inl ⟨by rw [decide_eq_false h0], rfl⟩
  · rw [splitDeduction_left _ amount (by omega) (by omega)] at hleft
    omega
  · refine wp_flushTakesTx _ fun ids L' d₃ hlen hL hs => ?_
    refine wp_applyBalanceDeltaTx fun L'' d₄ hL' hs' hlock howner => ?_
    intro d₅ _ hs₅ hfresh
    have hheld' := ((hheld.same hL hs).same hL' hs').same (fun _ hkey => hkey) hs₅
    refine Or.inr ⟨rfl, _, ids, ⟨rfl, hfresh, not_le.1 h0, hlen, fun x hx => ?_, ?_, ?_,
      mem_ids_of_same hs₅ hlock howner⟩⟩
    · have hc := (splitDeduction_initial charges amount).subset (List.mem_map_of_mem hx)
      have hd : ∀ c ∈ charges, c.shopOwnerId = ownerId ∧ c.isExpired = false ∧ 0 < c.remainingToman :=
        fun c hc => by simpa [deductible, and_assoc] using hheld.deductible c hc
      obtain ⟨hpos, hle⟩ := splitDeduction_take (fun c hc => (hd c hc).2.2) amount x hx
      exact ⟨hheld'.row _ hc, (hd _ hc).1, (hd _ hc).2.1, hpos, hle⟩
    · have := hheld.nodup.sublist ((splitDeduction_initial charges amount).sublist.map _)
      rwa [List.map_map] at this
    · have := splitDeduction_sum charges amount
      rwa [splitDeduction_left _ amount (by omega) (by omega), add_zero] at this

/-- What the sweep has sent when it commits: rounds for the charges its `SELECT` returned. -/
structure SweepSent (scan : Scan WalletCharge) (now : Datetime) (d : WalletDb) (rs : List WalletDb)
    (es : List WalletEdit) (selected owners : WalletDb) (ids : List ℕ) : Prop where
  reads : rs = [owners, selected]
  edits : es = sweepEdits ((selected.staleCharges scan now).filter fun c =>
    (owners.owners.find? c.shopOwnerId).isSome) ids
  fresh : FreshIn d es
  length : ids.length = ((selected.staleCharges scan now).filter fun c =>
    (owners.owners.find? c.shopOwnerId).isSome).length

theorem wp_expireChargesTx {J : WalletDb → Prop}
    {Q : WalletDb → List WalletDb → List WalletEdit → WalletReply → Prop} {owners : Table ShopOwner}
    {rs : List WalletDb} (cs : List WalletCharge) :
    ∀ {n : ℕ} {L : List WalletRow} {es : List WalletEdit} {d : WalletDb},
      (∀ ids d' m, ids.length = (cs.filter fun c => (owners.find? c.shopOwnerId).isSome).length →
        FreshIn d' (es ++ sweepEdits
          (cs.filter fun c => (owners.find? c.shopOwnerId).isSome) ids) →
        Q d' rs (es ++ sweepEdits (cs.filter fun c => (owners.find? c.shopOwnerId).isSome) ids)
          (.count m)) →
      wp J Q (expireChargesTx owners cs n) L rs es d := by
  induction cs with
  | nil =>
    intro n L es d hQ d' _ _ hfresh
    have := hQ [] d' n rfl
    rw [show sweepEdits (List.filter _ []) [] = [] from rfl, List.append_nil] at this
    exact this hfresh
  | cons c cs ih =>
    intro n L es d hQ
    rw [expireChargesTx]
    cases ho : owners.find? c.shopOwnerId with
    | none =>
      refine ih fun ids d' m hlen hfresh => ?_
      have := hQ ids d' m
      rw [List.filter_cons_of_neg (by simp [ho])] at this
      exact this hlen hfresh
    | some o =>
      intro d₁ _ _ d₂ _ _ i d₃ _ _
      refine ih fun ids d' m hlen hfresh => ?_
      have := hQ (i :: ids) d' m
      rw [List.filter_cons_of_pos (by simp [ho]), sweepEdits] at this
      have hid : o.id = c.shopOwnerId := Table.id_of_find? ho
      rw [hid, List.append_assoc, List.append_assoc, List.append_assoc] at hfresh ⊢
      exact this (by rw [List.length_cons, List.length_cons, hlen]) hfresh

theorem wp_expireStaleChargesTx {J : WalletDb → Prop} {scan : Scan WalletCharge} {now : Datetime}
    (d : WalletDb) :
    wp J (fun d rs es _ => ∃ selected owners ids, SweepSent scan now d rs es selected owners ids)
      (expireStaleChargesTx scan now) [] [] [] d := by
  intro d₁ _ _ d₂ _ _
  refine wp_expireChargesTx _ fun ids d' m hlen hfresh => ?_
  rw [List.nil_append] at hfresh ⊢
  exact ⟨d₁, d₂, ids, rfl, rfl, hfresh, hlen⟩

end WalletDb

end KasbOKar
