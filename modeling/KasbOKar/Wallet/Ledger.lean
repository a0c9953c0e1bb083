import KasbOKar.Lib.Cached
import KasbOKar.Wallet.Service

/-!
# The wallet ledger

Three tables say how much credit an owner has: the cached balance, the charges and the ledger.
`Books pend db` says that they agree up to `pend`, the amount by which the cached balance of each
owner is ahead of the charges.  Between two operations `pend` is zero; in the middle of one it
records what the next statement has to settle.  Each group of edits that an operation sends moves
`pend` by a known amount (`Books.credit`, `Books.move`, `Books.addBalance`, `Books.lowerBalance`),
and an operation keeps the books when these amounts cancel.
-/

namespace KasbOKar

open ReadCommitted Cached

namespace WalletDb

/-- The tables agree, up to what is pending. -/
structure Books (pend : ℕ → ℤ) (db : WalletDb) : Prop where
  charge_ledger : ∀ c ∈ db.charges.rows, c.remainingToman = db.ledgerOfCharge c.id
  remaining_nonneg : ∀ c ∈ db.charges.rows, 0 ≤ c.remainingToman
  remaining_le : ∀ c ∈ db.charges.rows, c.remainingToman ≤ c.amountToman
  charge_credits : ∀ c ∈ db.charges.rows, db.creditsOfCharge c.id = c.amountToman
  expired_empty : ∀ c ∈ db.charges.rows, c.isExpired = true → c.remainingToman = 0
  balance_remaining : ∀ o ∈ db.owners.rows,
    o.walletBalanceToman = db.remainingOf o.id + pend o.id
  owner_ledger : ∀ ownerId, db.ledgerOfOwner ownerId = db.remainingOf ownerId
  charge_owner : ∀ c ∈ db.charges.rows, c.shopOwnerId ∈ db.owners.ids
  transaction_charge : ∀ t ∈ db.transactions.rows, ∀ i, t.walletChargeId = some i → i ∈ db.charges.ids

/-- What the books say about one charge. -/
structure ChargeBooks (db : WalletDb) (c : WalletCharge) : Prop where
  ledger : c.remainingToman = db.ledgerOfCharge c.id
  nonneg : 0 ≤ c.remainingToman
  le : c.remainingToman ≤ c.amountToman
  credits : db.creditsOfCharge c.id = c.amountToman
  empty : c.isExpired = true → c.remainingToman = 0
  owner : c.shopOwnerId ∈ db.owners.ids

/-- New ledger rows of other charges do not matter. -/
theorem ChargeBooks.other {db db' : WalletDb} {c : WalletCharge} (h : ChargeBooks db c)
    (hledger : db'.ledgerOfCharge c.id = db.ledgerOfCharge c.id)
    (hcredits : db'.creditsOfCharge c.id = db.creditsOfCharge c.id) (howners : db'.owners = db.owners) :
    ChargeBooks db' c where
  ledger := by rw [hledger, h.ledger]
  nonneg := h.nonneg
  le := h.le
  credits := by rw [hcredits, h.credits]
  empty := h.empty
  owner := by
    rw [howners]
    exact h.owner

namespace Books

variable {pend : ℕ → ℤ} {db : WalletDb}

theorem charge (h : Books pend db) {c : WalletCharge} (hc : c ∈ db.charges.rows) : ChargeBooks db c where
  ledger := h.charge_ledger c hc
  nonneg := h.remaining_nonneg c hc
  le := h.remaining_le c hc
  credits := h.charge_credits c hc
  empty := h.expired_empty c hc
  owner := h.charge_owner c hc

/-- Books from what they say about each charge, and about the totals. -/
theorem of_charges (hcharges : ∀ c ∈ db.charges.rows, ChargeBooks db c)
    (hbalance : ∀ o ∈ db.owners.rows, o.walletBalanceToman = db.remainingOf o.id + pend o.id)
    (howner : ∀ ownerId, db.ledgerOfOwner ownerId = db.remainingOf ownerId)
    (htransactions : ∀ t ∈ db.transactions.rows, ∀ i, t.walletChargeId = some i → i ∈ db.charges.ids) :
    Books pend db where
  charge_ledger c hc := (hcharges c hc).ledger
  remaining_nonneg c hc := (hcharges c hc).nonneg
  remaining_le c hc := (hcharges c hc).le
  charge_credits c hc := (hcharges c hc).credits
  expired_empty c hc := (hcharges c hc).empty
  balance_remaining := hbalance
  owner_ledger := howner
  charge_owner c hc := (hcharges c hc).owner
  transaction_charge := htransactions

/-- The cached balance as a cached total of the usable charges. -/
theorem agrees (h : Books pend db) :
    Agrees ShopOwner.walletBalanceToman (fun ownerId (c : WalletCharge) =>
      if c.shopOwnerId = ownerId ∧ c.isExpired = false then c.remainingToman else 0) pend db.owners
      db.charges := h.balance_remaining

theorem remainingOf_nonneg (h : Books pend db) (ownerId : ℕ) : 0 ≤ db.remainingOf ownerId := by
  refine Table.sum_nonneg fun c hc => ?_
  split_ifs
  · exact h.remaining_nonneg c hc
  · exact le_rfl

/-- A non-expired charge is part of its owner's credit. -/
theorem le_remainingOf (h : Books pend db) {c : WalletCharge} (hc : c ∈ db.charges.rows)
    (he : c.isExpired = false) : c.remainingToman ≤ db.remainingOf c.shopOwnerId := by
  have hle := Table.le_sum (t := db.charges)
    (g := fun d => if d.shopOwnerId = c.shopOwnerId ∧ d.isExpired = false then d.remainingToman else 0)
    (fun d hd => by
      split_ifs
      · exact h.remaining_nonneg d hd
      · exact le_rfl) hc
  rw [if_pos ⟨rfl, he⟩] at hle
  exact hle

/-- A charge that does not exist has no ledger rows. -/
theorem sum_eq_zero_of_notMem (h : Books pend db) {i : ℕ} (hi : i ∉ db.charges.ids)
    (g : WalletTransaction → ℤ) :
    (db.transactions.sum fun t => if t.walletChargeId = some i then g t else 0) = 0 := by
  refine Table.sum_eq_zero fun t ht => ?_
  rw [if_neg fun e => hi (h.transaction_charge t ht i e)]

/-- What has been taken from a charge is what is missing from it. -/
theorem debitsOfCharge_eq (h : Books pend db) {c : WalletCharge} (hc : c ∈ db.charges.rows) :
    db.debitsOfCharge c.id = c.amountToman - c.remainingToman := by
  have h₁ := h.charge_ledger c hc
  have h₂ := h.charge_credits c hc
  have h₃ := db.ledgerOfCharge_eq c.id
  omega

/-! ### Edits of the owner's row -/

/-- An edit of an owner's row that moves the balance by `delta`. -/
theorem ownerRow (h : Books pend db) {ownerId : ℕ} {delta : ℤ} (f : ShopOwner → ShopOwner)
    (hf : ∀ o, Keyed.id (f o) = Keyed.id o)
    (hbal : ∀ o ∈ db.owners.rows, o.id = ownerId →
      (f o).walletBalanceToman = o.walletBalanceToman + delta) :
    Books (bump pend ownerId delta) { db with owners := db.owners.modify ownerId f hf } where
  charge_ledger := h.charge_ledger
  remaining_nonneg := h.remaining_nonneg
  remaining_le := h.remaining_le
  charge_credits := h.charge_credits
  expired_empty := h.expired_empty
  balance_remaining := h.agrees.modify_cache hf hbal
  owner_ledger := h.owner_ledger
  charge_owner c hc := by
    show c.shopOwnerId ∈ (db.owners.modify ownerId f hf).ids
    rw [Table.ids_modify]
    exact h.charge_owner c hc
  transaction_charge := h.transaction_charge

theorem addBalance (h : Books pend db) (ownerId : ℕ) (delta : ℤ) :
    Books (bump pend ownerId delta) (db.apply (.addBalance ownerId delta)) :=
  h.ownerRow (fun o => { o with walletBalanceToman := o.walletBalanceToman + delta })
    (fun _ => rfl) fun _ _ _ => rfl

theorem clearNotified (h : Books pend db) (ownerId : ℕ) :
    Books pend (db.apply (.clearNotified ownerId)) := by
  rw [← bump_zero pend ownerId]
  exact h.ownerRow
    (fun o => { o with walletEmptyNotifiedAt := none, walletLowBalanceNotifiedAt := none })
    (fun _ => rfl) fun _ _ _ => (add_zero _).symm

/-- The clamp of the sweep does nothing when the balance covers the amount. -/
theorem lowerBalance (h : Books pend db) {ownerId : ℕ} {amount : ℤ}
    (hle : ∀ o ∈ db.owners.rows, o.id = ownerId → amount ≤ o.walletBalanceToman) :
    Books (bump pend ownerId (-amount)) (db.apply (.lowerBalance ownerId amount)) := by
  refine h.ownerRow
    (fun o => { o with walletBalanceToman := max 0 (o.walletBalanceToman - amount) })
    (fun _ => rfl) fun o ho hid => ?_
  have := hle o ho hid
  show max 0 (o.walletBalanceToman - amount) = o.walletBalanceToman + -amount
  rw [max_eq_right (by omega)]
  ring

/-! ### Edits of a charge together with its ledger row -/

theorem ledgerOfCharge_insert (db : WalletDb) {t : WalletTransaction}
    (ht : t.id ∉ db.transactions.ids) (i : ℕ) :
    (db.apply (.insertTransaction t)).ledgerOfCharge i =
      db.ledgerOfCharge i + if t.walletChargeId = some i then t.amountToman else 0 :=
  Table.sum_insert ht _

theorem creditsOfCharge_insert (db : WalletDb) {t : WalletTransaction}
    (ht : t.id ∉ db.transactions.ids) (i : ℕ) :
    (db.apply (.insertTransaction t)).creditsOfCharge i =
      db.creditsOfCharge i + if t.walletChargeId = some i then max 0 t.amountToman else 0 :=
  Table.sum_insert ht _

theorem ledgerOfOwner_insert (db : WalletDb) {t : WalletTransaction}
    (ht : t.id ∉ db.transactions.ids) (i : ℕ) :
    (db.apply (.insertTransaction t)).ledgerOfOwner i =
      db.ledgerOfOwner i + if t.shopOwnerId = i then t.amountToman else 0 :=
  Table.sum_insert ht _

/-- **A new charge** and its ledger row. -/
theorem credit (h : Books pend db) {c : WalletCharge} {t : WalletTransaction}
    (hc : c.id ∉ db.charges.ids) (ht : t.id ∉ db.transactions.ids) (hpos : 0 < c.amountToman)
    (hrem : c.remainingToman = c.amountToman) (hexp : c.isExpired = false)
    (howner : c.shopOwnerId ∈ db.owners.ids) (htc : t.walletChargeId = some c.id)
    (hto : t.shopOwnerId = c.shopOwnerId) (hta : t.amountToman = c.amountToman) :
    Books (bump pend c.shopOwnerId (-c.amountToman))
      ((db.apply (.insertCharge c)).apply (.insertTransaction t)) := by
  have hremaining : ∀ i, ((db.apply (.insertCharge c)).apply (.insertTransaction t)).remainingOf i =
      db.remainingOf i + if c.shopOwnerId = i then c.amountToman else 0 := by
    intro i
    refine (Table.sum_insert hc _).trans ?_
    simp only [hexp, and_true, hrem]
    rfl
  have hled := ledgerOfCharge_insert (db.apply (.insertCharge c)) ht
  have hcred := creditsOfCharge_insert (db.apply (.insertCharge c)) ht
  rw [htc] at hled hcred
  refine of_charges (fun s hs => ?_) (fun o ho => ?_) (fun i => ?_) fun u hu i hi => ?_
  · rcases (Table.mem_insert hc).1 hs with hs | rfl
    · have hne : ¬ some c.id = some s.id := fun e => hc (Option.some.inj e ▸ Table.id_mem_ids hs)
      refine (h.charge hs).other ?_ ?_ rfl
      · rw [hled, if_neg hne, add_zero]
        rfl
      · rw [hcred, if_neg hne, add_zero]
        rfl
    · have hledger : db.ledgerOfCharge s.id = 0 := h.sum_eq_zero_of_notMem hc _
      have hcredits : db.creditsOfCharge s.id = 0 := h.sum_eq_zero_of_notMem hc _
      refine ⟨?_, by omega, by omega, ?_, fun e => ?_, howner⟩
      · rw [hled, if_pos rfl, hrem, hta]
        show s.amountToman = db.ledgerOfCharge s.id + s.amountToman
        rw [hledger, zero_add]
      · rw [hcred, if_pos rfl, hta, max_eq_right hpos.le]
        show db.creditsOfCharge s.id + s.amountToman = s.amountToman
        rw [hcredits, zero_add]
      · rw [hexp] at e
        cases e
  · exact h.agrees.change_sum hremaining o ho
  · rw [hremaining, ledgerOfOwner_insert (db.apply (.insertCharge c)) ht, hto, hta]
    show db.ledgerOfOwner i + _ = _
    rw [h.owner_ledger]
  · show i ∈ (db.charges.insert c).ids
    have hids : ∀ j, j ∈ db.charges.ids ∨ j = c.id → j ∈ (db.charges.insert c).ids := by
      intro j hj
      rw [Table.mem_ids]
      rcases hj with hj | rfl
      · obtain ⟨r, hr, rfl⟩ := Table.mem_ids.1 hj
        exact ⟨r, (Table.mem_insert hc).2 (Or.inl hr), rfl⟩
      · exact ⟨c, (Table.mem_insert hc).2 (Or.inr rfl), rfl⟩
    rcases (Table.mem_insert ht).1 hu with hu | rfl
    · exact hids i (Or.inl (h.transaction_charge u hu i hi))
    · rw [htc] at hi
      exact hids i (Or.inr (Option.some.inj hi).symm)

/-- **A change of a usable charge** and the ledger row of the difference. -/
theorem move (h : Books pend db) {c : WalletCharge} {t : WalletTransaction}
    {f : WalletCharge → WalletCharge} (hf : ∀ r, Keyed.id (f r) = Keyed.id r)
    (hc : db.charges.find? c.id = some c) (hexp : c.isExpired = false)
    (hown : (f c).shopOwnerId = c.shopOwnerId) (ham : (f c).amountToman = c.amountToman)
    (h0 : 0 ≤ (f c).remainingToman) (hle : (f c).remainingToman ≤ c.remainingToman)
    (hempty : (f c).isExpired = true → (f c).remainingToman = 0)
    (ht : t.id ∉ db.transactions.ids) (htc : t.walletChargeId = some c.id)
    (hto : t.shopOwnerId = c.shopOwnerId)
    (hta : t.amountToman = (f c).remainingToman - c.remainingToman) :
    Books (bump pend c.shopOwnerId (c.remainingToman - (f c).remainingToman))
      { db with charges := db.charges.modify c.id f hf,
                transactions := db.transactions.insert t } := by
  have hcmem := Table.mem_of_find? hc
  set db' : WalletDb := { db with charges := db.charges.modify c.id f hf,
                                  transactions := db.transactions.insert t }
  have hremaining : ∀ i, db'.remainingOf i = db.remainingOf i +
      if c.shopOwnerId = i then (f c).remainingToman - c.remainingToman else 0 := by
    intro i
    refine (Table.sum_modify hf hc _).trans ?_
    show db.remainingOf i + _ = _
    simp only [hown, hexp, and_true]
    by_cases hi : c.shopOwnerId = i
    · cases he : (f c).isExpired with
      | false => simp [hi]
      | true =>
        have := hempty he
        simp [hi, this]
    · simp [hi]
  have hled : ∀ i, db'.ledgerOfCharge i =
      db.ledgerOfCharge i + if some c.id = some i then t.amountToman else 0 := by
    intro i
    rw [← htc]
    exact Table.sum_insert ht _
  -- the ledger row is a debit
  have hcred : ∀ i, db'.creditsOfCharge i = db.creditsOfCharge i := by
    intro i
    refine (Table.sum_insert ht _).trans ?_
    rw [max_eq_left (by omega), ite_self, add_zero]
    rfl
  refine of_charges (fun s hs => ?_) (fun o ho => ?_) (fun i => ?_) fun u hu i hi => ?_
  · rcases Table.mem_modify_cases hf hs with ⟨hs, hne⟩ | ⟨r, hr, hid, rfl⟩
    · have hother : ¬ some c.id = some s.id := fun e => hne (Option.some.inj e).symm
      refine (h.charge hs).other ?_ (hcred s.id) rfl
      rw [hled, if_neg hother, add_zero]
    · obtain rfl : r = c := Table.eq_of_id_eq hr hcmem hid
      have hbooks := h.charge hcmem
      have hfid : (f r).id = r.id := hf r
      refine ⟨?_, h0, ?_, ?_, hempty, ?_⟩
      · rw [hfid, hled, if_pos rfl, hta, ← hbooks.ledger]
        ring
      · rw [ham]
        exact hle.trans hbooks.le
      · rw [hfid, hcred, ham]
        exact hbooks.credits
      · rw [hown]
        exact hbooks.owner
  · rw [← neg_sub]
    exact h.agrees.change_sum hremaining o ho
  · rw [hremaining]
    refine (Table.sum_insert ht _).trans ?_
    show db.ledgerOfOwner i + _ = _
    rw [h.owner_ledger, hto, hta]
  · show i ∈ (db.charges.modify c.id f hf).ids
    rw [Table.ids_modify]
    rcases (Table.mem_insert ht).1 hu with hu | rfl
    · exact h.transaction_charge u hu i hi
    · rw [htc] at hi
      rw [← Option.some.inj hi]
      exact Table.id_mem_ids hcmem

/-! ### The statements of an operation -/

/-- The statements of `add_charge` keep the books. -/
theorem addChargeEdits (h : Books pend db) {c : WalletCharge} {t : WalletTransaction}
    (hfresh : FreshIn db (WalletDb.addChargeEdits c t)) (hpos : 0 < c.amountToman)
    (hrem : c.remainingToman = c.amountToman) (hexp : c.isExpired = false)
    (howner : c.shopOwnerId ∈ db.owners.ids) (htc : t.walletChargeId = some c.id)
    (hto : t.shopOwnerId = c.shopOwnerId) (hta : t.amountToman = c.amountToman) :
    Books pend (applyAll db (WalletDb.addChargeEdits c t)) := by
  obtain ⟨hc, -, -, ht, -⟩ := hfresh
  have hc' : c.id ∉ db.charges.ids := get_charge_eq_none.1 (hc rfl)
  have ht' : t.id ∉ db.transactions.ids := by
    have := get_transaction_eq_none.1 (ht rfl)
    exact this
  have hcredit := h.credit hc' ht' hpos hrem hexp howner htc hto hta
  have hall := (hcredit.addBalance c.shopOwnerId c.amountToman).clearNotified c.shopOwnerId
  rw [bump_bump, neg_add_cancel, bump_zero] at hall
  exact hall

/-- Taking `x.2` from the charge `x.1`. -/
theorem take (h : Books pend db) {x : WalletCharge × ℤ} {t : WalletTransaction}
    (hc : db.charges.find? x.1.id = some x.1) (hexp : x.1.isExpired = false) (h0 : 0 ≤ x.2)
    (hle : x.2 ≤ x.1.remainingToman) (ht : t.id ∉ db.transactions.ids)
    (htc : t.walletChargeId = some x.1.id) (hto : t.shopOwnerId = x.1.shopOwnerId)
    (hta : t.amountToman = -x.2) :
    Books (bump pend x.1.shopOwnerId x.2)
      ((db.apply (.setRemaining x.1.id (x.1.remainingToman - x.2))).apply
        (.insertTransaction t)) := by
  have := h.move (f := fun c => { c with remainingToman := x.1.remainingToman - x.2 })
    (fun _ => rfl) hc hexp rfl rfl (by show 0 ≤ _ - _; omega) (by show _ - _ ≤ _; omega)
    (fun e => by rw [hexp] at e; cases e) ht htc hto (by show _ = _ - _ - _; omega)
  rwa [show x.1.remainingToman - (x.1.remainingToman - x.2) = x.2 by omega] at this

/-- The flush of `deduct` takes the amounts from the charges and leaves the balance to be
lowered. -/
theorem takeEdits {ownerId : ℕ} {reason : WalletTransactionReason} {reference : Option String} :
    ∀ {xs : List (WalletCharge × ℤ)} {ids : List ℕ} {pend : ℕ → ℤ} {db : WalletDb},
      Books pend db → ids.length = xs.length →
      (∀ x ∈ xs, db.charges.find? x.1.id = some x.1 ∧ x.1.shopOwnerId = ownerId ∧
        x.1.isExpired = false ∧ 0 < x.2 ∧ x.2 ≤ x.1.remainingToman) →
      (xs.map fun x => x.1.id).Nodup →
      FreshIn db (WalletDb.takeEdits ownerId reason reference xs ids) →
      Books (bump pend ownerId (xs.map Prod.snd).sum)
        (applyAll db (WalletDb.takeEdits ownerId reason reference xs ids)) := by
  intro xs
  induction xs with
  | nil =>
    intro ids pend db h _ _ _ _
    rw [List.map_nil, List.sum_nil, bump_zero]
    exact h
  | cons x xs ih =>
    intro ids pend db h hlen hxs hnd hfresh
    cases ids with
    | nil => cases hlen
    | cons id ids =>
      obtain ⟨hc, hown, hexp, h0, hle⟩ := hxs x List.mem_cons_self
      obtain ⟨-, ht, hfresh⟩ := hfresh
      have ht' : id ∉ db.transactions.ids := by
        have := get_transaction_eq_none.1 (ht rfl)
        exact this
      rw [List.map_cons, List.nodup_cons] at hnd
      have h₁ := h.take hc hexp h0.le hle
        (t := takeTransaction ownerId reason reference x id) ht' rfl hown.symm rfl
      rw [hown] at h₁
      rw [List.map_cons, List.sum_cons, ← bump_bump]
      refine ih h₁ (Nat.succ.inj hlen) (fun y hy => ?_) hnd.2 hfresh
      -- the other charges are not touched by this round
      have hne : y.1.id ≠ x.1.id := fun e => hnd.1 (e ▸ List.mem_map_of_mem hy)
      obtain ⟨hy', hrest⟩ := hxs y (List.mem_cons_of_mem _ hy)
      exact ⟨(Table.find?_modify_of_ne
        (f := fun c : WalletCharge => { c with remainingToman := x.1.remainingToman - x.2 })
        (fun _ => rfl) hne).trans hy', hrest⟩

/-- One round of the sweep on a charge that is as it was selected. -/
theorem expireEdits (h : Books settled db) {c : WalletCharge} {id : ℕ}
    (hc : db.charges.find? c.id = some c) (hexp : c.isExpired = false)
    (hfresh : FreshIn db (WalletDb.expireEdits c id)) :
    Books settled (applyAll db (WalletDb.expireEdits c id)) := by
  obtain ⟨-, ht, -⟩ := hfresh
  have ht' : id ∉ db.transactions.ids := by
    have := get_transaction_eq_none.1 (ht rfl)
    exact this
  have hcmem := Table.mem_of_find? hc
  have hcover : ∀ o ∈ db.owners.rows, o.id = c.shopOwnerId →
      c.remainingToman ≤ o.walletBalanceToman := by
    intro o ho hid
    rw [h.balance_remaining o ho, hid]
    have := h.le_remainingOf hcmem hexp
    unfold settled
    omega
  have h₁ := h.lowerBalance hcover
  have h₂ := h₁.move (f := fun d => { d with remainingToman := 0, isExpired := true })
    (t := expiryTransaction c id) (fun _ => rfl) hc hexp rfl rfl le_rfl
    (h.remaining_nonneg c hcmem) (fun _ => rfl) ht' rfl rfl (by show -_ = 0 - _; omega)
  rw [bump_bump, show -c.remainingToman + (c.remainingToman - 0) = 0 by omega, bump_zero] at h₂
  exact h₂

/-- The rounds of the sweep on charges that are as they were selected: the books are kept and the
charges still to come are untouched. -/
theorem sweepEdits (rest : List WalletCharge) :
    ∀ {cs : List WalletCharge} {ids : List ℕ} {db : WalletDb}, Books settled db →
      ids.length = cs.length →
      (∀ c ∈ cs ++ rest, db.charges.find? c.id = some c ∧ c.isExpired = false) →
      ((cs ++ rest).map WalletCharge.id).Nodup → FreshIn db (WalletDb.sweepEdits cs ids) →
      Books settled (applyAll db (WalletDb.sweepEdits cs ids)) ∧
        ∀ c ∈ rest, (applyAll db (WalletDb.sweepEdits cs ids)).charges.find? c.id = some c := by
  intro cs
  induction cs with
  | nil =>
    intro ids db h hlen hcs _ _
    obtain rfl := List.length_eq_zero_iff.1 hlen
    exact ⟨h, fun c hc => (hcs c hc).1⟩
  | cons c cs ih =>
    intro ids db h hlen hcs hnd hfresh
    cases ids with
    | nil => cases hlen
    | cons id ids =>
      obtain ⟨hc, hexp⟩ := hcs c List.mem_cons_self
      rw [WalletDb.sweepEdits, freshIn_append] at hfresh
      rw [List.cons_append, List.map_cons, List.nodup_cons] at hnd
      rw [WalletDb.sweepEdits, applyAll_append]
      refine ih (h.expireEdits hc hexp hfresh.1) (Nat.succ.inj hlen) (fun d hd => ?_) hnd.2 hfresh.2
      obtain ⟨hd', hrest⟩ := hcs d (List.mem_cons_of_mem _ hd)
      have hne : d.id ≠ c.id := fun e => hnd.1 (e ▸ List.mem_map_of_mem hd)
      exact ⟨(Table.find?_modify_of_ne
        (f := fun c : WalletCharge => { c with remainingToman := 0, isExpired := true })
        (fun _ => rfl) hne).trans hd', hrest⟩

end Books

/-! ## The cached balance -/

theorem balance_addBalance (db : WalletDb) {ownerId : ℕ} (h : ownerId ∈ db.owners.ids) (delta : ℤ)
    (i : ℕ) : (db.apply (.addBalance ownerId delta)).balance i =
      db.balance i + if i = ownerId then delta else 0 := by
  unfold balance
  simp only [apply, Table.find?_modify]
  split_ifs with hi
  · subst hi
    obtain ⟨o, ho⟩ := Table.exists_find? h
    rw [ho]
    rfl
  · rw [add_zero]

theorem balance_clearNotified (db : WalletDb) (ownerId i : ℕ) :
    (db.apply (.clearNotified ownerId)).balance i = db.balance i := by
  unfold balance
  simp only [apply, Table.find?_modify]
  split_ifs
  · rw [Option.map_map]
    rfl
  · rfl

/-- A top-up moves the balance of its owner by its amount. -/
theorem balance_addChargeEdits {db : WalletDb} {c : WalletCharge} {t : WalletTransaction}
    (h : c.shopOwnerId ∈ db.owners.ids) (i : ℕ) :
    (applyAll db (addChargeEdits c t)).balance i =
      db.balance i + if i = c.shopOwnerId then c.amountToman else 0 := by
  show (((db.apply (.insertCharge c)).apply _).apply (.clearNotified _)).balance i = _
  rw [balance_clearNotified, balance_addBalance (db.apply (.insertCharge c)) h]
  rfl

/-- What `add_charge` needs in order to return. -/
theorem addCharge_isOk {db : WalletDb} (settings : AdminSettings) (now : Datetime) {ownerId : ℕ}
    {amount : ℤ} (validityMonths : Option ℤ) (reason : WalletTransactionReason)
    (paymentId : Option ℕ) (reference : Option String) (hpos : 0 < amount) (hint : Int4 amount)
    (hexp : InDatetimeRange
      (now + days (validityMonths.getD settings.walletTopupValidityMonths * 30)))
    (howner : ownerId ∈ db.owners.ids) (hbal : Int4 (db.balance ownerId + amount)) :
    ∃ db' c, db.addCharge settings now ownerId amount reason paymentId validityMonths reference =
      .ok (db', c) := by
  obtain ⟨o, ho⟩ := Table.exists_find? howner
  have hbal' : Int4 (o.walletBalanceToman + amount) := by
    unfold balance at hbal
    rwa [ho] at hbal
  have hins : ∀ c : WalletCharge, c.amountToman = amount → c.shopOwnerId = ownerId →
      db.insertCharge c = .ok (db.apply (.insertCharge c)) := by
    intro c hca hco
    unfold insertCharge
    rw [if_neg (by rw [hca]; exact not_not.2 hint), if_neg (by rw [hco]; exact not_not.2 howner)]
  have hadd : ∀ c : WalletCharge, (db.apply (.insertCharge c)).applyBalanceDelta ownerId amount =
      .ok ((db.apply (.insertCharge c)).apply (.addBalance ownerId amount)) := by
    intro c
    have ho' : (db.apply (.insertCharge c)).owners.find? ownerId = some o := ho
    unfold applyBalanceDelta
    rw [ho']
    exact if_pos hbal'
  unfold addCharge datetimeAdd
  simp only [if_neg (not_le.2 hpos), if_pos hexp, bind, Except.bind, hins, hadd]
  exact ⟨_, _, rfl⟩

/-! ## The operations keep the books -/

/-- Tables in which the cached balances, the charges and the ledger agree. -/
abbrev Balanced (db : WalletDb) : Prop := Books settled db

theorem Balanced.addCharge {db db' : WalletDb} (h : Balanced db) {settings : AdminSettings}
    {now : Datetime} {ownerId : ℕ} {amount : ℤ} {reason : WalletTransactionReason}
    {paymentId : Option ℕ} {validityMonths : Option ℤ} {reference : Option String} {c : WalletCharge}
    (hok : db.addCharge settings now ownerId amount reason paymentId validityMonths reference =
      .ok (db', c)) : Balanced db' := by
  obtain ⟨hpos, howner, hid, hco, -, hca, hcr, hce, rfl⟩ := addCharge_ok hok
  refine h.addChargeEdits ⟨fun _ => ?_, fun hn => Bool.noConfusion hn, fun hn => Bool.noConfusion hn,
    fun _ => ?_, trivial⟩ (hca ▸ hpos) (hcr.trans hca.symm) hce (hco ▸ howner) rfl rfl rfl
  · refine get_charge_eq_none.2 ?_
    rw [hid]
    exact Table.nextId_notMem _
  · exact get_transaction_eq_none.2 (Table.nextId_notMem db.transactions)

/-- What `deduct` does: nothing, or it drains the selected charges by exactly the amount. -/
theorem deduct_ok {db db' : WalletDb} {scan : Scan WalletCharge} {ownerId : ℕ} {amount : ℤ}
    {reason : WalletTransactionReason} {reference : Option String} {r : Bool}
    (hok : db.deduct scan ownerId amount reason reference = .ok (db', r)) :
    (db' = db ∧ r = decide (amount ≤ 0)) ∨
      (r = true ∧ 0 < amount ∧ amount ≤ totalRemaining (db.deductibleCharges scan ownerId) ∧
        db' = (flushTakes ownerId reason reference db
          (splitDeduction (db.deductibleCharges scan ownerId) amount).1).apply
            (.addBalance ownerId (-amount))) := by
  simp only [deduct] at hok
  split_ifs at hok with h0 hlt hleft
  · cases hok
    exact Or.inl ⟨rfl, (decide_eq_true h0).symm⟩
  · cases hok
    exact Or.inl ⟨rfl, (decide_eq_false h0).symm⟩
  · -- the guard before the loop excludes the fallback after it
    rw [splitDeduction_left _ amount (by omega) (by omega)] at hleft
    omega
  · obtain ⟨db₁, h₁, hok⟩ := bind_ok hok
    obtain ⟨-, rfl⟩ := applyBalanceDelta_ok h₁
    cases hok
    exact Or.inr ⟨rfl, by omega, by omega, rfl⟩

/-- The amounts that the loop takes, as `Books.takeEdits` wants them. -/
theorem splitDeduction_takes (db : WalletDb) (scan : Scan WalletCharge) (ownerId : ℕ) (amount : ℤ) :
    (∀ x ∈ (splitDeduction (db.deductibleCharges scan ownerId) amount).1,
      db.charges.find? x.1.id = some x.1 ∧ x.1.shopOwnerId = ownerId ∧ x.1.isExpired = false ∧
        0 < x.2 ∧ x.2 ≤ x.1.remainingToman) ∧
      ((splitDeduction (db.deductibleCharges scan ownerId) amount).1.map fun x => x.1.id).Nodup := by
  set charges := db.deductibleCharges scan ownerId
  have hinitial := splitDeduction_initial charges amount
  have hmem : ∀ c ∈ charges, c ∈ db.charges.rows ∧ c.shopOwnerId = ownerId ∧ c.isExpired = false ∧
      0 < c.remainingToman := fun c hc => mem_deductibleCharges.1 hc
  constructor
  · intro x hx
    obtain ⟨hrow, hown, hexp, -⟩ := hmem x.1 (hinitial.subset (List.mem_map_of_mem hx))
    obtain ⟨h0, hle⟩ := splitDeduction_take (fun c hc => (hmem c hc).2.2.2) amount x hx
    exact ⟨Table.find?_of_mem hrow, hown, hexp, h0, hle⟩
  · have hnd := (deductibleCharges_nodup db scan ownerId).sublist (hinitial.sublist.map _)
    rwa [List.map_map] at hnd

theorem Balanced.deduct {db db' : WalletDb} (h : Balanced db) {scan : Scan WalletCharge}
    {ownerId : ℕ} {amount : ℤ} {reason : WalletTransactionReason} {reference : Option String}
    {r : Bool} (hok : db.deduct scan ownerId amount reason reference = .ok (db', r)) :
    Balanced db' := by
  rcases deduct_ok hok with ⟨rfl, -⟩ | ⟨-, hpos, hsum, rfl⟩
  · exact h
  · obtain ⟨hxs, hnd⟩ := splitDeduction_takes db scan ownerId amount
    obtain ⟨ids, hlen, hfresh, heq⟩ := flushTakes_eq ownerId reason reference
      (splitDeduction (db.deductibleCharges scan ownerId) amount).1 db
    have hall := (h.takeEdits hlen hxs hnd hfresh).addBalance ownerId (-amount)
    have htaken := splitDeduction_sum (db.deductibleCharges scan ownerId) amount
    rw [splitDeduction_left _ amount hpos.le hsum, add_zero] at htaken
    rw [htaken, bump_bump, add_neg_cancel, bump_zero, ← heq] at hall
    exact hall

/-- The owner's balance is the owner's usable credit. -/
theorem Balanced.balance_eq {db : WalletDb} (h : Balanced db) (ownerId : ℕ) :
    db.balance ownerId = db.remainingOf ownerId := by
  unfold balance
  cases ho : db.owners.find? ownerId with
  | none =>
    refine (Table.sum_eq_zero fun c hc => if_neg ?_).symm
    rintro ⟨rfl, -⟩
    exact Table.find?_eq_none_iff.1 ho (h.charge_owner c hc)
  | some o =>
    obtain ⟨horow, hid⟩ := Table.find?_eq_some_iff.1 ho
    have := h.balance_remaining o horow
    rw [show o.id = ownerId from hid] at this
    exact this.trans (add_zero _)

/-! ### The sweep -/

theorem Balanced.stale {db : WalletDb} (h : Balanced db) (scan : Scan WalletCharge) (now : Datetime) :
    (∀ c ∈ db.staleCharges scan now, db.charges.find? c.id = some c ∧ c.isExpired = false ∧
      c.shopOwnerId ∈ db.owners.ids) ∧ ((db.staleCharges scan now).map WalletCharge.id).Nodup := by
  refine ⟨fun c hc => ?_, Table.select_nodup _ _ _⟩
  obtain ⟨hrow, hstale⟩ := Table.mem_select.1 hc
  simp only [WalletDb.stale, Bool.and_eq_true, Bool.not_eq_true'] at hstale
  exact ⟨Table.find?_of_mem hrow, hstale.1.1, h.charge_owner c hrow⟩

/-- After some rounds of the sweep the books are kept and the next charges are untouched. -/
theorem Balanced.rounds {db : WalletDb} (h : Balanced db) {scan : Scan WalletCharge} {now : Datetime}
    {done rest : List WalletCharge} (hs : db.staleCharges scan now = done ++ rest) :
    Balanced (done.foldl (expireCharge db.owners) db) ∧
      ∀ c ∈ rest, (done.foldl (expireCharge db.owners) db).charges.find? c.id = some c := by
  obtain ⟨hcs, hnd⟩ := h.stale scan now
  rw [hs] at hcs hnd
  obtain ⟨ids, hlen, hfresh, heq⟩ := foldl_expireCharge_eq done
    (fun c hc => (hcs c (List.mem_append_left _ hc)).2.2) db
  rw [heq]
  exact h.sweepEdits rest hlen (fun c hc => ⟨(hcs c hc).1, (hcs c hc).2.1⟩) hnd hfresh

theorem Balanced.expireStaleCharges {db : WalletDb} (h : Balanced db) (scan : Scan WalletCharge)
    (now : Datetime) : Balanced (db.expireStaleCharges scan now).1 :=
  (h.rounds (List.append_nil _).symm).1

/-- At every round of the sweep the owner's balance covers the amount to be subtracted. -/
theorem Balanced.sweep_covered {db : WalletDb} (h : Balanced db) {scan : Scan WalletCharge}
    {now : Datetime} {done rest : List WalletCharge} {c : WalletCharge} {o : ShopOwner}
    (hs : db.staleCharges scan now = done ++ c :: rest)
    (ho : (done.foldl (expireCharge db.owners) db).owners.find? c.shopOwnerId = some o) :
    c.remainingToman ≤ o.walletBalanceToman := by
  obtain ⟨hbal, hkeep⟩ := h.rounds hs
  have hc := hkeep c List.mem_cons_self
  have hexp := ((h.stale scan now).1 c (hs ▸ List.mem_append_right _ List.mem_cons_self)).2.1
  obtain ⟨horow, hid⟩ := Table.find?_eq_some_iff.1 ho
  have hle := hbal.le_remainingOf (Table.mem_of_find? hc) hexp
  have hb := hbal.balance_remaining o horow
  rw [show o.id = c.shopOwnerId from hid] at hb
  unfold settled at hb
  omega

/-! ## Runs of wallet operations -/

/-- A call of the wallet service. -/
inductive Op where
  | addCharge (settings : AdminSettings) (ownerId : ℕ) (amountToman : ℤ)
      (reason : WalletTransactionReason) (paymentId : Option ℕ) (validityMonths : Option ℤ)
      (reference : Option String)
  | deduct (scan : Scan WalletCharge) (ownerId : ℕ) (amountToman : ℤ)
      (reason : WalletTransactionReason) (reference : Option String)
  | expireStaleCharges (scan : Scan WalletCharge)

/-- A call at the time `now`; one that raises is rolled back. -/
def call (db : WalletDb) (now : Datetime) : Op → WalletDb
  | .addCharge settings ownerId amount reason paymentId validityMonths reference =>
    match db.addCharge settings now ownerId amount reason paymentId validityMonths reference with
    | .ok (db', _) => db'
    | .error _ => db
  | .deduct scan ownerId amount reason reference =>
    match db.deduct scan ownerId amount reason reference with
    | .ok (db', _) => db'
    | .error _ => db
  | .expireStaleCharges scan => (db.expireStaleCharges scan now).1

/-- The tables after a sequence of calls, each with its clock reading. -/
def calls (db : WalletDb) (ops : List (Datetime × Op)) : WalletDb :=
  ops.foldl (fun db op => db.call op.1 op.2) db

/-- No charges and no ledger yet. -/
def ofOwners (owners : Table ShopOwner) : WalletDb :=
  { owners := owners, charges := .empty, transactions := .empty }

theorem balanced_ofOwners {owners : Table ShopOwner}
    (h : ∀ o ∈ owners.rows, o.walletBalanceToman = 0) : Balanced (ofOwners owners) where
  charge_ledger _ hc := absurd hc List.not_mem_nil
  remaining_nonneg _ hc := absurd hc List.not_mem_nil
  remaining_le _ hc := absurd hc List.not_mem_nil
  charge_credits _ hc := absurd hc List.not_mem_nil
  expired_empty _ hc := absurd hc List.not_mem_nil
  balance_remaining o ho := h o ho
  owner_ledger _ := rfl
  charge_owner _ hc := absurd hc List.not_mem_nil
  transaction_charge _ ht := absurd ht List.not_mem_nil

/-- One call keeps the books. -/
theorem Balanced.call {db : WalletDb} (h : Balanced db) (now : Datetime) (op : Op) :
    Balanced (db.call now op) := by
  cases op with
  | addCharge settings ownerId amount reason paymentId validityMonths reference =>
    simp only [WalletDb.call]
    split
    · rename_i hok
      exact h.addCharge hok
    · exact h
  | deduct scan ownerId amount reason reference =>
    simp only [WalletDb.call]
    split
    · rename_i hok
      exact h.deduct hok
    · exact h
  | expireStaleCharges scan => exact h.expireStaleCharges scan now

theorem Balanced.calls {db : WalletDb} (h : Balanced db) (ops : List (Datetime × Op)) :
    Balanced (db.calls ops) := by
  induction ops generalizing db with
  | nil => exact h
  | cons op ops ih => exact ih (h.call op.1 op.2)

/-- **The wallet ledger.** From an empty wallet, after any sequence of top-ups, deductions and
sweeps with any clock: every charge equals its ledger rows and stays between zero and its amount,
expired charges are empty, every cached balance is the owner's usable credit and the owner's
ledger, in a sweep the clamp at zero never changes the value it is applied to, and a top-up that is not
positive is refused. -/
theorem ledger_invariant (owners : Table ShopOwner)
    (h0 : ∀ o ∈ owners.rows, o.walletBalanceToman = 0) (ops : List (Datetime × Op)) :
    let db := (ofOwners owners).calls ops
    (∀ c ∈ db.charges.rows, c.remainingToman = db.ledgerOfCharge c.id ∧ 0 ≤ c.remainingToman ∧
      c.remainingToman ≤ c.amountToman) ∧
    (∀ c ∈ db.charges.rows, c.isExpired = true → c.remainingToman = 0) ∧
    (∀ o ∈ db.owners.rows, o.walletBalanceToman = db.remainingOf o.id ∧
      o.walletBalanceToman = db.ledgerOfOwner o.id ∧ 0 ≤ o.walletBalanceToman) ∧
    (∀ scan now done c rest o, db.staleCharges scan now = done ++ c :: rest →
      (done.foldl (WalletDb.expireCharge db.owners) db).owners.find? c.shopOwnerId = some o →
        max 0 (o.walletBalanceToman - c.remainingToman) =
          o.walletBalanceToman - c.remainingToman) ∧
    (∀ settings now ownerId amount reason paymentId validityMonths reference, amount ≤ 0 →
      db.addCharge settings now ownerId amount reason paymentId validityMonths reference =
        .error .ValueError) := by
  intro db
  have h : Balanced db := (balanced_ofOwners h0).calls ops
  refine ⟨fun c hc => ⟨h.charge_ledger c hc, h.remaining_nonneg c hc, h.remaining_le c hc⟩,
    h.expired_empty, fun o ho => ?_, fun scan now done c rest o hs ho => ?_,
    fun settings now ownerId amount reason paymentId validityMonths reference hle => if_pos hle⟩
  · have hb : o.walletBalanceToman = db.remainingOf o.id := by
      rw [h.balance_remaining o ho]
      exact add_zero _
    refine ⟨hb, ?_, ?_⟩
    · rw [hb, h.owner_ledger]
    · rw [hb]
      exact h.remainingOf_nonneg o.id
  · have := h.sweep_covered hs ho
    exact max_eq_right (by omega)

/-- Two shops without credit. -/
def twoOwners : Table ShopOwner :=
  ⟨[{ id := 1, telegramId := 11 }, { id := 2, telegramId := 22 }], by decide⟩

/-- Two top-ups of one shop and one of the other, a deduction over two charges, a refused one and
a sweep that closes what is left of one charge. -/
def busyDay : List (Datetime × Op) :=
  [(0, .addCharge {} 1 100 .TOPUP none (some 1) none),
    (0, .addCharge {} 1 50 .TRIAL none (some 2) none),
    (1, .addCharge {} 2 70 .TOPUP (some 9) none none),
    (2, .deduct .plain 1 120 .CHAT_MESSAGE none),
    (3, .deduct .plain 2 71 .PHOTO_ANALYSIS none),
    (days 60, .expireStaleCharges .plain)]

theorem ledger_invariant_busyDay :
    let db := (ofOwners twoOwners).calls busyDay
    (∀ o ∈ twoOwners.rows, o.walletBalanceToman = 0) ∧ db.charges.rows.length = 3 ∧
      db.transactions.rows.length = 6 ∧ db.balance 1 = 0 ∧ db.balance 2 = 70 ∧
      ∀ o ∈ db.owners.rows, o.walletBalanceToman = db.remainingOf o.id ∧
        o.walletBalanceToman = db.ledgerOfOwner o.id ∧ 0 ≤ o.walletBalanceToman :=
  ⟨by decide, by decide, by decide, by decide, by decide,
    (ledger_invariant twoOwners (by decide) busyDay).2.2.1⟩

end WalletDb

end KasbOKar
