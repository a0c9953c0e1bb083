import KasbOKar.Lib.EarliestFirst
import KasbOKar.Lib.Runs
import KasbOKar.Wallet.Deduction

/-!
# Earliest expiry first loses the least

`deduct` spends the charges that expire first.  A run is compared with any other way to serve the same
deductions from the same charges, under the same sweeps: `Rivals` holds the tables of the code next to
the charges of the other allocation.  `deduct_takesEarliest` and `expireStaleCharges_stock` say what the
code does to its stock of credit, and `earliest_expiry_optimal` that it never has less than the other
allocation and never has lost more to expiry.
-/

namespace KasbOKar

open EarliestFirst ReadCommitted

namespace WalletDb

/-! ## The stock of credit -/

/-- What a charge counts for in the credit of an owner. -/
def usable (ownerId : ℕ) (c : WalletCharge) : ℤ :=
  if c.shopOwnerId = ownerId ∧ c.isExpired = false then c.remainingToman else 0

/-- The credit of an owner by the expiry of the charges. -/
noncomputable def creditStock (t : Table WalletCharge) (ownerId : ℕ) : Stock Datetime :=
  stock t.rows WalletCharge.expiresAt (usable ownerId)

/-- The credit of an owner. -/
def creditOf (t : Table WalletCharge) (ownerId : ℕ) : ℤ := t.sum (usable ownerId)

theorem creditStock_univ (t : Table WalletCharge) (ownerId : ℕ) :
    creditStock t ownerId Set.univ = creditOf t ownerId := stock_univ _

theorem creditOf_charges (db : WalletDb) (ownerId : ℕ) :
    creditOf db.charges ownerId = db.remainingOf ownerId := rfl

theorem usable_nonneg {ownerId : ℕ} {c : WalletCharge} (h : 0 ≤ c.remainingToman) :
    0 ≤ usable ownerId c := by
  unfold usable
  split_ifs
  · exact h
  · exact le_rfl

theorem usable_of_remaining_zero {ownerId : ℕ} {c : WalletCharge} (h : c.remainingToman = 0) :
    usable ownerId c = 0 := by
  unfold usable
  rw [h, ite_self]

theorem usable_of_expired {ownerId : ℕ} {c : WalletCharge} (h : c.isExpired = true) :
    usable ownerId c = 0 := by
  unfold usable
  rw [if_neg fun hc => by rw [h] at hc; cases hc.2]

/-- The rows after a change that leaves the keys and the expiry, against the rows before. -/
theorem creditStock_of_ids {t t' : Table WalletCharge} {ownerId : ℕ} (hids : t'.ids = t.ids)
    (hexpires : ∀ c ∈ t.rows, ((t'.find? c.id).getD c).expiresAt = c.expiresAt) :
    creditStock t' ownerId = stock t.rows WalletCharge.expiresAt
      fun c => usable ownerId ((t'.find? c.id).getD c) := by
  unfold creditStock
  rw [Table.rows_eq_map hids, stock_map]
  exact stock_congr hexpires _

/-! ## A deduction takes the earliest -/

theorem ids_flushTakes {ownerId : ℕ} {reason : WalletTransactionReason} {reference : Option String}
    (xs : List (WalletCharge × ℤ)) :
    ∀ db : WalletDb, (flushTakes ownerId reason reference db xs).charges.ids = db.charges.ids := by
  induction xs with
  | nil => intro db; rfl
  | cons x xs ih =>
    intro db
    unfold flushTakes
    rw [ih]
    simp only [apply, Table.ids_modify]

section Deduct

variable {db db' : WalletDb} {scan : Scan WalletCharge} {ownerId : ℕ} {amount : ℤ}
  {reason : WalletTransactionReason} {reference : Option String} {p : Plan}

/-- A charge of the plan comes before the ones that are left, in the order of expiry. -/
theorem Plan.Splits.before (hsplits : p.Splits (db.deductibleCharges scan ownerId) amount)
    {c d : WalletCharge} (hc : c ∈ p.takes.map Prod.fst) (hd : d ∈ db.deductibleCharges scan ownerId)
    (hdrained : d ∉ p.drained) : c.expiresAt ≤ d.expiresAt := by
  have hsorted := deductibleCharges_sorted db scan ownerId
  rw [hsplits.charges] at hsorted hd
  obtain ⟨-, hrest, hfirst⟩ := List.pairwise_append.1 hsorted
  rw [p.takes_fst] at hc
  rcases List.mem_append.1 hd with hd | hd
  · exact absurd hd hdrained
  · rcases List.mem_append.1 hc with hc | hc
    · exact hfirst c hc d hd
    · rcases List.mem_append.1 hd with hd | hd
      · -- at most one charge is reduced
        obtain ⟨x, hx, rfl⟩ := List.mem_map.1 hc
        obtain ⟨y, hy, rfl⟩ := List.mem_map.1 hd
        obtain rfl := Option.mem_unique (Option.mem_toList.1 hx) (Option.mem_toList.1 hy)
        exact le_rfl
      · exact (List.pairwise_append.1 hrest).2.2 c hc d hd

/-- A charge that is not selected holds no credit of the owner. -/
theorem usable_of_not_deductible {c : WalletCharge} (hc : c ∈ db.charges.rows)
    (hnonneg : 0 ≤ c.remainingToman) (h : c ∉ db.deductibleCharges scan ownerId) :
    usable ownerId c = 0 := by
  unfold usable
  split_ifs with husable
  · by_contra hne
    exact h (mem_deductibleCharges.2 ⟨hc, husable.1, husable.2, by omega⟩)
  · rfl

/-- The charges after a deduction, one by one. -/
theorem Deducted.charge (h : Deducted db db' ownerId amount reason reference p)
    (hsplits : p.Splits (db.deductibleCharges scan ownerId) amount) {c : WalletCharge}
    (hc : c ∈ db.charges.rows) :
    (c ∈ p.takes.map Prod.fst ∧
      ∃ r, db'.charges.find? c.id = some { c with remainingToman := r } ∧ (c ∈ p.drained → r = 0)) ∨
    (c ∉ p.takes.map Prod.fst ∧ db'.charges.find? c.id = some c) := by
  have hrows : ∀ d ∈ p.takes.map Prod.fst, d ∈ db.charges.rows := fun d hd => by
    have hdeductible : d ∈ db.deductibleCharges scan ownerId := by
      rw [hsplits.charges, ← List.append_assoc, ← p.takes_fst]
      exact List.mem_append_left _ hd
    exact (mem_deductibleCharges.1 hdeductible).1
  by_cases hmem : c ∈ p.takes.map Prod.fst
  · refine Or.inl ⟨hmem, ?_⟩
    rw [p.takes_fst] at hmem
    by_cases hdrained : c ∈ p.drained
    · exact ⟨0, h.drained c hdrained, fun _ => rfl⟩
    · obtain ⟨x, hx, rfl⟩ := List.mem_map.1 ((List.mem_append.1 hmem).resolve_left hdrained)
      exact ⟨_, h.reduced x (Option.mem_toList.1 hx), fun hd => absurd hd hdrained⟩
  · refine Or.inr ⟨hmem, ?_⟩
    rw [h.others c.id fun x hx hid => hmem ?_]
    · exact Table.find?_of_mem hc
    · have hx' : x.1 ∈ p.takes.map Prod.fst := List.mem_map_of_mem hx
      rwa [Table.eq_of_id_eq (hrows _ hx') hc hid] at hx'

/-- The credit falls by what is deducted. -/
theorem remainingOf_deduct (h : Balanced db) (hpos : 0 < amount)
    (hok : db.deduct scan ownerId amount reason reference = .ok (db', true)) :
    db'.remainingOf ownerId = db.remainingOf ownerId - amount := by
  obtain ⟨-, htrue⟩ | ⟨-, -, hle, hdb⟩ := deduct_ok hok
  · exact absurd hpos (not_lt.2 (of_decide_eq_true htrue.symm))
  have howner : ownerId ∈ db.owners.ids := by
    by_contra hno
    have hzero : db.balance ownerId = 0 := by
      unfold balance
      rw [Table.find?_eq_none_iff.2 hno]
      rfl
    rw [totalRemaining_deductibleCharges scan fun c hc _ => h.remaining_nonneg c hc, ← h.balance_eq] at hle
    omega
  have howner' : ownerId ∈ (flushTakes ownerId reason reference db
      (splitDeduction (db.deductibleCharges scan ownerId) amount).1).owners.ids := by
    rw [flushTakes_owners]
    exact howner
  rw [← (h.deduct hok).balance_eq, ← h.balance_eq, hdb, balance_addBalance _ howner', if_pos rfl,
    ← sub_eq_add_neg]
  unfold balance
  rw [flushTakes_owners]

/-- **A deduction of the code takes the credit that expires first.** -/
theorem deduct_takesEarliest (h : Balanced db) (hpos : 0 < amount)
    (hok : db.deduct scan ownerId amount reason reference = .ok (db', true)) :
    TakesEarliest (creditStock db.charges ownerId) amount (creditStock db'.charges ownerId) := by
  have htotal := remainingOf_deduct h hpos hok
  obtain ⟨-, htrue⟩ | ⟨-, -, hle, rfl⟩ := deduct_ok hok
  · exact absurd hpos (not_lt.2 (of_decide_eq_true htrue.symm))
  obtain ⟨p, hsplits, htakes⟩ := exists_plan (db.deductibleCharges scan ownerId)
    (fun c hc => (mem_deductibleCharges.1 hc).2.2.2) amount hpos.le hle
  have hd := deducted_of_takes reason reference hsplits htakes
  rw [htakes] at htotal ⊢
  set after := (flushTakes ownerId reason reference db p.takes).apply (.addBalance ownerId (-amount))
  have hids : after.charges.ids = db.charges.ids := ids_flushTakes p.takes db
  have hstock : creditStock after.charges ownerId = stock db.charges.rows WalletCharge.expiresAt
      fun c => usable ownerId ((after.charges.find? c.id).getD c) := by
    refine creditStock_of_ids hids fun c hc => ?_
    obtain ⟨-, r, hr, -⟩ | ⟨-, hr⟩ := hd.charge hsplits hc
    · rw [hr]
      rfl
    · rw [hr]
      rfl
  rw [hstock]
  refine takesEarliest_of_items ?_ fun c hc d hd' hlt hne => ?_
  · rw [← stock_univ, ← hstock, creditStock_univ, creditOf_charges, htotal]
    rfl
  · have hdtakes : d ∈ p.takes.map Prod.fst := by
      obtain ⟨hmem, -⟩ | ⟨-, hr⟩ := hd.charge hsplits hd'
      · exact hmem
      · rw [hr] at hne
        exact absurd rfl hne
    by_cases hcmem : c ∈ db.deductibleCharges scan ownerId
    · have hcdrained : c ∈ p.drained := by
        by_contra hnot
        exact not_lt.2 (hsplits.before hdtakes hcmem hnot) hlt
      obtain ⟨-, r, hr, hzero⟩ | ⟨hnot, -⟩ := hd.charge hsplits hc
      · rw [hr, hzero hcdrained]
        exact usable_of_remaining_zero rfl
      · rw [p.takes_fst] at hnot
        exact absurd (List.mem_append_left _ hcdrained) hnot
    · have hctakes : c ∉ p.takes.map Prod.fst := fun hmem => by
        rw [hsplits.charges, ← List.append_assoc, ← p.takes_fst] at hcmem
        exact hcmem (List.mem_append_left _ hmem)
      obtain ⟨hmem, -⟩ | ⟨-, hr⟩ := hd.charge hsplits hc
      · exact absurd hmem hctakes
      · rw [hr]
        exact usable_of_not_deductible hc (h.remaining_nonneg c hc) hcmem

end Deduct

/-! ## A sweep drops what is due -/

/-- A charge as the sweep leaves it. -/
def swept (now : Datetime) (c : WalletCharge) : WalletCharge :=
  if stale now c then { c with remainingToman := 0, isExpired := true } else c

theorem expiresAt_swept (now : Datetime) (c : WalletCharge) : (swept now c).expiresAt = c.expiresAt := by
  unfold swept
  split_ifs
  · rfl
  · rfl

theorem id_swept (now : Datetime) (c : WalletCharge) : (swept now c).id = c.id := by
  unfold swept
  split_ifs
  · rfl
  · rfl

theorem usable_swept {ownerId : ℕ} {now : Datetime} {c : WalletCharge} (h : 0 ≤ c.remainingToman) :
    usable ownerId (swept now c) = if c.expiresAt ≤ now then 0 else usable ownerId c := by
  unfold swept
  by_cases hstale : stale now c = true
  · have hdue : c.expiresAt ≤ now := by
      unfold stale at hstale
      simp only [Bool.and_eq_true, decide_eq_true_eq] at hstale
      exact hstale.1.2
    rw [if_pos hstale, if_pos hdue]
    exact usable_of_expired rfl
  · rw [if_neg hstale]
    split_ifs with hdue
    · unfold stale at hstale
      simp only [Bool.and_eq_true, Bool.not_eq_true', decide_eq_true_eq, not_and] at hstale
      cases hexp : c.isExpired with
      | true => exact usable_of_expired hexp
      | false => exact usable_of_remaining_zero (le_antisymm (not_lt.1 (hstale ⟨hexp, hdue⟩)) h)
    · rfl

section Sweep

variable {owners : Table ShopOwner}

theorem ids_foldl_expireCharge (cs : List WalletCharge) :
    ∀ db : WalletDb, (cs.foldl (expireCharge owners) db).charges.ids = db.charges.ids := by
  induction cs with
  | nil => intro db; rfl
  | cons c cs ih =>
    intro db
    rw [List.foldl_cons, ih]
    unfold expireCharge
    split
    · rfl
    · simp only [apply, Table.ids_modify]

/-- The rounds of the sweep close their own charges and leave the others. -/
theorem find?_foldl_expireCharge (cs : List WalletCharge) (h : ∀ c ∈ cs, c.shopOwnerId ∈ owners.ids)
    (i : ℕ) : ∀ db : WalletDb, (cs.foldl (expireCharge owners) db).charges.find? i =
      if i ∈ cs.map WalletCharge.id then
        (db.charges.find? i).map fun c => { c with remainingToman := 0, isExpired := true }
      else db.charges.find? i := by
  induction cs with
  | nil => intro db; rfl
  | cons c cs ih =>
    intro db
    have hfirst : (expireCharge owners db c).charges.find? i = if i = c.id then
        (db.charges.find? i).map fun c => { c with remainingToman := 0, isExpired := true }
        else db.charges.find? i := by
      have hcharges : (applyAll db (expireEdits c db.transactions.nextId)).charges =
          db.charges.modify c.id fun c => { c with remainingToman := 0, isExpired := true } := rfl
      rw [expireCharge_eq db (h c List.mem_cons_self), hcharges, Table.find?_modify]
    rw [List.foldl_cons, ih (fun d hd => h d (List.mem_cons_of_mem _ hd)), hfirst, List.map_cons]
    by_cases hi : i = c.id
    · rw [if_pos hi, if_pos (List.mem_cons.2 (Or.inl hi))]
      split_ifs
      · rw [Option.map_map]
        rfl
      · rfl
    · rw [if_neg hi]
      have hmem : i ∈ c.id :: cs.map WalletCharge.id ↔ i ∈ cs.map WalletCharge.id :=
        List.mem_cons.trans (or_iff_right hi)
      simp only [hmem]

/-- A round of the sweep only adds rows for the expiry. -/
theorem sum_foldl_expireCharge {g : WalletTransaction → ℤ} (hg : ∀ c id, g (expiryTransaction c id) = 0)
    (cs : List WalletCharge) : ∀ db : WalletDb,
      (cs.foldl (expireCharge owners) db).transactions.sum g = db.transactions.sum g := by
  induction cs with
  | nil => intro db; rfl
  | cons c cs ih =>
    intro db
    rw [List.foldl_cons, ih]
    unfold expireCharge
    split
    · rfl
    · show (db.transactions.insert _).sum g = _
      rw [Table.sum_insert (Table.nextId_notMem db.transactions), hg, add_zero]

end Sweep

/-- After the sweep of the code, every charge is `swept`. -/
theorem find?_expireStaleCharges {db : WalletDb} (h : Balanced db) (scan : Scan WalletCharge)
    (now : Datetime) {c : WalletCharge} (hc : c ∈ db.charges.rows) :
    (db.expireStaleCharges scan now).1.charges.find? c.id = some (swept now c) := by
  unfold expireStaleCharges swept
  dsimp only
  have hfind : db.charges.find? c.id = some c := Table.find?_of_mem hc
  rw [find?_foldl_expireCharge _ (fun d hd => ((h.stale scan now).1 d hd).2.2), hfind]
  have hmem : c.id ∈ (db.staleCharges scan now).map WalletCharge.id ↔ stale now c = true := by
    rw [List.mem_map]
    constructor
    · rintro ⟨d, hd, hid⟩
      obtain ⟨hrow, hstale⟩ := Table.mem_select.1 hd
      rwa [Table.eq_of_id_eq hrow hc hid] at hstale
    · exact fun hstale => ⟨c, Table.mem_select.2 ⟨hc, hstale⟩, rfl⟩
  simp only [hmem]
  split_ifs
  · rfl
  · rfl

/-- **A sweep of the code drops the credit that is due**, and nothing else. -/
theorem expireStaleCharges_stock {db : WalletDb} (h : Balanced db) (scan : Scan WalletCharge)
    (now : Datetime) (ownerId : ℕ) (U : Set Datetime) :
    creditStock (db.expireStaleCharges scan now).1.charges ownerId U =
      creditStock db.charges ownerId (U ∩ Set.Ioi now) := by
  have hafter : ∀ c ∈ db.charges.rows,
      ((db.expireStaleCharges scan now).1.charges.find? c.id).getD c = swept now c := fun c hc => by
    rw [find?_expireStaleCharges h scan now hc]
    rfl
  have hids : (db.expireStaleCharges scan now).1.charges.ids = db.charges.ids :=
    ids_foldl_expireCharge _ db
  rw [creditStock_of_ids hids fun c hc => by rw [hafter c hc]; exact expiresAt_swept now c]
  refine stock_expire (fun c hc => ?_) U
  rw [hafter c hc]
  exact usable_swept (h.remaining_nonneg c hc)

/-! ## The other allocation -/

/-- The charges after the sweep of the other allocation. -/
def closeStale (now : Datetime) (t : Table WalletCharge) : Table WalletCharge :=
  ⟨t.rows.map (swept now), by
    rw [List.map_map]
    exact (List.map_congr_left fun c _ => id_swept now c : _ = t.rows.map Keyed.id) ▸ t.nodup⟩

/-- What a sweep closes of an owner's credit. -/
def staleCredit (now : Datetime) (t : Table WalletCharge) (ownerId : ℕ) : ℤ :=
  t.sum fun c => if stale now c then usable ownerId c else 0

/-- The charges after so much is taken from each. -/
def takeFrom (t : Table WalletCharge) (take : ℕ → ℤ) : Table WalletCharge :=
  ⟨t.rows.map fun c => { c with remainingToman := c.remainingToman - take c.id }, by
    rw [List.map_map]
    exact t.nodup⟩

/-- The amounts serve a deduction: they come from non-expired charges of the owner, leave none of them
below zero, and add up. -/
def Serves (ownerId : ℕ) (t : Table WalletCharge) (take : ℕ → ℤ) (amountToman : ℤ) : Prop :=
  (∀ c ∈ t.rows, 0 ≤ take c.id ∧ take c.id ≤ c.remainingToman ∧
    (take c.id ≠ 0 → c.shopOwnerId = ownerId ∧ c.isExpired = false)) ∧
  (t.rows.map fun c => take c.id).sum = amountToman

instance (ownerId : ℕ) (t : Table WalletCharge) (take : ℕ → ℤ) (amountToman : ℤ) :
    Decidable (Serves ownerId t take amountToman) := inferInstanceAs (Decidable (_ ∧ _))

/-- The other allocation takes the amount as well, in its own way. -/
theorem takeFrom_takes {ownerId : ℕ} {t : Table WalletCharge} {take : ℕ → ℤ} {amount : ℤ}
    (h : Serves ownerId t take amount) :
    Takes (creditStock t ownerId) amount (creditStock (takeFrom t take) ownerId) := by
  obtain ⟨hrows, htotal⟩ := h
  have husable : ∀ c ∈ t.rows, usable ownerId { c with remainingToman := c.remainingToman - take c.id } =
      usable ownerId c - take c.id := fun c hc => by
    unfold usable
    by_cases hc' : c.shopOwnerId = ownerId ∧ c.isExpired = false
    · rw [if_pos hc', if_pos hc']
    · rw [if_neg hc', if_neg hc', not_imp_comm.1 (hrows c hc).2.2 hc']
      rfl
  have hstock : creditStock (takeFrom t take) ownerId = stock t.rows WalletCharge.expiresAt
      fun c => usable ownerId { c with remainingToman := c.remainingToman - take c.id } :=
    stock_map _ _ _ _
  rw [hstock]
  refine takes_of_items ?_ (fun c hc => ?_) fun c hc => ?_
  · rw [List.map_congr_left husable, ← htotal]
    exact Table.sum_sub t (usable ownerId) fun c => take c.id
  · rw [husable c hc]
    have h0 := (hrows c hc).1
    omega
  · exact usable_nonneg (sub_nonneg.2 (hrows c hc).2.1)

/-- The sweep drops the credit of the other allocation that is due. -/
theorem closeStale_stock {t : Table WalletCharge} (h : ∀ c ∈ t.rows, 0 ≤ c.remainingToman)
    (now : Datetime) (ownerId : ℕ) (U : Set Datetime) :
    creditStock (closeStale now t) ownerId U = creditStock t ownerId (U ∩ Set.Ioi now) := by
  have hstock : creditStock (closeStale now t) ownerId =
      stock t.rows (fun c => (swept now c).expiresAt) fun c => usable ownerId (swept now c) :=
    stock_map _ _ _ _
  rw [hstock, stock_congr fun c _ => expiresAt_swept now c]
  exact stock_expire (fun c hc => usable_swept (h c hc)) U

theorem creditOf_closeStale (now : Datetime) (t : Table WalletCharge) (ownerId : ℕ) :
    creditOf (closeStale now t) ownerId = creditOf t ownerId - staleCredit now t ownerId := by
  unfold creditOf staleCredit
  rw [← Table.sum_sub]
  unfold Table.sum closeStale
  rw [List.map_map]
  refine congrArg List.sum (List.map_congr_left fun c _ => ?_)
  show usable ownerId (swept now c) = _
  unfold swept
  split_ifs
  · rw [sub_self]
    exact usable_of_expired rfl
  · rw [sub_zero]

/-! ## What is lost -/

/-- What the sweeps have closed of an owner's credit, from the ledger. -/
def expiryOf (db : WalletDb) (ownerId : ℕ) : ℤ :=
  db.transactions.sum fun t => if t.shopOwnerId = ownerId ∧ t.reason = .EXPIRY then -t.amountToman else 0

/-- The other rows of an owner's ledger. -/
def usesOf (db : WalletDb) (ownerId : ℕ) : ℤ :=
  db.transactions.sum fun t => if t.shopOwnerId = ownerId ∧ t.reason ≠ .EXPIRY then t.amountToman else 0

theorem remainingOf_eq_sub {db : WalletDb} (h : Balanced db) (ownerId : ℕ) :
    db.remainingOf ownerId = db.usesOf ownerId - db.expiryOf ownerId := by
  rw [← h.owner_ledger]
  unfold ledgerOfOwner usesOf expiryOf
  rw [← Table.sum_sub]
  refine Table.sum_congr fun t _ => ?_
  by_cases howner : t.shopOwnerId = ownerId
  · by_cases hreason : t.reason = .EXPIRY
    · simp [howner, hreason]
    · simp [howner, hreason]
  · simp [howner]

theorem sum_flushTakes {ownerId : ℕ} {reason : WalletTransactionReason} {reference : Option String}
    {g : WalletTransaction → ℤ} (hg : ∀ x id, g (takeTransaction ownerId reason reference x id) = 0)
    (xs : List (WalletCharge × ℤ)) : ∀ db : WalletDb,
      (flushTakes ownerId reason reference db xs).transactions.sum g = db.transactions.sum g := by
  induction xs with
  | nil => intro db; rfl
  | cons x xs ih =>
    intro db
    unfold flushTakes
    rw [ih]
    show (db.transactions.insert _).sum g = _
    rw [Table.sum_insert (Table.nextId_notMem db.transactions), hg, add_zero]

theorem expiryOf_deduct {db db' : WalletDb} {scan : Scan WalletCharge} {ownerId : ℕ} {amount : ℤ}
    {reason : WalletTransactionReason} {reference : Option String} {r : Bool}
    (hreason : reason ≠ .EXPIRY) (hok : db.deduct scan ownerId amount reason reference = .ok (db', r)) :
    db'.expiryOf ownerId = db.expiryOf ownerId := by
  obtain ⟨rfl, -⟩ | ⟨-, -, -, rfl⟩ := deduct_ok hok
  · rfl
  · exact sum_flushTakes (fun _ _ => if_neg fun hc => hreason hc.2) _ db

theorem usesOf_expireStaleCharges (db : WalletDb) (scan : Scan WalletCharge) (now : Datetime)
    (ownerId : ℕ) : (db.expireStaleCharges scan now).1.usesOf ownerId = db.usesOf ownerId :=
  sum_foldl_expireCharge (fun _ _ => if_neg fun hc => hc.2 rfl) _ db

/-- The new balance after a charge fits its column. -/
theorem addCharge_fits {db db' : WalletDb} {settings : AdminSettings} {now : Datetime} {ownerId : ℕ}
    {amount : ℤ} {reason : WalletTransactionReason} {paymentId : Option ℕ}
    {validityMonths : Option ℤ} {reference : Option String} {c : WalletCharge}
    (h : db.addCharge settings now ownerId amount reason paymentId validityMonths reference =
      .ok (db', c)) : Int4 (db.balance ownerId + amount) := by
  unfold addCharge at h
  split_ifs at h with hpos
  obtain ⟨expiresAt, -, h⟩ := bind_ok h
  obtain ⟨db₁, h₁, h⟩ := bind_ok h
  obtain ⟨db₂, h₂, -⟩ := bind_ok h
  unfold insertCharge at h₁
  split_ifs at h₁
  cases h₁
  obtain ⟨⟨owner, hfind, hfits⟩, -⟩ := applyBalanceDelta_ok h₂
  have hfind' : db.owners.find? ownerId = some owner := hfind
  unfold balance
  rw [hfind']
  exact hfits

/-! ## Runs -/

/-- The tables of the code, and the charges of another allocation with what it has lost. -/
structure Rivals where
  db : WalletDb
  other : Table WalletCharge
  otherLost : ℤ

inductive RivalEvent where
  | addCharge (settings : AdminSettings) (now : Datetime) (amountToman : ℤ)
      (reason : WalletTransactionReason) (paymentId : Option ℕ) (validityMonths : Option ℤ)
      (reference : Option String)
  /-- A deduction, with what the other allocation takes for it from each charge. -/
  | deduct (scan : Scan WalletCharge) (amountToman : ℤ) (reason : WalletTransactionReason)
      (reference : Option String) (take : ℕ → ℤ)
  | expireStaleCharges (scan : Scan WalletCharge) (now : Datetime)

namespace Rivals

/-- One event for both.  The other allocation serves what the code serves; nothing but the sweep is
booked as expiry. -/
def step (ownerId : ℕ) (s : Rivals) : RivalEvent → Option Rivals
  | .addCharge settings now amount reason paymentId validityMonths reference =>
    if reason = .EXPIRY then none
    else
      match s.db.addCharge settings now ownerId amount reason paymentId validityMonths reference with
      | .error _ => some s
      | .ok (db, c) => some { s with db := db, other := s.other.insert c }
  | .deduct scan amount reason reference take =>
    if reason = .EXPIRY then none
    else
      match s.db.deduct scan ownerId amount reason reference with
      | .error _ => some s
      | .ok (db, false) => some { s with db := db }
      | .ok (db, true) =>
        if Serves ownerId s.other take (max amount 0) then
          some { s with db := db, other := takeFrom s.other take }
        else none
  | .expireStaleCharges scan now =>
    some { db := (s.db.expireStaleCharges scan now).1, other := closeStale now s.other,
           otherLost := s.otherLost + staleCredit now s.other ownerId }

/-- The code holds at least as much from every expiry on, and what it holds and has lost together is
what the other allocation holds and has lost. -/
structure Inv (ownerId : ℕ) (s : Rivals) : Prop where
  balanced : Balanced s.db
  column : s.db.remainingOf ownerId ≤ 2147483647
  ids : s.other.ids = s.db.charges.ids
  nonneg : ∀ c ∈ s.other.rows, 0 ≤ c.remainingToman
  dominates : Dominates (creditStock s.db.charges ownerId) (creditStock s.other ownerId)
  kept : s.db.expiryOf ownerId + s.db.remainingOf ownerId = s.otherLost + creditOf s.other ownerId

variable {ownerId : ℕ} {s : Rivals}

/-- A new charge is the same for both. -/
theorem Inv.addCharge (h : Inv ownerId s) {settings : AdminSettings} {now : Datetime} {amount : ℤ}
    {reason : WalletTransactionReason} {paymentId : Option ℕ} {validityMonths : Option ℤ}
    {reference : Option String} {db : WalletDb} {c : WalletCharge} (hreason : reason ≠ .EXPIRY)
    (hok : s.db.addCharge settings now ownerId amount reason paymentId validityMonths reference =
      .ok (db, c)) : Inv ownerId { s with db := db, other := s.other.insert c } := by
  have hbalanced := h.balanced.addCharge hok
  have hcolumn := addCharge_fits hok
  obtain ⟨hpos, howner, hid, hco, -, hca, hcr, hce, rfl⟩ := addCharge_ok hok
  have hfresh : Keyed.id c ∉ s.db.charges.ids := by
    show c.id ∉ _
    rw [hid]
    exact Table.nextId_notMem _
  have hfresh' : Keyed.id c ∉ s.other.ids := h.ids ▸ hfresh
  have husable : usable ownerId c = amount := by
    unfold usable
    rw [if_pos ⟨hco, hce⟩, hcr]
  have hstock : ∀ t : Table WalletCharge, Keyed.id c ∉ t.ids → ∀ U, creditStock (t.insert c) ownerId U =
      creditStock t ownerId U + stock [c] WalletCharge.expiresAt (usable ownerId) U := by
    intro t ht U
    unfold creditStock
    rw [Table.insert_rows ht, stock_append]
  have hremaining : (applyAll s.db (addChargeEdits c (chargeTransaction c reason reference
      s.db.transactions.nextId))).remainingOf ownerId = s.db.remainingOf ownerId + amount := by
    show (s.db.charges.insert c).sum (usable ownerId) = _
    rw [Table.sum_insert hfresh, husable]
    rfl
  refine ⟨hbalanced, ?_, ?_, fun d hd => ?_, h.dominates.add _ (hstock _ hfresh) (hstock _ hfresh'), ?_⟩
  · dsimp only
    rw [hremaining, ← h.balanced.balance_eq]
    exact hcolumn.2
  · show (s.other.insert c).ids = (s.db.charges.insert c).ids
    unfold Table.ids
    rw [Table.insert_rows hfresh, Table.insert_rows hfresh', List.map_append, List.map_append]
    exact congrArg (· ++ _) h.ids
  · rcases (Table.mem_insert hfresh').1 hd with hd | rfl
    · exact h.nonneg d hd
    · omega
  · have hlost : (applyAll s.db (addChargeEdits c (chargeTransaction c reason reference
        s.db.transactions.nextId))).expiryOf ownerId = s.db.expiryOf ownerId := by
      show (s.db.transactions.insert _).sum _ = _
      rw [Table.sum_insert (Table.nextId_notMem s.db.transactions), if_neg fun hc => hreason hc.2,
        add_zero]
      rfl
    have hkept := h.kept
    have hother : creditOf (s.other.insert c) ownerId = creditOf s.other ownerId + amount := by
      unfold creditOf
      rw [Table.sum_insert hfresh', husable]
    dsimp only
    rw [hlost, hremaining, hother]
    omega

/-- A deduction that the code serves. -/
theorem Inv.deduct (h : Inv ownerId s) {scan : Scan WalletCharge} {amount : ℤ}
    {reason : WalletTransactionReason} {reference : Option String} {take : ℕ → ℤ} {db : WalletDb}
    (hreason : reason ≠ .EXPIRY) (hok : s.db.deduct scan ownerId amount reason reference = .ok (db, true))
    (hserves : Serves ownerId s.other take (max amount 0)) :
    Inv ownerId { s with db := db, other := takeFrom s.other take } := by
  have htakes := takeFrom_takes hserves
  have hremaining : db.remainingOf ownerId = s.db.remainingOf ownerId - max amount 0 ∧
      TakesEarliest (creditStock s.db.charges ownerId) (max amount 0) (creditStock db.charges ownerId) ∧
      db.charges.ids = s.db.charges.ids := by
    rcases le_or_gt amount 0 with hle | hpos
    · rw [deduct_of_nonpos _ _ _ _ _ hle] at hok
      cases hok
      rw [max_eq_right hle, sub_zero]
      exact ⟨rfl, ⟨(sub_zero _).symm, fun U _ => Or.inl rfl⟩, rfl⟩
    · rw [max_eq_left hpos.le]
      refine ⟨remainingOf_deduct h.balanced hpos hok, deduct_takesEarliest h.balanced hpos hok, ?_⟩
      obtain ⟨rfl, -⟩ | ⟨-, -, -, rfl⟩ := deduct_ok hok
      · rfl
      · exact ids_flushTakes _ s.db
  obtain ⟨hremaining, hearliest, hids⟩ := hremaining
  refine ⟨h.balanced.deduct hok, ?_, ?_, fun c hc => ?_, h.dominates.take hearliest htakes, ?_⟩
  · have hcolumn := h.column
    dsimp only
    omega
  · show (takeFrom s.other take).ids = db.charges.ids
    rw [hids, ← h.ids]
    unfold Table.ids takeFrom
    rw [List.map_map]
    rfl
  · obtain ⟨d, hd, rfl⟩ := List.mem_map.1 hc
    exact sub_nonneg.2 (hserves.1 d hd).2.1
  · have htotal := htakes.total
    rw [creditStock_univ, creditStock_univ] at htotal
    have hkept := h.kept
    dsimp only
    rw [expiryOf_deduct hreason hok, hremaining, htotal]
    omega

/-- A sweep. -/
theorem Inv.expireStaleCharges (h : Inv ownerId s) (scan : Scan WalletCharge) (now : Datetime) :
    Inv ownerId
      { db := (s.db.expireStaleCharges scan now).1, other := closeStale now s.other,
        otherLost := s.otherLost + staleCredit now s.other ownerId } := by
  have hbalanced := h.balanced.expireStaleCharges scan now
  have hstock := expireStaleCharges_stock h.balanced scan now ownerId
  refine ⟨hbalanced, ?_, ?_, fun c hc => ?_,
    h.dominates.expire now hstock (closeStale_stock h.nonneg now ownerId), ?_⟩
  · have hle : creditStock s.db.charges ownerId (Set.univ ∩ Set.Ioi now) ≤
        creditStock s.db.charges ownerId Set.univ :=
      stock_le_of_subset (fun c hc => usable_nonneg (h.balanced.remaining_nonneg c hc))
        Set.inter_subset_left
    rw [← hstock, creditStock_univ, creditStock_univ] at hle
    exact le_trans hle h.column
  · show (closeStale now s.other).ids = (s.db.expireStaleCharges scan now).1.charges.ids
    have hids : (s.db.expireStaleCharges scan now).1.charges.ids = s.db.charges.ids :=
      ids_foldl_expireCharge _ s.db
    rw [hids, ← h.ids]
    unfold Table.ids closeStale
    rw [List.map_map]
    exact List.map_congr_left fun c _ => id_swept now c
  · obtain ⟨d, hd, rfl⟩ := List.mem_map.1 hc
    have h0 := h.nonneg d hd
    unfold swept
    split_ifs
    · exact le_rfl
    · exact h0
  · have hkept := h.kept
    have hbefore := remainingOf_eq_sub h.balanced ownerId
    have hafter := remainingOf_eq_sub hbalanced ownerId
    rw [usesOf_expireStaleCharges] at hafter
    have hother := creditOf_closeStale now s.other ownerId
    dsimp only
    omega

theorem Inv.step {s' : Rivals} {e : RivalEvent} (h : Inv ownerId s) (hs : s.step ownerId e = some s') :
    Inv ownerId s' := by
  cases e with
  | addCharge settings now amount reason paymentId validityMonths reference =>
    unfold Rivals.step at hs
    dsimp only at hs
    split_ifs at hs with hreason
    split at hs
    · cases hs
      exact h
    · rename_i hok
      cases hs
      exact h.addCharge hreason hok
  | deduct scan amount reason reference take =>
    unfold Rivals.step at hs
    dsimp only at hs
    by_cases hreason : reason = .EXPIRY
    · rw [if_pos hreason] at hs
      cases hs
    rw [if_neg hreason] at hs
    split at hs
    · cases hs
      exact h
    · rename_i hok
      cases hs
      obtain ⟨rfl, -⟩ | ⟨hr, -⟩ := deduct_ok hok
      · exact h
      · cases hr
    · rename_i hok
      split_ifs at hs with hserves
      cases hs
      exact h.deduct hreason hok hserves
  | expireStaleCharges scan now =>
    cases hs
    exact h.expireStaleCharges scan now

theorem inv_ofOwners {owners : Table ShopOwner} (h0 : ∀ o ∈ owners.rows, o.walletBalanceToman = 0)
    (ownerId : ℕ) : Inv ownerId ⟨ofOwners owners, .empty, 0⟩ where
  balanced := balanced_ofOwners h0
  column := (by norm_num : (0 : ℤ) ≤ 2147483647)
  ids := rfl
  nonneg _ hc := absurd hc List.not_mem_nil
  dominates := Dominates.refl _
  kept := rfl

/-- The code serves what the other allocation has the credit for. -/
theorem Inv.serves (h : Inv ownerId s) (scan : Scan WalletCharge) {amount : ℤ}
    (reason : WalletTransactionReason) (reference : Option String)
    (hle : amount ≤ creditOf s.other ownerId) :
    ∃ db, s.db.deduct scan ownerId amount reason reference = .ok (db, true) := by
  have htotal := h.dominates.total
  rw [creditStock_univ, creditStock_univ, creditOf_charges, ← h.balanced.balance_eq] at htotal
  have hcolumn := h.column
  rw [← h.balanced.balance_eq] at hcolumn
  by_cases hpos : amount ≤ 0
  · exact ⟨_, deduct_of_nonpos _ _ _ _ _ hpos⟩
  · have howner : ownerId ∈ s.db.owners.ids := by
      by_contra hno
      have hzero : s.db.balance ownerId = 0 := by
        unfold balance
        rw [Table.find?_eq_none_iff.2 hno]
        rfl
      omega
    refine ((deduct_spec s.db scan ownerId amount reason reference howner
      fun c hc _ => h.balanced.remaining_nonneg c hc).2.2.2.2.2 (h.balanced.balance_eq ownerId) ?_).2
      (Or.inr ?_)
    · unfold Int4
      omega
    · rw [← h.balanced.balance_eq]
      omega

/-- **Earliest expiry first loses the least.** From an empty wallet, after any sequence of charges,
deductions and sweeps: whatever another allocation takes for the deductions that the code serves, the
code's credit is at least as high, it has lost no more to expiry, and it serves every deduction that the
other one has the credit for. -/
theorem earliest_expiry_optimal (owners : Table ShopOwner)
    (h0 : ∀ o ∈ owners.rows, o.walletBalanceToman = 0) (ownerId : ℕ) (es : List RivalEvent) (s : Rivals)
    (hrun : Runs.exec (step ownerId) ⟨ofOwners owners, .empty, 0⟩ es = some s) :
    creditOf s.other ownerId ≤ s.db.remainingOf ownerId ∧
    s.db.expiryOf ownerId ≤ s.otherLost ∧
    ∀ scan amount reason reference, amount ≤ creditOf s.other ownerId →
      ∃ db, s.db.deduct scan ownerId amount reason reference = .ok (db, true) := by
  have h : Inv ownerId s := Runs.exec_inv_of_step (fun s e s' hI hs => hI.step hs) es _ s
    (inv_ofOwners h0 ownerId) hrun
  have htotal := h.dominates.total
  rw [creditStock_univ, creditStock_univ, creditOf_charges] at htotal
  have hkept := h.kept
  exact ⟨htotal, by omega, fun scan amount reason reference hle => h.serves scan reason reference hle⟩

/-- The other allocation spends the charge that expires last, and loses the other one. -/
def spendLast : List RivalEvent :=
  [.addCharge {} 0 100 .TOPUP none (some 2) none, .addCharge {} 0 60 .TRIAL none (some 1) none,
    .deduct .plain 50 .CHAT_MESSAGE none fun i => if i = 1 then 50 else 0,
    .expireStaleCharges .plain (days 30)]

theorem earliest_expiry_optimal_spendLast :
    (∀ o ∈ twoOwners.rows, o.walletBalanceToman = 0) ∧
    ∃ s, Runs.exec (step 1) ⟨ofOwners twoOwners, .empty, 0⟩ spendLast = some s ∧
      creditOf s.other 1 = 50 ∧ s.db.remainingOf 1 = 100 ∧ creditOf s.other 1 ≤ s.db.remainingOf 1 ∧
      s.db.expiryOf 1 ≤ s.otherLost := by
  refine ⟨by decide, _, rfl, by decide, by decide, ?_⟩
  have h := earliest_expiry_optimal twoOwners (by decide) 1 spendLast _ rfl
  exact ⟨h.1, h.2.1⟩

end Rivals

end WalletDb

end KasbOKar
