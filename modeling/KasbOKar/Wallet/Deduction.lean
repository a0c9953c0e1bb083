import KasbOKar.Wallet.Ledger

/-!
# What a deduction takes

`deduct` takes the amount from the usable charges of the owner, earliest expiry first.  `Plan` says
what that comes to: some charges are drained, at most one more is reduced, the rest is left as it is.
`exists_plan` finds the plan of the loop, `flushTakes_charges` and its siblings what the flush writes
for it, and `deduct_spec` puts the two together.
-/

namespace KasbOKar

namespace WalletDb

/-! ## The plan of the loop -/

/-- What the loop does with the charges: the drained ones, the one it reduces with the amount, and the
others. -/
structure Plan where
  drained : List WalletCharge
  reduced : Option (WalletCharge × ℤ)
  untouched : List WalletCharge

/-- The charges that are touched, with what is taken. -/
def Plan.takes (p : Plan) : List (WalletCharge × ℤ) :=
  p.drained.map (fun c => (c, c.remainingToman)) ++ p.reduced.toList

/-- The plan is one for this amount of these charges. -/
structure Plan.Splits (p : Plan) (charges : List WalletCharge) (amount : ℤ) : Prop where
  charges : charges = p.drained ++ (p.reduced.toList.map Prod.fst ++ p.untouched)
  drained : ∀ c ∈ p.drained, 0 < c.remainingToman
  reduced : ∀ x, p.reduced = some x → 0 < x.2 ∧ x.2 < x.1.remainingToman
  total : (p.takes.map Prod.snd).sum = amount

/-- Nothing is taken. -/
theorem Plan.splits_nothing (charges : List WalletCharge) : Plan.Splits ⟨[], none, charges⟩ charges 0 :=
  ⟨rfl, fun _ hc => absurd hc List.not_mem_nil, fun _ hx => absurd hx (Option.some_ne_none _).symm, rfl⟩

/-- One more charge is drained. -/
theorem Plan.Splits.cons {p : Plan} {charges : List WalletCharge} {amount : ℤ} {c : WalletCharge}
    (h : p.Splits charges (amount - c.remainingToman)) (hc : 0 < c.remainingToman) :
    Plan.Splits ⟨c :: p.drained, p.reduced, p.untouched⟩ (c :: charges) amount := by
  refine ⟨by rw [h.charges]; rfl, fun d hd => ?_, h.reduced, ?_⟩
  · rcases List.mem_cons.1 hd with rfl | hd
    · exact hc
    · exact h.drained d hd
  · have htotal := h.total
    show c.remainingToman + (p.takes.map Prod.snd).sum = amount
    omega

/-- What the loop of `deduct` takes when the charges suffice. -/
theorem exists_plan (charges : List WalletCharge) :
    (∀ c ∈ charges, 0 < c.remainingToman) → ∀ amount, 0 ≤ amount → amount ≤ totalRemaining charges →
      ∃ p : Plan, p.Splits charges amount ∧ (splitDeduction charges amount).1 = p.takes := by
  induction charges with
  | nil =>
    intro _ amount h0 hle
    obtain rfl : amount = 0 := le_antisymm hle h0
    exact ⟨_, Plan.splits_nothing [], rfl⟩
  | cons c cs ih =>
    intro hpos amount h0 hle
    have hc := hpos c List.mem_cons_self
    have hsum : totalRemaining (c :: cs) = c.remainingToman + totalRemaining cs := List.sum_cons
    unfold splitDeduction
    split_ifs with hdone
    · obtain rfl : amount = 0 := le_antisymm hdone h0
      exact ⟨_, Plan.splits_nothing (c :: cs), rfl⟩
    · dsimp only
      by_cases hdrain : c.remainingToman ≤ amount
      · rw [min_eq_left hdrain]
        obtain ⟨p, hp, htakes⟩ := ih (fun d hd => hpos d (List.mem_cons_of_mem _ hd))
          (amount - c.remainingToman) (by omega) (by omega)
        exact ⟨_, hp.cons hc, by rw [htakes]; rfl⟩
      · rw [min_eq_right (by omega), sub_self, splitDeduction_of_nonpos cs le_rfl]
        refine ⟨⟨[], some (c, amount), cs⟩, ⟨rfl, fun _ hd => absurd hd List.not_mem_nil, ?_, ?_⟩, rfl⟩
        · intro x hx
          cases hx
          exact ⟨not_le.1 hdone, not_le.1 hdrain⟩
        · exact add_zero amount

theorem Plan.takes_fst (p : Plan) :
    p.takes.map Prod.fst = p.drained ++ p.reduced.toList.map Prod.fst := by
  unfold takes
  rw [List.map_append, List.map_map]
  exact congrArg (· ++ _) (List.map_id _)

/-- No row of the ledger is for nothing. -/
theorem Plan.Splits.take_pos {p : Plan} {charges : List WalletCharge} {amount : ℤ}
    (h : p.Splits charges amount) {x : WalletCharge × ℤ} (hx : x ∈ p.takes) : 0 < x.2 := by
  rcases List.mem_append.1 hx with hx | hx
  · obtain ⟨c, hc, rfl⟩ := List.mem_map.1 hx
    exact h.drained c hc
  · exact (h.reduced x (Option.mem_toList.1 hx)).1

/-! ## What the flush writes -/

section Flush

variable {ownerId : ℕ} {reason : WalletTransactionReason} {reference : Option String}

theorem find?_setRemaining {db : WalletDb} {i : ℕ} {c : WalletCharge} (h : db.charges.find? i = some c)
    (remaining : ℤ) :
    (db.apply (.setRemaining i remaining)).charges.find? i =
      some { c with remainingToman := remaining } := by
  unfold apply
  dsimp only
  rw [Table.find?_modify_self _ h]

theorem flushTakes_owners (xs : List (WalletCharge × ℤ)) :
    ∀ db : WalletDb, (flushTakes ownerId reason reference db xs).owners = db.owners := by
  induction xs with
  | nil => intro db; rfl
  | cons x xs ih => exact fun db => ih _

/-- The charges that nothing is taken from stay as they are. -/
theorem flushTakes_charges_of_notMem {i : ℕ} (xs : List (WalletCharge × ℤ)) :
    ∀ db : WalletDb, (∀ x ∈ xs, x.1.id ≠ i) →
      (flushTakes ownerId reason reference db xs).charges.find? i = db.charges.find? i := by
  induction xs with
  | nil => intro db _; rfl
  | cons x xs ih =>
    intro db h
    unfold flushTakes
    rw [ih _ fun y hy => h y (List.mem_cons_of_mem _ hy)]
    exact find?_charges_apply db (.setRemaining x.1.id (x.1.remainingToman - x.2))
      fun hrow => h x List.mem_cons_self (WalletRow.charge.inj hrow)

/-- A charge that something is taken from. -/
theorem flushTakes_charges {x : WalletCharge × ℤ} (xs : List (WalletCharge × ℤ)) :
    ∀ db : WalletDb, (xs.map fun y => y.1.id).Nodup → x ∈ xs →
      db.charges.find? x.1.id = some x.1 →
      (flushTakes ownerId reason reference db xs).charges.find? x.1.id =
        some { x.1 with remainingToman := x.1.remainingToman - x.2 } := by
  induction xs with
  | nil => intro db _ hx; cases hx
  | cons y ys ih =>
    intro db hnodup hx hfind
    obtain ⟨hy, hys⟩ := List.nodup_cons.1 hnodup
    unfold flushTakes
    rcases List.mem_cons.1 hx with rfl | hx
    · have hrest : ∀ z ∈ ys, z.1.id ≠ x.1.id := fun z hz hid => hy (List.mem_map.2 ⟨z, hz, hid⟩)
      rw [flushTakes_charges_of_notMem ys _ hrest]
      exact find?_setRemaining hfind (x.1.remainingToman - x.2)
    · refine ih _ hys hx ?_
      have hne : x.1.id ≠ y.1.id := fun hid => hy (List.mem_map.2 ⟨x, hx, hid⟩)
      rw [← hfind]
      exact find?_charges_apply db (.setRemaining y.1.id (y.1.remainingToman - y.2))
        fun hrow => hne (WalletRow.charge.inj hrow).symm

/-- The ledger gets one row for every charge that is touched. -/
theorem flushTakes_transactions (xs : List (WalletCharge × ℤ)) :
    ∀ db : WalletDb, ∃ ts, (flushTakes ownerId reason reference db xs).transactions.rows =
        db.transactions.rows ++ ts ∧
      List.Forall₂ (fun t x => t = takeTransaction ownerId reason reference x t.id) ts xs := by
  induction xs with
  | nil => exact fun db => ⟨[], (List.append_nil _).symm, .nil⟩
  | cons x xs ih =>
    intro db
    obtain ⟨ts, hrows, hts⟩ := ih
      ((db.apply (.setRemaining x.1.id (x.1.remainingToman - x.2))).apply
        (.insertTransaction (takeTransaction ownerId reason reference x db.transactions.nextId)))
    refine ⟨takeTransaction ownerId reason reference x db.transactions.nextId :: ts, ?_, .cons rfl hts⟩
    have hinsert := Table.insert_rows (r := takeTransaction ownerId reason reference x
      db.transactions.nextId) (Table.nextId_notMem db.transactions)
    unfold flushTakes
    rw [hrows]
    show (db.transactions.insert _).rows ++ ts = _
    rw [hinsert, List.append_assoc]
    rfl

end Flush

/-! ## The sums of the rows that are selected -/

/-- The sum of a column over the rows that a filter keeps. -/
theorem sum_filter_ite {α : Type} (p : α → Bool) (f : α → ℤ) (l : List α) :
    ((l.filter p).map f).sum = (l.map fun x => if p x then f x else 0).sum := by
  induction l with
  | nil => rfl
  | cons x xs ih =>
    rw [List.filter_cons, List.map_cons, List.sum_cons, ← ih]
    split_ifs
    · rw [List.map_cons, List.sum_cons]
    · rw [zero_add]

/-- The selected charges hold the credit of the owner. -/
theorem totalRemaining_deductibleCharges {db : WalletDb} (scan : Scan WalletCharge) {ownerId : ℕ}
    (hnonneg : ∀ c ∈ db.charges.rows, c.shopOwnerId = ownerId → 0 ≤ c.remainingToman) :
    totalRemaining (db.deductibleCharges scan ownerId) = db.remainingOf ownerId := by
  have hperm : (db.deductibleCharges scan ownerId).Perm (db.charges.rows.filter (deductible ownerId)) :=
    (orderBy_perm _ _).trans (Table.select_perm _ _ _)
  calc totalRemaining (db.deductibleCharges scan ownerId)
      = ((db.charges.rows.filter (deductible ownerId)).map WalletCharge.remainingToman).sum :=
        (hperm.map _).sum_eq
    _ = db.charges.sum fun c => if deductible ownerId c then c.remainingToman else 0 := sum_filter_ite _ _ _
    _ = db.remainingOf ownerId := by
        refine Table.sum_congr fun c hc => ?_
        unfold deductible
        by_cases howner : c.shopOwnerId = ownerId
        · have h0 := hnonneg c hc howner
          cases hexp : c.isExpired with
          | true => simp [howner]
          | false =>
            by_cases hpos : 0 < c.remainingToman
            · simp [howner, hpos]
            · simp [howner]
              omega
        · simp [howner]

theorem deductibleCharges_sorted (db : WalletDb) (scan : Scan WalletCharge) (ownerId : ℕ) :
    (db.deductibleCharges scan ownerId).Pairwise fun a b => a.expiresAt ≤ b.expiresAt := by
  have : Std.Total fun a b : WalletCharge => a.expiresAt ≤ b.expiresAt := ⟨fun a b => le_total _ _⟩
  have : IsTrans WalletCharge fun a b => a.expiresAt ≤ b.expiresAt := ⟨fun a b c => le_trans⟩
  exact List.pairwise_insertionSort _ _

/-! ## The deduction -/

/-- What a successful deduction leaves: the charges of the plan with less in them, all others as they
were, one new row of the ledger for each charge that was touched, and the lower balance. -/
structure Deducted (db db' : WalletDb) (ownerId : ℕ) (amountToman : ℤ)
    (reason : WalletTransactionReason) (reference : Option String) (p : Plan) : Prop where
  drained : ∀ c ∈ p.drained, db'.charges.find? c.id = some { c with remainingToman := 0 }
  reduced : ∀ x, p.reduced = some x → db'.charges.find? x.1.id =
    some { x.1 with remainingToman := x.1.remainingToman - x.2 }
  untouched : ∀ c ∈ p.untouched, db'.charges.find? c.id = some c
  others : ∀ i, (∀ x ∈ p.takes, x.1.id ≠ i) → db'.charges.find? i = db.charges.find? i
  ledger : ∃ ts, db'.transactions.rows = db.transactions.rows ++ ts ∧
    List.Forall₂ (fun t x => t = takeTransaction ownerId reason reference x t.id) ts p.takes
  balance : db'.owners = db.owners.modify ownerId fun o =>
    { o with walletBalanceToman := o.walletBalanceToman - amountToman }

/-- The flush and the update of the balance carry out the plan. -/
theorem deducted_of_takes {db : WalletDb} {scan : Scan WalletCharge} {ownerId : ℕ} {amount : ℤ}
    (reason : WalletTransactionReason) (reference : Option String) {p : Plan}
    (hsplits : p.Splits (db.deductibleCharges scan ownerId) amount)
    (htakes : (splitDeduction (db.deductibleCharges scan ownerId) amount).1 = p.takes) :
    Deducted db ((flushTakes ownerId reason reference db p.takes).apply (.addBalance ownerId (-amount)))
      ownerId amount reason reference p := by
  obtain ⟨hxs, hnodup⟩ := splitDeduction_takes db scan ownerId amount
  rw [htakes] at hxs hnodup
  have hfind : ∀ x ∈ p.takes, (flushTakes ownerId reason reference db p.takes).charges.find? x.1.id =
      some { x.1 with remainingToman := x.1.remainingToman - x.2 } :=
    fun x hx => flushTakes_charges p.takes db hnodup hx (hxs x hx).1
  have hids := deductibleCharges_nodup db scan ownerId
  rw [hsplits.charges, ← List.append_assoc, ← p.takes_fst, List.map_append] at hids
  refine ⟨fun c hc => ?_, fun x hx => ?_, fun c hc => ?_,
    fun i hi => flushTakes_charges_of_notMem p.takes db hi, flushTakes_transactions p.takes db, ?_⟩
  · have htaken := hfind (c, c.remainingToman) (List.mem_append_left _ (List.mem_map.2 ⟨c, hc, rfl⟩))
    dsimp only at htaken
    rw [sub_self] at htaken
    exact htaken
  · exact hfind x (List.mem_append_right _ (Option.mem_toList.2 hx))
  · have hmem : c ∈ db.deductibleCharges scan ownerId := by
      rw [hsplits.charges]
      exact List.mem_append_right _ (List.mem_append_right _ hc)
    have hne : ∀ x ∈ p.takes, x.1.id ≠ c.id := fun x hx =>
      (List.nodup_append.1 hids).2.2 _ (List.mem_map_of_mem (List.mem_map_of_mem hx)) _
        (List.mem_map_of_mem hc)
    exact (flushTakes_charges_of_notMem p.takes db hne).trans
      (Table.find?_of_mem (mem_deductibleCharges.1 hmem).1)
  · show (flushTakes ownerId reason reference db p.takes).owners.modify ownerId _ = _
    simp only [flushTakes_owners, sub_eq_add_neg]

theorem deduct_of_nonpos (db : WalletDb) (scan : Scan WalletCharge) (ownerId : ℕ) {amount : ℤ}
    (reason : WalletTransactionReason) (reference : Option String) (h : amount ≤ 0) :
    db.deduct scan ownerId amount reason reference = .ok (db, true) := if_pos h

theorem deduct_of_lt {db : WalletDb} {scan : Scan WalletCharge} {ownerId : ℕ} {amount : ℤ}
    (reason : WalletTransactionReason) (reference : Option String) (hpos : 0 < amount)
    (h : totalRemaining (db.deductibleCharges scan ownerId) < amount) :
    db.deduct scan ownerId amount reason reference = .ok (db, false) := by
  unfold deduct
  dsimp only
  rw [if_neg (not_le.2 hpos), if_pos h]

/-- With enough credit, the loop comes out even and the balance is updated. -/
theorem deduct_of_le {db : WalletDb} {scan : Scan WalletCharge} {ownerId : ℕ} {amount : ℤ}
    (reason : WalletTransactionReason) (reference : Option String) (howner : ownerId ∈ db.owners.ids)
    (hpos : 0 < amount) (h : amount ≤ totalRemaining (db.deductibleCharges scan ownerId)) :
    db.deduct scan ownerId amount reason reference =
      if Int4 (db.balance ownerId - amount) then
        .ok ((flushTakes ownerId reason reference db
          (splitDeduction (db.deductibleCharges scan ownerId) amount).1).apply
            (.addBalance ownerId (-amount)), true)
      else .error .DataError := by
  obtain ⟨owner, hfind⟩ := Table.exists_find? howner
  have hbalance : db.balance ownerId = owner.walletBalanceToman := by
    unfold balance
    rw [hfind]
    rfl
  unfold deduct
  dsimp only
  rw [if_neg (not_le.2 hpos), if_neg (not_lt.2 h), splitDeduction_left _ amount hpos.le h,
    if_neg (lt_irrefl _)]
  unfold applyBalanceDelta
  rw [flushTakes_owners, hfind]
  dsimp only
  rw [hbalance, ← sub_eq_add_neg]
  split_ifs
  · rfl
  · rfl

/-- **The specification of `deduct`**, for any charges of the owner: it returns `True` for an amount
that is not positive, `False` and nothing changed for one that the usable charges do not cover, and
otherwise takes exactly the amount along the order of expiry, with nothing left to deduct at the end.
The update of the balance is refused only if the new value does not fit its column, as it does when the
balance is the sum of the charges. -/
theorem deduct_spec (db : WalletDb) (scan : Scan WalletCharge) (ownerId : ℕ) (amount : ℤ)
    (reason : WalletTransactionReason) (reference : Option String) (howner : ownerId ∈ db.owners.ids)
    (hnonneg : ∀ c ∈ db.charges.rows, c.shopOwnerId = ownerId → 0 ≤ c.remainingToman) :
    let charges := db.deductibleCharges scan ownerId
    charges.Pairwise (fun a b => a.expiresAt ≤ b.expiresAt) ∧
    (∀ c, c ∈ charges ↔ c ∈ db.charges.rows ∧ c.shopOwnerId = ownerId ∧ c.isExpired = false ∧
      0 < c.remainingToman) ∧
    (amount ≤ 0 → db.deduct scan ownerId amount reason reference = .ok (db, true)) ∧
    (0 < amount → db.remainingOf ownerId < amount →
      db.deduct scan ownerId amount reason reference = .ok (db, false)) ∧
    (0 < amount → amount ≤ db.remainingOf ownerId →
      (splitDeduction charges amount).2 = 0 ∧
      ∃ p : Plan, p.Splits charges amount ∧ (∀ x ∈ p.takes, 0 < x.2) ∧
        ∃ db', Deducted db db' ownerId amount reason reference p ∧
          db.deduct scan ownerId amount reason reference =
            if Int4 (db.balance ownerId - amount) then .ok (db', true) else .error .DataError) ∧
    (db.balance ownerId = db.remainingOf ownerId → Int4 (db.balance ownerId) →
      ((∃ db', db.deduct scan ownerId amount reason reference = .ok (db', true)) ↔
        amount ≤ 0 ∨ amount ≤ db.remainingOf ownerId)) := by
  intro charges
  have htotal : totalRemaining charges = db.remainingOf ownerId :=
    totalRemaining_deductibleCharges scan hnonneg
  have hcharges : ∀ c ∈ charges, 0 < c.remainingToman := fun c hc => (mem_deductibleCharges.1 hc).2.2.2
  refine ⟨deductibleCharges_sorted db scan ownerId, fun c => mem_deductibleCharges,
    deduct_of_nonpos db scan ownerId reason reference, fun hpos hlt => ?_, fun hpos hle => ?_,
    fun hbalance hcolumn => ?_⟩
  · rw [← htotal] at hlt
    exact deduct_of_lt reason reference hpos hlt
  · rw [← htotal] at hle
    obtain ⟨p, hsplits, htakes⟩ := exists_plan charges hcharges amount hpos.le hle
    refine ⟨splitDeduction_left charges amount hpos.le hle, p, hsplits, fun x hx => hsplits.take_pos hx,
      _, deducted_of_takes reason reference hsplits htakes, ?_⟩
    rw [deduct_of_le reason reference howner hpos hle, ← htakes]
  · by_cases hpos : amount ≤ 0
    · exact iff_of_true ⟨db, deduct_of_nonpos db scan ownerId reason reference hpos⟩ (Or.inl hpos)
    rw [or_iff_right hpos, ← htotal]
    by_cases hle : amount ≤ totalRemaining charges
    · refine iff_of_true ?_ hle
      rw [deduct_of_le reason reference howner (not_le.1 hpos) hle]
      have hfits : Int4 (db.balance ownerId - amount) := by
        rw [← hbalance] at htotal
        unfold Int4 at hcolumn ⊢
        omega
      rw [if_pos hfits]
      exact ⟨_, rfl⟩
    · refine iff_of_false ?_ hle
      rw [deduct_of_lt reason reference (not_le.1 hpos) (not_le.1 hle)]
      rintro ⟨db', h⟩
      cases h

/-- A wallet with three charges, the second of which expires first. -/
def threeCharges : WalletDb :=
  { owners := ⟨[{ id := 7, telegramId := 70, walletBalanceToman := 90 }], List.nodup_singleton _⟩
    charges := ⟨[{ id := 1, shopOwnerId := 7, amountToman := 40, remainingToman := 40, expiresAt := 8 },
                 { id := 2, shopOwnerId := 7, amountToman := 30, remainingToman := 20, expiresAt := 5 },
                 { id := 3, shopOwnerId := 7, amountToman := 30, remainingToman := 30, expiresAt := 9 }],
      by decide⟩
    transactions := .empty }

theorem deduct_spec_threeCharges :
    (∃ p : Plan, p.Splits (threeCharges.deductibleCharges .plain 7) 50 ∧
      p.drained.map WalletCharge.id = [2] ∧ p.reduced.map (fun x => x.1.id) = some 1) ∧
    ((∃ db', threeCharges.deduct .plain 7 50 .CHAT_MESSAGE none = .ok (db', true)) ↔
      (50 : ℤ) ≤ 0 ∨ 50 ≤ threeCharges.remainingOf 7) := by
  refine ⟨⟨⟨[{ id := 2, shopOwnerId := 7, amountToman := 30, remainingToman := 20, expiresAt := 5 }],
      some ({ id := 1, shopOwnerId := 7, amountToman := 40, remainingToman := 40, expiresAt := 8 }, 30),
      [{ id := 3, shopOwnerId := 7, amountToman := 30, remainingToman := 30, expiresAt := 9 }]⟩,
    ⟨by decide, by decide, ?_, by decide⟩, rfl, rfl⟩, ?_⟩
  · intro x hx
    cases hx
    decide
  · exact (deduct_spec threeCharges .plain 7 50 .CHAT_MESSAGE none (by decide) (by decide)).2.2.2.2.2
      (by decide) (by decide)

end WalletDb

end KasbOKar
