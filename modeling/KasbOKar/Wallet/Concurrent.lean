import KasbOKar.Wallet.Transactions

/-!
# Concurrent top-ups, deductions and sweeps

Every interleaving of `add_charge` and `deduct` transactions of one shop keeps the books, and the
cached balance moves by exactly what the committed ones report (`no_lost_update`): a deduction
locks the charges it takes from, and the balance is changed by a relative `UPDATE`.

The expiry sweep selects its charges without a lock and later writes what it had read.  It keeps
the books in every run in which the selected charges are still the same when it commits
(`sweep_keeps_books`), and not otherwise (`sweep_double_debit`).
-/

namespace KasbOKar

open ReadCommitted Cached

namespace WalletDb

/-! ## What a committed transaction does to the tables -/

theorem owners_takeEdits (ownerId : ℕ) (reason : WalletTransactionReason)
    (reference : Option String) (xs : List (WalletCharge × ℤ)) : ∀ (ids : List ℕ) (db : WalletDb),
      (applyAll db (takeEdits ownerId reason reference xs ids)).owners = db.owners := by
  induction xs with
  | nil => intro ids db; rfl
  | cons x xs ih =>
    intro ids db
    cases ids with
    | nil => rfl
    | cons id ids => exact ih ids _

section Sent

variable {ownerId : ℕ} {amount : ℤ} {d : WalletDb} {es : List WalletEdit}

theorem AddChargeSent.balanced {c : WalletCharge} {t : WalletTransaction}
    (h : AddChargeSent ownerId amount d es c t) (hd : Balanced d) : Balanced (applyAll d es) := by
  have hfresh := h.fresh
  rw [h.edits] at hfresh ⊢
  exact hd.addChargeEdits hfresh (h.charge_amount ▸ h.pos)
    (h.charge_remaining.trans h.charge_amount.symm) h.charge_usable (h.charge_owner ▸ h.exists_owner)
    h.ledger_charge (h.ledger_owner.trans h.charge_owner.symm)
    (h.ledger_amount.trans h.charge_amount.symm)

theorem AddChargeSent.balance {c : WalletCharge} {t : WalletTransaction}
    (h : AddChargeSent ownerId amount d es c t) :
    (applyAll d es).balance ownerId = d.balance ownerId + amount := by
  rw [h.edits, balance_addChargeEdits (h.charge_owner ▸ h.exists_owner), h.charge_owner,
    h.charge_amount, if_pos rfl]

variable {reason : WalletTransactionReason} {reference : Option String}
  {xs : List (WalletCharge × ℤ)} {ids : List ℕ}

theorem DeductSent.balanced (h : DeductSent ownerId amount reason reference d es xs ids)
    (hd : Balanced d) : Balanced (applyAll d es) := by
  have hfresh := h.fresh
  rw [h.edits] at hfresh ⊢
  rw [freshIn_append] at hfresh
  have := (hd.takeEdits h.length h.takes h.nodup hfresh.1).addBalance ownerId (-amount)
  rw [h.total, bump_bump, add_neg_cancel, bump_zero] at this
  rw [applyAll_append]
  exact this

theorem DeductSent.balance (h : DeductSent ownerId amount reason reference d es xs ids) :
    (applyAll d es).balance ownerId = d.balance ownerId - amount := by
  have howners := owners_takeEdits ownerId reason reference xs ids d
  rw [h.edits, applyAll_append]
  refine (balance_addBalance _ (by rw [howners]; exact h.exists_owner) (-amount) ownerId).trans ?_
  rw [if_pos rfl, ← sub_eq_add_neg]
  unfold WalletDb.balance
  rw [howners]

end Sent

/-! ## Top-ups and deductions of one shop -/

/-- A request for one shop. -/
inductive Request where
  | addCharge (settings : AdminSettings) (now : Datetime) (amountToman : ℤ)
      (reason : WalletTransactionReason) (paymentId : Option ℕ) (validityMonths : Option ℤ)
      (reference : Option String)
  | deduct (scan : Scan WalletCharge) (amountToman : ℤ) (reason : WalletTransactionReason)
      (reference : Option String)

namespace Request

/-- The transaction of a request. -/
def tx (ownerId : ℕ) : Request → WalletProg
  | addCharge settings now amount reason paymentId validityMonths reference =>
    addChargeTx settings now ownerId amount reason paymentId validityMonths reference
  | deduct scan amount reason reference => deductTx scan ownerId amount reason reference

/-- The amount of a committed `add_charge`. -/
def charged : Request → Option (WalletReply × List WalletEdit) → ℤ
  | addCharge _ _ amount _ _ _ _, some _ => amount
  | _, _ => 0

/-- The amount of a committed `deduct` that returned `True`. -/
def deducted : Request → Option (WalletReply × List WalletEdit) → ℤ
  | deduct _ amount _ _, some (.ok true, _) => amount
  | _, _ => 0

/-- The same, with an amount that is not positive counted as zero. -/
def debited : Request → Option (WalletReply × List WalletEdit) → ℤ
  | deduct _ amount _ _, some (.ok true, _) => max 0 amount
  | _, _ => 0

/-- What a request has sent when it commits. -/
def Sent (ownerId : ℕ) : Request → WalletDb → List WalletEdit → WalletReply → Prop
  | addCharge _ _ amount _ _ _ _, d, es, r =>
    ∃ c t, r = .charge c ∧ AddChargeSent ownerId amount d es c t
  | deduct _ amount reason reference, d, es, r =>
    (r = .ok (decide (amount ≤ 0)) ∧ es = []) ∨
      (r = .ok true ∧ ∃ xs ids, DeductSent ownerId amount reason reference d es xs ids)

theorem wp_tx {J : WalletDb → Prop} {ownerId : ℕ} (req : Request) (d : WalletDb) :
    wp J (fun d _ es r => req.Sent ownerId d es r) (req.tx ownerId) [] [] [] d := by
  cases req with
  | addCharge settings now amount reason paymentId validityMonths reference => exact wp_addChargeTx d
  | deduct scan amount reason reference => exact wp_deductTx d

variable {ownerId : ℕ} {req : Request} {d : WalletDb} {es : List WalletEdit} {r : WalletReply}

theorem Sent.balanced (h : req.Sent ownerId d es r) (hd : Balanced d) : Balanced (applyAll d es) := by
  cases req with
  | addCharge settings now amount reason paymentId validityMonths reference =>
    obtain ⟨c, t, -, h⟩ := h
    exact h.balanced hd
  | deduct scan amount reason reference =>
    rcases h with ⟨-, rfl⟩ | ⟨-, xs, ids, h⟩
    · exact hd
    · exact h.balanced hd

theorem Sent.balance (h : req.Sent ownerId d es r) :
    (applyAll d es).balance ownerId =
      d.balance ownerId + req.charged (some (r, es)) - req.debited (some (r, es)) := by
  cases req with
  | addCharge settings now amount reason paymentId validityMonths reference =>
    obtain ⟨c, t, rfl, h⟩ := h
    rw [h.balance]
    simp [charged, debited]
  | deduct scan amount reason reference =>
    rcases h with ⟨rfl, rfl⟩ | ⟨rfl, xs, ids, h⟩
    · by_cases h0 : amount ≤ 0
      · rw [decide_eq_true h0]
        simp [charged, debited, max_eq_left h0]
      · rw [decide_eq_false h0]
        simp [charged, debited]
    · rw [h.balance]
      simp [charged, debited, max_eq_right h.pos.le]

/-- A deduction that returns `False` has sent nothing. -/
theorem Sent.refused (h : req.Sent ownerId d es (.ok false)) : es = [] := by
  cases req with
  | addCharge settings now amount reason paymentId validityMonths reference =>
    obtain ⟨c, t, hr, -⟩ := h
    cases hr
  | deduct scan amount reason reference =>
    rcases h with ⟨-, rfl⟩ | ⟨hr, -⟩
    · rfl
    · cases hr

end Request

section Interleaving

variable {ι : Type} [Fintype ι] [DecidableEq ι]

/-- The global property of the interleavings: the books are kept, and the balance has moved by
what the committed transactions report. -/
structure Accounted (ownerId : ℕ) (requests : ι → Request) (initial : ℤ) (d : WalletDb)
    (out : ι → Option (WalletReply × List WalletEdit)) : Prop where
  balanced : Balanced d
  balance : d.balance ownerId = initial + ∑ i, (requests i).charged (out i) -
    ∑ i, (requests i).debited (out i)
  refused : ∀ i es, out i = some (.ok false, es) → es = []

/-- A commit keeps the accounts. -/
theorem Accounted.commit {ownerId : ℕ} {requests : ι → Request} {initial : ℤ} {d : WalletDb}
    {out : ι → Option (WalletReply × List WalletEdit)} {i : ι} {es : List WalletEdit} {r : WalletReply}
    (h : Accounted ownerId requests initial d out) (hi : out i = none)
    (hs : (requests i).Sent ownerId d es r) :
    Accounted ownerId requests initial (applyAll d es) (Function.update out i (some (r, es))) where
  balanced := hs.balanced h.balanced
  balance := by
    rw [sum_outcome_update (fun j => (requests j).charged) (fun j => by cases requests j <;> rfl) hi,
      sum_outcome_update (fun j => (requests j).debited) (fun j => by cases requests j <;> rfl) hi,
      hs.balance, h.balance]
    ring
  refused j es' hj := by
    by_cases hij : j = i
    · subst hij
      rw [Function.update_self] at hj
      cases hj
      exact hs.refused
    · rw [Function.update_of_ne hij] at hj
      exact h.refused j es' hj

/-- **No lost update.** In every interleaving of top-ups and deductions of one shop, with any of
them rolled back, at every moment and so when all have finished: the balance is the initial one
plus the committed top-ups minus the positive amounts of the committed deductions that returned
`True`, it is the sum of the usable charges, no charge is overdrawn, and a committed deduction that
returned `False` has published no change. -/
theorem no_lost_update (ownerId : ℕ) (requests : ι → Request) (db : WalletDb) (hdb : Balanced db)
    (as : List (Act ι)) (c : Config ι WalletDb WalletEdit WalletRow WalletReply)
    (hrun : Runs.exec Config.step (start db fun i => (requests i).tx ownerId) as = some c) :
    c.db.balance ownerId = db.balance ownerId + ∑ i, (requests i).charged (c.outcome i) -
      ∑ i, (requests i).debited (c.outcome i) ∧
    c.db.balance ownerId = c.db.remainingOf ownerId ∧
    (∀ ch ∈ c.db.charges.rows, 0 ≤ ch.remainingToman) ∧
    ∀ i, (c.tx i).status = .committed (.ok false) → (c.tx i).edits = [] := by
  have hinv := inv_exec (C := fun _ _ => True) (J := fun _ => True)
    (Q := fun i d _ es r => (requests i).Sent ownerId d es r)
    (G := Accounted ownerId requests (db.balance ownerId)) (fun _ _ _ => trivial)
    (fun c i n r _ hi hG hQ => hG.commit (outcome_running hi) hQ)
    ⟨hdb, by simp [Request.charged, Request.debited], fun i es hi => by cases hi⟩
    (fun i => (requests i).wp_tx db) (Runs.along_of_forall (fun _ _ => trivial) _ _) hrun
  refine ⟨hinv.global.balance, hinv.global.balanced.balance_eq ownerId,
    hinv.global.balanced.remaining_nonneg, fun i hi => hinv.global.refused i _ ?_⟩
  unfold Config.outcome
  rw [hi]

end Interleaving

/-- A shop with one charge of 100 that expires after thirty days. -/
def oneCharge : WalletDb :=
  (ofOwners twoOwners).calls [(0, .addCharge {} 1 100 .TOPUP none (some 1) none)]

theorem balanced_oneCharge : Balanced oneCharge := (balanced_ofOwners (by decide)).calls _

/-- The two deductions of one customer message and a top-up. -/
def messageRequests : Fin 3 → Request
  | 0 => .deduct .plain 30 .CHAT_MESSAGE none
  | 1 => .deduct .plain 50 .ORDER_DETECTION none
  | 2 => .addCharge {} 5 40 .TOPUP none none none

/-- Both deductions select the charge before either has locked it. -/
def messageSchedule : List (Act (Fin 3)) :=
  [.next 0 0, .next 1 0, .next 2 0, .next 0 0, .next 2 2, .next 0 0, .next 0 2, .next 2 0,
    .next 2 0, .next 2 0, .next 2 3, .next 2 0, .next 0 0, .next 0 0, .next 0 0, .next 1 0,
    .next 1 0, .next 1 4, .next 1 0, .next 1 0, .next 1 0]

theorem messageSchedule_isSome : (Runs.exec Config.step
    (start oneCharge fun i => (messageRequests i).tx 1) messageSchedule).isSome = true := by
  decide +kernel

theorem no_lost_update_message :
    ∃ c, Runs.exec Config.step (start oneCharge fun i => (messageRequests i).tx 1) messageSchedule =
      some c ∧ (∀ i, (c.outcome i).isSome = true) ∧ c.db.balance 1 = 100 + 40 - (30 + 50) ∧
      c.db.balance 1 = c.db.remainingOf 1 :=
  ⟨_, (Option.some_get messageSchedule_isSome).symm, by decide +kernel, by decide +kernel,
    (no_lost_update 1 messageRequests oneCharge balanced_oneCharge messageSchedule _
      (Option.some_get messageSchedule_isSome).symm).2.1⟩

/-- A deduction of a negative amount returns `True` and changes nothing, so the amounts of the
deductions that returned `True` do not add up to the change of the balance. -/
theorem no_lost_update_negative_amount :
    ∃ c, Runs.exec Config.step
        (start oneCharge fun _ : Unit => (Request.deduct .plain (-5) .CHAT_MESSAGE none).tx 1)
        [.next () 0] = some c ∧
      Balanced oneCharge ∧ c.Finished ∧
      c.db.balance 1 ≠ oneCharge.balance 1 +
        ∑ i, (Request.deduct .plain (-5) .CHAT_MESSAGE none).charged (c.outcome i) -
        ∑ i, (Request.deduct .plain (-5) .CHAT_MESSAGE none).deducted (c.outcome i) := by
  refine ⟨_, rfl, balanced_oneCharge, fun _ p hp => ?_, by decide +kernel⟩
  cases hp

/-! ## The expiry sweep among deductions -/

/-- What a sweep publishes keeps the books if the charges it has selected are still the same. -/
theorem SweepSent.balanced {scan : Scan WalletCharge} {now : Datetime} {d selected owners : WalletDb}
    {rs : List WalletDb} {es : List WalletEdit} {ids : List ℕ}
    (h : SweepSent scan now d rs es selected owners ids) (hd : Balanced d)
    (hsame : ∀ c ∈ selected.staleCharges scan now, d.charges.find? c.id = some c) :
    Balanced (applyAll d es) := by
  have hfresh := h.fresh
  rw [h.edits] at hfresh ⊢
  refine (hd.sweepEdits [] h.length (fun c hc => ?_) ?_ hfresh).1
  · rw [List.append_nil] at hc
    have hc' := (List.mem_filter.1 hc).1
    have hstale := (Table.mem_select.1 hc').2
    simp only [WalletDb.stale, Bool.and_eq_true, Bool.not_eq_true'] at hstale
    exact ⟨hsame c hc', hstale.1.1⟩
  · rw [List.append_nil]
    exact (Table.select_nodup _ _ _).sublist (List.filter_sublist.map _)

/-- A call of `deduct`. -/
structure Deduction where
  scan : Scan WalletCharge
  ownerId : ℕ
  amountToman : ℤ
  reason : WalletTransactionReason
  reference : Option String

section Sweep

variable {κ : Type}

/-- One sweep and any number of deductions. -/
def sweepAnd (scan : Scan WalletCharge) (now : Datetime) (deductions : κ → Deduction) :
    Option κ → WalletProg
  | none => expireStaleChargesTx scan now
  | some j => deductTx (deductions j).scan (deductions j).ownerId (deductions j).amountToman
      (deductions j).reason (deductions j).reference

/-- When the sweep commits, every charge its first `SELECT` returned is still the committed row. -/
def selectionCurrent (scan : Scan WalletCharge) (now : Datetime)
    (c : Config (Option κ) WalletDb WalletEdit WalletRow WalletReply) : Act (Option κ) → Bool
  | .next none _ =>
    match (c.tx none).status, (c.tx none).reads with
    | .running (.commit _), [_, selected] =>
      (selected.staleCharges scan now).all fun ch => c.db.charges.find? ch.id == some ch
    | _, _ => true
  | _ => true

theorem selectionCurrent_commit {scan : Scan WalletCharge} {now : Datetime}
    {c : Config (Option κ) WalletDb WalletEdit WalletRow WalletReply} {n : ℕ} {r : WalletReply}
    {owners selected : WalletDb} (h : selectionCurrent scan now c (.next none n) = true)
    (hi : (c.tx none).status = .running (.commit r)) (hr : (c.tx none).reads = [owners, selected]) :
    ∀ ch ∈ selected.staleCharges scan now, c.db.charges.find? ch.id = some ch := by
  intro ch hch
  unfold selectionCurrent at h
  rw [hi, hr] at h
  exact beq_iff_eq.1 (List.all_eq_true.1 h ch hch)

variable [Fintype κ] [DecidableEq κ]

/-- **The sweep among deductions.** In every interleaving of one sweep with deductions in which no
deduction has changed a selected charge by the time the sweep commits: no charge is debited by more
than its amount, and every cached balance is the owner's usable credit and the owner's ledger. -/
theorem sweep_keeps_books (scan : Scan WalletCharge) (now : Datetime) (deductions : κ → Deduction)
    (db : WalletDb) (hdb : Balanced db) (as : List (Act (Option κ)))
    (c : Config (Option κ) WalletDb WalletEdit WalletRow WalletReply)
    (hsel : Runs.Along Config.step (fun c a => selectionCurrent scan now c a = true)
      (start db (sweepAnd scan now deductions)) as)
    (hrun : Runs.exec Config.step (start db (sweepAnd scan now deductions)) as = some c) :
    (∀ ch ∈ c.db.charges.rows, c.db.debitsOfCharge ch.id ≤ ch.amountToman) ∧
    ∀ o ∈ c.db.owners.rows, o.walletBalanceToman = c.db.remainingOf o.id ∧
      o.walletBalanceToman = c.db.ledgerOfOwner o.id := by
  have hinv := inv_exec (C := fun c a => selectionCurrent scan now c a = true) (J := fun _ => True)
    (Q := fun i d rs es r => match i with
      | none => ∃ selected owners ids, SweepSent scan now d rs es selected owners ids
      | some j => (r = .ok (decide ((deductions j).amountToman ≤ 0)) ∧ es = []) ∨
          (r = .ok true ∧ ∃ xs ids, DeductSent (deductions j).ownerId (deductions j).amountToman
            (deductions j).reason (deductions j).reference d es xs ids))
    (G := fun d _ => Balanced d) (fun _ _ _ => trivial)
    (fun c i n r hC hi hG hQ => ?_) hdb (fun i => ?_) hsel hrun
  · have h := hinv.global
    refine ⟨fun ch hch => ?_, fun o ho => ?_⟩
    · have h₁ := h.debitsOfCharge_eq hch
      have h₂ := h.remaining_nonneg ch hch
      omega
    · have hb : o.walletBalanceToman = c.db.remainingOf o.id :=
        (h.balance_remaining o ho).trans (add_zero _)
      exact ⟨hb, by rw [hb, h.owner_ledger]⟩
  · cases i with
    | none =>
      obtain ⟨selected, owners, ids, hsent⟩ := hQ
      exact hsent.balanced hG (selectionCurrent_commit hC hi hsent.reads)
    | some j =>
      rcases hQ with ⟨-, hes⟩ | ⟨-, xs, ids, hsent⟩
      · show Balanced (applyAll c.db (c.tx (some j)).edits)
        rw [hes]
        exact hG
      · exact hsent.balanced hG
  · cases i with
    | none => exact wp_expireStaleChargesTx db
    | some j => exact wp_deductTx db

end Sweep

/-- A deduction of 60 from the charge of 100. -/
def deduct60 : Unit → Deduction := fun _ => ⟨.plain, 1, 60, .CHAT_MESSAGE, none⟩

/-- The deduction commits before the sweep selects what is left. -/
def sweepLast : List (Act (Option Unit)) :=
  List.replicate 3 (Act.next (some ()) 0) ++
      Act.next (some ()) 2 :: List.replicate 3 (Act.next (some ()) 0) ++
    [Act.next none 0, Act.next none 0, Act.next none 0, Act.next none 3, Act.next none 0,
      Act.next none 0]

/-- The deduction commits between the sweep's `SELECT` and its first `UPDATE`. -/
def sweepAround : List (Act (Option Unit)) :=
  [Act.next none 0, Act.next none 0] ++
    List.replicate 3 (Act.next (some ()) 0) ++
      Act.next (some ()) 2 :: List.replicate 3 (Act.next (some ()) 0) ++
    [Act.next none 0, Act.next none 3, Act.next none 0, Act.next none 0]

theorem sweepLast_isSome : (Runs.exec Config.step
    (start oneCharge (sweepAnd .plain (days 60) deduct60)) sweepLast).isSome = true := by
  decide +kernel

theorem sweepAround_isSome : (Runs.exec Config.step
    (start oneCharge (sweepAnd .plain (days 60) deduct60)) sweepAround).isSome = true := by
  decide +kernel

theorem sweep_keeps_books_after_deduction :
    ∃ c, Runs.exec Config.step (start oneCharge (sweepAnd .plain (days 60) deduct60)) sweepLast =
        some c ∧
      (∀ i, (c.outcome i).isSome = true) ∧ c.db.debitsOfCharge 1 = 100 ∧
      ∀ o ∈ c.db.owners.rows, o.walletBalanceToman = c.db.remainingOf o.id ∧
        o.walletBalanceToman = c.db.ledgerOfOwner o.id :=
  ⟨_, (Option.some_get sweepLast_isSome).symm, by decide +kernel, by decide +kernel,
    (sweep_keeps_books .plain (days 60) deduct60 oneCharge balanced_oneCharge sweepLast _
      (by decide +kernel) (Option.some_get sweepLast_isSome).symm).2⟩

/-- The charge of 100 is debited by 160 and the balance is not the ledger's sum. -/
theorem sweep_double_debit :
    ∃ c, Runs.exec Config.step (start oneCharge (sweepAnd .plain (days 60) deduct60)) sweepAround =
        some c ∧
      Balanced oneCharge ∧ (∀ i, (c.outcome i).isSome = true) ∧
      (c.db.charges.rows.map WalletCharge.amountToman = [100] ∧ c.db.debitsOfCharge 1 = 160) ∧
      c.db.balance 1 = 0 ∧ c.db.ledgerOfOwner 1 = -60 :=
  ⟨_, (Option.some_get sweepAround_isSome).symm, balanced_oneCharge, by decide +kernel,
    by decide +kernel, by decide +kernel, by decide +kernel⟩

end WalletDb

end KasbOKar
