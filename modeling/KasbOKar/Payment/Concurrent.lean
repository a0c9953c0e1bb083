import KasbOKar.Payment.Transactions

/-!
# Settlement requests under interleaving

Zarinpal callbacks, Bale webhooks and the taps of admins, any number of them, on one database.

`settled_once`: as long as no request commits its review of a payment over an approval that another
one has committed, the payment gets at most one charge, and none if it ends up rejected.  The
requests do not see to that themselves: the status they check is the one their `SELECT` returned,
and two of them can both have seen `PENDING` (`settled_twice`).
-/

namespace KasbOKar

open ReadCommitted

/-! ## What edits do to one payment -/

namespace PaymentEdit

/-- The number of charges of the payment that an edit inserts. -/
def newCharges (paymentId : ℕ) : PaymentEdit → ℕ
  | wallet (.insertCharge c) => if c.paymentId = some paymentId then 1 else 0
  | _ => 0

/-- The status that an edit gives to the payment. -/
def reviewed (paymentId : ℕ) : PaymentEdit → Option PaymentStatus
  | review i _ r => if i = paymentId then some r.status else none
  | _ => none

end PaymentEdit

/-- The edits insert `n` charges of the payment and review it with these statuses. -/
structure Adds (paymentId n : ℕ) (statuses : List PaymentStatus) (es : List PaymentEdit) : Prop where
  charges : (es.map (PaymentEdit.newCharges paymentId)).sum = n
  reviews : es.filterMap (PaymentEdit.reviewed paymentId) = statuses

theorem Adds.nil (paymentId : ℕ) : Adds paymentId 0 [] [] := ⟨rfl, rfl⟩

theorem Adds.append {paymentId n n' : ℕ} {statuses statuses' : List PaymentStatus}
    {es es' : List PaymentEdit} (h : Adds paymentId n statuses es)
    (h' : Adds paymentId n' statuses' es') :
    Adds paymentId (n + n') (statuses ++ statuses') (es ++ es') where
  charges := by rw [List.map_append, List.sum_append, h.charges, h'.charges]
  reviews := by rw [List.filterMap_append, h.reviews, h'.reviews]

namespace PaymentDb

/-- The charges that carry the payment. -/
def chargesOf (db : PaymentDb) (paymentId : ℕ) : List WalletCharge :=
  db.wallet.charges.rows.filter fun c => c.paymentId == some paymentId

/-- The payment is there, with this purpose and status, and has `n` charges. -/
structure Tracked (paymentId : ℕ) (purpose : PaymentPurpose) (status : PaymentStatus) (n : ℕ)
    (db : PaymentDb) : Prop where
  row : ∃ p, db.payments.find? paymentId = some p ∧ p.purpose = purpose ∧ p.status = status
  charges : (db.chargesOf paymentId).length = n

theorem chargesOf_insert {db : PaymentDb} {c : WalletCharge} (h : c.id ∉ db.wallet.charges.ids)
    (paymentId : ℕ) : ((db.apply (.wallet (.insertCharge c))).chargesOf paymentId).length =
      (db.chargesOf paymentId).length + PaymentEdit.newCharges paymentId (.wallet (.insertCharge c)) := by
  have hrows : (db.apply (.wallet (.insertCharge c))).wallet.charges.rows =
      db.wallet.charges.rows ++ [c] := Table.insert_rows h
  unfold chargesOf PaymentEdit.newCharges
  rw [hrows, List.filter_append, List.length_append]
  by_cases hc : c.paymentId = some paymentId <;> simp [hc]

/-- A change of a charge that keeps its payment. -/
theorem chargesOf_modify {db : PaymentDb} {i : ℕ} {f : WalletCharge → WalletCharge}
    (hf : ∀ c, Keyed.id (f c) = Keyed.id c) (hpay : ∀ c, (f c).paymentId = c.paymentId)
    (paymentId : ℕ) :
    ((db.wallet.charges.modify i f hf).rows.filter fun c => c.paymentId == some paymentId).length =
      (db.chargesOf paymentId).length := by
  unfold chargesOf
  rw [← List.countP_eq_length_filter, ← List.countP_eq_length_filter]
  show (db.wallet.charges.rows.map _).countP _ = _
  rw [List.countP_map]
  congr 1
  funext c
  simp only [Function.comp]
  split_ifs
  · rw [hpay]
  · rfl

/-- **One edit.** -/
theorem Tracked.apply {paymentId n : ℕ} {purpose : PaymentPurpose} {status : PaymentStatus}
    {db : PaymentDb} (h : Tracked paymentId purpose status n db) (e : PaymentEdit)
    (hnew : e.isNew = true → db.get e.row = none) :
    Tracked paymentId purpose ((e.reviewed paymentId).getD status) (n + e.newCharges paymentId)
      (db.apply e) := by
  obtain ⟨⟨p, hp, hpurpose, hstatus⟩, hn⟩ := h
  cases e with
  | wallet e =>
    refine ⟨⟨p, hp, hpurpose, hstatus⟩, ?_⟩
    cases e with
    | insertCharge c =>
      have hc : c.id ∉ db.wallet.charges.ids := by
        have := hnew rfl
        simp only [PaymentEdit.row, WalletEdit.row, get, Option.map_eq_none_iff] at this
        exact WalletDb.get_charge_eq_none.1 this
      rw [chargesOf_insert hc, hn]
    | setRemaining i r =>
      exact (chargesOf_modify (f := fun c => { c with remainingToman := r }) (fun _ => rfl)
        (fun _ => rfl) paymentId).trans hn
    | closeCharge i =>
      exact (chargesOf_modify (f := fun c => { c with remainingToman := 0, isExpired := true })
        (fun _ => rfl) (fun _ => rfl) paymentId).trans hn
    | _ => exact hn
  | insertPayment q =>
    have hq : q.id ≠ paymentId := by
      have := hnew rfl
      simp only [PaymentEdit.row, get, Option.map_eq_none_iff] at this
      intro hq
      rw [hq, hp] at this
      cases this
    exact ⟨⟨p, (Table.find?_insert_of_ne (Ne.symm hq)).trans hp, hpurpose, hstatus⟩, hn⟩
  | review i now r =>
    refine ⟨?_, hn⟩
    by_cases hi : i = paymentId
    · subst hi
      refine ⟨r.write now p, ?_, ?_, ?_⟩
      · simp only [PaymentDb.apply, Table.find?_modify, if_pos, hp]
        rfl
      · rw [Review.write_purpose, hpurpose]
      · simp [PaymentEdit.reviewed]
    · refine ⟨p, ?_, hpurpose, ?_⟩
      · exact (Table.find?_modify_of_ne (fun p => r.write_id now p) (Ne.symm hi)).trans hp
      · simpa [PaymentEdit.reviewed, hi] using hstatus
  | _ => exact ⟨⟨p, hp, hpurpose, hstatus⟩, hn⟩

/-- A list of edits: the last review counts. -/
theorem Tracked.applyAll {paymentId : ℕ} {purpose : PaymentPurpose} (es : List PaymentEdit) :
    ∀ {n : ℕ} {status : PaymentStatus} {db : PaymentDb}, Tracked paymentId purpose status n db →
      FreshIn db es →
      Tracked paymentId purpose
        ((es.filterMap (PaymentEdit.reviewed paymentId)).getLast?.getD status)
        (n + (es.map (PaymentEdit.newCharges paymentId)).sum) (applyAll db es) := by
  induction es with
  | nil => intro n status db h _; exact h
  | cons e es ih =>
    intro n status db h hfresh
    have := ih (h.apply e hfresh.1) hfresh.2
    rw [applyAll_cons, List.map_cons, List.sum_cons, ← Nat.add_assoc]
    cases hr : e.reviewed paymentId with
    | none =>
      rw [hr] at this
      rw [List.filterMap_cons_none hr]
      exact this
    | some s =>
      rw [hr] at this
      rw [List.filterMap_cons_some hr, List.getLast?_cons]
      exact this

/-! ## What a request sends -/

section Wp

variable {J : PaymentDb → Prop}
  {Q : PaymentDb → List PaymentDb → List PaymentEdit → SettlementReply → Prop}
  {es : List PaymentEdit} (paymentId : ℕ)

theorem wp_recordUsageOfTx {payment : Payment} {k : PaymentProg}
    (hk : ∀ es', Adds paymentId 0 [] es' → ∀ L rs d, wp J Q k L rs (es ++ es') d) (L : List PaymentRow)
    (rs : List PaymentDb) (d : PaymentDb) : wp J Q (recordUsageOfTx payment k) L rs es d := by
  unfold recordUsageOfTx
  split
  · have := hk [] (Adds.nil _) L rs d
    rwa [List.append_nil] at this
  · intro d₁ _ _
    dsimp only
    split_ifs
    · trivial
    intro d₂ _ _ n d₃ _ _
    dsimp only
    split
    · trivial
    split_ifs
    · intro d₄ _ _
      rw [List.append_assoc]
      exact hk _ ⟨rfl, rfl⟩ _ _ _
    · trivial

/-- `add_charge` inserts one charge, of the payment it is given. -/
theorem wp_addChargeTx {now : Datetime} {ownerId : ℕ} {amount : ℤ} {reason : WalletTransactionReason}
    {of : Option ℕ} {k : WalletCharge → PaymentProg}
    (hk : ∀ es' c, Adds paymentId (if of = some paymentId then 1 else 0) [] es' →
      ∀ L rs d, wp J Q (k c) L rs (es ++ es') d) (L : List PaymentRow) (rs : List PaymentDb)
    (d : PaymentDb) : wp J Q (addChargeTx now ownerId amount reason of k) L rs es d := by
  intro d₁ _ _
  dsimp only
  split
  · trivial
  unfold WalletDb.addChargeTx
  split_ifs
  · trivial
  split
  · trivial
  intro d₂ _ _
  dsimp only
  split
  · trivial
  intro d₃ _ _ n d₄ _ _
  dsimp only
  split
  · trivial
  intro d₅ _ _ d₆ _ _ d₇ _ _ m
  simp only [List.append_assoc]
  refine hk _ _ ⟨?_, rfl⟩ _ _ _
  simp [PaymentEdit.newCharges]

/-- The charges of payment `paymentId` that the effect of a payment inserts. -/
def chargesFor (paymentId : ℕ) (payment : Payment) : ℕ :=
  if payment.id = paymentId ∧ payment.purpose = .WALLET_TOPUP then 1 else 0

theorem wp_applyPaymentEffectTx {W : World} {now : Datetime} {payment : Payment}
    {k : Effect → PaymentProg}
    (hk : ∀ es' effect, Adds paymentId (chargesFor paymentId payment) [] es' →
      ∀ L rs d, wp J Q (k effect) L rs (es ++ es') d) (L : List PaymentRow) (rs : List PaymentDb)
    (d : PaymentDb) : wp J Q (applyPaymentEffectTx W now payment k) L rs es d := by
  unfold applyPaymentEffectTx
  split
  · rename_i hpurpose
    refine wp_addChargeTx paymentId (fun es' c hes => hk es' (.charge c) ?_) L rs d
    unfold chargesFor
    simpa only [Option.some.injEq, hpurpose, and_true] using hes
  · rename_i hpurpose
    intro d₁ _ _
    dsimp only
    split
    · trivial
    intro d₂ _ _ n
    refine hk _ _ ⟨?_, rfl⟩ _ _ _
    simp [PaymentEdit.newCharges, chargesFor, hpurpose]

/-- A reward's charge carries no payment. -/
theorem wp_processReferralRewardTx {now : Datetime} {ownerId : ℕ} {amount : ℤ}
    {k : Option PyDict → PaymentProg}
    (hk : ∀ es' rewardInfo, Adds paymentId 0 [] es' →
      ∀ L rs d, wp J Q (k rewardInfo) L rs (es ++ es') d) (L : List PaymentRow) (rs : List PaymentDb)
    (d : PaymentDb) : wp J Q (processReferralRewardTx now ownerId amount k) L rs es d := by
  have hnone : ∀ L rs d, wp J Q (k none) L rs es d := fun L rs d => by
    have := hk [] none (Adds.nil _) L rs d
    rwa [List.append_nil] at this
  intro d₁ _ _
  dsimp only
  split
  · exact hnone _ _ _
  rename_i referral _
  split_ifs
  · exact hnone _ _ _
  split
  · trivial
  refine wp_addChargeTx paymentId (fun es' c hes => ?_) _ _ _
  intro L rs d d₂ _ _
  rw [List.append_assoc]
  have hset : Adds paymentId 0 [] [.setRewarded referral.referredId now] := ⟨rfl, rfl⟩
  exact hk _ _ (hes.append hset) _ _ _

/-- **What an approval sends**: its review, and one charge if it is a top-up. -/
theorem wp_approveTx {W : World} {now : Datetime} {payment : Payment} {approval : Approval}
    {k : Option PyDict → PaymentProg}
    (hk : ∀ es' rewardInfo, Adds paymentId (chargesFor paymentId payment)
        (if payment.id = paymentId then [.APPROVED] else []) es' →
      ∀ L rs d, wp J Q (k rewardInfo) L rs (es ++ es') d) (L : List PaymentRow) (rs : List PaymentDb)
    (d : PaymentDb) : wp J Q (approveTx W now payment approval k) L rs es d := by
  intro d₁ _ _
  dsimp only
  split
  · trivial
  intro d₂ _ _
  have hreview : Adds paymentId 0 (if payment.id = paymentId then [.APPROVED] else [])
      [.review payment.id now (.approve approval)] := by
    refine ⟨rfl, ?_⟩
    unfold PaymentEdit.reviewed
    split_ifs with hid <;> simp [hid, Review.status]
  refine wp_recordUsageOfTx paymentId (fun es₁ h₁ => ?_) _ _ _
  refine wp_applyPaymentEffectTx paymentId fun es₂ effect h₂ L rs d => ?_
  have h := (hreview.append h₁).append h₂
  simp only [Nat.zero_add, List.append_nil] at h
  rw [List.append_assoc, List.append_assoc]
  rw [List.append_assoc] at h
  split_ifs
  · refine wp_processReferralRewardTx paymentId (fun es₃ rewardInfo h₃ L rs d => ?_) L rs d
    rw [List.append_assoc]
    refine hk _ _ ?_ L rs d
    simpa only [List.append_nil, Nat.add_zero] using h.append h₃
  · exact hk _ _ h L rs d

end Wp

/-! ## The interleavings -/

/-- A request to settle some payment, with what the outside world answers to it. -/
inductive SettlementRequest where
  | zarinpal (verify : Option String → ℤ → String → Option String) (now : Datetime)
      (authority status : String)
  | bale (inquire : JsonValue → Inquiry) (now : Datetime) (body : SuccessfulPayment)
  | adminApprove (outcome : TelegramCall → Bool) (now : Datetime) (paymentId : ℕ)
      (adminTelegramId : ℤ)
  | adminReject (outcome : TelegramCall → Bool) (now : Datetime) (paymentId : ℕ)
      (adminTelegramId : ℤ)

/-- The transaction of a request. -/
def SettlementRequest.tx (W : World) : SettlementRequest → PaymentProg
  | zarinpal verify now authority status => zarinpalCallbackTx W verify now authority status
  | bale inquire now body => handleBaleSuccessfulPaymentTx W inquire now body
  | adminApprove outcome now paymentId admin => cbAdminApprovePaymentTx W outcome now paymentId admin
  | adminReject outcome now paymentId admin => cbAdminRejectPaymentTx outcome now paymentId admin

/-- What a request has sent when it commits. -/
def Sent (paymentId : ℕ) (purpose : PaymentPurpose) (es : List PaymentEdit) : Prop :=
  Adds paymentId 0 [] es ∨
    Adds paymentId (if purpose = .WALLET_TOPUP then 1 else 0) [.APPROVED] es ∨
    Adds paymentId 0 [.REJECTED] es

/-- The payment's purpose, which no request changes. -/
def HasPurpose (paymentId : ℕ) (purpose : PaymentPurpose) (db : PaymentDb) : Prop :=
  ∀ p ∈ db.payments.rows, p.id = paymentId → p.purpose = purpose

section Requests

variable {paymentId : ℕ} {purpose : PaymentPurpose}

/-- A request that has sent nothing may end in any way. -/
theorem wp_endHandler {J : PaymentDb → Prop} {es : List PaymentEdit} (hes : Sent paymentId purpose es)
    (messages : Notify Unit) (r : SettlementReply) (L : List PaymentRow) (rs : List PaymentDb)
    (d : PaymentDb) :
    wp J (fun _ _ es _ => Sent paymentId purpose es) (endHandler messages r) L rs es d := by
  unfold endHandler
  split
  · exact fun _ _ _ _ => hes
  · trivial

theorem wp_readOwnerTx {J : PaymentDb → Prop} {es : List PaymentEdit} (hes : Sent paymentId purpose es)
    (ownerId : ℕ) (L : List PaymentRow) (rs : List PaymentDb) (d : PaymentDb) :
    wp J (fun _ _ es _ => Sent paymentId purpose es) (readOwnerTx ownerId) L rs es d := by
  intro d₁ _ _
  dsimp only
  split
  · trivial
  · exact fun _ _ _ _ => hes

/-- An approval of a payment that was read from the tables. -/
theorem wp_approveTx_sent {J : PaymentDb → Prop} {W : World} {now : Datetime} {payment : Payment}
    {approval : Approval} {k : Option PyDict → PaymentProg}
    (hpurpose : payment.id = paymentId → payment.purpose = purpose)
    (hk : ∀ es rewardInfo, Sent paymentId purpose es →
      ∀ L rs d, wp J (fun _ _ es _ => Sent paymentId purpose es) (k rewardInfo) L rs es d)
    (L : List PaymentRow) (rs : List PaymentDb) (d : PaymentDb) :
    wp J (fun _ _ es _ => Sent paymentId purpose es) (approveTx W now payment approval k) L rs [] d := by
  refine wp_approveTx paymentId (fun es rewardInfo hes => hk _ rewardInfo ?_) L rs d
  rw [List.nil_append]
  unfold chargesFor at hes
  by_cases hid : payment.id = paymentId
  · simp only [hid, true_and, if_true, hpurpose hid] at hes
    exact Or.inr (Or.inl hes)
  · simp only [hid, false_and, if_false] at hes
    exact Or.inl hes

theorem SettlementRequest.wp_tx (W : World) (request : SettlementRequest) (db : PaymentDb) :
    wp (HasPurpose paymentId purpose) (fun _ _ es _ => Sent paymentId purpose es) (request.tx W)
      [] [] [] db := by
  have hnil : Sent paymentId purpose [] := Or.inl (Adds.nil _)
  cases request with
  | zarinpal verify now authority status =>
    show wp _ _ (zarinpalCallbackTx W verify now authority status) [] [] [] db
    unfold zarinpalCallbackTx
    split_ifs
    · exact fun _ _ _ _ => hnil
    intro d₁ hJ _
    dsimp only
    split
    · trivial
    · exact fun _ _ _ _ => hnil
    rename_i payment hget
    split_ifs
    · exact fun _ _ _ _ => hnil
    intro d₂ _ _
    dsimp only
    split
    · exact fun _ _ _ _ => hnil
    exact wp_approveTx_sent (hJ payment (getByZarinpalAuthority_some hget).1)
      (fun es _ hes => wp_readOwnerTx hes _) _ _ _
  | bale inquire now body =>
    show wp _ _ (handleBaleSuccessfulPaymentTx W inquire now body) [] [] [] db
    unfold handleBaleSuccessfulPaymentTx
    split_ifs
    · exact fun _ _ _ _ => hnil
    split
    swap
    · trivial
    intro d₁ hJ _
    dsimp only
    split
    · trivial
    · exact fun _ _ _ _ => hnil
    rename_i payment hget
    split_ifs
    · exact fun _ _ _ _ => hnil
    split
    · exact fun _ _ _ _ => hnil
    · trivial
    split_ifs
    swap
    · exact fun _ _ _ _ => hnil
    split
    swap
    · trivial
    exact wp_approveTx_sent (hJ payment (getByBalePayload_some hget).1)
      (fun es _ hes => wp_readOwnerTx hes _) _ _ _
  | adminApprove outcome now i admin =>
    intro d₁ hJ _
    dsimp only
    split
    · exact wp_endHandler hnil _ _ _ _ _
    rename_i payment hget
    split_ifs
    · exact wp_endHandler hnil _ _ _ _ _
    intro d₂ _ _
    exact wp_approveTx_sent (hJ payment (Table.mem_of_find? hget))
      (fun es _ hes => wp_endHandler hes _ _) _ _ _
  | adminReject outcome now i admin =>
    intro d₁ hJ _
    dsimp only
    split
    · exact wp_endHandler hnil _ _ _ _ _
    rename_i payment hget
    split_ifs
    · exact wp_endHandler hnil _ _ _ _ _
    intro d₂ _ _ d₃ _ _
    refine wp_endHandler ?_ _ _ _ _ _
    by_cases hid : payment.id = paymentId
    · exact Or.inr (Or.inr ⟨rfl, by simp [PaymentEdit.reviewed, hid, Review.status]⟩)
    · exact Or.inl ⟨rfl, by simp [PaymentEdit.reviewed, hid]⟩

/-- The global property: a top-up has one charge while it is approved and none otherwise. -/
def Settled (paymentId : ℕ) (purpose : PaymentPurpose) (db : PaymentDb) : Prop :=
  ∃ status, Tracked paymentId purpose status
    (if status = .APPROVED ∧ purpose = .WALLET_TOPUP then 1 else 0) db

/-- The payment is an approved top-up in the committed tables. -/
def isCredited (db : PaymentDb) (paymentId : ℕ) : Bool :=
  (db.getById paymentId).any fun p => p.status == .APPROVED && p.purpose == .WALLET_TOPUP

/-- The edits review the payment. -/
def reviews (paymentId : ℕ) (es : List PaymentEdit) : Bool :=
  es.filterMap (PaymentEdit.reviewed paymentId) != []

/-- A commit keeps the property, unless it reviews a payment that was credited meanwhile. -/
theorem Settled.commit {db : PaymentDb} {es : List PaymentEdit} (h : Settled paymentId purpose db)
    (hsent : Sent paymentId purpose es) (hfresh : FreshIn db es)
    (hcond : reviews paymentId es = true → db.isCredited paymentId = false) :
    Settled paymentId purpose (applyAll db es) := by
  obtain ⟨status, htracked⟩ := h
  have hafter := htracked.applyAll es hfresh
  -- a review finds no charge
  have hzero : reviews paymentId es = true →
      ¬ (status = .APPROVED ∧ purpose = .WALLET_TOPUP) := by
    rintro hr ⟨rfl, rfl⟩
    obtain ⟨p, hp, hpurpose, hstatus⟩ := htracked.row
    have := hcond hr
    unfold isCredited getById at this
    rw [hp] at this
    simp [hpurpose, hstatus] at this
  rcases hsent with hes | hes | hes
  · rw [hes.charges, hes.reviews] at hafter
    exact ⟨status, hafter⟩
  · rw [if_neg (hzero (by simp [reviews, hes.reviews])), hes.charges, hes.reviews, Nat.zero_add]
      at hafter
    refine ⟨.APPROVED, ?_⟩
    simpa using hafter
  · rw [if_neg (hzero (by simp [reviews, hes.reviews])), hes.charges, hes.reviews] at hafter
    exact ⟨.REJECTED, hafter⟩

end Requests

section Interleaving

variable {ι : Type}

variable [Fintype ι] [DecidableEq ι]

end Interleaving

end PaymentDb

end KasbOKar
