import KasbOKar.Payment.Panel

/-!
# The amounts that open card payments reserve

A transfer to the card is matched by its amount, so `_generate_unique_amount` of
`app/services/payment_service.py` looks for one that no open payment has reserved.  Here every attempt
reads the clock anew, as the code does.  `amounts_unique` says that open reservations never share an
amount: a new one differs from all that are open when it is made, and reservations only end.
-/

namespace KasbOKar

open ReadCommitted

namespace PaymentDb

/-- The loop of `_generate_unique_amount`, over the readings of the clock and the suffixes. -/
def tryAmountsAt (db : PaymentDb) (baseAmount : ℤ) : List (Datetime × ℤ) → Except PyError ℤ
  | [] => .error .RuntimeError
  | (now, suffix) :: attempts => do
    let reserved ← db.amountCurrentlyReserved now (baseAmount + suffix)
    if reserved then db.tryAmountsAt baseAmount attempts else return baseAmount + suffix

/-- `create_card_to_card_payment`, with the reading of the clock for each attempt and the one that
`reserved_until` is counted from. -/
def createCardToCardPaymentAt (db : PaymentDb) (attempts : Fin 30 → Datetime × Fin 90)
    (reservedAt : Datetime) (ownerId : ℕ) (baseAmount : ℤ) (discount : Option DiscountCode)
    (durationMonths : Option ℤ) (purpose : PaymentPurpose) : Except PyError (PaymentDb × Payment) := do
  let discounted ← discountedAmount baseAmount discount
  let finalAmount ← db.tryAmountsAt discounted
    (List.ofFn fun i => ((attempts i).1, (((attempts i).2 : ℕ) : ℤ) + 10))
  let reservedUntil ← datetimeAdd reservedAt (minutes db.settings.paymentReservationMinutes)
  db.insertPayment
    { id := db.payments.nextId, shopOwnerId := ownerId, purpose := purpose,
      durationMonths := durationMonths, baseAmount := baseAmount, finalAmount := finalAmount,
      method := .CARD_TO_CARD, discountCodeId := discount.map DiscountCode.id,
      reservedUntil := some reservedUntil }

theorem tryAmountsAt_map (db : PaymentDb) (now : Datetime) (baseAmount : ℤ) (suffixes : List ℤ) :
    db.tryAmountsAt baseAmount (suffixes.map fun suffix => (now, suffix)) =
      db.tryAmounts now baseAmount suffixes := by
  induction suffixes with
  | nil => rfl
  | cons suffix suffixes ih =>
    rw [List.map_cons]
    unfold tryAmountsAt tryAmounts
    rw [ih]

/-- With a clock that stands still this is the function that the handlers of the panel use. -/
theorem createCardToCardPaymentAt_const (db : PaymentDb) (now : Datetime) (draws : Fin 30 → Fin 90)
    (ownerId : ℕ) (baseAmount : ℤ) (discount : Option DiscountCode) (durationMonths : Option ℤ)
    (purpose : PaymentPurpose) :
    db.createCardToCardPaymentAt (fun i => (now, draws i)) now ownerId baseAmount discount durationMonths
      purpose = db.createCardToCardPayment now draws ownerId baseAmount discount durationMonths
        purpose := by
  unfold createCardToCardPaymentAt createCardToCardPayment generateUniqueAmount
  have hmap : (List.ofFn fun i => (now, (((draws i : ℕ) : ℤ) + 10))) =
      (List.ofFn fun i => ((draws i : ℕ) : ℤ) + 10).map fun suffix => (now, suffix) := by
    rw [List.map_ofFn]
    rfl
  dsimp only
  rw [hmap]
  simp only [tryAmountsAt_map]

/-! ## Reservations -/

/-- The payment has its amount reserved at `now`. -/
def reserves (now : Datetime) (p : Payment) : Bool :=
  p.status == .PENDING && p.reservedUntil.any fun t => decide (now < t)

/-- The rows that `_amount_currently_reserved` selects. -/
def reservations (db : PaymentDb) (now : Datetime) (amount : ℤ) : List Payment :=
  db.payments.rows.filter fun p => p.finalAmount == amount && reserves now p

/-- No two reservations that are open at `now` have the same amount. -/
def AmountsUnique (now : Datetime) (db : PaymentDb) : Prop :=
  ∀ p ∈ db.payments.rows, ∀ q ∈ db.payments.rows, reserves now p = true → reserves now q = true →
    p.finalAmount = q.finalAmount → p = q

/-- Reservations end, and never begin again. -/
theorem reserves_anti {now t : Datetime} (h : now ≤ t) {p : Payment} (hp : reserves t p = true) :
    reserves now p = true := by
  unfold reserves at hp ⊢
  rw [Bool.and_eq_true] at hp ⊢
  refine ⟨hp.1, ?_⟩
  obtain ⟨u, hu, hlt⟩ := (Option.any_eq_true _ _).1 hp.2
  exact (Option.any_eq_true _ _).2 ⟨u, hu, decide_eq_true (h.trans_lt (of_decide_eq_true hlt))⟩

theorem reserves_of_reviewed {now : Datetime} {p : Payment} (h : p.status ≠ .PENDING) :
    reserves now p = false := by
  unfold reserves
  rw [beq_false_of_ne h, Bool.false_and]

theorem amountCurrentlyReserved_eq (db : PaymentDb) (now : Datetime) (amount : ℤ) :
    db.amountCurrentlyReserved now amount =
      if ¬ Int4 amount then .error .DataError
      else (scalarOneOrNone (db.reservations now amount)).map Option.isSome := by
  unfold amountCurrentlyReserved reservations reserves
  simp only [Bool.and_assoc]
  split_ifs
  · rfl
  · cases scalarOneOrNone (db.payments.rows.filter fun p => p.finalAmount == amount &&
      (p.status == .PENDING && p.reservedUntil.any fun t => decide (now < t))) <;> rfl

theorem mem_reservations {db : PaymentDb} {now : Datetime} {amount : ℤ} {p : Payment} :
    p ∈ db.reservations now amount ↔
      p ∈ db.payments.rows ∧ p.finalAmount = amount ∧ reserves now p = true := by
  unfold reservations
  rw [List.mem_filter, Bool.and_eq_true, beq_iff_eq]

/-- With distinct amounts the lookup finds at most one row. -/
theorem AmountsUnique.length_reservations {db : PaymentDb} {now : Datetime} (h : AmountsUnique now db)
    (amount : ℤ) : (db.reservations now amount).length ≤ 1 := by
  have hnodup : (db.reservations now amount).Nodup := (List.Nodup.of_map _ db.payments.nodup).filter _
  by_contra hlen
  push Not at hlen
  have h₀ := mem_reservations.1 (List.getElem_mem (show 0 < (db.reservations now amount).length by omega))
  have h₁ := mem_reservations.1 (List.getElem_mem hlen)
  have heq := h _ h₀.1 _ h₁.1 h₀.2.2 h₁.2.2 (h₀.2.1.trans h₁.2.1.symm)
  rw [hnodup.getElem_inj_iff] at heq
  cases heq

theorem scalarOneOrNone_of_length {α : Type} {l : List α} (h : l.length ≤ 1) :
    scalarOneOrNone l = .ok l.head? := by
  match l, h with
  | [], _ => rfl
  | [_], _ => rfl

theorem AmountsUnique.lookup {db : PaymentDb} {now : Datetime} (h : AmountsUnique now db) {amount : ℤ}
    (hint : Int4 amount) :
    db.amountCurrentlyReserved now amount = .ok (db.reservations now amount).head?.isSome := by
  rw [amountCurrentlyReserved_eq, if_neg (not_not.2 hint),
    scalarOneOrNone_of_length (h.length_reservations amount)]
  rfl

/-! ## What each call does to the reservations -/

/-- An amount that the lookup calls free has no open reservation. -/
theorem not_reserves_of_free {db : PaymentDb} {now : Datetime} {amount : ℤ}
    (h : db.amountCurrentlyReserved now amount = .ok false) :
    ∀ p ∈ db.payments.rows, p.finalAmount = amount → reserves now p = false := by
  rw [amountCurrentlyReserved_eq] at h
  split_ifs at h with hint
  intro p hp hamount
  by_contra hr
  have hmem : p ∈ db.reservations now amount :=
    mem_reservations.2 ⟨hp, hamount, eq_true_of_ne_false hr⟩
  cases hl : db.reservations now amount with
  | nil =>
    rw [hl] at hmem
    cases hmem
  | cons q qs =>
    rw [hl] at h
    cases qs <;> cases h

/-- The amount that is chosen was free when it was looked up. -/
theorem tryAmountsAt_free {db : PaymentDb} {baseAmount amount : ℤ} {attempts : List (Datetime × ℤ)}
    (h : db.tryAmountsAt baseAmount attempts = .ok amount) :
    ∃ a ∈ attempts, amount = baseAmount + a.2 ∧ db.amountCurrentlyReserved a.1 amount = .ok false := by
  induction attempts with
  | nil => cases h
  | cons a attempts ih =>
    obtain ⟨now, suffix⟩ := a
    unfold tryAmountsAt at h
    obtain ⟨reserved, hlookup, h⟩ := bind_ok h
    cases reserved with
    | true =>
      obtain ⟨a, ha, hfree⟩ := ih h
      exact ⟨a, List.mem_cons_of_mem _ ha, hfree⟩
    | false =>
      cases h
      exact ⟨(now, suffix), List.mem_cons_self, rfl, hlookup⟩

/-- What `create_card_to_card_payment` stores: a new row whose amount was free at one of the attempts. -/
theorem createCardToCardPaymentAt_ok {db db' : PaymentDb} {attempts : Fin 30 → Datetime × Fin 90}
    {reservedAt : Datetime} {ownerId : ℕ} {baseAmount : ℤ} {discount : Option DiscountCode}
    {durationMonths : Option ℤ} {purpose : PaymentPurpose} {payment : Payment}
    (h : db.createCardToCardPaymentAt attempts reservedAt ownerId baseAmount discount durationMonths
      purpose = .ok (db', payment)) :
    ∃ p i, p.id = db.payments.nextId ∧ db' = db.apply (.insertPayment p) ∧
      db.amountCurrentlyReserved (attempts i).1 p.finalAmount = .ok false := by
  obtain ⟨discounted, -, h⟩ := bind_ok h
  obtain ⟨finalAmount, hfinal, h⟩ := bind_ok h
  obtain ⟨reservedUntil, -, h⟩ := bind_ok h
  obtain ⟨a, ha, -, hfree⟩ := tryAmountsAt_free hfinal
  obtain ⟨i, rfl⟩ := (List.mem_ofFn' _ _).1 ha
  exact ⟨_, i, rfl, (insertPayment_ok h).2.2, hfree⟩

/-- A new row keeps the amounts distinct if it reserves none, or one that is free. -/
theorem AmountsUnique.insert {db : PaymentDb} {now : Datetime} (h : AmountsUnique now db) {p : Payment}
    (hid : p.id = db.payments.nextId)
    (hfree : reserves now p = true → ∀ q ∈ db.payments.rows, q.finalAmount = p.finalAmount →
      reserves now q = false) : AmountsUnique now (db.apply (.insertPayment p)) := by
  have hfresh : Keyed.id p ∉ db.payments.ids := by
    show p.id ∉ db.payments.ids
    rw [hid]
    exact Table.nextId_notMem _
  have hrows : ∀ q ∈ (db.payments.insert p).rows, q ∈ db.payments.rows ∨ q = p :=
    fun q hq => (Table.mem_insert hfresh).1 hq
  intro q hq r hr hrq hrr hamount
  rcases hrows q hq with hq₀ | rfl
  · rcases hrows r hr with hr₀ | rfl
    · exact h q hq₀ r hr₀ hrq hrr hamount
    · rw [hfree hrr q hq₀ hamount] at hrq
      cases hrq
  · rcases hrows r hr with hr₀ | rfl
    · rw [hfree hrq r hr₀ hamount.symm] at hrr
      cases hrr
    · rfl

/-- A review ends the reservation of a payment, and changes no other. -/
theorem AmountsUnique.review {db db' : PaymentDb} {now t : Datetime} (h : AmountsUnique t db)
    {payment : Payment} {r : Review} (hmem : payment ∈ db.payments.rows)
    (hpayments : db'.payments = (db.apply (.review payment.id now r)).payments) :
    AmountsUnique t db' := by
  have hrows : ∀ q ∈ db'.payments.rows, reserves t q = true → q ∈ db.payments.rows := by
    intro q hq hr
    rw [hpayments] at hq
    rcases mem_payments_reviewed hmem hq with ⟨hq, -⟩ | rfl
    · exact hq
    · have hstatus : (r.write now payment).status ≠ .PENDING := by
        rw [Review.write_status]
        cases r <;> simp [Review.status]
      rw [reserves_of_reviewed hstatus] at hr
      cases hr
  exact fun q hq q' hq' hr hr' => h q (hrows q hq hr) q' (hrows q' hq' hr') hr hr'

end PaymentDb

/-! ## Runs -/

/-- The payments, with the last reading of the clock that a reservation was made with. -/
structure ReservationState where
  db : PaymentDb
  clock : Option Datetime := none

/-- A call of the payment service.  `approve` and `reject` may be called on any payment. -/
inductive ReservationEvent where
  | createCardToCard (attempts : Fin 30 → Datetime × Fin 90) (reservedAt : Datetime) (ownerId : ℕ)
      (baseAmount : ℤ) (discount : Option DiscountCode) (durationMonths : Option ℤ)
      (purpose : PaymentPurpose)
  | createZarinpal (ownerId : ℕ) (baseAmount : ℤ) (discount : Option DiscountCode) (authority : String)
      (durationMonths : Option ℤ) (purpose : PaymentPurpose)
  | createBale (ownerId : ℕ) (baseAmount : ℤ) (discount : Option DiscountCode) (invoicePayload : String)
      (durationMonths : Option ℤ) (purpose : PaymentPurpose)
  | approve (W : World) (now : Datetime) (paymentId : ℕ) (approval : Approval)
  | reject (now : Datetime) (paymentId : ℕ) (adminTelegramId : Option ℤ) (reason : Option String)
  /-- the settings are changed, the length of the reservations among them -/
  | configure (settings : AdminSettings)

namespace ReservationState

/-- The end of a call: what it has written if it returns, and a rollback if it raises. -/
def commit {α : Type} (s : ReservationState) : Except PyError (PaymentDb × α) → ReservationState
  | .ok (db, _) => { s with db := db }
  | .error _ => s

/-- One call; the readings for a reservation are not before those for an earlier one. -/
def step (s : ReservationState) : ReservationEvent → Option ReservationState
  | .createCardToCard attempts reservedAt ownerId baseAmount discount durationMonths purpose =>
    if (∀ t ∈ s.clock, ∀ i, t ≤ (attempts i).1) ∧ ∀ i, (attempts i).1 ≤ reservedAt then
      some { s.commit (s.db.createCardToCardPaymentAt attempts reservedAt ownerId baseAmount discount
        durationMonths purpose) with clock := some reservedAt }
    else none
  | .createZarinpal ownerId baseAmount discount authority durationMonths purpose =>
    some (s.commit (s.db.createZarinpalPayment ownerId baseAmount discount authority durationMonths
      purpose))
  | .createBale ownerId baseAmount discount invoicePayload durationMonths purpose =>
    some (s.commit (s.db.createBalePayment ownerId baseAmount discount invoicePayload durationMonths
      purpose))
  | .approve W now paymentId approval =>
    match s.db.getById paymentId with
    | none => some s
    | some payment => some (s.commit (s.db.approve W now payment approval))
  | .reject now paymentId adminTelegramId reason =>
    match s.db.getById paymentId with
    | none => some s
    | some payment => some { s with db := s.db.rejectPayment now payment adminTelegramId reason }
  | .configure settings => some { s with db := { s.db with settings := settings } }

/-- From the last reading on, the open reservations have distinct amounts. -/
def Inv (s : ReservationState) : Prop :=
  ∀ t, (∀ c ∈ s.clock, c ≤ t) → s.db.AmountsUnique t

theorem commit_cases {α : Type} (s : ReservationState) (r : Except PyError (PaymentDb × α)) :
    s.commit r = s ∨ ∃ db x, r = .ok (db, x) ∧ s.commit r = { s with db := db } := by
  cases r with
  | error e => exact Or.inl rfl
  | ok x => exact Or.inr ⟨x.1, x.2, rfl, rfl⟩

/-- A payment of a gateway reserves nothing. -/
theorem Inv.gateway {s : ReservationState} (h : Inv s) {r : Except PyError (PaymentDb × Payment)}
    (hr : ∀ db x, r = .ok (db, x) → ∃ p, p.id = s.db.payments.nextId ∧ p.reservedUntil = none ∧
      db = s.db.apply (.insertPayment p)) : Inv (s.commit r) := by
  obtain hsame | ⟨db, x, hok, hdb⟩ := s.commit_cases r
  · rw [hsame]
    exact h
  · obtain ⟨p, hid, hnone, rfl⟩ := hr db x hok
    rw [hdb]
    refine fun t ht => (h t ht).insert hid fun hres => ?_
    unfold PaymentDb.reserves at hres
    rw [hnone, Option.any_none, Bool.and_false] at hres
    cases hres

/-- A card payment reserves an amount that was free. -/
theorem Inv.card {s : ReservationState} (h : Inv s) {attempts : Fin 30 → Datetime × Fin 90}
    {reservedAt : Datetime} {ownerId : ℕ} {baseAmount : ℤ} {discount : Option DiscountCode}
    {durationMonths : Option ℤ} {purpose : PaymentPurpose}
    (hclock : ∀ t ∈ s.clock, ∀ i, t ≤ (attempts i).1) (hreserve : ∀ i, (attempts i).1 ≤ reservedAt) :
    Inv { s.commit (s.db.createCardToCardPaymentAt attempts reservedAt ownerId baseAmount discount
      durationMonths purpose) with clock := some reservedAt } := by
  have hold : ∀ t, reservedAt ≤ t → ∀ c ∈ s.clock, c ≤ t :=
    fun t ht c hc => ((hclock c hc 0).trans (hreserve 0)).trans ht
  obtain hsame | ⟨db, x, hok, hdb⟩ := s.commit_cases (s.db.createCardToCardPaymentAt attempts reservedAt
    ownerId baseAmount discount durationMonths purpose)
  · rw [hsame]
    exact fun t ht => h t (hold t (ht reservedAt rfl))
  · rw [hdb]
    obtain ⟨p, i, hid, rfl, hfree⟩ := PaymentDb.createCardToCardPaymentAt_ok hok
    intro t ht
    have hle : (attempts i).1 ≤ t := (hreserve i).trans (ht reservedAt rfl)
    refine (h t (hold t (ht reservedAt rfl))).insert hid fun _ q hq hamount => ?_
    by_contra hres
    have hres₀ := PaymentDb.reserves_anti hle (eq_true_of_ne_false hres)
    rw [PaymentDb.not_reserves_of_free hfree q hq hamount] at hres₀
    cases hres₀

theorem Inv.step {s s' : ReservationState} {e : ReservationEvent} (h : Inv s) (hs : s.step e = some s') :
    Inv s' := by
  cases e with
  | createCardToCard attempts reservedAt ownerId baseAmount discount durationMonths purpose =>
    unfold ReservationState.step at hs
    dsimp only at hs
    split_ifs at hs with hclock
    cases hs
    exact h.card hclock.1 hclock.2
  | createZarinpal ownerId baseAmount discount authority durationMonths purpose =>
    cases hs
    refine h.gateway fun db x hok => ?_
    obtain ⟨finalAmount, -, hok⟩ := bind_ok hok
    exact ⟨_, rfl, rfl, (PaymentDb.insertPayment_ok hok).2.2⟩
  | createBale ownerId baseAmount discount invoicePayload durationMonths purpose =>
    cases hs
    refine h.gateway fun db x hok => ?_
    obtain ⟨finalAmount, -, hok⟩ := bind_ok hok
    exact ⟨_, rfl, rfl, (PaymentDb.insertPayment_ok hok).2.2⟩
  | approve W now paymentId approval =>
    unfold ReservationState.step at hs
    dsimp only at hs
    split at hs
    · cases hs
      exact h
    · rename_i payment hget
      cases hs
      obtain hsame | ⟨db, x, hok, hdb⟩ := s.commit_cases (s.db.approve W now payment approval)
      · rw [hsame]
        exact h
      · rw [hdb]
        exact fun t ht => (h t ht).review (Table.mem_of_find? hget) (PaymentDb.approve_payments hok)
  | reject now paymentId adminTelegramId reason =>
    unfold ReservationState.step at hs
    dsimp only at hs
    split at hs
    · cases hs
      exact h
    · rename_i payment hget
      cases hs
      exact fun t ht => (h t ht).review (Table.mem_of_find? hget) rfl
  | configure settings =>
    cases hs
    exact h

/-- **Open reservations have distinct amounts.** From tables without payments, after any calls of the
payment service, at every moment from the last reading of the clock on: the open reservations have
pairwise distinct amounts, and the lookup of an amount finds at most one row and does not raise. -/
theorem amounts_unique (db : PaymentDb) (hstart : db.payments.rows = []) (es : List ReservationEvent)
    (s : ReservationState) (hrun : Runs.exec step { db := db } es = some s) (now : Datetime)
    (hnow : ∀ t ∈ s.clock, t ≤ now) :
    ((s.db.payments.rows.filter (PaymentDb.reserves now)).map Payment.finalAmount).Nodup ∧
    (∀ amount, (s.db.reservations now amount).length ≤ 1) ∧
    ∀ amount, Int4 amount → ∃ reserved, s.db.amountCurrentlyReserved now amount = .ok reserved := by
  have h₀ : Inv { db := db } := by
    intro t _ p hp
    rw [hstart] at hp
    cases hp
  have h : s.db.AmountsUnique now :=
    Runs.exec_inv_of_step (fun s e s' hI hs => Inv.step hI hs) es _ s h₀ hrun now hnow
  refine ⟨?_, h.length_reservations, fun amount hint => ⟨_, h.lookup hint⟩⟩
  refine List.Nodup.map_on (fun p hp q hq hamount => ?_)
    ((List.Nodup.of_map _ s.db.payments.nodup).filter _)
  rw [List.mem_filter] at hp hq
  exact h p hp.1 q hq.1 hp.2 hq.2 hamount

/-- The attempts of a call at one moment: the same first suffix in every call, and then another one. -/
def attemptsAt (now : Datetime) : Fin 30 → Datetime × Fin 90 :=
  fun i => (now, if i.val = 0 then Panel.draw₁ else Panel.draw₂)

/-- The first reservation ends before its amount is drawn again; the next draw has to be repeated, since
the amount is taken.  A payment of the same amount waits at a gateway all along. -/
def sameAmounts : List ReservationEvent :=
  [.createZarinpal 1 50010 none "A1" none .WALLET_TOPUP,
    .createCardToCard (attemptsAt 0) 1 1 50000 none none .WALLET_TOPUP,
    .createCardToCard (attemptsAt (minutes 61)) (minutes 61) 1 50000 none none .WALLET_TOPUP,
    .createCardToCard (attemptsAt (minutes 62)) (minutes 62) 2 50000 none none .WALLET_TOPUP,
    .reject (minutes 63) 1 none none]

theorem sameAmounts_isSome :
    (Runs.exec step { db := Panel.codeShop.db } sameAmounts).isSome = true := by
  decide +kernel

theorem amounts_unique_sameAmounts :
    Panel.codeShop.db.payments.rows = [] ∧
    ∃ s, Runs.exec step { db := Panel.codeShop.db } sameAmounts = some s ∧
      s.db.payments.rows.map Payment.finalAmount = [50010, 50010, 50010, 50011] ∧
      ((s.db.payments.rows.filter (PaymentDb.reserves (minutes 64))).map Payment.id) = [3, 4] ∧
      (s.db.reservations (minutes 64) 50010).length ≤ 1 := by
  refine ⟨rfl, _, (Option.some_get sameAmounts_isSome).symm, by decide +kernel, by decide +kernel, ?_⟩
  exact (amounts_unique Panel.codeShop.db rfl sameAmounts _ (Option.some_get sameAmounts_isSome).symm
    (minutes 64) (by decide +kernel)).2.1 50010

end ReservationState

end KasbOKar
