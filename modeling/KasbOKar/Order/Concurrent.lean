import KasbOKar.Order.Reservation

/-!
# Customers who confirm at the same time

`customer_confirm_order` as a transaction: it loads the order and its product with plain `SELECT`s,
compares, and writes the counter back as an absolute value.

`confirmations_reserve_once`: as long as no confirmation commits over a product row that has changed
since its `SELECT`, the counter is the number of units held and stays within the stock.  Two
customers who confirm the last piece at the same time both get it (`last_piece_reserved_twice`).
-/

namespace KasbOKar

open ReadCommitted Cached

/-- A confirmation returns whether the order was still waiting for it. -/
abbrev OrderProg := Prog OrderDb OrderEdit OrderRow Bool

namespace OrderDb

/-! ## The program -/

/-- The lines that reserve stock. -/
def reserveStockTx (now : Datetime) (order : OrderConsultation) (k : OrderProg) : OrderProg :=
  match order.productId with
  | none => k
  | some productId =>
    .read fun db =>
      match db.products.find? productId with
      | none => k
      | some product =>
        match product.stockQuantity with
        | none => k
        | some stock =>
          if order.qty ≤ stock - product.reservedQuantity then
            .read fun db =>
              match datetimeAdd now (minutes db.settings.orderReservationMinutes) with
              | .error _ => .rollback
              | .ok expiresAt =>
                let c : ProductChange := .reservedQuantity (product.reservedQuantity + order.qty)
                if c.fits then
                  .exec (.product productId c) (.exec (.order order.id (.reserve expiresAt)) k)
                else .rollback
          else k

/-- `cb_customer_confirm_order` with `customer_confirm_order`.  The new status is flushed before the
product is selected. -/
def customerConfirmOrderTx (now : Datetime) (orderId customerId : ℕ) : OrderProg :=
  .read fun db =>
    match db.getAwaitingConfirmationForCustomer orderId customerId with
    | none => .commit false
    | some order =>
      .exec (.order order.id (.status .PENDING)) (reserveStockTx now order (.commit true))

theorem solo_reserveStockTx {pick : OrderDb → (ℕ → OrderEdit) → ℕ} (now : Datetime)
    (order : OrderConsultation) (k : OrderProg) (db : OrderDb) :
    solo pick (reserveStockTx now order k) db =
      match db.reserveStock now order with
      | .error _ => none
      | .ok db' => solo pick k db' := by
  unfold reserveStockTx reserveStock
  cases order.productId with
  | none => rfl
  | some productId =>
    simp only [solo]
    cases db.products.find? productId with
    | none => rfl
    | some product =>
      dsimp only
      cases product.stockQuantity with
      | none => rfl
      | some stock =>
        dsimp only
        by_cases hfree : order.qty ≤ stock - product.reservedQuantity
        · rw [if_pos hfree, if_pos hfree]
          simp only [solo, bind, Except.bind, setProduct]
          cases datetimeAdd now (minutes db.settings.orderReservationMinutes) with
          | error e => rfl
          | ok expiresAt =>
            dsimp only
            split_ifs <;> rfl
        · rw [if_neg hfree, if_neg hfree]

/-- Alone, the transaction is the call. -/
theorem solo_customerConfirmOrderTx {pick : OrderDb → (ℕ → OrderEdit) → ℕ} (now : Datetime)
    (orderId customerId : ℕ) (db : OrderDb) :
    (match solo pick (customerConfirmOrderTx now orderId customerId) db with
      | some (db', _) => db'
      | none => db) = (db.call (.customerConfirmOrder now orderId customerId)).1 := by
  have hcall : db.call (.customerConfirmOrder now orderId customerId) =
      db.withOrder (db.getAwaitingConfirmationForCustomer orderId customerId) fun order =>
        db.session ((db.customerConfirmOrder now order).map fun db => (db, ())) fun _ => .none := rfl
  rw [hcall, customerConfirmOrderTx, solo]
  cases db.getAwaitingConfirmationForCustomer orderId customerId with
  | none => rfl
  | some order =>
    dsimp only [withOrder]
    rw [solo, solo_reserveStockTx]
    show _ = (db.session (Except.map _ ((db.apply (.order order.id (.status .PENDING))).reserveStock
      now order)) _).1
    have happly : Store.apply db (OrderEdit.order order.id (.status .PENDING)) =
      db.apply (.order order.id (.status .PENDING)) := rfl
    rw [happly]
    cases (db.apply (.order order.id (.status .PENDING))).reserveStock now order <;> rfl

/-! ## What a committed confirmation sends -/

/-- The `SELECT`s and edits of a committed confirmation of order `orderId`, whose row was waiting in
`db`. -/
inductive ConfirmSent (db : OrderDb) (orderId : ℕ) : List OrderDb → List OrderEdit → Prop
  | nothing (rs : List OrderDb) : ConfirmSent db orderId rs []
  | unreserved (rs : List OrderDb) {o : OrderConsultation} (ho : db.orders.find? orderId = some o)
      (hst : o.status = .AWAITING_CUSTOMER_CONFIRMATION) :
      ConfirmSent db orderId rs [.order orderId (.status .PENDING)]
  | reserved {o : OrderConsultation} (ho : db.orders.find? orderId = some o)
      (hst : o.status = .AWAITING_CUSTOMER_CONFIRMATION) (settings selected awaiting : OrderDb)
      {productId : ℕ} {p : Product} {stock : ℤ} (hprod : o.productId = some productId)
      (hp : selected.products.find? productId = some p) (hstock : p.stockQuantity = some stock)
      (hfree : o.qty ≤ stock - p.reservedQuantity) (expiresAt : Datetime) :
      ConfirmSent db orderId [settings, selected, awaiting]
        [.order orderId (.status .PENDING),
          .product productId (.reservedQuantity (p.reservedQuantity + o.qty)),
          .order orderId (.reserve expiresAt)]

/-- The order rows that still wait are the ones of `db`. -/
def WaitingAsIn {ι : Type} (db : OrderDb) (orderId : ι → ℕ) (d : OrderDb) : Prop :=
  ∀ i o, d.orders.find? (orderId i) = some o → o.status = .AWAITING_CUSTOMER_CONFIRMATION →
    db.orders.find? (orderId i) = some o

theorem wp_reserveStockTx {J : OrderDb → Prop} {db : OrderDb} {o : OrderConsultation}
    (ho : db.orders.find? o.id = some o) (hst : o.status = .AWAITING_CUSTOMER_CONFIRMATION)
    (now : Datetime) (awaiting : OrderDb) (L : List OrderRow) (d : OrderDb) :
    wp J (fun _ rs es _ => ConfirmSent db o.id rs es) (reserveStockTx now o (.commit true)) L
      [awaiting] [.order o.id (.status .PENDING)] d := by
  have hkeep : ∀ rs d, wp J (fun _ rs es _ => ConfirmSent db o.id rs es) (.commit true : OrderProg)
      L rs [.order o.id (.status .PENDING)] d := fun _ _ _ _ _ _ => .unreserved _ ho hst
  unfold reserveStockTx
  cases hprod : o.productId with
  | none => exact hkeep _ _
  | some productId =>
    intro d₁ _ _
    dsimp only
    -- the product as it is selected, under the flushed status
    generalize applyAll d₁ [OrderEdit.order o.id (.status .PENDING)] = selected
    cases hp : selected.products.find? productId with
    | none => exact hkeep _ _
    | some p =>
      dsimp only
      cases hstock : p.stockQuantity with
      | none => exact hkeep _ _
      | some stock =>
        dsimp only
        by_cases hfree : o.qty ≤ stock - p.reservedQuantity
        · rw [if_pos hfree]
          intro d₂ _ _
          dsimp only
          generalize applyAll d₂ [OrderEdit.order o.id (.status .PENDING)] = settings
          cases datetimeAdd now (minutes settings.settings.orderReservationMinutes) with
          | error e => trivial
          | ok expiresAt =>
            dsimp only
            split_ifs
            · exact fun _ _ _ _ _ _ _ _ _ _ =>
                .reserved ho hst settings selected awaiting hprod hp hstock hfree expiresAt
            · trivial
        · rw [if_neg hfree]
          exact hkeep _ _

theorem wp_customerConfirmOrderTx {ι : Type} {db : OrderDb} {orderId : ι → ℕ} (i : ι)
    (now : Datetime) (customerId : ℕ) (d : OrderDb) :
    wp (WaitingAsIn db orderId) (fun _ rs es _ => ConfirmSent db (orderId i) rs es)
      (customerConfirmOrderTx now (orderId i) customerId) [] [] [] d := by
  intro d₁ hJ _
  dsimp only [applyAll_nil]
  cases hget : d₁.getAwaitingConfirmationForCustomer (orderId i) customerId with
  | none => exact fun _ _ _ _ => .nothing _
  | some order =>
    obtain ⟨hfind, hid, -, hst⟩ := getAwaiting_some hget
    have ho := hJ i order (hid ▸ hfind) hst
    rw [← hid] at ho ⊢
    exact fun d₂ _ _ => wp_reserveStockTx ho hst now d₁ _ d₂

/-! ## The counter -/

theorem heldOf_status (db : OrderDb) (orderId : ℕ) (status : OrderStatus) (productId : ℕ) :
    (db.apply (.order orderId (.status status))).heldOf productId = db.heldOf productId :=
  Table.sum_modify_of_eq (f := fun o => OrderChange.write o (.status status))
    (fun o => OrderChange.write_id o _) fun _ => rfl

/-- A reservation adds the units of its order. -/
theorem heldOf_reserve {db : OrderDb} {orderId key : ℕ} {o : OrderConsultation}
    (ho : db.orders.find? orderId = some o) (hres : o.stockReserved = false)
    (hkey : o.productId = some key) (c : ProductChange) (expiresAt : Datetime) (productId : ℕ) :
    ((db.apply (.product key c)).apply (.order orderId (.reserve expiresAt))).heldOf productId =
      db.heldOf productId + if key = productId then o.qty else 0 := by
  refine (Table.sum_modify (f := fun o => OrderChange.write o (.reserve expiresAt))
    (fun o => OrderChange.write_id o _) ho _).trans ?_
  rw [held_of_not_reserved hres, sub_zero]
  exact congrArg _ (held_of_reserved (o := OrderChange.write o (.reserve expiresAt)) rfl hkey _)

/-- The product has a stock count, and its counter is the number of units held, which is within the
stock. -/
structure Counted (productId : ℕ) (stock : ℤ) (d : OrderDb) : Prop where
  counter : ∃ p, d.products.find? productId = some p ∧ p.stockQuantity = some stock ∧
    p.reservedQuantity = d.heldOf productId
  heldOf_le : d.heldOf productId ≤ stock

namespace Counted

variable {productId : ℕ} {stock : ℤ} {d : OrderDb}

theorem status (h : Counted productId stock d) (orderId : ℕ) (s : OrderStatus) :
    Counted productId stock (d.apply (.order orderId (.status s))) where
  counter := by
    obtain ⟨p, hp, hstock, hres⟩ := h.counter
    exact ⟨p, hp, hstock, by rw [heldOf_status, hres]⟩
  heldOf_le := by
    rw [heldOf_status]
    exact h.heldOf_le

/-- A reservation of another product. -/
theorem reserveOther (h : Counted productId stock d) {orderId key : ℕ} {o : OrderConsultation}
    (ho : d.orders.find? orderId = some o) (hres : o.stockReserved = false)
    (hkey : o.productId = some key) (hne : key ≠ productId) (c : ProductChange)
    (expiresAt : Datetime) :
    Counted productId stock
      ((d.apply (.product key c)).apply (.order orderId (.reserve expiresAt))) := by
  have hheld := heldOf_reserve ho hres hkey c expiresAt productId
  rw [if_neg hne, add_zero] at hheld
  obtain ⟨p, hp, hstock, hcount⟩ := h.counter
  refine ⟨⟨p, ?_, hstock, by rw [hheld, hcount]⟩, by rw [hheld]; exact h.heldOf_le⟩
  exact (Table.find?_modify_of_ne (fun p => c.write_id p) hne.symm).trans hp

/-- A reservation of this product, computed from its current row. -/
theorem reserve (h : Counted productId stock d) {orderId : ℕ} {o : OrderConsultation} {p : Product}
    {stock' : ℤ} (ho : d.orders.find? orderId = some o) (hres : o.stockReserved = false)
    (hkey : o.productId = some productId) (hp : d.products.find? productId = some p)
    (hstock : p.stockQuantity = some stock') (hfree : o.qty ≤ stock' - p.reservedQuantity)
    (expiresAt : Datetime) :
    Counted productId stock
      ((d.apply (.product productId (.reservedQuantity (p.reservedQuantity + o.qty)))).apply
        (.order orderId (.reserve expiresAt))) := by
  have hheld := heldOf_reserve ho hres hkey
    (.reservedQuantity (p.reservedQuantity + o.qty)) expiresAt productId
  rw [if_pos rfl] at hheld
  obtain ⟨q, hq, hstock', hcount⟩ := h.counter
  obtain rfl : p = q := Option.some.inj (hp.symm.trans hq)
  obtain rfl : stock' = stock := Option.some.inj (hstock.symm.trans hstock')
  refine ⟨⟨_, find?_changed_product _ hp, hstock, ?_⟩, ?_⟩
  · rw [hheld, ← hcount]
    rfl
  · rw [hheld, ← hcount]
    omega

end Counted

namespace ConfirmSent

variable {db d : OrderDb} {orderId : ℕ} {rs : List OrderDb} {es : List OrderEdit}

/-- Other orders are left alone. -/
theorem find?_other (h : ConfirmSent db orderId rs es) {j : ℕ} (hj : j ≠ orderId) (d : OrderDb) :
    (applyAll d es).orders.find? j = d.orders.find? j := by
  refine get_order_eq (get_applyAll_of_notMem d fun e he hrow => ?_)
  cases h with
  | nothing => cases he
  | unreserved rs ho hst =>
    rw [List.mem_singleton] at he
    subst he
    cases hrow
    exact hj rfl
  | reserved ho hst settings selected awaiting hprod hp hstock hfree expiresAt =>
    simp only [List.mem_cons, List.not_mem_nil, or_false] at he
    rcases he with rfl | rfl | rfl
    · cases hrow
      exact hj rfl
    · cases hrow
    · cases hrow
      exact hj rfl

/-- A confirmation that sends anything ends the wait. -/
theorem pending (h : ConfirmSent db orderId rs es)
    (hd : d.orders.find? orderId = db.orders.find? orderId) :
    es = [] ∨ ∃ o, (applyAll d es).orders.find? orderId = some o ∧ o.status = .PENDING := by
  cases h with
  | nothing => exact Or.inl rfl
  | unreserved rs ho hst =>
    exact Or.inr ⟨_, find?_changed_order (.status .PENDING) (hd.trans ho), rfl⟩
  | reserved ho hst settings selected awaiting hprod hp hstock hfree expiresAt =>
    exact Or.inr ⟨_, find?_changed_order (.reserve expiresAt)
      (find?_changed_order (.status .PENDING) (hd.trans ho)), rfl⟩

/-- A confirmation that has seen the current counter keeps it right. -/
theorem counted {productId : ℕ} {stock : ℤ} (h : ConfirmSent db orderId rs es)
    (hd : d.orders.find? orderId = db.orders.find? orderId)
    (hres : ∀ o, db.orders.find? orderId = some o →
      o.status = .AWAITING_CUSTOMER_CONFIRMATION → o.stockReserved = false)
    (hcur : ∀ settings selected awaiting, rs = [settings, selected, awaiting] →
      (∃ e ∈ es, e.row = .product productId) →
        selected.products.find? productId = d.products.find? productId)
    (hcount : Counted productId stock d) : Counted productId stock (applyAll d es) := by
  cases h with
  | nothing => exact hcount
  | unreserved rs ho hst => exact hcount.status orderId .PENDING
  | @reserved o ho hst settings selected awaiting key p _ hprod hp hstock hfree expiresAt =>
    have hfind := find?_changed_order (.status .PENDING) (hd.trans ho)
    have hpend := hcount.status orderId .PENDING
    by_cases hkey : key = productId
    · subst hkey
      have hsame := hcur settings selected awaiting rfl
        ⟨_, List.mem_cons_of_mem _ List.mem_cons_self, rfl⟩
      exact hpend.reserve hfind (hres o ho hst) hprod (hsame.symm.trans hp) hstock hfree expiresAt
    · exact hpend.reserveOther hfind (hres o ho hst) hprod hkey _ expiresAt

end ConfirmSent

/-! ## Interleaved confirmations -/

section Interleaving

variable {ι : Type}

/-- When a confirmation commits a reservation of the product, the product's row is still the one its
`SELECT` returned. -/
def counterCurrent (productId : ℕ) (c : Config ι OrderDb OrderEdit OrderRow Bool) : Act ι → Bool
  | .next i _ =>
    match (c.tx i).status, (c.tx i).reads with
    | .running (.commit _), [_, selected, _] =>
      !(c.tx i).edits.any (fun e => e.row == .product productId) ||
        selected.products.find? productId == c.db.products.find? productId
    | _, _ => true
  | _ => true

/-- The global property: the counter is right, and the orders of the open confirmations are as they
were. -/
structure Confirmed (db : OrderDb) (orderId : ι → ℕ) (productId : ℕ) (stock : ℤ) (d : OrderDb)
    (out : ι → Option (Bool × List OrderEdit)) : Prop where
  counted : Counted productId stock d
  waiting : WaitingAsIn db orderId d
  untouched : ∀ i, out i = none → d.orders.find? (orderId i) = db.orders.find? (orderId i)

theorem counterCurrent_commit {productId : ℕ} {c : Config ι OrderDb OrderEdit OrderRow Bool} {i : ι}
    {n : ℕ} {r : Bool} (h : counterCurrent productId c (.next i n) = true)
    (hi : (c.tx i).status = .running (.commit r)) (settings selected awaiting : OrderDb)
    (hr : (c.tx i).reads = [settings, selected, awaiting])
    (hw : ∃ e ∈ (c.tx i).edits, e.row = .product productId) :
    selected.products.find? productId = c.db.products.find? productId := by
  simp only [counterCurrent, hi, hr] at h
  have hany : (c.tx i).edits.any (fun e => e.row == .product productId) = true := by
    rw [List.any_eq_true]
    obtain ⟨e, he, hrow⟩ := hw
    exact ⟨e, he, beq_iff_eq.2 hrow⟩
  rw [hany, Bool.not_true, Bool.false_or] at h
  exact beq_iff_eq.1 h

/-- A commit keeps the global property. -/
theorem Confirmed.commit [DecidableEq ι] {db d : OrderDb} {orderId : ι → ℕ} {productId : ℕ}
    {stock : ℤ} {out : ι → Option (Bool × List OrderEdit)} {i : ι} {rs : List OrderDb}
    {es : List OrderEdit}
    (h : Confirmed db orderId productId stock d out) (hinj : Function.Injective orderId)
    (hi : out i = none) (hs : ConfirmSent db (orderId i) rs es)
    (hcount : Counted productId stock (applyAll d es)) (r : Bool) :
    Confirmed db orderId productId stock (applyAll d es) (Function.update out i (some (r, es))) where
  counted := hcount
  waiting j o ho hst := by
    by_cases hj : j = i
    · subst hj
      rcases hs.pending (h.untouched j hi) with rfl | ⟨o', ho', hpend⟩
      · exact h.waiting j o ho hst
      · obtain rfl : o = o' := Option.some.inj (ho.symm.trans ho')
        rw [hpend] at hst
        cases hst
    · rw [hs.find?_other (hinj.ne hj)] at ho
      exact h.waiting j o ho hst
  untouched j hj := by
    by_cases hij : j = i
    · subst hij
      rw [Function.update_self] at hj
      cases hj
    · rw [Function.update_of_ne hij] at hj
      rw [hs.find?_other (hinj.ne hij)]
      exact h.untouched j hj

variable [Fintype ι] [DecidableEq ι]

/-- **Simultaneous customers.** In every interleaving of confirmations of different orders, with any
of them rolled back, in which no confirmation commits a reservation computed from a product row that
is no longer the committed one: at every moment, and so when all have committed, the product's
counter is the number of units its orders hold and does not exceed the stock. -/
theorem confirmations_reserve_once (now : ι → Datetime) (orderId customerId : ι → ℕ)
    (hinj : Function.Injective orderId) (productId : ℕ) (stock : ℤ) (db : OrderDb)
    (hdb : Counted productId stock db)
    (hres : ∀ i o, db.orders.find? (orderId i) = some o →
      o.status = .AWAITING_CUSTOMER_CONFIRMATION → o.stockReserved = false)
    (as : List (Act ι)) (c : Config ι OrderDb OrderEdit OrderRow Bool)
    (hcur : Runs.Along Config.step (fun c a => counterCurrent productId c a = true)
      (start db fun i => customerConfirmOrderTx (now i) (orderId i) (customerId i)) as)
    (hrun : Runs.exec Config.step
      (start db fun i => customerConfirmOrderTx (now i) (orderId i) (customerId i)) as = some c) :
    ∃ p, c.db.products.find? productId = some p ∧ p.stockQuantity = some stock ∧
      p.reservedQuantity = c.db.heldOf productId ∧ c.db.heldOf productId ≤ stock := by
  have hinv := inv_exec (C := fun c a => counterCurrent productId c a = true)
    (J := WaitingAsIn db orderId) (Q := fun i _ rs es _ => ConfirmSent db (orderId i) rs es)
    (G := Confirmed db orderId productId stock) (fun _ _ h => h.waiting)
    (fun c i n r hC hi hG hQ => ?_) ⟨hdb, fun _ _ ho _ => ho, fun _ _ => rfl⟩
    (fun i => wp_customerConfirmOrderTx i (now i) (customerId i) db) hcur hrun
  · obtain ⟨p, hp, hstock, hcount⟩ := hinv.global.counted.counter
    exact ⟨p, hp, hstock, hcount, hinv.global.counted.heldOf_le⟩
  · have hnone := outcome_running hi
    exact hG.commit hinj hnone hQ (hQ.counted (hG.untouched i hnone) (hres i)
      (counterCurrent_commit hC hi) hG.counted) r

end Interleaving

/-- One piece left, and two customers who have each been asked to confirm an order of it. -/
def lastPiece : OrderDb :=
  let waiting (id : ℕ) : OrderConsultation :=
    { id := id, shopBotId := 1, customerId := id, type := .ORDER, summary := "tea",
      productId := some 1, quantity := some 1, status := .AWAITING_CUSTOMER_CONFIRMATION,
      createdAt := 0 }
  { products := ⟨[{ id := 1, shopBotId := 1, name := "tea", priceToman := 1000,
                    stockQuantity := some 1 }], by decide⟩
    orders := ⟨[waiting 1, waiting 2], by decide⟩
    shopBots := [1], customers := [1, 2], settings := {} }

theorem counted_lastPiece : Counted 1 1 lastPiece := ⟨⟨_, rfl, rfl, by decide⟩, by decide⟩

/-- The first customer's order, or the second's; the customers have the same keys. -/
def lastPieceOrder (second : Bool) : ℕ := if second then 2 else 1

/-- The customers of `lastPiece` confirm. -/
def confirmLastPiece : Config Bool OrderDb OrderEdit OrderRow Bool :=
  start lastPiece fun i => customerConfirmOrderTx 0 (lastPieceOrder i) (lastPieceOrder i)

/-- One after the other. -/
def inTurn : List (Act Bool) :=
  List.replicate 7 (Act.next false 0) ++ List.replicate 4 (Act.next true 0)

/-- Both select the product before either commits. -/
def atTheSameTime : List (Act Bool) :=
  List.replicate 3 (Act.next false 0) ++ List.replicate 3 (Act.next true 0) ++
    List.replicate 4 (Act.next false 0) ++ List.replicate 4 (Act.next true 0)

theorem inTurn_isSome : (Runs.exec Config.step confirmLastPiece inTurn).isSome = true := by
  decide +kernel

theorem atTheSameTime_isSome :
    (Runs.exec Config.step confirmLastPiece atTheSameTime).isSome = true := by
  decide +kernel

theorem confirmations_reserve_once_in_turn :
    ∃ c, Runs.exec Config.step confirmLastPiece inTurn = some c ∧
      (∀ i, (c.outcome i).isSome = true) ∧ c.db.heldOf 1 = 1 ∧
      ∃ p, c.db.products.find? 1 = some p ∧ p.stockQuantity = some 1 ∧
        p.reservedQuantity = c.db.heldOf 1 ∧ c.db.heldOf 1 ≤ 1 :=
  ⟨_, (Option.some_get inTurn_isSome).symm, by decide +kernel, by decide +kernel,
    confirmations_reserve_once (fun _ => 0) lastPieceOrder lastPieceOrder (by decide) 1 1 lastPiece
      counted_lastPiece (by decide +kernel) inTurn _ (by decide +kernel)
      (Option.some_get inTurn_isSome).symm⟩

/-- Both customers get the last piece, and the counter knows of one of them. -/
theorem last_piece_reserved_twice :
    ∃ c, Runs.exec Config.step confirmLastPiece atTheSameTime = some c ∧
      Counted 1 1 lastPiece ∧ (∀ o ∈ lastPiece.orders.rows, o.stockReserved = false) ∧
      (∀ i, (c.outcome i).isSome = true) ∧
      c.db.orders.rows.map OrderConsultation.stockReserved = [true, true] ∧ c.db.heldOf 1 = 2 ∧
      c.db.products.rows.map Product.stockQuantity = [some 1] ∧
      c.db.products.rows.map Product.reservedQuantity = [1] :=
  ⟨_, (Option.some_get atTheSameTime_isSome).symm, counted_lastPiece, by decide +kernel,
    by decide +kernel, by decide +kernel, by decide +kernel, by decide +kernel, by decide +kernel⟩

end OrderDb

end KasbOKar
