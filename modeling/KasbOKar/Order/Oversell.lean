import KasbOKar.Order.Stock

/-!
# Overselling

The units that confirmed orders have taken of a product, `soldOf`, and the ones still in stock.
`Till` says that together they are what the shop started with, and that no more is reserved than is
in stock.  All order operations keep it but one: `confirm_order` also takes an order without a
reservation, because the owner confirms by hand, and then it may take units that are held for
somebody else (`held_units_resold`).  Where it does not, nothing is oversold (`not_oversold`).
-/

namespace KasbOKar

open Cached

namespace OrderDb

/-- The units of a product that an order has taken. -/
def sold (productId : ℕ) (o : OrderConsultation) : ℤ :=
  if o.productId = some productId ∧ o.confirmed = true then o.qty else 0

/-- The units that the confirmed orders have taken of a product. -/
def soldOf (db : OrderDb) (productId : ℕ) : ℤ := db.orders.sum (sold productId)

/-- An edit of the stock count. -/
def Call.editsStock : Call → Bool
  | applyFieldEdit _ _ (.stock _) => true
  | _ => false

/-- The call is no confirmation of an order without reservation that asks for more units of the
product than are free. -/
def takesFree (productId : ℕ) (db : OrderDb) : Call → Bool
  | .confirmOrder _ orderId => (db.orders.find? orderId).all fun o =>
      o.stockReserved || o.confirmed || o.status == .AWAITING_CUSTOMER_CONFIRMATION ||
      o.productId != some productId ||
      (db.products.find? productId).all fun p =>
        p.stockQuantity.all fun stock => decide (o.qty ≤ stock - p.reservedQuantity)
  | _ => true

/-! ## The till -/

/-- What is sold and what is in stock is what was there at first, and the stock covers the
reservations. -/
structure Till (i : ℕ) (stock first : ℤ) (db : OrderDb) : Prop where
  product : ∃ p, db.products.find? i = some p ∧ p.stockQuantity = some stock ∧
    p.reservedQuantity ≤ stock
  nonneg : 0 ≤ stock
  total : db.soldOf i + stock = first

/-- An edit that neither takes units of the product nor reserves more than `stock`. -/
def harmless (i : ℕ) (stock : ℤ) : OrderEdit → Bool
  | .insertOrder o => !o.confirmed
  | .order _ (.confirm _) => false
  | .product j (.reservedQuantity n) => j != i || decide (n ≤ stock)
  | .product j (.stockQuantity _) => j != i
  | _ => true

section Till

variable {i : ℕ} {stock first : ℤ} {db db' : OrderDb}

theorem soldOf_apply {e : OrderEdit} (he : harmless i stock e = true) :
    (db.apply e).soldOf i = db.soldOf i := by
  cases e with
  | insertProduct p => rfl
  | product j c => rfl
  | insertOrder o =>
    have hconf : o.confirmed = false := by simpa [harmless] using he
    have hsold : sold i o = 0 := if_neg fun e => by rw [hconf] at e; cases e.2
    by_cases hid : Keyed.id o ∈ db.orders.ids
    · show (db.orders.insert o).sum _ = _
      unfold Table.insert
      rw [dif_pos hid]
      rfl
    · refine (Table.sum_insert hid _).trans ?_
      rw [hsold, add_zero]
      rfl
  | order j c =>
    refine Table.sum_modify_of_eq (f := fun o => c.write o) (fun o => c.write_id o) fun o => ?_
    unfold sold
    rw [OrderChange.write_productId, OrderChange.write_qty]
    cases c with
    | confirm now => cases he
    | _ => rfl

/-- A harmless edit of any row. -/
theorem Till.apply (h : Till i stock first db) {e : OrderEdit} (he : harmless i stock e = true) :
    Till i stock first (db.apply e) where
  product := by
    obtain ⟨p, hp, hstock, hres⟩ := h.product
    cases e with
    | insertOrder o => exact ⟨p, hp, hstock, hres⟩
    | order j c => exact ⟨p, hp, hstock, hres⟩
    | insertProduct q =>
      refine ⟨p, ?_, hstock, hres⟩
      simp only [OrderDb.apply, Table.find?_insert, hp]
      split_ifs <;> rfl
    | product j c =>
      by_cases hj : i = j
      · subst hj
        refine ⟨c.write p, find?_changed_product c hp, ?_⟩
        cases c with
        | reservedQuantity n =>
          have hn : n ≤ stock := by simpa [harmless] using he
          exact ⟨hstock, hn⟩
        | stockQuantity n => simp [harmless] at he
        | _ => exact ⟨hstock, hres⟩
      · exact ⟨p, (Table.find?_modify_of_ne (fun p => c.write_id p) hj).trans hp, hstock, hres⟩
  nonneg := h.nonneg
  total := by
    rw [soldOf_apply he]
    exact h.total

theorem Till.reserveStock (h : Till i stock first db) {now : Datetime} {order : OrderConsultation}
    (hok : db.reserveStock now order = .ok db') : Till i stock first db' := by
  obtain rfl | ⟨j, p, n, expiresAt, -, hp, hn, hfree, rfl⟩ := reserveStock_ok hok
  · exact h
  refine (h.apply ?_).apply rfl
  simp only [harmless, Bool.or_eq_true, bne_iff_ne, decide_eq_true_eq]
  by_cases hj : j = i
  · subst hj
    obtain ⟨q, hq, hstock, -⟩ := h.product
    rw [hp] at hq
    cases hq
    rw [hn] at hstock
    cases hstock
    exact Or.inr (by omega)
  · exact Or.inl hj

theorem Till.releaseReservation (h : Till i stock first db) {order : OrderConsultation}
    (hqty : 0 ≤ order.qty) (hok : db.releaseReservation order = .ok db') :
    Till i stock first db' := by
  obtain ⟨-, rfl⟩ | ⟨-, db₁, h₁, rfl⟩ := releaseReservation_ok hok
  · exact h
  refine Till.apply ?_ rfl
  obtain ⟨rfl, -⟩ | ⟨j, p, -, hp, rfl⟩ := giveBack_ok h₁
  · exact h
  refine h.apply ?_
  simp only [harmless, Bool.or_eq_true, bne_iff_ne, decide_eq_true_eq]
  by_cases hj : j = i
  · subst hj
    obtain ⟨q, hq, -, hres⟩ := h.product
    rw [hp] at hq
    cases hq
    have := h.nonneg
    exact Or.inr (by omega)
  · exact Or.inl hj

theorem Till.expireAll {expired : List OrderConsultation} (h : Till i stock first db)
    (hqty : ∀ o ∈ expired, 0 ≤ o.qty) (hok : expired.foldlM expireReservation db = .ok db') :
    Till i stock first db' := by
  refine foldlM_keeps (I := Till i stock first) (fun o ho db₁ db₂ h₁ hround => ?_) h hok
  obtain ⟨db₃, h₃, hround⟩ := bind_ok hround
  cases hround
  exact (h₁.releaseReservation (hqty o ho) h₃).apply rfl

theorem Till.cancelAll (stale : List OrderConsultation) (h : Till i stock first db) :
    Till i stock first (stale.foldl customerCancelOrder db) :=
  List.foldlRecOn stale _ h fun _ h₁ o _ => h₁.apply (e := .order o.id (.status .CANCELLED)) rfl

/-! ## Confirmations -/

/-- The units a confirmation adds to those sold. -/
theorem soldOf_confirm {order : OrderConsultation} (ho : db.orders.find? order.id = some order)
    (hconf : order.confirmed = false) (now : Datetime) :
    (db.apply (.order order.id (.confirm now))).soldOf i =
      db.soldOf i + if order.productId = some i then order.qty else 0 := by
  refine (Table.sum_modify (f := fun o => OrderChange.write o (.confirm now))
    (fun o => OrderChange.write_id o _) ho _).trans ?_
  have hold : sold i order = 0 := if_neg fun e => by rw [hconf] at e; cases e.2
  have hnew : sold i (OrderChange.write order (.confirm now)) =
      if order.productId = some i then order.qty else 0 := by
    unfold sold
    rw [OrderChange.write_productId, OrderChange.write_qty]
    exact if_congr (and_iff_left rfl) rfl rfl
  rw [hold, hnew, sub_zero]
  rfl

/-- A confirmation of an order of another product, or of none. -/
theorem Till.confirmOther (h : Till i stock first db) {order : OrderConsultation}
    (ho : db.orders.find? order.id = some order) (hconf : order.confirmed = false) (now : Datetime)
    (hne : order.productId ≠ some i) :
    Till i stock first (db.apply (.order order.id (.confirm now))) where
  product := h.product
  nonneg := h.nonneg
  total := by
    rw [soldOf_confirm ho hconf, if_neg hne, add_zero]
    exact h.total

/-- A confirmation that has taken its units out of the stock. -/
theorem Till.confirmTaken {order : OrderConsultation} {p : Product}
    (hp : db.products.find? i = some p) (hstock : p.stockQuantity = some (stock - order.qty))
    (hres : p.reservedQuantity ≤ stock - order.qty) (hnonneg : 0 ≤ stock - order.qty)
    (htotal : db.soldOf i + stock = first) (ho : db.orders.find? order.id = some order)
    (hconf : order.confirmed = false) (now : Datetime) (hi : order.productId = some i) :
    Till i (stock - order.qty) first (db.apply (.order order.id (.confirm now))) where
  product := ⟨p, hp, hstock, hres⟩
  nonneg := hnonneg
  total := by
    rw [soldOf_confirm ho hconf, if_pos hi]
    omega

/-- No counter is negative. -/
theorem Booked.reserved_nonneg {strict : Prop} (hb : Booked strict settled db) {p : Product}
    (hp : p ∈ db.products.rows) : 0 ≤ p.reservedQuantity := by
  rw [hb.counter_eq hp]
  refine Table.sum_nonneg fun o ho => ?_
  unfold held
  split_ifs
  · exact (hb.sound o ho).qty_nonneg
  · exact le_rfl

theorem Booked.soldOf_nonneg {strict : Prop} {pend : ℕ → ℤ} (hb : Booked strict pend db) (i : ℕ) :
    0 ≤ db.soldOf i := by
  refine Table.sum_nonneg fun o ho => ?_
  unfold sold
  split_ifs
  · exact (hb.sound o ho).qty_nonneg
  · exact le_rfl

/-- The rest of `confirm_order`, on an order that is not yet confirmed: an order of the product
takes exactly its units. -/
theorem Till.confirm (h : Till i stock first db) (hb : Booked True settled db)
    {order : OrderConsultation} (ho : db.orders.find? order.id = some order)
    (hconf : order.confirmed = false) (now : Datetime)
    (hfree : order.stockReserved = false → order.productId = some i →
      ∀ p, db.products.find? i = some p → order.qty ≤ stock - p.reservedQuantity)
    (hok : db.takeStock order = .ok db') :
    Till i (if order.productId = some i then stock - order.qty else stock) first
      (db'.apply (.order order.id (.confirm now))) := by
  obtain ⟨p, hp, hstock, hres⟩ := h.product
  by_cases hi : order.productId = some i
  · rw [if_pos hi]
    obtain ⟨rfl, huntracked⟩ | ⟨j, q, n, hj, hq, hn, rfl⟩ := takeStock_ok hok
    · rw [huntracked i p hi hp] at hstock
      cases hstock
    rw [hi] at hj
    cases hj
    rw [hp] at hq
    cases hq
    rw [hstock] at hn
    cases hn
    have hnonneg := hb.reserved_nonneg (Table.mem_of_find? hp)
    cases hheld : order.stockReserved with
    | true =>
      have hle := hb.qty_le (Table.mem_of_find? ho) hheld hi hp
      rw [if_pos rfl, max_eq_right (by omega), max_eq_right (by omega)]
      exact Till.confirmTaken (find?_changed_product _ (find?_changed_product _ hp)) rfl
        (show p.reservedQuantity - order.qty ≤ _ by omega) (by omega) h.total ho hconf now hi
    | false =>
      have hle := hfree hheld hi p hp
      rw [if_neg Bool.false_ne_true, max_eq_right (by omega)]
      exact Till.confirmTaken (find?_changed_product _ hp) rfl
        (show p.reservedQuantity ≤ _ by omega) (by omega) h.total ho hconf now hi
  · rw [if_neg hi]
    have horders := takeStock_orders hok
    refine Till.confirmOther ?_ (horders ▸ ho) hconf now hi
    obtain ⟨rfl, -⟩ | ⟨j, q, n, hj, -, -, rfl⟩ := takeStock_ok hok
    · exact h
    have hne : j ≠ i := fun e => hi (e ▸ hj)
    refine Till.apply ?_ (by simpa [harmless] using hne)
    split_ifs
    · exact h.apply (by simp [harmless, hne])
    · exact h

/-- **The confirmation of an order that still holds its units** goes through and takes exactly
them. -/
theorem Till.confirmHeld (h : Till i stock first db) (hb : Booked True settled db)
    (hfirst : first ≤ 2147483647) {order : OrderConsultation} (ho : order ∈ db.orders.rows)
    (hheld : order.stockReserved = true) (hi : order.productId = some i) (now : Datetime) :
    ∃ db', db.confirmOrder now order = .ok (db', true) ∧ Till i (stock - order.qty) first db' := by
  obtain ⟨p, hp, hstock, hres⟩ := h.product
  have hsound := hb.sound order ho
  have hpending := (hsound.reserved hheld).1
  have hconf : order.confirmed = false := by
    rw [Bool.eq_false_iff]
    intro e
    have := hsound.confirmed_iff.1 e
    rw [hpending] at this
    revert this
    decide
  have hle := hb.qty_le ho hheld hi hp
  have htotal := h.total
  have hqty := hsound.qty_nonneg
  have hsold := hb.soldOf_nonneg i
  have hok : db.takeStock order = .ok ((db.apply (.product i (.reservedQuantity
      (max 0 (p.reservedQuantity - order.qty))))).apply (.product i (.stockQuantity
      (some (max 0 (stock - order.qty)))))) := by
    have hfits₁ : (ProductChange.reservedQuantity
        (max 0 (p.reservedQuantity - order.qty))).fits = true :=
      decide_eq_true (by unfold Int4; omega)
    have hfits₂ : (ProductChange.stockQuantity (some (max 0 (stock - order.qty)))).fits = true :=
      decide_eq_true (by unfold Int4; omega)
    simp only [takeStock, hi, hp, hstock, hheld, setProduct, hfits₁, hfits₂, if_true]
    rfl
  have hafter := h.confirm hb (Table.find?_of_mem ho) hconf now
    (fun e => absurd (hheld.symm.trans e) (by decide)) hok
  rw [if_pos hi] at hafter
  refine ⟨_, ?_, hafter⟩
  unfold OrderDb.confirmOrder
  rw [if_neg (by rw [hpending]; decide), hconf, if_neg Bool.false_ne_true, hok]
  rfl

/-! ## Calls -/

/-- **One call** keeps the till. -/
theorem Till.call (h : Till i stock first db) (hb : Booked True settled db) (c : Call)
    (hedit : c.editsStock = false) (hfree : takesFree i db c = true) :
    ∃ stock', Till i stock' first (db.call c).1 := by
  cases c with
  | createOrder now shopBotId customerId orderType summary value productId quantity =>
    refine ⟨stock, session_keeps _ h fun db' a hok => ?_⟩
    obtain ⟨db₁, h₁, hok⟩ := bind_ok hok
    obtain ⟨db₂, h₂, hok⟩ := bind_ok hok
    cases hok
    rw [insertOrder_ok h₁] at h₂
    exact (h.apply rfl).reserveStock h₂
  | createOrderAwaitingConfirmation now shopBotId customerId orderType summary value productId quantity
      phone address =>
    refine ⟨stock, session_keeps _ h fun db' a hok => ?_⟩
    obtain ⟨db₁, h₁, hok⟩ := bind_ok hok
    cases hok
    rw [insertOrder_ok h₁]
    exact h.apply rfl
  | customerConfirmOrder now orderId customerId =>
    refine ⟨stock, withOrder_keeps h fun o ho => session_keeps _ h fun db' a hok => ?_⟩
    obtain ⟨db₁, hc, hpair⟩ := map_ok hok
    cases hpair
    exact (h.apply (e := .order o.id (.status .PENDING)) rfl).reserveStock hc
  | customerCancelOrder orderId customerId =>
    refine ⟨stock, withOrder_keeps h fun o _ => ?_⟩
    exact h.apply (e := .order o.id (.status .CANCELLED)) rfl
  | confirmOrder now orderId =>
    rcases call_confirmOrder db now orderId with ⟨hsame, -⟩ | ⟨o, db', r, ho, rfl, hok, hcall⟩
    · rw [hsame]
      exact ⟨stock, h⟩
    rw [hcall]
    obtain ⟨rfl, -⟩ | ⟨hawaiting, hconf, -, db₁, h₁, rfl⟩ := confirmOrder_ok hok
    · exact ⟨stock, h⟩
    refine ⟨_, h.confirm hb ho hconf now (fun hheld hi p hp => ?_) h₁⟩
    obtain ⟨q, hq, hstock, -⟩ := h.product
    rw [hp] at hq
    cases hq
    simpa [takesFree, ho, hheld, hconf, hawaiting, hi, hp, hstock] using hfree
  | rejectOrder orderId =>
    refine ⟨stock, withOrder_keeps h fun o ho => session_keeps _ h fun db' a hok => ?_⟩
    obtain rfl | ⟨-, db₁, h₁, rfl⟩ := rejectOrder_ok hok
    · exact h
    · have hqty := (hb.sound o (Table.mem_of_find? ho)).qty_nonneg
      exact (h.releaseReservation hqty h₁).apply rfl
  | advanceStatus orderId =>
    refine ⟨stock, withOrder_keeps h fun o ho => ?_⟩
    obtain hsame | ⟨s, -, -, hstep⟩ := advanceStatus_cases db o
    · rw [hsame]
      exact h
    · rw [hstep]
      exact h.apply rfl
  | expireStaleReservations scan now =>
    refine ⟨stock, session_keeps _ h fun db' a hok => ?_⟩
    obtain ⟨db₁, h₁, hok⟩ := bind_ok hok
    cases hok
    refine h.expireAll (fun o ho => ?_) h₁
    exact (hb.sound o (Table.mem_select.1 ho).1).qty_nonneg
  | expireStaleCustomerConfirmations scan now n =>
    refine ⟨stock, session_keeps _ h fun db' a hok => ?_⟩
    obtain ⟨cutoff, -, hok⟩ := bind_ok hok
    cases hok
    exact Till.cancelAll _ h
  | createProduct shopBotId name description priceToman photoFileId stockQuantity =>
    refine ⟨stock, session_keeps _ h fun db' a hok => ?_⟩
    obtain ⟨p, -, -, -, rfl⟩ := createProduct_ok hok
    exact h.apply rfl
  | applyFieldEdit productId shopBotId edit =>
    refine ⟨stock, session_keeps _ h fun db' a hok => ?_⟩
    obtain rfl | ⟨p, -, -, rfl⟩ := applyFieldEdit_ok hok
    · exact h
    · refine h.apply ?_
      cases edit with
      | stock n => cases hedit
      | _ => rfl

end Till

/-- The books survive every call but an edit of a stock count. -/
theorem Booked.callWithoutStockEdit {db : OrderDb} (hb : Booked True settled db) (c : Call)
    (hq : c.quantityOk = true) (hedit : c.editsStock = false) : Booked True settled (db.call c).1 := by
  cases hc : c.isEdit with
  | false => exact hb.call c hq (hb.returnsReservation c) fun _ => hc
  | true =>
    cases c with
    | applyFieldEdit productId shopBotId edit =>
      refine session_keeps _ hb fun db' a hok => ?_
      obtain rfl | ⟨p, -, -, rfl⟩ := applyFieldEdit_ok hok
      · exact hb
      · cases edit with
        | stock n => cases hedit
        | _ => exact hb.changeProduct rfl fun _ => nofun
    | _ => cases hc

/-- **Nothing is oversold** in a run of order operations on a product whose stock count is not
edited, as long as no order without reservation is confirmed for more units than are free: the
confirmed orders have taken at most what was in stock at first, and the confirmation of an order
that still holds its units lowers the stock by exactly its quantity. -/
theorem not_oversold (db db' : OrderDb) (hdb : db.Fresh) (i : ℕ) (first : ℤ)
    (hfirst : 0 ≤ first ∧ Int4 first) (hstock : db.stockOf i = some first) (calls : List Call)
    (hcalls : ∀ c ∈ calls, c.quantityOk = true ∧ c.editsStock = false)
    (hfree : Runs.Along step (fun db c => takesFree i db c = true) db calls)
    (hrun : Runs.exec step db calls = some db') :
    db'.soldOf i ≤ first ∧
    ∀ o ∈ db'.orders.rows, o.stockReserved = true → o.productId = some i → ∀ now, ∃ stock db'',
      db'.stockOf i = some stock ∧ db'.confirmOrder now o = .ok (db'', true) ∧
      db''.stockOf i = some (stock - o.qty) := by
  have hinv : Booked True settled db' ∧ ∃ stock, Till i stock first db' := by
    refine Runs.exec_inv (I := fun db => Booked True settled db ∧ ∃ stock, Till i stock first db)
      (fun db c db₁ h hc hs => ?_) calls db db' ⟨hdb.booked True, first, ?_⟩ (hfree.and_mem hcalls)
      hrun
    · obtain ⟨hb, stock, h⟩ := h
      obtain ⟨hfree, hq, hedit⟩ := hc
      cases hs
      exact ⟨hb.callWithoutStockEdit c hq hedit, h.call hb c hedit hfree⟩
    · obtain ⟨p, hp, hps⟩ := Option.bind_eq_some_iff.1 hstock
      refine ⟨⟨p, hp, hps, ?_⟩, hfirst.1, ?_⟩
      · rw [hdb.unreserved p (Table.mem_of_find? hp)]
        exact hfirst.1
      · have hnone : db.soldOf i = 0 := by
          unfold soldOf Table.sum
          rw [hdb.no_orders]
          rfl
        rw [hnone, zero_add]
  obtain ⟨hb, stock, h⟩ := hinv
  have hstockOf : ∀ {db : OrderDb} {n : ℤ}, Till i n first db → db.stockOf i = some n := by
    intro db n h
    obtain ⟨p, hp, hn, -⟩ := h.product
    unfold stockOf
    rw [hp]
    exact hn
  refine ⟨?_, fun o ho hheld hi now => ?_⟩
  · have := h.total
    have := h.nonneg
    omega
  · obtain ⟨db'', hok, h'⟩ := h.confirmHeld hb hfirst.2.2 ho hheld hi now
    exact ⟨stock, db'', hstockOf h, hok, hstockOf h'⟩

/-- Three of the five pieces are sold after their reservation has expired, while two are held. -/
def confirmedLate : List Call :=
  [.createOrder 0 1 1 .ORDER "three" none (some 1) (some 3),
    .createOrder (minutes 60) 1 2 .ORDER "two" none (some 1) (some 2),
    .expireStaleReservations .plain (minutes 90), .confirmOrder (minutes 91) 1]

theorem not_oversold_confirmedLate :
    ∃ db' : OrderDb, Runs.exec step cornerShop confirmedLate = some db' ∧
      db'.orders.rows.map OrderConsultation.stockReserved = [false, true] ∧ db'.soldOf 1 = 3 ∧
      db'.soldOf 1 ≤ 5 :=
  ⟨_, rfl, by decide +kernel, by decide +kernel, (not_oversold cornerShop _ fresh_cornerShop 1 5
    (by decide) rfl confirmedLate (by decide) (by decide +kernel) rfl).1⟩

/-- The second order finds nothing free and is confirmed all the same: the units held for the first
one are sold twice, and the clamp hides it. -/
theorem held_units_resold :
    ∃ db₁ db₂, Runs.exec step cornerShop
        [.createOrder 0 1 1 .ORDER "five" none (some 1) (some 5),
          .createOrder 0 1 2 .ORDER "one" none (some 1) none, .confirmOrder 9 2] = some db₁ ∧
      Runs.exec step db₁ [.confirmOrder 9 1] = some db₂ ∧
      cornerShop.Fresh ∧ cornerShop.stockOf 1 = some 5 ∧
      (db₁.orders.find? 1).map OrderConsultation.stockReserved = some true ∧
      db₁.stockOf 1 = some 4 ∧ db₂.stockOf 1 = some 0 ∧ db₂.soldOf 1 = 6 :=
  ⟨_, _, rfl, rfl, fresh_cornerShop, rfl, by decide +kernel, by decide +kernel, by decide +kernel,
    by decide +kernel⟩

end OrderDb

end KasbOKar
