import KasbOKar.Lib.Cached
import KasbOKar.Lib.Runs
import KasbOKar.Order.Service

/-!
# Reservations

`reserved_quantity` caches the units that the orders with `stock_reserved` hold of a product.
`Booked strict pend db` says that it does, up to `pend`, and that every order is in a sensible
state; with `strict` it also says that a reserved product has a stock count, which is so as long as
nobody edits products.

`Booked.call` says that every call keeps the book, and `reservation_with_edits` that a run of order
operations and product edits does.  The latter needs a condition: `confirm_order` gives the units of
a reservation back only if the product still has a stock count, while `_release_reservation` always
does (`reservation_lost`).
-/

namespace KasbOKar

open Cached

namespace OrderDb

/-- An order by itself. -/
structure Sound (strict : Prop) (products : Table Product) (o : OrderConsultation) : Prop where
  confirmed_iff : o.confirmed = true ↔ o.status ∈ advanceSequence
  reserved : o.stockReserved = true → o.status = .PENDING ∧ o.reservationExpiresAt.isSome = true ∧
    ∃ i p, o.productId = some i ∧ products.find? i = some p ∧ (strict → p.stockQuantity.isSome = true)
  qty_nonneg : 0 ≤ o.qty

/-- The orders are sound and the counters are the units they hold, up to what is pending. -/
structure Booked (strict : Prop) (pend : ℕ → ℤ) (db : OrderDb) : Prop where
  sound : ∀ o ∈ db.orders.rows, Sound strict db.products o
  counter : Agrees Product.reservedQuantity held pend db.products db.orders

theorem held_of_not_reserved {o : OrderConsultation} (h : o.stockReserved = false) (i : ℕ) :
    held i o = 0 := by
  unfold held
  rw [h, if_neg fun e => by cases e.2]

theorem held_of_reserved {o : OrderConsultation} {key : ℕ} (h : o.stockReserved = true)
    (hk : o.productId = some key) (i : ℕ) : held i o = if key = i then o.qty else 0 := by
  unfold held
  simp only [h, hk, Option.some.injEq, and_true]

namespace Booked

variable {strict : Prop} {pend : ℕ → ℤ} {db : OrderDb}

/-! ### Edits -/

/-- An `UPDATE` of a counter. -/
theorem setReserved (h : Booked strict pend db) {i : ℕ} {p : Product}
    (hp : db.products.find? i = some p) (n : ℤ) :
    Booked strict (bump pend i (n - p.reservedQuantity)) (db.apply (.product i (.reservedQuantity n))) where
  sound o ho := by
    refine ⟨(h.sound o ho).confirmed_iff, fun hr => ?_, (h.sound o ho).qty_nonneg⟩
    obtain ⟨hs, he, j, q, hj, hq, ht⟩ := (h.sound o ho).reserved hr
    refine ⟨hs, he, j, if j = i then { q with reservedQuantity := n } else q, hj, ?_, fun hst => ?_⟩
    · simp only [apply, Table.find?_modify, hq]
      split_ifs <;> rfl
    · split_ifs
      · exact ht hst
      · exact ht hst
  counter := by
    refine h.counter.modify_cache (f := fun p => ProductChange.write p (.reservedQuantity n))
      (fun p => ProductChange.write_id p _) fun r hr hid => ?_
    rw [Table.find?_eq_some_iff] at hp
    rw [Table.eq_of_id_eq hr hp.1 (hid.trans hp.2.symm)]
    show n = _
    ring

/-- Any other `UPDATE` of a product; a strict book allows no product to lose its stock count. -/
theorem changeProduct (h : Booked strict pend db) {i : ℕ} {c : ProductChange}
    (hc : c.keepsReserved = true) (hstock : strict → c ≠ .stockQuantity none) :
    Booked strict pend (db.apply (.product i c)) where
  sound o ho := by
    refine ⟨(h.sound o ho).confirmed_iff, fun hr => ?_, (h.sound o ho).qty_nonneg⟩
    obtain ⟨hs, he, j, q, hj, hq, ht⟩ := (h.sound o ho).reserved hr
    refine ⟨hs, he, j, if j = i then c.write q else q, hj, ?_, fun hst => ?_⟩
    · simp only [apply, Table.find?_modify, hq]
      split_ifs <;> rfl
    · split_ifs
      · cases c with
        | stockQuantity n =>
          cases n with
          | none => exact absurd rfl (hstock hst)
          | some n => rfl
        | _ => exact ht hst
      · exact ht hst
  counter := by
    rw [← bump_zero pend i]
    refine h.counter.modify_cache (f := fun p => c.write p) (fun p => c.write_id p) fun r _ _ => ?_
    rw [ProductChange.write_reservedQuantity r hc, add_zero]

/-- An `UPDATE` of an order that changes what it holds of one product. -/
theorem changeOrder (h : Booked strict pend db) {i : ℕ} {o : OrderConsultation} {c : OrderChange}
    (key : ℕ) (delta : ℤ) (ho : db.orders.find? i = some o) (hsound : Sound strict db.products (c.write o))
    (hheld : ∀ j, held j (c.write o) = held j o + if key = j then delta else 0) :
    Booked strict (bump pend key (-delta)) (db.apply (.order i c)) where
  sound r hr := by
    rcases Table.mem_modify_cases (f := fun o => c.write o) (fun o => c.write_id o) hr with
      ⟨hr, -⟩ | ⟨s, hs, hid, rfl⟩
    · exact h.sound r hr
    · rw [Table.find?_eq_some_iff] at ho
      rw [Table.eq_of_id_eq hs ho.1 (hid.trans ho.2.symm)]
      exact hsound
  counter := by
    refine h.counter.change_sum fun j => ?_
    refine (Table.sum_modify (f := fun o => c.write o) (fun o => c.write_id o) ho _).trans ?_
    rw [hheld]
    ring

/-- An `UPDATE` of an order that changes nothing of what it holds. -/
theorem keepOrder (h : Booked strict pend db) {i : ℕ} {o : OrderConsultation} {c : OrderChange}
    (ho : db.orders.find? i = some o) (hsound : Sound strict db.products (c.write o))
    (hheld : (c.write o).stockReserved = o.stockReserved) :
    Booked strict pend (db.apply (.order i c)) := by
  have := h.changeOrder 0 0 ho hsound fun j => by
    unfold held
    rw [OrderChange.write_productId, OrderChange.write_qty, hheld, ite_self, add_zero]
  rwa [neg_zero, bump_zero] at this

/-- An `UPDATE` that ends a reservation, after its units were given back. -/
theorem dropOrder {i : ℕ} {order : OrderConsultation} {c : OrderChange}
    (h : Booked strict (bump pend i (-order.qty)) db) (ho : db.orders.find? order.id = some order)
    (hsound : Sound strict db.products (c.write order)) (hres : order.stockReserved = true)
    (hi : order.productId = some i) (hdrop : (c.write order).stockReserved = false) :
    Booked strict pend (db.apply (.order order.id c)) := by
  have := h.changeOrder i (-order.qty) ho hsound fun j => by
    rw [held_of_reserved hres hi, held_of_not_reserved hdrop]
    split_ifs <;> ring
  rwa [bump_bump, neg_neg, neg_add_cancel, bump_zero] at this

/-- An `INSERT` of an order without reservation. -/
theorem insertOrder (h : Booked strict pend db) {o : OrderConsultation} (hid : o.id ∉ db.orders.ids)
    (hconf : o.confirmed = true ↔ o.status ∈ advanceSequence) (hres : o.stockReserved = false)
    (hqty : 0 ≤ o.qty) : Booked strict pend (db.apply (.insertOrder o)) where
  sound r hr := by
    rcases (Table.mem_insert hid).1 hr with hr | rfl
    · exact h.sound r hr
    · exact ⟨hconf, fun e => absurd (hres.symm.trans e) Bool.false_ne_true, hqty⟩
  counter r hr := by
    have hsum : (db.orders.insert o).sum (held r.id) = db.orders.sum (held r.id) := by
      rw [Table.sum_insert hid, held_of_not_reserved hres, add_zero]
    refine (h.counter r hr).trans ?_
    show db.orders.sum (held r.id) + _ = (db.orders.insert o).sum (held r.id) + _
    rw [hsum]

/-- An `INSERT` of a product: no order holds any of it. -/
theorem insertProduct (h : Booked strict settled db) {p : Product} (hid : p.id ∉ db.products.ids)
    (hres : p.reservedQuantity = 0) : Booked strict settled (db.apply (.insertProduct p)) where
  sound o ho := by
    refine ⟨(h.sound o ho).confirmed_iff, fun hr => ?_, (h.sound o ho).qty_nonneg⟩
    obtain ⟨hs, he, j, q, hj, hq, ht⟩ := (h.sound o ho).reserved hr
    refine ⟨hs, he, j, q, hj, ?_, ht⟩
    have hne : j ≠ p.id := fun e => hid (e ▸ Table.mem_ids.2 ⟨q, Table.find?_eq_some_iff.1 hq⟩)
    exact (Table.find?_insert_of_ne hne).trans hq
  counter r hr := by
    rcases (Table.mem_insert hid).1 hr with hr | rfl
    · exact h.counter r hr
    · have hnone : db.orders.sum (held r.id) = 0 := by
        refine Table.sum_eq_zero fun o ho => ?_
        unfold held
        refine if_neg fun e => ?_
        obtain ⟨-, -, j, q, hj, hq, -⟩ := (h.sound o ho).reserved e.2
        rw [hj] at e
        refine hid (Table.mem_ids.2 ⟨q, Table.find?_eq_some_iff.1 ?_⟩)
        rw [← Option.some.inj e.1]
        exact hq
      show r.reservedQuantity = db.orders.sum (held r.id) + 0
      rw [hnone, hres, add_zero]

/-- **No counter is below what an order holds.** -/
theorem qty_le (h : Booked strict settled db) {o : OrderConsultation} {i : ℕ} {p : Product}
    (ho : o ∈ db.orders.rows) (hres : o.stockReserved = true) (hi : o.productId = some i)
    (hp : db.products.find? i = some p) : o.qty ≤ p.reservedQuantity := by
  obtain ⟨hrow, hid⟩ := Table.find?_eq_some_iff.1 hp
  have hcounter : p.reservedQuantity = db.orders.sum (held i) := by
    have := h.counter p hrow
    rw [hid] at this
    exact this.trans (add_zero _)
  have hle : held i o ≤ db.orders.sum (held i) := by
    refine Table.le_sum (fun r hr => ?_) ho
    unfold held
    split_ifs
    · exact (h.sound r hr).qty_nonneg
    · exact le_rfl
  rw [held_of_reserved hres hi, if_pos rfl] at hle
  omega

/-! ### Operations -/

/-- The lines that reserve stock, on an order that has just become pending. -/
theorem reserveStock (h : Booked strict settled db) {now : Datetime} {order o : OrderConsultation}
    {db' : OrderDb} (ho : db.orders.find? order.id = some o) (hpid : o.productId = order.productId)
    (hqty : o.qty = order.qty) (hpending : o.status = .PENDING) (hres : o.stockReserved = false)
    (hok : db.reserveStock now order = .ok db') : Booked strict settled db' := by
  obtain rfl | ⟨i, p, stock, expiresAt, hi, hp, hstock, -, rfl⟩ := reserveStock_ok hok
  · exact h
  have hproduct := h.setReserved hp (p.reservedQuantity + order.qty)
  have hsound := h.sound o (Table.mem_of_find? ho)
  have horder := hproduct.changeOrder i order.qty ho (c := .reserve expiresAt)
    ⟨hsound.confirmed_iff, fun _ => ⟨hpending, rfl, i, _, hpid.trans hi,
      find?_changed_product _ hp, fun _ => ?_⟩,
      hsound.qty_nonneg⟩ fun j => ?_
  · rw [bump_bump, show p.reservedQuantity + order.qty - p.reservedQuantity + -order.qty = 0 by ring,
      bump_zero] at horder
    exact horder
  · show p.stockQuantity.isSome = true
    rw [hstock]
    rfl
  · rw [held_of_not_reserved hres, zero_add]
    refine (held_of_reserved (o := OrderChange.write o (.reserve expiresAt)) rfl (hpid.trans hi) j).trans ?_
    rw [OrderChange.write_qty, hqty]

/-- `_release_reservation`: the order holds nothing afterwards. -/
theorem releaseReservation (h : Booked strict settled db) {order : OrderConsultation} {db' : OrderDb}
    (ho : db.orders.find? order.id = some order) (hok : db.releaseReservation order = .ok db') :
    Booked strict settled db' ∧
      db'.orders.find? order.id = some { order with stockReserved := false } := by
  have hrow := Table.mem_of_find? ho
  have hsound := h.sound order hrow
  obtain ⟨hres, rfl⟩ | ⟨hres, db₁, h₁, rfl⟩ := releaseReservation_ok hok
  · rw [← hres]
    exact ⟨h, ho⟩
  · obtain ⟨-, -, j, q, hj, hq, -⟩ := hsound.reserved hres
    obtain ⟨-, hnone⟩ | ⟨i, p, hi, hp, rfl⟩ := giveBack_ok h₁
    · rw [hnone j hj] at hq
      cases hq
    have hle := h.qty_le hrow hres hi hp
    refine ⟨?_, find?_changed_order .unreserve ho⟩
    -- the counter covers the order, so the clamp does nothing
    rw [max_eq_right (by omega)]
    have hproduct := h.setReserved hp (p.reservedQuantity - order.qty)
    rw [sub_sub_cancel_left] at hproduct
    exact hproduct.dropOrder ho ⟨hsound.confirmed_iff, fun e => absurd e Bool.false_ne_true,
      hsound.qty_nonneg⟩ hres hi rfl

/-- `confirm_order`, if a reservation is given back. -/
theorem confirmOrder (h : Booked strict settled db) {now : Datetime} {order : OrderConsultation}
    {db' : OrderDb} {b : Bool} (ho : db.orders.find? order.id = some order)
    (htracked : order.stockReserved = true → ∀ i p, order.productId = some i →
      db.products.find? i = some p → p.stockQuantity.isSome = true)
    (hok : db.confirmOrder now order = .ok (db', b)) : Booked strict settled db' := by
  have hrow := Table.mem_of_find? ho
  have hsound := h.sound order hrow
  obtain ⟨rfl, -⟩ | ⟨-, -, -, db₁, h₁, rfl⟩ := confirmOrder_ok hok
  · exact h
  -- what the confirmed order is like, whatever happened to the product
  have hnew : ∀ products, Sound strict products (OrderChange.write order (.confirm now)) := fun _ =>
    ⟨by simp [OrderChange.write, advanceSequence], fun e => absurd e Bool.false_ne_true,
      hsound.qty_nonneg⟩
  obtain ⟨rfl, huntracked⟩ | ⟨i, p, stock, hi, hp, hstock, rfl⟩ := takeStock_ok h₁
  · cases hres : order.stockReserved with
    | false => exact h.keepOrder ho (hnew _) hres.symm
    | true =>
      obtain ⟨-, -, j, q, hj, hq, -⟩ := hsound.reserved hres
      have htrack := htracked hres j q hj hq
      rw [huntracked j q hj hq] at htrack
      cases htrack
  · cases hres : order.stockReserved with
    | false => exact (h.changeProduct rfl fun _ => by simp).keepOrder ho (hnew _) hres.symm
    | true =>
      have hle := h.qty_le hrow hres hi hp
      rw [if_pos rfl, max_eq_right (by omega)]
      have hproduct := h.setReserved hp (p.reservedQuantity - order.qty)
      rw [sub_sub_cancel_left] at hproduct
      exact (hproduct.changeProduct rfl fun _ => by simp).dropOrder ho (hnew _) hres hi rfl

/-- A new status for an order without reservation, on the same side of the confirmation. -/
theorem setStatus (h : Booked strict pend db) {i : ℕ} {o : OrderConsultation} {s : OrderStatus}
    (ho : db.orders.find? i = some o) (hres : o.stockReserved = false)
    (hs : s ∈ advanceSequence ↔ o.status ∈ advanceSequence) :
    Booked strict pend (db.apply (.order i (.status s))) := by
  have hsound := h.sound o (Table.mem_of_find? ho)
  exact h.keepOrder ho ⟨hsound.confirmed_iff.trans hs.symm,
    fun e => absurd (hres.symm.trans e) Bool.false_ne_true, hsound.qty_nonneg⟩ rfl

/-- An order that is not pending holds nothing. -/
theorem not_reserved (h : Booked strict pend db) {o : OrderConsultation} (ho : o ∈ db.orders.rows)
    (hne : o.status ≠ .PENDING) : o.stockReserved = false := by
  cases hres : o.stockReserved with
  | false => rfl
  | true => exact absurd ((h.sound o ho).reserved hres).1 hne

/-- The end of a pending order: its reservation is released and it gets a final status. -/
theorem closeOrder (h : Booked strict settled db) {order : OrderConsultation} {db' : OrderDb}
    {s : OrderStatus} (ho : db.orders.find? order.id = some order) (hpending : order.status = .PENDING)
    (hs : s ∉ advanceSequence) (hok : db.releaseReservation order = .ok db') :
    Booked strict settled (db'.apply (.order order.id (.status s))) := by
  obtain ⟨h', ho'⟩ := h.releaseReservation ho hok
  refine h'.setStatus ho' rfl ?_
  show s ∈ advanceSequence ↔ order.status ∈ advanceSequence
  rw [hpending]
  exact iff_of_false hs (by decide)

end Booked

/-! ## The loops -/

theorem expiredReservations_rows (db : OrderDb) (scan : Scan OrderConsultation) (now : Datetime) :
    (∀ o ∈ db.expiredReservations scan now,
      db.orders.find? o.id = some o ∧ o.status = .PENDING ∧ o.stockReserved = true) ∧
      ((db.expiredReservations scan now).map OrderConsultation.id).Nodup := by
  refine ⟨fun o ho => ?_, Table.select_nodup _ _ _⟩
  obtain ⟨hrow, hsel⟩ := Table.mem_select.1 ho
  simp only [Bool.and_eq_true, beq_iff_eq] at hsel
  exact ⟨Table.find?_of_mem hrow, hsel.1.1, hsel.1.2⟩

theorem giveBack_orders {db db' : OrderDb} {order : OrderConsultation}
    (h : db.giveBack order = .ok db') : db'.orders = db.orders := by
  obtain ⟨rfl, -⟩ | ⟨i, p, -, -, rfl⟩ := giveBack_ok h
  · rfl
  · rfl

/-- A round of the expiry loop leaves the other orders alone. -/
theorem expireReservation_orders {db db' : OrderDb} {order : OrderConsultation}
    (hok : db.expireReservation order = .ok db') {i : ℕ} (hi : i ≠ order.id) :
    db'.orders.find? i = db.orders.find? i := by
  obtain ⟨db₁, h₁, hok⟩ := bind_ok hok
  cases hok
  refine (find?_other_order db₁ _ hi).trans ?_
  obtain ⟨-, rfl⟩ | ⟨-, db₂, h₂, rfl⟩ := releaseReservation_ok h₁
  · rfl
  · rw [find?_other_order db₂ _ hi, giveBack_orders h₂]

namespace Booked

variable {strict : Prop}

/-- **Some rounds of the expiry loop** keep the books, and the orders still to come are as they were
selected. -/
theorem rounds (rest : List OrderConsultation) : ∀ {done : List OrderConsultation} {db db' : OrderDb},
    Booked strict settled db →
    (∀ o ∈ done ++ rest, db.orders.find? o.id = some o ∧ o.status = .PENDING) →
    ((done ++ rest).map OrderConsultation.id).Nodup →
    done.foldlM OrderDb.expireReservation db = .ok db' →
    Booked strict settled db' ∧ ∀ o ∈ rest, db'.orders.find? o.id = some o := by
  intro done
  induction done with
  | nil =>
    intro db db' h hrows _ hok
    cases hok
    exact ⟨h, fun o ho => (hrows o ho).1⟩
  | cons c done ih =>
    intro db db' h hrows hnd hok
    rw [List.foldlM_cons] at hok
    obtain ⟨db₁, h₁, hok⟩ := bind_ok hok
    obtain ⟨hc, hpending⟩ := hrows c List.mem_cons_self
    have hbooked : Booked strict settled db₁ := by
      obtain ⟨db₂, h₂, h₁⟩ := bind_ok h₁
      cases h₁
      exact h.closeOrder hc hpending (by decide) h₂
    rw [List.cons_append, List.map_cons, List.nodup_cons] at hnd
    refine ih hbooked (fun o ho => ?_) hnd.2 hok
    have hne : o.id ≠ c.id := fun e => hnd.1 (e ▸ List.mem_map_of_mem ho)
    rw [expireReservation_orders h₁ hne]
    exact hrows o (List.mem_cons_of_mem _ ho)

/-- The cancellation of candidates that waited too long. -/
theorem cancelAll : ∀ {stale : List OrderConsultation} {db : OrderDb}, Booked strict settled db →
    (∀ o ∈ stale, db.orders.find? o.id = some o ∧ o.status = .AWAITING_CUSTOMER_CONFIRMATION) →
    (stale.map OrderConsultation.id).Nodup →
    Booked strict settled (stale.foldl OrderDb.customerCancelOrder db) := by
  intro stale
  induction stale with
  | nil => intro db h _ _; exact h
  | cons c stale ih =>
    intro db h hrows hnd
    obtain ⟨hc, hawaiting⟩ := hrows c List.mem_cons_self
    have hres := h.not_reserved (Table.mem_of_find? hc) (by rw [hawaiting]; decide)
    rw [List.map_cons, List.nodup_cons] at hnd
    refine ih (h.setStatus hc hres ?_) (fun o ho => ?_) hnd.2
    · rw [hawaiting]
      decide
    · have hne : o.id ≠ c.id := fun e => hnd.1 (e ▸ List.mem_map_of_mem ho)
      obtain ⟨ho', hs⟩ := hrows o (List.mem_cons_of_mem _ ho)
      exact ⟨(find?_other_order db _ hne).trans ho', hs⟩

end Booked

/-! ## Calls -/

/-- A quantity is nothing or not negative. -/
def Call.quantityOk : Call → Bool
  | createOrder _ _ _ _ _ _ _ quantity => quantity.all fun n => decide (0 ≤ n)
  | createOrderAwaitingConfirmation _ _ _ _ _ _ _ quantity _ _ => quantity.all fun n => decide (0 ≤ n)
  | _ => true

/-- A product edit. -/
def Call.isEdit : Call → Bool
  | applyFieldEdit _ _ _ => true
  | _ => false

/-- The call does not confirm an order that holds units of a product without stock count. -/
def returnsReservation (db : OrderDb) : Call → Bool
  | .confirmOrder _ orderId => !(db.orders.find? orderId).any fun o => o.stockReserved &&
      o.productId.any fun i => (db.products.find? i).any fun p => p.stockQuantity.isNone
  | _ => true

theorem qty_nonneg_of_all {o : OrderConsultation} (h : (o.quantity.all fun n => decide (0 ≤ n)) = true) :
    0 ≤ o.qty := by
  unfold OrderConsultation.qty
  split
  · rename_i n hn
    rw [hn] at h
    have : 0 ≤ n := by simpa using h
    split_ifs <;> omega
  · omega

theorem getAwaiting_some {db : OrderDb} {orderId customerId : ℕ} {o : OrderConsultation}
    (h : db.getAwaitingConfirmationForCustomer orderId customerId = some o) :
    db.orders.find? o.id = some o ∧ o.id = orderId ∧ o.customerId = customerId ∧
      o.status = .AWAITING_CUSTOMER_CONFIRMATION := by
  obtain ⟨hfind, hp⟩ := Option.filter_eq_some_iff.1 h
  have hid : o.id = orderId := Table.id_of_find? hfind
  simp only [Bool.and_eq_true, beq_iff_eq] at hp
  exact ⟨hid ▸ hfind, hid, hp.1, hp.2⟩

/-- A session keeps a property of the tables if its call does. -/
theorem session_keeps {α : Type} {db : OrderDb} {I : OrderDb → Prop} {x : Except PyError (OrderDb × α)}
    (reply : α → Reply) (h : I db) (hx : ∀ db' a, x = .ok (db', a) → I db') :
    I (db.session x reply).1 := by
  unfold session
  split
  · exact h
  · rename_i db' a
    exact hx db' a rfl

theorem withOrder_keeps {db : OrderDb} {I : OrderDb → Prop} {order : Option OrderConsultation}
    {f : OrderConsultation → OrderDb × Reply} (h : I db)
    (hf : ∀ o, order = some o → I (f o).1) : I (db.withOrder order f).1 := by
  unfold withOrder
  split
  · exact h
  · rename_i o
    exact hf o rfl

namespace Booked

variable {strict : Prop} {db : OrderDb}

theorem createOrder (h : Booked strict settled db) {now : Datetime} {o : OrderConsultation}
    {db₁ db' : OrderDb} (hid : o.id = db.orders.nextId) (hconf : o.confirmed = false)
    (hstatus : o.status = .PENDING) (hres : o.stockReserved = false) (hqty : 0 ≤ o.qty)
    (h₁ : db.insertOrder o = .ok db₁) (hok : db₁.reserveStock now o = .ok db') :
    Booked strict settled db' := by
  have hnew : o.id ∉ db.orders.ids := hid ▸ Table.nextId_notMem _
  obtain rfl := insertOrder_ok h₁
  refine (h.insertOrder hnew ?_ hres hqty).reserveStock (Table.find?_insert_self hnew) rfl rfl hstatus
    hres hok
  rw [hconf, hstatus]
  decide

theorem customerConfirmOrder (h : Booked strict settled db) {now : Datetime}
    {order : OrderConsultation} {db' : OrderDb} (ho : db.orders.find? order.id = some order)
    (hawaiting : order.status = .AWAITING_CUSTOMER_CONFIRMATION)
    (hok : db.customerConfirmOrder now order = .ok db') : Booked strict settled db' := by
  have hres := h.not_reserved (Table.mem_of_find? ho) (by rw [hawaiting]; decide)
  have hpending : Booked strict settled (db.apply (.order order.id (.status .PENDING))) :=
    h.setStatus ho hres (by rw [hawaiting]; decide)
  exact hpending.reserveStock (find?_changed_order _ ho) rfl rfl rfl hres hok

theorem advanceStatus (h : Booked strict settled db) {order : OrderConsultation}
    (ho : db.orders.find? order.id = some order) : Booked strict settled (db.advanceStatus order).1 := by
  obtain hsame | ⟨s, hs, hseq, hstep⟩ := advanceStatus_cases db order
  · rw [hsame]
    exact h
  · have hres := h.not_reserved (Table.mem_of_find? ho) fun e => by rw [e] at hseq; revert hseq; decide
    rw [hstep]
    exact h.setStatus ho hres (iff_of_true hs hseq)

/-- **One call** keeps the books. -/
theorem call (h : Booked strict settled db) (c : Call) (hq : c.quantityOk = true)
    (hret : db.returnsReservation c = true) (hedit : strict → c.isEdit = false) :
    Booked strict settled (db.call c).1 := by
  cases c with
  | createOrder now shopBotId customerId orderType summary value productId quantity =>
    refine session_keeps _ h fun db' a hok => ?_
    obtain ⟨db₁, h₁, hok⟩ := bind_ok hok
    obtain ⟨db₂, h₂, hok⟩ := bind_ok hok
    cases hok
    refine h.createOrder rfl rfl rfl rfl ?_ h₁ h₂
    exact qty_nonneg_of_all hq
  | createOrderAwaitingConfirmation now shopBotId customerId orderType summary value productId quantity
      phone address =>
    refine session_keeps _ h fun db' a hok => ?_
    obtain ⟨db₁, h₁, hok⟩ := bind_ok hok
    cases hok
    rw [insertOrder_ok h₁]
    exact h.insertOrder (Table.nextId_notMem _) (by simp [advanceSequence]) rfl (qty_nonneg_of_all hq)
  | customerConfirmOrder now orderId customerId =>
    refine withOrder_keeps h fun o ho => session_keeps _ h fun db' a hok => ?_
    obtain ⟨ho, -, -, hawaiting⟩ := getAwaiting_some ho
    obtain ⟨db₁, hc, hpair⟩ := map_ok hok
    cases hpair
    exact h.customerConfirmOrder ho hawaiting hc
  | customerCancelOrder orderId customerId =>
    refine withOrder_keeps h fun o ho => ?_
    obtain ⟨ho, -, -, hawaiting⟩ := getAwaiting_some ho
    exact h.setStatus ho (h.not_reserved (Table.mem_of_find? ho) (by rw [hawaiting]; decide))
      (by rw [hawaiting]; decide)
  | confirmOrder now orderId =>
    refine withOrder_keeps h fun o ho => session_keeps _ h fun db' a hok => ?_
    have hid : o.id = orderId := Table.id_of_find? ho
    refine h.confirmOrder (hid ▸ ho) (fun hres i p hi hp => ?_) hok
    unfold returnsReservation at hret
    simp only [ho, Option.any_some, hres, hi, hp, Bool.true_and] at hret
    simpa using hret
  | rejectOrder orderId =>
    refine withOrder_keeps h fun o ho => session_keeps _ h fun db' a hok => ?_
    have hid : o.id = orderId := Table.id_of_find? ho
    obtain rfl | ⟨hpending, db₁, h₁, rfl⟩ := rejectOrder_ok hok
    · exact h
    · exact h.closeOrder (hid ▸ ho) hpending (by decide) h₁
  | advanceStatus orderId =>
    refine withOrder_keeps h fun o ho => ?_
    have hid : o.id = orderId := Table.id_of_find? ho
    exact h.advanceStatus (hid ▸ ho)
  | expireStaleReservations scan now =>
    refine session_keeps _ h fun db' a hok => ?_
    obtain ⟨db₁, h₁, hok⟩ := bind_ok hok
    cases hok
    obtain ⟨hrows, hnd⟩ := db.expiredReservations_rows scan now
    rw [← List.append_nil (db.expiredReservations scan now)] at hrows hnd
    exact (h.rounds [] (fun o ho => ⟨(hrows o ho).1, (hrows o ho).2.1⟩) hnd h₁).1
  | expireStaleCustomerConfirmations scan now n =>
    refine session_keeps _ h fun db' a hok => ?_
    obtain ⟨cutoff, -, hok⟩ := bind_ok hok
    cases hok
    refine h.cancelAll (fun o ho => ?_) (Table.select_nodup _ _ _)
    obtain ⟨hrow, hstale⟩ := Table.mem_select.1 ho
    simp only [Bool.and_eq_true, beq_iff_eq] at hstale
    exact ⟨Table.find?_of_mem hrow, hstale.1⟩
  | createProduct shopBotId name description priceToman photoFileId stockQuantity =>
    refine session_keeps _ h fun db' a hok => ?_
    obtain ⟨p, hid, -, hres, rfl⟩ := createProduct_ok hok
    exact h.insertProduct (hid ▸ Table.nextId_notMem _) hres
  | applyFieldEdit productId shopBotId edit =>
    refine session_keeps _ h fun db' a hok => ?_
    obtain rfl | ⟨p, -, -, rfl⟩ := applyFieldEdit_ok hok
    · exact h
    · exact h.changeProduct (by cases edit <;> rfl) fun hst =>
        absurd (hedit hst) (by simp [Call.isEdit])

end Booked

/-! ## Runs with product edits -/

/-- No orders yet, and nothing reserved. -/
structure Fresh (db : OrderDb) : Prop where
  no_orders : db.orders.rows = []
  unreserved : ∀ p ∈ db.products.rows, p.reservedQuantity = 0

theorem Fresh.booked {db : OrderDb} (h : db.Fresh) (strict : Prop) : Booked strict settled db where
  sound o ho := by
    rw [h.no_orders] at ho
    cases ho
  counter p hp := by
    show p.reservedQuantity = db.orders.sum (held p.id) + 0
    unfold Table.sum
    rw [h.no_orders, h.unreserved p hp]
    rfl

/-- A call as a step of a run; a call that raises changes nothing. -/
def step (db : OrderDb) (c : Call) : Option OrderDb := some (db.call c).1

/-- What a run with product edits has to observe. -/
def careful (db : OrderDb) (c : Call) : Bool := c.quantityOk && db.returnsReservation c

theorem Booked.counter_eq {strict : Prop} {db : OrderDb} (h : Booked strict settled db) {p : Product}
    (hp : p ∈ db.products.rows) : p.reservedQuantity = db.heldOf p.id :=
  (h.counter p hp).trans (add_zero _)

/-- Without product edits a reserved product always has a stock count. -/
theorem Booked.returnsReservation {db : OrderDb} (h : Booked True settled db) (c : Call) :
    db.returnsReservation c = true := by
  cases c with
  | confirmOrder now orderId =>
    show (!_) = true
    rw [Bool.not_eq_true', Option.any_eq_false]
    intro o ho
    cases hres : o.stockReserved with
    | false => rfl
    | true =>
      obtain ⟨-, -, i, p, hi, hp, hstock⟩ := (h.sound o (Table.mem_of_find? ho)).reserved hres
      obtain ⟨n, hn⟩ := Option.isSome_iff_exists.1 (hstock trivial)
      rw [hi, Option.any_some, hp, Option.any_some, hn]
      rfl
  | _ => rfl

/-- **Reservations and product edits.** In every run of order operations and product edits that
confirms no order whose reserved product has lost its stock count, every counter is the number of
units that the orders hold; without reservations it is zero. -/
theorem reservation_with_edits (db db' : OrderDb) (hdb : db.Fresh) (calls : List Call)
    (hcareful : Runs.Along step (fun db c => db.careful c = true) db calls)
    (hrun : Runs.exec step db calls = some db') :
    (∀ p ∈ db'.products.rows, p.reservedQuantity = db'.heldOf p.id) ∧
    ((∀ o ∈ db'.orders.rows, o.stockReserved = false) →
      ∀ p ∈ db'.products.rows, p.reservedQuantity = 0) := by
  have h : Booked False settled db' := by
    refine Runs.exec_inv (I := Booked False settled) (fun db c db₁ h hc hs => ?_) calls db db'
      (hdb.booked False) hcareful hrun
    cases hs
    simp only [careful, Bool.and_eq_true] at hc
    exact h.call c hc.1 hc.2 fun hst => hst.elim
  refine ⟨fun p hp => h.counter_eq hp, fun hnone p hp => ?_⟩
  rw [h.counter_eq hp]
  exact Table.sum_eq_zero fun o ho => held_of_not_reserved (hnone o ho) _

/-- A shop with one product, five pieces of it. -/
def cornerShop : OrderDb :=
  { products := ⟨[{ id := 1, shopBotId := 1, name := "tea", priceToman := 1000,
                    stockQuantity := some 5 }], by decide⟩
    orders := .empty, shopBots := [1], customers := [1, 2], settings := {} }

theorem fresh_cornerShop : cornerShop.Fresh := ⟨rfl, by decide⟩

/-- Two orders; the stock count is removed and given back in between. -/
def editedInBetween : List Call :=
  [.createOrder 0 1 1 .ORDER "two" none (some 1) (some 2),
    .createOrder 0 1 2 .ORDER "one" none (some 1) none,
    .applyFieldEdit 1 1 (.stock none), .rejectOrder 2, .applyFieldEdit 1 1 (.stock (some 4)),
    .confirmOrder 5 1]

theorem reservation_with_edits_in_between :
    ∃ db', Runs.exec step cornerShop editedInBetween = some db' ∧
      db'.products.rows.map Product.stockQuantity = [some 2] ∧
      (∀ p ∈ db'.products.rows, p.reservedQuantity = db'.heldOf p.id) :=
  ⟨_, rfl, by decide +kernel, (reservation_with_edits cornerShop _ fresh_cornerShop editedInBetween
    (by decide +kernel) rfl).1⟩

/-- The order is confirmed while the product has no stock count: its reservation is never given
back. -/
theorem reservation_lost :
    ∃ db', Runs.exec step cornerShop
        [.createOrder 0 1 1 .ORDER "two" none (some 1) (some 2), .applyFieldEdit 1 1 (.stock none),
          .confirmOrder 5 1, .applyFieldEdit 1 1 (.stock (some 4))] = some db' ∧
      cornerShop.Fresh ∧ (∀ o ∈ db'.orders.rows, o.stockReserved = false) ∧ db'.heldOf 1 = 0 ∧
      db'.products.rows.map Product.reservedQuantity = [2] :=
  ⟨_, rfl, fresh_cornerShop, by decide +kernel, by decide +kernel, by decide +kernel⟩

end OrderDb

end KasbOKar
