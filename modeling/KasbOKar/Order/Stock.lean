import KasbOKar.Order.Reservation
import Mathlib.Logic.Relation

/-!
# Stock

What the calls of a run do to `stock_quantity`: only `confirm_order` lowers it, once for each order
and by no more than the order's quantity.  Together with the books of `Order.Reservation` this is
the invariant of the order service (`order_invariant`).

`Call.allows` says which statements a call may send and `call_edited` that it sends no others; the
facts about stock and confirmations then only have to look at single statements.
-/

namespace KasbOKar

open Cached

namespace OrderDb

/-! ## What a call may send -/

/-- An edit that writes no stock count. -/
def keepsStock : OrderEdit → Bool
  | .product _ (.reservedQuantity _) => true
  | .product _ _ => false
  | _ => true

/-- The edits a call may send: only `confirm_order` and the product editor write a stock count. -/
def Call.allows (c : Call) (e : OrderEdit) : Bool :=
  match c with
  | confirmOrder _ _ => true
  | applyFieldEdit _ _ _ => true
  | _ => keepsStock e

/-- `db'` comes from `db` by edits that satisfy `P`. -/
abbrev Edited (P : OrderEdit → Bool) : OrderDb → OrderDb → Prop :=
  Relation.ReflTransGen fun db db' => ∃ e, P e = true ∧ db' = db.apply e

section Edited

variable {P : OrderEdit → Bool} {db db' : OrderDb}

theorem edited_apply (db : OrderDb) {e : OrderEdit} (h : P e = true) : Edited P db (db.apply e) :=
  .single ⟨e, h, rfl⟩

theorem reserveStock_edited {now : Datetime} {order : OrderConsultation}
    (h : db.reserveStock now order = .ok db') : Edited keepsStock db db' := by
  obtain rfl | ⟨i, p, stock, expiresAt, -, -, -, -, rfl⟩ := reserveStock_ok h
  · exact .refl
  · exact (edited_apply db rfl).trans (edited_apply _ rfl)

theorem releaseReservation_edited {order : OrderConsultation}
    (h : db.releaseReservation order = .ok db') : Edited keepsStock db db' := by
  obtain ⟨-, rfl⟩ | ⟨-, db₁, h₁, rfl⟩ := releaseReservation_ok h
  · exact .refl
  refine Relation.ReflTransGen.trans ?_ (edited_apply db₁ rfl)
  obtain ⟨rfl, -⟩ | ⟨i, p, -, -, rfl⟩ := giveBack_ok h₁
  · exact .refl
  · exact edited_apply db rfl

theorem expireReservation_edited {order : OrderConsultation}
    (h : db.expireReservation order = .ok db') : Edited keepsStock db db' := by
  obtain ⟨db₁, h₁, h⟩ := bind_ok h
  cases h
  exact (releaseReservation_edited h₁).trans (edited_apply db₁ rfl)

theorem expireAll_edited {expired : List OrderConsultation}
    (h : expired.foldlM expireReservation db = .ok db') : Edited keepsStock db db' :=
  foldlM_keeps (I := Edited keepsStock db)
    (fun _ _ _ _ hI hround => hI.trans (expireReservation_edited hround)) .refl h

theorem cancelAll_edited (stale : List OrderConsultation) (db : OrderDb) :
    Edited keepsStock db (stale.foldl customerCancelOrder db) :=
  List.foldlRecOn stale _ .refl fun db₁ hI o _ =>
    hI.trans (edited_apply db₁ (e := .order o.id (.status .CANCELLED)) rfl)

theorem takeStock_edited {order : OrderConsultation} (h : db.takeStock order = .ok db') :
    Edited (fun _ => true) db db' := by
  obtain ⟨rfl, -⟩ | ⟨i, p, stock, -, -, -, rfl⟩ := takeStock_ok h
  · exact .refl
  split_ifs
  · exact (edited_apply db rfl).trans (edited_apply _ rfl)
  · exact edited_apply db rfl

/-- **What a call sends.** -/
theorem call_edited (db : OrderDb) (c : Call) : Edited c.allows db (db.call c).1 := by
  cases c with
  | createOrder now shopBotId customerId orderType summary value productId quantity =>
    refine session_keeps _ .refl fun db' a hok => ?_
    obtain ⟨db₁, h₁, hok⟩ := bind_ok hok
    obtain ⟨db₂, h₂, hok⟩ := bind_ok hok
    cases hok
    rw [insertOrder_ok h₁] at h₂
    exact (edited_apply db rfl).trans (reserveStock_edited h₂)
  | createOrderAwaitingConfirmation now shopBotId customerId orderType summary value productId quantity
      phone address =>
    refine session_keeps _ .refl fun db' a hok => ?_
    obtain ⟨db₁, h₁, hok⟩ := bind_ok hok
    cases hok
    rw [insertOrder_ok h₁]
    exact edited_apply db rfl
  | customerConfirmOrder now orderId customerId =>
    refine withOrder_keeps .refl fun o ho => session_keeps _ .refl fun db' a hok => ?_
    obtain ⟨db₁, hc, hpair⟩ := map_ok hok
    cases hpair
    exact (edited_apply db rfl).trans (reserveStock_edited hc)
  | customerCancelOrder orderId customerId =>
    refine withOrder_keeps .refl fun o _ => ?_
    exact edited_apply db (e := .order o.id (.status .CANCELLED)) rfl
  | confirmOrder now orderId =>
    refine withOrder_keeps .refl fun o ho => session_keeps _ .refl fun db' a hok => ?_
    obtain ⟨rfl, -⟩ | ⟨-, -, -, db₁, h₁, rfl⟩ := confirmOrder_ok hok
    · exact .refl
    · exact (takeStock_edited h₁).trans (edited_apply db₁ rfl)
  | rejectOrder orderId =>
    refine withOrder_keeps .refl fun o ho => session_keeps _ .refl fun db' a hok => ?_
    obtain rfl | ⟨-, db₁, h₁, rfl⟩ := rejectOrder_ok hok
    · exact .refl
    · exact (releaseReservation_edited h₁).trans (edited_apply db₁ rfl)
  | advanceStatus orderId =>
    refine withOrder_keeps .refl fun o ho => ?_
    obtain hsame | ⟨s, -, -, hstep⟩ := advanceStatus_cases db o
    · rw [hsame]
    · rw [hstep]
      exact edited_apply db rfl
  | expireStaleReservations scan now =>
    refine session_keeps _ .refl fun db' a hok => ?_
    obtain ⟨db₁, h₁, hok⟩ := bind_ok hok
    cases hok
    exact expireAll_edited h₁
  | expireStaleCustomerConfirmations scan now n =>
    refine session_keeps _ .refl fun db' a hok => ?_
    obtain ⟨cutoff, -, hok⟩ := bind_ok hok
    cases hok
    exact cancelAll_edited _ db
  | createProduct shopBotId name description priceToman photoFileId stockQuantity =>
    refine session_keeps _ .refl fun db' a hok => ?_
    obtain ⟨p, -, -, -, rfl⟩ := createProduct_ok hok
    exact edited_apply db rfl
  | applyFieldEdit productId shopBotId edit =>
    refine session_keeps _ .refl fun db' a hok => ?_
    obtain rfl | ⟨p, -, -, rfl⟩ := applyFieldEdit_ok hok
    · exact .refl
    · exact edited_apply db rfl

end Edited

/-! ## Stock counts -/

/-- The stock count of a product. -/
def stockOf (db : OrderDb) (i : ℕ) : Option ℤ := (db.products.find? i).bind Product.stockQuantity

theorem stockOf_setProduct (db : OrderDb) (i j : ℕ) (c : ProductChange) :
    (db.apply (.product i c)).stockOf j =
      if j = i then ((db.products.find? j).map fun p => c.write p).bind Product.stockQuantity
      else db.stockOf j := by
  unfold stockOf
  simp only [apply, Table.find?_modify]
  split_ifs <;> rfl

/-- An edit that writes no stock count. -/
theorem stockOf_apply {db : OrderDb} {e : OrderEdit} (he : keepsStock e = true) {i : ℕ} {a : ℤ}
    (h : db.stockOf i = some a) : (db.apply e).stockOf i = some a := by
  cases e with
  | insertProduct p =>
    unfold stockOf at h ⊢
    simp only [apply, Table.find?_insert]
    obtain ⟨q, hq, hstock⟩ := Option.bind_eq_some_iff.1 h
    rw [hq]
    split_ifs
    · exact hstock
    · exact hstock
  | insertOrder o => exact h
  | order j c => exact h
  | product j c =>
    cases c with
    | reservedQuantity n =>
      rw [stockOf_setProduct]
      split_ifs
      · unfold stockOf at h
        rw [Option.bind_map]
        exact h
      · exact h
    | _ => cases he

theorem stockOf_edited {db db' : OrderDb} (hed : Edited keepsStock db db') {i : ℕ} {a : ℤ}
    (h : db.stockOf i = some a) : db'.stockOf i = some a := by
  induction hed with
  | refl => exact h
  | tail _ hstep ih =>
    obtain ⟨e, he, rfl⟩ := hstep
    exact stockOf_apply he ih

/-- What `confirm_order` does to the stock counts. -/
theorem takeStock_stockOf {db db' : OrderDb} {order : OrderConsultation}
    (hok : db.takeStock order = .ok db') {i : ℕ} {a b : ℤ} (ha : db.stockOf i = some a)
    (hb : db'.stockOf i = some b) (hlt : b < a) : order.productId = some i ∧ a - b ≤ order.qty := by
  obtain ⟨rfl, -⟩ | ⟨productId, p, stock, hi, hp, hstock, rfl⟩ := takeStock_ok hok
  · rw [ha] at hb
    cases hb
    omega
  -- the write of the counter, if there is one, keeps the stock count
  have hkeep : Edited keepsStock db (if order.stockReserved then db.apply (.product productId
      (.reservedQuantity (max 0 (p.reservedQuantity - order.qty)))) else db) := by
    split_ifs
    · exact edited_apply db rfl
    · exact .refl
  have ha' := stockOf_edited hkeep ha
  rw [stockOf_setProduct] at hb
  by_cases hj : i = productId
  · rw [if_pos hj] at hb
    subst hj
    refine ⟨hi, ?_⟩
    obtain ⟨q, hq, -⟩ := Option.bind_eq_some_iff.1 ha'
    rw [hq] at hb
    have hab : max 0 (stock - order.qty) = b := Option.some.inj hb
    have hstock' : a = stock := by
      unfold stockOf at ha
      rw [hp] at ha
      exact Option.some.inj (ha.symm.trans hstock)
    have := le_max_right 0 (stock - order.qty)
    omega
  · rw [if_neg hj, ha'] at hb
    cases hb
    omega

/-! ## Confirmations -/

/-- The order is confirmed. -/
def isConfirmed (db : OrderDb) (orderId : ℕ) : Bool := (db.orders.find? orderId).any fun o => o.confirmed

/-- No edit takes a confirmation back. -/
theorem isConfirmed_apply {db : OrderDb} {i : ℕ} (h : db.isConfirmed i = true) (e : OrderEdit) :
    (db.apply e).isConfirmed i = true := by
  unfold isConfirmed at h ⊢
  obtain ⟨o, ho, hconf⟩ := (Option.any_eq_true _ _).1 h
  cases e with
  | insertProduct p => exact h
  | product j c => exact h
  | insertOrder o' =>
    simp only [apply, Table.find?_insert, ho]
    split_ifs
    · exact hconf
    · exact hconf
  | order j c =>
    simp only [apply, Table.find?_modify, ho]
    split_ifs
    · cases c <;> first | exact hconf | rfl
    · exact hconf

theorem isConfirmed_edited {P : OrderEdit → Bool} {db db' : OrderDb} (hed : Edited P db db') {i : ℕ}
    (h : db.isConfirmed i = true) : db'.isConfirmed i = true := by
  induction hed with
  | refl => exact h
  | tail _ hstep ih =>
    obtain ⟨e, -, rfl⟩ := hstep
    exact isConfirmed_apply ih e

theorem takeStock_orders {db db' : OrderDb} {order : OrderConsultation}
    (h : db.takeStock order = .ok db') : db'.orders = db.orders := by
  obtain ⟨rfl, -⟩ | ⟨i, p, stock, -, -, -, rfl⟩ := takeStock_ok h
  · rfl
  · split_ifs <;> rfl

/-- A `confirm_order` that returns `True`. -/
theorem confirmOrder_true {db db' : OrderDb} {now : Datetime} {order : OrderConsultation}
    (ho : db.orders.find? order.id = some order) (h : db.confirmOrder now order = .ok (db', true)) :
    db.isConfirmed order.id = false ∧ db'.isConfirmed order.id = true := by
  obtain ⟨-, hb⟩ | ⟨-, hconf, -, db₁, h₁, rfl⟩ := confirmOrder_ok h
  · cases hb
  unfold isConfirmed
  refine ⟨by rw [ho, Option.any_some, hconf], ?_⟩
  rw [← takeStock_orders h₁] at ho
  rw [find?_changed_order (.confirm now) ho]
  rfl

/-! ## The events of a run -/

/-- One call of a run, with the tables before and after it. -/
structure Event where
  before : OrderDb
  call : Call
  reply : Reply
  after : OrderDb

/-- The events of a run. -/
def trace : OrderDb → List Call → List Event
  | _, [] => []
  | db, c :: calls => ⟨db, c, (db.call c).2, (db.call c).1⟩ :: trace (db.call c).1 calls

/-- The event is a `confirm_order` of this order that returned `True`. -/
def Event.confirms (orderId : ℕ) (e : Event) : Bool :=
  match e.call, e.reply with
  | .confirmOrder _ i, .bool true => i == orderId
  | _, _ => false

/-- A call of `confirm_order` changes nothing, or returns what the function returns. -/
theorem call_confirmOrder (db : OrderDb) (now : Datetime) (orderId : ℕ) :
    ((db.call (.confirmOrder now orderId)).1 = db ∧
      ∀ b, (db.call (.confirmOrder now orderId)).2 ≠ .bool b) ∨
    ∃ o db' b, db.orders.find? o.id = some o ∧ o.id = orderId ∧
      db.confirmOrder now o = .ok (db', b) ∧ db.call (.confirmOrder now orderId) = (db', .bool b) := by
  have hcall : db.call (.confirmOrder now orderId) =
      db.withOrder (db.orders.find? orderId) fun o => db.session (db.confirmOrder now o) .bool := rfl
  rw [hcall]
  cases ho : db.orders.find? orderId with
  | none => exact Or.inl ⟨rfl, fun _ hb => by cases hb⟩
  | some o =>
    have hid : o.id = orderId := Table.id_of_find? ho
    unfold withOrder session
    dsimp only
    cases hc : db.confirmOrder now o with
    | error e => exact Or.inl ⟨rfl, fun _ hb => by cases hb⟩
    | ok x => exact Or.inr ⟨o, x.1, x.2, by rw [hid]; exact ho, hid, hc, rfl⟩

/-- **Only a successful `confirm_order` lowers a stock count**, and by no more than the quantity. -/
theorem call_lowers {db : OrderDb} {c : Call} (hedit : c.isEdit = false) {i : ℕ} {a b : ℤ}
    (ha : db.stockOf i = some a) (hb : (db.call c).1.stockOf i = some b) (hlt : b < a) :
    ∃ now orderId o, c = .confirmOrder now orderId ∧ (db.call c).2 = .bool true ∧
      db.orders.find? orderId = some o ∧ o.productId = some i ∧ a - b ≤ o.qty := by
  -- a call that sends no stock count
  have hkeep : Edited keepsStock db (db.call c).1 → False := by
    intro hed
    rw [stockOf_edited hed ha] at hb
    cases hb
    omega
  have hed := call_edited db c
  cases c with
  | confirmOrder now orderId =>
    rcases call_confirmOrder db now orderId with ⟨hsame, -⟩ | ⟨o, db', r, ho, rfl, hok, hcall⟩
    · exact (hkeep (by rw [hsame])).elim
    rw [hcall] at hb hkeep ⊢
    obtain ⟨rfl, -⟩ | ⟨-, -, rfl, db₁, h₁, rfl⟩ := confirmOrder_ok hok
    · exact (hkeep .refl).elim
    · obtain ⟨hi, hle⟩ := takeStock_stockOf h₁ ha hb hlt
      exact ⟨now, o.id, o, rfl, rfl, ho, hi, hle⟩
  | applyFieldEdit productId shopBotId edit => cases hedit
  | _ => exact (hkeep hed).elim

/-- An event that confirms an order finds it unconfirmed and leaves it confirmed. -/
theorem call_confirms {db : OrderDb} {c : Call} {orderId : ℕ}
    (h : Event.confirms orderId ⟨db, c, (db.call c).2, (db.call c).1⟩ = true) :
    db.isConfirmed orderId = false ∧ (db.call c).1.isConfirmed orderId = true := by
  unfold Event.confirms at h
  split at h
  · rename_i now i hc hreply
    obtain rfl : i = orderId := by simpa using h
    have hc : c = .confirmOrder now i := hc
    have hreply : (db.call c).2 = .bool true := hreply
    subst hc
    rcases call_confirmOrder db now i with ⟨-, hno⟩ | ⟨o, db', r, ho, rfl, hok, hcall⟩
    · exact absurd hreply (hno true)
    rw [hcall] at hreply ⊢
    cases hreply
    exact confirmOrder_true ho hok
  · cases h

/-- **An order is confirmed at most once.** -/
theorem confirms_once (orderId : ℕ) (calls : List Call) : ∀ db : OrderDb,
    ((trace db calls).filter fun e => e.confirms orderId).length ≤
      if db.isConfirmed orderId then 0 else 1 := by
  induction calls with
  | nil =>
    intro db
    exact Nat.zero_le _
  | cons c calls ih =>
    intro db
    have hrest := ih (db.call c).1
    rw [trace, List.filter_cons]
    split_ifs with hconf hdone hdone
    · exact absurd (call_confirms hconf).1 (by rw [hdone]; decide)
    · rw [(call_confirms hconf).2] at hrest
      rw [List.length_cons]
      simpa using hrest
    · rw [isConfirmed_edited (call_edited db c) hdone] at hrest
      exact hrest
    · refine hrest.trans ?_
      split_ifs <;> omega

theorem trace_lowers : ∀ {calls : List Call} {db : OrderDb}, (∀ c ∈ calls, c.isEdit = false) →
    ∀ e ∈ trace db calls, ∀ i a b, e.before.stockOf i = some a → e.after.stockOf i = some b → b < a →
      ∃ now orderId o, e.call = .confirmOrder now orderId ∧ e.reply = .bool true ∧
        e.before.orders.find? orderId = some o ∧ o.productId = some i ∧ a - b ≤ o.qty := by
  intro calls
  induction calls with
  | nil =>
    intro db _ e he
    cases he
  | cons c calls ih =>
    intro db hcalls e he
    rcases List.mem_cons.1 he with rfl | he
    · exact fun i a b ha hb hlt => call_lowers (hcalls c List.mem_cons_self) ha hb hlt
    · exact ih (fun c hc => hcalls c (List.mem_cons_of_mem _ hc)) e he

/-! ## The invariant of the order service -/

/-- No release of a reservation reaches the clamp of the counter: neither of a single order nor in a
round of the expiry loop. -/
structure NoClamp (db : OrderDb) : Prop where
  order : ∀ o ∈ db.orders.rows, o.stockReserved = true → ∀ i p, o.productId = some i →
    db.products.find? i = some p → o.qty ≤ p.reservedQuantity
  loop : ∀ scan now done o rest db₁, db.expiredReservations scan now = done ++ o :: rest →
    done.foldlM expireReservation db = .ok db₁ → ∀ i p, o.productId = some i →
    db₁.products.find? i = some p → o.qty ≤ p.reservedQuantity

theorem Booked.noClamp {strict : Prop} {db : OrderDb} (h : Booked strict settled db) : NoClamp db where
  order o ho hres i p hi hp := h.qty_le ho hres hi hp
  loop scan now done o rest db₁ hsplit hok i p hi hp := by
    obtain ⟨hrows, hnd⟩ := db.expiredReservations_rows scan now
    rw [hsplit] at hrows hnd
    obtain ⟨h₁, hrest⟩ :=
      h.rounds (o :: rest) (fun o ho => ⟨(hrows o ho).1, (hrows o ho).2.1⟩) hnd hok
    have hres := (hrows o (List.mem_append_right _ List.mem_cons_self)).2.2
    exact h₁.qty_le (Table.mem_of_find? (hrest o List.mem_cons_self)) hres hi hp

/-- Without product edits, nothing is reserved of a product without stock count. -/
theorem Booked.untracked {db : OrderDb} (h : Booked True settled db) {p : Product}
    (hp : p ∈ db.products.rows) (hstock : p.stockQuantity = none) : p.reservedQuantity = 0 := by
  rw [h.counter_eq hp]
  refine Table.sum_eq_zero fun o ho => if_neg fun e => ?_
  obtain ⟨-, -, i, q, hi, hq, htracked⟩ := (h.sound o ho).reserved e.2
  rw [hi] at e
  rw [Option.some.inj e.1] at hq
  obtain ⟨hrow, hid⟩ := Table.find?_eq_some_iff.1 hq
  have := htracked trivial
  rw [Table.eq_of_id_eq hrow hp hid, hstock] at this
  cases this

/-- **The invariant of the order service.** After every run of its operations on a fresh shop, with
quantities that are not negative:

* an order is confirmed just in the four statuses that follow a confirmation;
* a reservation is held by a pending order of a product, with an expiry time;
* every counter is the number of units held, it is zero without stock count, and no clamp is
  reached;
* a stock count was only lowered by calls of `confirm_order` that returned `True`, by at most the
  quantity of the order, and for each order by at most one call. -/
theorem order_invariant (db db' : OrderDb) (hdb : db.Fresh) (calls : List Call)
    (hcalls : ∀ c ∈ calls, c.isEdit = false ∧ c.quantityOk = true)
    (hrun : Runs.exec step db calls = some db') :
    (∀ o ∈ db'.orders.rows,
      o.confirmed = true ↔ o.status ∈ [.CONFIRMED, .PROCESSING, .SHIPPED, .COMPLETED]) ∧
    (∀ o ∈ db'.orders.rows, o.stockReserved = true →
      o.status = .PENDING ∧ o.productId.isSome = true ∧ o.reservationExpiresAt.isSome = true) ∧
    (∀ p ∈ db'.products.rows, p.reservedQuantity = db'.heldOf p.id ∧
      (p.stockQuantity = none → p.reservedQuantity = 0)) ∧
    NoClamp db' ∧
    (∀ e ∈ trace db calls, ∀ i a b, e.before.stockOf i = some a → e.after.stockOf i = some b → b < a →
      ∃ now orderId o, e.call = .confirmOrder now orderId ∧ e.reply = .bool true ∧
        e.before.orders.find? orderId = some o ∧ o.productId = some i ∧ a - b ≤ o.qty) ∧
    ∀ orderId, ((trace db calls).filter fun e => e.confirms orderId).length ≤ 1 := by
  have h : Booked True settled db' := by
    refine Runs.exec_inv (C := fun _ c => c.isEdit = false ∧ c.quantityOk = true)
      (I := Booked True settled) (fun db c db₁ h hc hs => ?_) calls db db' (hdb.booked True)
      (Runs.along_of_mem (fun c hc _ => hcalls c hc) db) hrun
    cases hs
    exact h.call c hc.2 (h.returnsReservation c) fun _ => hc.1
  refine ⟨fun o ho => (h.sound o ho).confirmed_iff, fun o ho hres => ?_,
    fun p hp => ⟨h.counter_eq hp, h.untracked hp⟩, h.noClamp,
    trace_lowers fun c hc => (hcalls c hc).1, fun orderId => ?_⟩
  · obtain ⟨hpending, hexpires, i, p, hi, -, -⟩ := (h.sound o ho).reserved hres
    rw [hi]
    exact ⟨hpending, rfl, hexpires⟩
  · refine (confirms_once orderId calls db).trans ?_
    split_ifs <;> omega

/-- An order of two pieces is confirmed by the customer and twice by the owner; another expires. -/
def busyShop : List Call :=
  [.createOrderAwaitingConfirmation 0 1 1 .ORDER "two" none (some 1) (some 2) none none,
    .createOrder 0 1 2 .ORDER "one" none (some 1) none, .customerConfirmOrder 1 1 1,
    .confirmOrder 2 1, .confirmOrder 3 1, .expireStaleReservations .plain (minutes 90)]

theorem order_invariant_busyShop :
    ∃ db', Runs.exec step cornerShop busyShop = some db' ∧
      db'.orders.rows.map OrderConsultation.status = [.CONFIRMED, .EXPIRED] ∧
      db'.products.rows.map Product.stockQuantity = [some 3] ∧
      (∀ p ∈ db'.products.rows, p.reservedQuantity = db'.heldOf p.id ∧
        (p.stockQuantity = none → p.reservedQuantity = 0)) :=
  ⟨_, rfl, by decide +kernel, by decide +kernel,
    (order_invariant cornerShop _ fresh_cornerShop busyShop (by decide) rfl).2.2.1⟩

/-- With a negative quantity the counter goes below zero; a release is then clamped and the counter
is no longer the number of units held. -/
theorem order_invariant_negative_quantity :
    ∃ db', Runs.exec step cornerShop
        [.createOrder 0 1 1 .ORDER "minus three" none (some 1) (some (-3)),
          .createOrder 0 1 2 .ORDER "two" none (some 1) (some 2), .rejectOrder 2] = some db' ∧
      cornerShop.Fresh ∧ db'.products.rows.map Product.stockQuantity = [some 5] ∧
      db'.products.rows.map Product.reservedQuantity = [0] ∧ db'.heldOf 1 = -3 :=
  ⟨_, rfl, fresh_cornerShop, by decide +kernel, by decide +kernel, by decide +kernel⟩

end OrderDb

end KasbOKar
