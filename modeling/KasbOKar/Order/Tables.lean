import KasbOKar.Models
import KasbOKar.Lib.ReadCommitted

/-!
# Products, orders and the statements that change them

An order that holds a reservation has `stock_reserved` set, and its product counts the reserved
units in `reserved_quantity`.  The edits below are the `UPDATE`s that `app/services/order_service.py`
and the product editor send: each writes some columns of one row, the counters as absolute values.
-/

namespace KasbOKar

open ReadCommitted

/-- The tables of the order service.  Of the shops and customers only the keys matter here, for the
foreign keys of an order. -/
structure OrderDb where
  products : Table Product
  orders : Table OrderConsultation
  shopBots : List ℕ
  customers : List ℕ
  settings : AdminSettings

/-- The columns of an order that an `UPDATE` sets. -/
inductive OrderChange where
  | status (s : OrderStatus)
  /-- `stock_reserved = True`, `reservation_expires_at = …` -/
  | reserve (expiresAt : Datetime)
  /-- `stock_reserved = False` -/
  | unreserve
  /-- `confirmed = True`, `confirmed_at = …`, `status = CONFIRMED`, `stock_reserved = False` -/
  | confirm (now : Datetime)
  deriving DecidableEq

/-- The columns of a product that an `UPDATE` sets. -/
inductive ProductChange where
  | reservedQuantity (n : ℤ)
  | stockQuantity (n : Option ℤ)
  | name (s : String)
  | description (s : String)
  | priceToman (n : ℤ)
  | photoFileId (s : String)
  /-- `is_active = False` -/
  | deactivate
  deriving DecidableEq

namespace OrderChange

/-- The row after the change. -/
def write (o : OrderConsultation) : OrderChange → OrderConsultation
  | status s => { o with status := s }
  | reserve expiresAt => { o with stockReserved := true, reservationExpiresAt := some expiresAt }
  | unreserve => { o with stockReserved := false }
  | confirm now =>
    { o with confirmed := true, confirmedAt := some now, status := .CONFIRMED, stockReserved := false }

@[simp] theorem write_id (o : OrderConsultation) (c : OrderChange) : (c.write o).id = o.id := by
  cases c <;> rfl

@[simp] theorem write_productId (o : OrderConsultation) (c : OrderChange) :
    (c.write o).productId = o.productId := by
  cases c <;> rfl

@[simp] theorem write_shopBotId (o : OrderConsultation) (c : OrderChange) :
    (c.write o).shopBotId = o.shopBotId := by
  cases c <;> rfl

@[simp] theorem write_customerId (o : OrderConsultation) (c : OrderChange) :
    (c.write o).customerId = o.customerId := by
  cases c <;> rfl

@[simp] theorem write_quantity (o : OrderConsultation) (c : OrderChange) :
    (c.write o).quantity = o.quantity := by
  cases c <;> rfl

@[simp] theorem write_qty (o : OrderConsultation) (c : OrderChange) : (c.write o).qty = o.qty := by
  unfold OrderConsultation.qty
  rw [write_quantity]

end OrderChange

namespace ProductChange

/-- The row after the change. -/
def write (p : Product) : ProductChange → Product
  | reservedQuantity n => { p with reservedQuantity := n }
  | stockQuantity n => { p with stockQuantity := n }
  | name s => { p with name := s }
  | description s => { p with description := some s }
  | priceToman n => { p with priceToman := n }
  | photoFileId s => { p with photoFileId := some s }
  | deactivate => { p with isActive := false }

@[simp] theorem write_id (p : Product) (c : ProductChange) : (c.write p).id = p.id := by
  cases c <;> rfl

@[simp] theorem write_shopBotId (p : Product) (c : ProductChange) :
    (c.write p).shopBotId = p.shopBotId := by
  cases c <;> rfl

/-- The values fit their columns. -/
def fits : ProductChange → Bool
  | reservedQuantity n => decide (Int4 n)
  | stockQuantity n => n.all fun n => decide (Int4 n)
  | name s => decide (s.length ≤ 255)
  | description _ => true
  | priceToman n => decide (Int4 n)
  | photoFileId s => decide (s.length ≤ 255)
  | deactivate => true

/-- The change leaves `reserved_quantity` alone. -/
def keepsReserved : ProductChange → Bool
  | reservedQuantity _ => false
  | _ => true

theorem write_reservedQuantity (p : Product) {c : ProductChange} (h : c.keepsReserved = true) :
    (c.write p).reservedQuantity = p.reservedQuantity := by
  cases c with
  | reservedQuantity n => cases h
  | _ => rfl

end ProductChange

inductive OrderEdit where
  | insertProduct (p : Product)
  | insertOrder (o : OrderConsultation)
  | order (orderId : ℕ) (c : OrderChange)
  | product (productId : ℕ) (c : ProductChange)
  deriving DecidableEq

inductive OrderRow where
  | order (id : ℕ)
  | product (id : ℕ)
  deriving DecidableEq

inductive OrderRecord where
  | order (o : OrderConsultation)
  | product (p : Product)
  deriving DecidableEq

namespace OrderEdit

/-- The row an edit writes. -/
def row : OrderEdit → OrderRow
  | insertProduct p => .product p.id
  | insertOrder o => .order o.id
  | order orderId _ => .order orderId
  | product productId _ => .product productId

/-- The edits that insert a row. -/
def isNew : OrderEdit → Bool
  | insertProduct _ => true
  | insertOrder _ => true
  | _ => false

end OrderEdit

namespace OrderDb

/-- The effect of an edit. -/
def apply (db : OrderDb) : OrderEdit → OrderDb
  | .insertProduct p => { db with products := db.products.insert p }
  | .insertOrder o => { db with orders := db.orders.insert o }
  | .order orderId c =>
    { db with orders := db.orders.modify orderId (fun o => c.write o) fun o => c.write_id o }
  | .product productId c =>
    { db with products := db.products.modify productId (fun p => c.write p) fun p => c.write_id p }

/-- The content of a row. -/
def get (db : OrderDb) : OrderRow → Option OrderRecord
  | .order i => (db.orders.find? i).map .order
  | .product i => (db.products.find? i).map .product

theorem get_order_eq {db db' : OrderDb} {i : ℕ} (h : db'.get (.order i) = db.get (.order i)) :
    db'.orders.find? i = db.orders.find? i :=
  Option.map_injective (fun _ _ h => by cases h; rfl) h

theorem get_product_eq {db db' : OrderDb} {i : ℕ} (h : db'.get (.product i) = db.get (.product i)) :
    db'.products.find? i = db.products.find? i :=
  Option.map_injective (fun _ _ h => by cases h; rfl) h

theorem get_apply_of_ne (db : OrderDb) (e : OrderEdit) (k : OrderRow) (h : k ≠ e.row) :
    (db.apply e).get k = db.get k := by
  cases e with
  | insertProduct p =>
    cases k with
    | order i => rfl
    | product i =>
      have hi : i ≠ Keyed.id p := fun hi => h (congrArg _ hi)
      simp only [get, apply, Table.find?_insert_of_ne hi]
  | insertOrder o =>
    cases k with
    | order i =>
      have hi : i ≠ Keyed.id o := fun hi => h (congrArg _ hi)
      simp only [get, apply, Table.find?_insert_of_ne hi]
    | product i => rfl
  | order j c =>
    cases k with
    | order i =>
      have hi : i ≠ j := fun hi => h (congrArg _ hi)
      simp only [get, apply, Table.find?_modify_of_ne _ hi]
    | product i => rfl
  | product j c =>
    cases k with
    | order i => rfl
    | product i =>
      have hi : i ≠ j := fun hi => h (congrArg _ hi)
      simp only [get, apply, Table.find?_modify_of_ne _ hi]

theorem get_apply_row (db db' : OrderDb) (e : OrderEdit) (h : db'.get e.row = db.get e.row) :
    (db'.apply e).get e.row = (db.apply e).get e.row := by
  cases e with
  | insertProduct p => simp only [OrderEdit.row, get, apply, Table.find?_insert, get_product_eq h]
  | insertOrder o => simp only [OrderEdit.row, get, apply, Table.find?_insert, get_order_eq h]
  | order i c => simp only [OrderEdit.row, get, apply, Table.find?_modify, get_order_eq h]
  | product i c => simp only [OrderEdit.row, get, apply, Table.find?_modify, get_product_eq h]

instance : Store OrderDb OrderEdit OrderRow OrderRecord where
  apply := apply
  row := OrderEdit.row
  isNew := OrderEdit.isNew
  get := get
  get_apply_of_ne := get_apply_of_ne
  get_apply_row := get_apply_row

theorem find?_changed_order {db : OrderDb} {i : ℕ} {o : OrderConsultation} (c : OrderChange)
    (h : db.orders.find? i = some o) :
    (db.apply (.order i c)).orders.find? i = some (c.write o) :=
  Table.find?_modify_self (fun o => c.write_id o) h

theorem find?_other_order (db : OrderDb) {i j : ℕ} (c : OrderChange) (h : j ≠ i) :
    (db.apply (.order i c)).orders.find? j = db.orders.find? j :=
  Table.find?_modify_of_ne (fun o => c.write_id o) h

theorem find?_changed_product {db : OrderDb} {i : ℕ} {p : Product} (c : ProductChange)
    (h : db.products.find? i = some p) :
    (db.apply (.product i c)).products.find? i = some (c.write p) :=
  Table.find?_modify_self (fun p => c.write_id p) h

/-- The units of product `productId` that an order holds. -/
def held (productId : ℕ) (o : OrderConsultation) : ℤ :=
  if o.productId = some productId ∧ o.stockReserved = true then o.qty else 0

/-- The units that the orders hold of a product. -/
def heldOf (db : OrderDb) (productId : ℕ) : ℤ := db.orders.sum (held productId)

end OrderDb

end KasbOKar
