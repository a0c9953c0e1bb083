import KasbOKar.Order.Tables

/-!
# Orders

`app/services/order_service.py`, with `create_product` and the product editor of
`handlers/products.py`, as functions that run alone.  An order passed to one of them is its row as
it was just loaded.  A function that raises returns an error and its caller's session is rolled
back, which is what `OrderDb.call` does.

The lemmas named `…_ok` say what a function that returns has sent.
-/

namespace KasbOKar

namespace OrderDb

/-- `UPDATE products SET …`; a value out of range is refused by the server. -/
def setProduct (db : OrderDb) (productId : ℕ) (c : ProductChange) : Except PyError OrderDb :=
  if c.fits then .ok (db.apply (.product productId c)) else .error .DataError

theorem setProduct_ok {db db' : OrderDb} {productId : ℕ} {c : ProductChange}
    (h : db.setProduct productId c = .ok db') : db' = db.apply (.product productId c) := by
  unfold setProduct at h
  split_ifs at h
  cases h
  rfl

/-- `session.add(order); await session.flush()`, with the columns' ranges and foreign keys. -/
def insertOrder (db : OrderDb) (o : OrderConsultation) : Except PyError OrderDb :=
  if o.estimatedValueToman.any (fun n => ¬ Int4 n) ∨ o.quantity.any (fun n => ¬ Int4 n) ∨
      o.customerPhone.any (fun s => 32 < s.length) then .error .DataError
  else if o.shopBotId ∉ db.shopBots ∨ o.customerId ∉ db.customers ∨
      o.productId.any (fun i => i ∉ db.products.ids) then .error .IntegrityError
  else .ok (db.apply (.insertOrder o))

theorem insertOrder_ok {db db' : OrderDb} {o : OrderConsultation} (h : db.insertOrder o = .ok db') :
    db' = db.apply (.insertOrder o) := by
  unfold insertOrder at h
  split_ifs at h
  cases h
  rfl

/-! ## Creating and confirming by the customer -/

/-- The lines that `create_order` and `customer_confirm_order` share: reserve the units of the order
if enough of them are free. -/
def reserveStock (db : OrderDb) (now : Datetime) (order : OrderConsultation) :
    Except PyError OrderDb :=
  match order.productId with
  | none => .ok db
  | some productId =>
    match db.products.find? productId with
    | none => .ok db
    | some product =>
      match product.stockQuantity with
      | none => .ok db
      | some stock =>
        if order.qty ≤ stock - product.reservedQuantity then do
          let expiresAt ← datetimeAdd now (minutes db.settings.orderReservationMinutes)
          let db ← db.setProduct productId
            (.reservedQuantity (product.reservedQuantity + order.qty))
          return db.apply (.order order.id (.reserve expiresAt))
        else .ok db

theorem reserveStock_ok {db db' : OrderDb} {now : Datetime} {order : OrderConsultation}
    (h : db.reserveStock now order = .ok db') :
    db' = db ∨ ∃ i p stock expiresAt, order.productId = some i ∧ db.products.find? i = some p ∧
      p.stockQuantity = some stock ∧ order.qty ≤ stock - p.reservedQuantity ∧
      db' = (db.apply (.product i (.reservedQuantity (p.reservedQuantity + order.qty)))).apply
        (.order order.id (.reserve expiresAt)) := by
  unfold reserveStock at h
  split at h
  · cases h
    exact Or.inl rfl
  rename_i i hi
  split at h
  · cases h
    exact Or.inl rfl
  rename_i p hp
  split at h
  · cases h
    exact Or.inl rfl
  rename_i stock hstock
  split_ifs at h with hfree
  · obtain ⟨expiresAt, -, h⟩ := bind_ok h
    obtain ⟨db₁, h₁, h⟩ := bind_ok h
    cases h
    exact Or.inr ⟨i, p, stock, expiresAt, hi, hp, hstock, hfree, by rw [setProduct_ok h₁]⟩
  · cases h
    exact Or.inl rfl

/-- `create_order`; the order it returns is the row with the returned key. -/
def createOrder (db : OrderDb) (now : Datetime) (shopBotId customerId : ℕ) (orderType : OrderType)
    (summary : String) (estimatedValueToman : Option ℤ) (productId : Option ℕ)
    (quantity : Option ℤ) : Except PyError (OrderDb × ℕ) := do
  let order : OrderConsultation :=
    { id := db.orders.nextId, shopBotId := shopBotId, customerId := customerId, type := orderType,
      summary := summary, estimatedValueToman := estimatedValueToman, productId := productId,
      quantity := quantity, status := .PENDING, createdAt := now }
  let db ← db.insertOrder order
  let db ← db.reserveStock now order
  return (db, order.id)

/-- `create_order_awaiting_confirmation`. -/
def createOrderAwaitingConfirmation (db : OrderDb) (now : Datetime) (shopBotId customerId : ℕ)
    (orderType : OrderType) (summary : String) (estimatedValueToman : Option ℤ)
    (productId : Option ℕ) (quantity : Option ℤ) (customerPhone customerAddress : Option String) :
    Except PyError (OrderDb × ℕ) := do
  let order : OrderConsultation :=
    { id := db.orders.nextId, shopBotId := shopBotId, customerId := customerId, type := orderType,
      summary := summary, estimatedValueToman := estimatedValueToman, productId := productId,
      quantity := quantity, customerPhone := customerPhone, customerAddress := customerAddress,
      status := .AWAITING_CUSTOMER_CONFIRMATION, createdAt := now }
  let db ← db.insertOrder order
  return (db, order.id)

/-- `get_awaiting_confirmation_for_customer`. -/
def getAwaitingConfirmationForCustomer (db : OrderDb) (orderId customerId : ℕ) :
    Option OrderConsultation :=
  (db.orders.find? orderId).filter fun o =>
    o.customerId == customerId && o.status == .AWAITING_CUSTOMER_CONFIRMATION

/-- `customer_confirm_order`. -/
def customerConfirmOrder (db : OrderDb) (now : Datetime) (order : OrderConsultation) :
    Except PyError OrderDb :=
  (db.apply (.order order.id (.status .PENDING))).reserveStock now order

/-- `customer_cancel_order`. -/
def customerCancelOrder (db : OrderDb) (order : OrderConsultation) : OrderDb :=
  db.apply (.order order.id (.status .CANCELLED))

/-- The candidates that `expire_stale_customer_confirmations` selects. -/
def staleConfirmations (db : OrderDb) (scan : Scan OrderConsultation) (cutoff : Datetime) :
    List OrderConsultation :=
  db.orders.select scan fun o =>
    o.status == .AWAITING_CUSTOMER_CONFIRMATION && decide (o.createdAt < cutoff)

/-- `expire_stale_customer_confirmations`; the number of cancelled candidates. -/
def expireStaleCustomerConfirmations (db : OrderDb) (scan : Scan OrderConsultation)
    (now : Datetime) (n : ℤ) : Except PyError (OrderDb × ℕ) := do
  let cutoff ← datetimeAdd now (-minutes n)
  let stale := db.staleConfirmations scan cutoff
  return (stale.foldl customerCancelOrder db, stale.length)

/-! ## The owner's decisions -/

/-- The lines of `_release_reservation` on the product. -/
def giveBack (db : OrderDb) (order : OrderConsultation) : Except PyError OrderDb :=
  match order.productId with
  | none => .ok db
  | some productId =>
    match db.products.find? productId with
    | none => .ok db
    | some product =>
      db.setProduct productId (.reservedQuantity (max 0 (product.reservedQuantity - order.qty)))

theorem giveBack_ok {db db' : OrderDb} {order : OrderConsultation}
    (h : db.giveBack order = .ok db') :
    (db' = db ∧ ∀ i, order.productId = some i → db.products.find? i = none) ∨
    ∃ i p, order.productId = some i ∧ db.products.find? i = some p ∧
      db' = db.apply
        (.product i (.reservedQuantity (max 0 (p.reservedQuantity - order.qty)))) := by
  unfold giveBack at h
  split at h
  · rename_i hi
    cases h
    exact Or.inl ⟨rfl, fun i hi' => by rw [hi] at hi'; cases hi'⟩
  rename_i i hi
  split at h
  · rename_i hp
    cases h
    exact Or.inl ⟨rfl, fun j hj => by rw [hi] at hj; cases hj; exact hp⟩
  · rename_i p hp
    exact Or.inr ⟨i, p, hi, hp, setProduct_ok h⟩

/-- `_release_reservation`. -/
def releaseReservation (db : OrderDb) (order : OrderConsultation) : Except PyError OrderDb :=
  if !order.stockReserved then .ok db
  else do
    let db ← db.giveBack order
    return db.apply (.order order.id .unreserve)

theorem releaseReservation_ok {db db' : OrderDb} {order : OrderConsultation}
    (h : db.releaseReservation order = .ok db') :
    (order.stockReserved = false ∧ db' = db) ∨
    (order.stockReserved = true ∧ ∃ db₁, db.giveBack order = .ok db₁ ∧
      db' = db₁.apply (.order order.id .unreserve)) := by
  unfold releaseReservation at h
  split_ifs at h with hres
  · cases h
    exact Or.inl ⟨by simpa using hres, rfl⟩
  · obtain ⟨db₁, h₁, h⟩ := bind_ok h
    cases h
    exact Or.inr ⟨by simpa using hres, db₁, h₁, rfl⟩

/-- The lines of `confirm_order` on the product: unlike `_release_reservation` they leave a product
without stock count alone. -/
def takeStock (db : OrderDb) (order : OrderConsultation) : Except PyError OrderDb :=
  match order.productId with
  | none => .ok db
  | some productId =>
    match db.products.find? productId with
    | none => .ok db
    | some product =>
      match product.stockQuantity with
      | none => .ok db
      | some stock =>
        (if order.stockReserved then
          db.setProduct productId (.reservedQuantity (max 0 (product.reservedQuantity - order.qty)))
        else .ok db) >>= fun db =>
          db.setProduct productId (.stockQuantity (some (max 0 (stock - order.qty))))

theorem takeStock_ok {db db' : OrderDb} {order : OrderConsultation}
    (h : db.takeStock order = .ok db') :
    (db' = db ∧ ∀ i p, order.productId = some i → db.products.find? i = some p →
      p.stockQuantity = none) ∨
    ∃ i p stock, order.productId = some i ∧ db.products.find? i = some p ∧
      p.stockQuantity = some stock ∧
      db' = (if order.stockReserved then
        db.apply (.product i (.reservedQuantity (max 0 (p.reservedQuantity - order.qty))))
      else db).apply (.product i (.stockQuantity (some (max 0 (stock - order.qty))))) := by
  unfold takeStock at h
  split at h
  · rename_i hi
    cases h
    exact Or.inl ⟨rfl, fun i p hi' _ => by rw [hi] at hi'; cases hi'⟩
  rename_i i hi
  split at h
  · rename_i hp
    cases h
    refine Or.inl ⟨rfl, fun j p hj hp' => ?_⟩
    rw [hi] at hj
    cases hj
    rw [hp] at hp'
    cases hp'
  rename_i p hp
  split at h
  · rename_i hstock
    cases h
    refine Or.inl ⟨rfl, fun j q hj hq => ?_⟩
    rw [hi] at hj
    cases hj
    rw [hp] at hq
    cases hq
    exact hstock
  rename_i stock hstock
  obtain ⟨db₁, h₁, h⟩ := bind_ok h
  refine Or.inr ⟨i, p, stock, hi, hp, hstock, ?_⟩
  rw [setProduct_ok h]
  split_ifs at h₁ ⊢
  · rw [setProduct_ok h₁]
  · cases h₁
    rfl

/-- `confirm_order`. -/
def confirmOrder (db : OrderDb) (now : Datetime) (order : OrderConsultation) :
    Except PyError (OrderDb × Bool) :=
  if order.status = .AWAITING_CUSTOMER_CONFIRMATION then .ok (db, false)
  else if order.confirmed then .ok (db, false)
  else do
    let db ← db.takeStock order
    return (db.apply (.order order.id (.confirm now)), true)

theorem confirmOrder_ok {db db' : OrderDb} {now : Datetime} {order : OrderConsultation} {b : Bool}
    (h : db.confirmOrder now order = .ok (db', b)) :
    (db' = db ∧ b = false) ∨
    (order.status ≠ .AWAITING_CUSTOMER_CONFIRMATION ∧ order.confirmed = false ∧ b = true ∧
      ∃ db₁, db.takeStock order = .ok db₁ ∧ db' = db₁.apply (.order order.id (.confirm now))) := by
  unfold confirmOrder at h
  split_ifs at h with hawaiting hconf
  · cases h
    exact Or.inl ⟨rfl, rfl⟩
  · cases h
    exact Or.inl ⟨rfl, rfl⟩
  · obtain ⟨db₁, h₁, h⟩ := bind_ok h
    cases h
    exact Or.inr ⟨hawaiting, by simpa using hconf, rfl, db₁, h₁, rfl⟩

/-- `reject_order`. -/
def rejectOrder (db : OrderDb) (order : OrderConsultation) : Except PyError (OrderDb × Bool) :=
  if order.status ≠ .PENDING then .ok (db, false)
  else do
    let db ← db.releaseReservation order
    return (db.apply (.order order.id (.status .REJECTED)), true)

theorem rejectOrder_ok {db db' : OrderDb} {order : OrderConsultation} {b : Bool}
    (h : db.rejectOrder order = .ok (db', b)) :
    db' = db ∨ (order.status = .PENDING ∧ ∃ db₁, db.releaseReservation order = .ok db₁ ∧
      db' = db₁.apply (.order order.id (.status .REJECTED))) := by
  unfold rejectOrder at h
  split_ifs at h with hpending
  · cases h
    exact Or.inl rfl
  · obtain ⟨db₁, h₁, h⟩ := bind_ok h
    cases h
    exact Or.inr ⟨not_not.1 hpending, db₁, h₁, rfl⟩

/-- `_ADVANCE_SEQUENCE`. -/
def advanceSequence : List OrderStatus := [.CONFIRMED, .PROCESSING, .SHIPPED, .COMPLETED]

/-- `advance_status`. -/
def advanceStatus (db : OrderDb) (order : OrderConsultation) : OrderDb × Option OrderStatus :=
  if order.status ∉ advanceSequence then (db, none)
  else
    match advanceSequence[advanceSequence.idxOf order.status + 1]? with
    | none => (db, none)
    | some status => (db.apply (.order order.id (.status status)), some status)

theorem advanceStatus_cases (db : OrderDb) (order : OrderConsultation) :
    (db.advanceStatus order).1 = db ∨
    ∃ s ∈ advanceSequence, order.status ∈ advanceSequence ∧
      (db.advanceStatus order).1 = db.apply (.order order.id (.status s)) := by
  unfold advanceStatus
  split_ifs with hseq
  · split
    · exact Or.inl rfl
    · rename_i s hs
      exact Or.inr ⟨s, List.mem_of_getElem? hs, hseq, rfl⟩
  · exact Or.inl rfl

/-! ## Expired reservations -/

/-- The orders that `expire_stale_reservations` selects. -/
def expiredReservations (db : OrderDb) (scan : Scan OrderConsultation) (now : Datetime) :
    List OrderConsultation :=
  db.orders.select scan fun o => o.status == .PENDING && o.stockReserved &&
    o.reservationExpiresAt.any fun t => decide (t < now)

/-- One round of the loop of `expire_stale_reservations`. -/
def expireReservation (db : OrderDb) (order : OrderConsultation) : Except PyError OrderDb := do
  let db ← db.releaseReservation order
  return db.apply (.order order.id (.status .EXPIRED))

/-- `expire_stale_reservations`; the number of expired orders. -/
def expireStaleReservations (db : OrderDb) (scan : Scan OrderConsultation) (now : Datetime) :
    Except PyError (OrderDb × ℕ) := do
  let expired := db.expiredReservations scan now
  let db ← expired.foldlM expireReservation db
  return (db, expired.length)

/-! ## The owner's products -/

/-- `create_product`. -/
def createProduct (db : OrderDb) (shopBotId : ℕ) (name : String) (description : Option String)
    (priceToman : ℤ) (photoFileId : Option String) (stockQuantity : Option ℕ) :
    Except PyError (OrderDb × ℕ) :=
  let product : Product :=
    { id := db.products.nextId, shopBotId := shopBotId, name := name, description := description,
      priceToman := priceToman, photoFileId := photoFileId,
      stockQuantity := stockQuantity.map fun n => (n : ℤ) }
  if 255 < name.length ∨ photoFileId.any (fun s => 255 < s.length) ∨ ¬ Int4 priceToman ∨
      product.stockQuantity.any (fun n => ¬ Int4 n) then .error .DataError
  else if shopBotId ∉ db.shopBots then .error .IntegrityError
  else .ok (db.apply (.insertProduct product), product.id)

theorem createProduct_ok {db db' : OrderDb} {shopBotId : ℕ} {name : String}
    {description : Option String} {priceToman : ℤ} {photoFileId : Option String}
    {stockQuantity : Option ℕ} {i : ℕ}
    (h : db.createProduct shopBotId name description priceToman photoFileId stockQuantity =
      .ok (db', i)) :
    ∃ p, p.id = db.products.nextId ∧ p.shopBotId = shopBotId ∧ p.reservedQuantity = 0 ∧
      db' = db.apply (.insertProduct p) := by
  simp only [createProduct] at h
  split_ifs at h
  cases h
  exact ⟨_, rfl, rfl, rfl, rfl⟩

/-- What the owner can enter for a field: a stock is a non-negative number or nothing. -/
inductive FieldEdit where
  | name (s : String)
  | description (s : String)
  | price (n : ℤ)
  | photo (s : String)
  | stock (n : Option ℕ)
  deriving DecidableEq

/-- The attribute that `_apply_field_edit` sets. -/
def FieldEdit.change : FieldEdit → ProductChange
  | name s => .name s
  | description s => .description s
  | price n => .priceToman n
  | photo s => .photoFileId s
  | stock n => .stockQuantity (n.map fun n => (n : ℤ))

/-- `get_owned_by_id` of `product_service.py`. -/
def getOwnedProduct (db : OrderDb) (productId shopBotId : ℕ) : Option Product :=
  (db.products.find? productId).filter fun p => p.shopBotId == shopBotId

/-- `_apply_field_edit`; `False` when the product is not the shop's. -/
def applyFieldEdit (db : OrderDb) (productId shopBotId : ℕ) (edit : FieldEdit) :
    Except PyError (OrderDb × Bool) :=
  match db.getOwnedProduct productId shopBotId with
  | none => .ok (db, false)
  | some product => do
    let db ← db.setProduct product.id edit.change
    return (db, true)

theorem applyFieldEdit_ok {db db' : OrderDb} {productId shopBotId : ℕ} {edit : FieldEdit} {b : Bool}
    (h : db.applyFieldEdit productId shopBotId edit = .ok (db', b)) :
    db' = db ∨ ∃ p ∈ db.products.rows, p.shopBotId = shopBotId ∧
      db' = db.apply (.product p.id edit.change) := by
  unfold applyFieldEdit at h
  split at h
  · cases h
    exact Or.inl rfl
  · rename_i product hproduct
    obtain ⟨hfind, hshop⟩ := Option.filter_eq_some_iff.1 hproduct
    obtain ⟨db₁, h₁, h⟩ := bind_ok h
    cases h
    exact Or.inr ⟨product, Table.mem_of_find? hfind, by simpa using hshop, setProduct_ok h₁⟩

/-! ## Calls -/

/-- A call of the order service or of the owner's product handlers. -/
inductive Call where
  | createOrder (now : Datetime) (shopBotId customerId : ℕ) (orderType : OrderType)
      (summary : String) (estimatedValueToman : Option ℤ) (productId : Option ℕ)
      (quantity : Option ℤ)
  | createOrderAwaitingConfirmation (now : Datetime) (shopBotId customerId : ℕ)
      (orderType : OrderType) (summary : String) (estimatedValueToman : Option ℤ)
      (productId : Option ℕ) (quantity : Option ℤ) (customerPhone customerAddress : Option String)
  | customerConfirmOrder (now : Datetime) (orderId customerId : ℕ)
  | customerCancelOrder (orderId customerId : ℕ)
  | confirmOrder (now : Datetime) (orderId : ℕ)
  | rejectOrder (orderId : ℕ)
  | advanceStatus (orderId : ℕ)
  | expireStaleReservations (scan : Scan OrderConsultation) (now : Datetime)
  | expireStaleCustomerConfirmations (scan : Scan OrderConsultation) (now : Datetime) (n : ℤ)
  | createProduct (shopBotId : ℕ) (name : String) (description : Option String) (priceToman : ℤ)
      (photoFileId : Option String) (stockQuantity : Option ℕ)
  | applyFieldEdit (productId shopBotId : ℕ) (edit : FieldEdit)

/-- What a call returns. -/
inductive Reply where
  | raised (e : PyError)
  | noOrder
  | none
  | bool (b : Bool)
  | created (id : ℕ)
  | status (s : Option OrderStatus)
  | count (n : ℕ)
  deriving DecidableEq

/-- The session of a call: committed when it returns, rolled back when it raises. -/
def session {α : Type} (db : OrderDb) (x : Except PyError (OrderDb × α)) (reply : α → Reply) :
    OrderDb × Reply :=
  match x with
  | .error e => (db, .raised e)
  | .ok (db', a) => (db', reply a)

/-- A call on an order that its caller has loaded. -/
def withOrder (db : OrderDb) (order : Option OrderConsultation)
    (f : OrderConsultation → OrderDb × Reply) : OrderDb × Reply :=
  match order with
  | Option.none => (db, .noOrder)
  | some order => f order

/-- One call. -/
def call (db : OrderDb) : Call → OrderDb × Reply
  | .createOrder now shopBotId customerId orderType summary estimatedValueToman productId quantity =>
    db.session (db.createOrder now shopBotId customerId orderType summary estimatedValueToman
      productId quantity) .created
  | .createOrderAwaitingConfirmation now shopBotId customerId orderType summary estimatedValueToman
      productId quantity customerPhone customerAddress =>
    db.session (db.createOrderAwaitingConfirmation now shopBotId customerId orderType summary
      estimatedValueToman productId quantity customerPhone customerAddress) .created
  | .customerConfirmOrder now orderId customerId =>
    db.withOrder (db.getAwaitingConfirmationForCustomer orderId customerId) fun order =>
      db.session ((db.customerConfirmOrder now order).map fun db => (db, ())) fun _ => .none
  | .customerCancelOrder orderId customerId =>
    db.withOrder (db.getAwaitingConfirmationForCustomer orderId customerId) fun order =>
      (db.customerCancelOrder order, .none)
  | .confirmOrder now orderId =>
    db.withOrder (db.orders.find? orderId) fun order => db.session (db.confirmOrder now order) .bool
  | .rejectOrder orderId =>
    db.withOrder (db.orders.find? orderId) fun order => db.session (db.rejectOrder order) .bool
  | .advanceStatus orderId =>
    db.withOrder (db.orders.find? orderId) fun order =>
      ((db.advanceStatus order).1, .status (db.advanceStatus order).2)
  | .expireStaleReservations scan now =>
    db.session (db.expireStaleReservations scan now) .count
  | .expireStaleCustomerConfirmations scan now n =>
    db.session (db.expireStaleCustomerConfirmations scan now n) .count
  | .createProduct shopBotId name description priceToman photoFileId stockQuantity =>
    db.session (db.createProduct shopBotId name description priceToman photoFileId stockQuantity)
      .created
  | .applyFieldEdit productId shopBotId edit =>
    db.session (db.applyFieldEdit productId shopBotId edit) .bool

end OrderDb

end KasbOKar
