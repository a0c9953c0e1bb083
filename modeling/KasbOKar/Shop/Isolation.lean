import KasbOKar.Order.Footprint
import KasbOKar.Shop.Handlers

/-!
# Tenant isolation

Every order belongs to a shop, and so do the product and the customer it refers to: `Tenanted` says
that they are the same shop.  The handlers check the order or the product named in the update, and
then write to a second row that they reach through the order; with `Tenanted` that row is in the same
shop (`tenant_isolation`).

Orders are created by the detection tasks alone.  They get their shop and their customer from the
message that was answered, and their product from the shop's own list.
-/

namespace KasbOKar

open OrderDb

namespace ShopDb

/-- The customer that a user is for the shop of a bot. -/
def customerOf (db : ShopDb) (bot user : ℤ) : Option Customer :=
  (db.getByBotTelegramId bot).bind fun shopBot => db.getCustomer shopBot.id user

/-- The customers of `db` are still there. -/
def CustomersKept (db db' : ShopDb) : Prop :=
  ∀ c ∈ db.customers.rows, ∃ c' ∈ db'.customers.rows, c'.id = c.id ∧ c'.shopBotId = c.shopBotId

theorem customersKept_of_eq {db db' : ShopDb} (h : db'.customers = db.customers) :
    CustomersKept db db' := fun c hc => ⟨c, h ▸ hc, rfl, rfl⟩

/-- What a handler does to products, orders and customers: rows stay with their shop. -/
structure RowsKept (db db' : ShopDb) : Prop where
  orders : Kept db.orderDb db'.orderDb
  customers : CustomersKept db db'

theorem rowsKept_refl (db : ShopDb) : RowsKept db db :=
  ⟨kept_refl _, customersKept_of_eq rfl⟩

/-- A handler that writes neither products nor orders. -/
theorem rowsKept_of_customers {db db' : ShopDb} (hproducts : db'.products = db.products)
    (horders : db'.orders = db.orders) (h : CustomersKept db db') : RowsKept db db' where
  orders := by
    refine ⟨fun o ho => ?_, fun p hp => ?_⟩
    · change o ∈ db'.orders.rows at ho
      rw [horders] at ho
      exact ⟨o, ho, rfl, rfl, rfl, rfl⟩
    · change p ∈ db.products.rows at hp
      rw [← hproducts] at hp
      exact ⟨p, hp, rfl, rfl⟩
  customers := h

theorem commit_keeps {db : ShopDb} {I : ShopDb → Prop} {sent : Bool} {x : Except PyError OrderDb}
    (h : I db) (hx : ∀ orders, x = .ok orders → I (db.withOrders orders)) : I (db.commit sent x) := by
  unfold commit
  split
  · exact h
  · rename_i orders
    split_ifs
    · exact hx orders rfl
    · exact h

theorem withOwnedOrder_keeps {db : ShopDb} {I : ShopDb → Prop} {user : ℤ} {orderId : ℕ}
    {handle : OrderConsultation → ShopDb} (h : I db)
    (hx : ∀ shopBot order, db.shopOf user = some shopBot → order ∈ db.orders.rows →
      order.id = orderId → order.shopBotId = shopBot.id → I (handle order)) :
    I (db.withOwnedOrder user orderId handle) := by
  unfold withOwnedOrder
  split
  · exact h
  rename_i shopBot hshop
  split
  · exact h
  rename_i order horder
  obtain ⟨hfind, howner⟩ := Option.filter_eq_some_iff.1 horder
  obtain ⟨hrow, hid⟩ := Table.find?_eq_some_iff.1 hfind
  exact hx shopBot order hshop hrow hid (by simpa using howner)

theorem withShop_keeps {db : ShopDb} {I : ShopDb → Prop} {user : ℤ} {handle : ShopBot → ShopDb}
    (h : I db) (hx : ∀ shopBot, db.shopOf user = some shopBot → I (handle shopBot)) :
    I (db.withShop user handle) := by
  unfold withShop
  split
  · exact h
  · rename_i shopBot hshop
    exact hx shopBot hshop

/-- The two sweeps of the scheduler, one after the other in one session. -/
theorem processOrderExpiry_keeps {db : ShopDb} {I : ShopDb → Prop} {sent : Bool}
    {scan scan' : Scan OrderConsultation} {now now' : Datetime} (h : I db)
    (hx : ∀ cutoff orders,
      (((db.orderDb.staleConfirmations scan cutoff).foldl customerCancelOrder
          db.orderDb).expiredReservations scan' now').foldlM expireReservation
        ((db.orderDb.staleConfirmations scan cutoff).foldl customerCancelOrder db.orderDb) = .ok orders →
      I (db.withOrders orders)) :
    I (db.processOrderExpiry sent scan scan' now now') := by
  refine commit_keeps h fun orders hok => ?_
  obtain ⟨stale, hstale, hok⟩ := bind_ok hok
  obtain ⟨expired, hexpired, hok⟩ := bind_ok hok
  cases hok
  obtain ⟨cutoff, -, hstale⟩ := bind_ok hstale
  cases hstale
  obtain ⟨db₁, h₁, hexpired⟩ := bind_ok hexpired
  cases hexpired
  exact hx cutoff db₁ h₁

/-! ## A completed detection -/

theorem createOrderAwaitingConfirmation_map (db : OrderDb) (now : Datetime) (shopBotId customerId : ℕ)
    (orderType : OrderType) (summary : String) (value : Option ℤ) (productId : Option ℕ)
    (quantity : Option ℤ) (phone address : Option String) :
    (db.createOrderAwaitingConfirmation now shopBotId customerId orderType summary value productId
      quantity phone address).map Prod.fst =
    db.insertOrder
      { id := db.orders.nextId, shopBotId := shopBotId, customerId := customerId, type := orderType,
        summary := summary, estimatedValueToman := value, productId := productId, quantity := quantity,
        customerPhone := phone, customerAddress := address, status := .AWAITING_CUSTOMER_CONFIRMATION,
        createdAt := now } := by
  unfold createOrderAwaitingConfirmation
  dsimp only
  cases db.insertOrder _ <;> rfl

/-- The row that a completed detection is about to insert. -/
def candidate (fmt : PyJson → String) (db : ShopDb) (now : Datetime) (shopBotId customerId : ℕ)
    (answer : Option PyJson) : Option OrderConsultation := do
  let shopBot ← db.shops.find? shopBotId
  let _ ← db.customers.find? customerId
  match Detection.detectOrder fmt answer (db.getActiveByShopBot shopBotId)
    (shopBot.tenantMode == .CONSULTATION) with
  | .ok (some (.completed orderType summary estimatedValueToman productId quantity phone address)) =>
    some { id := db.orders.nextId, shopBotId := shopBotId, customerId := customerId, type := orderType,
           summary := summary, estimatedValueToman := estimatedValueToman, productId := productId,
           quantity := quantity, customerPhone := phone, customerAddress := address,
           status := .AWAITING_CUSTOMER_CONFIRMATION, createdAt := now }
  | _ => none

section Detection

variable {fmt : PyJson → String} {db : ShopDb} {now : Datetime} {shopBotId customerId : ℕ}
  {answer : Option PyJson} {o : OrderConsultation}

/-- The row and what it refers to. -/
structure Candidate (db : ShopDb) (now : Datetime) (shopBotId customerId : ℕ) (o : OrderConsultation) :
    Prop where
  id : o.id = db.orders.nextId
  shop : o.shopBotId = shopBotId ∧ shopBotId ∈ db.shops.ids
  customer : o.customerId = customerId ∧ customerId ∈ db.customers.ids
  product : ∀ i ∈ o.productId, i ∈ db.products.ids
  phone : ∀ s ∈ o.customerPhone, s.length ≤ 32
  status : o.status = .AWAITING_CUSTOMER_CONFIRMATION
  createdAt : o.createdAt = now

theorem candidate_some (sent : Bool) (h : db.candidate fmt now shopBotId customerId answer = some o) :
    Candidate db now shopBotId customerId o ∧
      db.detectAndNotifyOrder fmt sent now shopBotId customerId answer =
        db.commit sent (do
          let recent ← db.orderDb.getRecentDuplicate now customerId o.type o.productId 10
          if recent.isSome then return db.orderDb else db.orderDb.insertOrder o) := by
  unfold candidate at h
  obtain ⟨shopBot, hshop, h⟩ := Option.bind_eq_some_iff.1 h
  obtain ⟨customer, hcustomer, h⟩ := Option.bind_eq_some_iff.1 h
  split at h
  · rename_i hdetected
    cases h
    refine ⟨⟨rfl, ⟨rfl, ?_⟩, ⟨rfl, ?_⟩, ?_, ?_, rfl, rfl⟩, ?_⟩
    · exact Table.mem_ids.2 ⟨shopBot, Table.mem_of_find? hshop, Table.id_of_find? hshop⟩
    · exact Table.mem_ids.2 ⟨customer, Table.mem_of_find? hcustomer, Table.id_of_find? hcustomer⟩
    · rintro i hi
      obtain rfl : _ = some i := hi
      obtain ⟨p, hp, rfl⟩ := Detection.detectOrder_productId hdetected
      exact Table.id_mem_ids (mem_getActiveByShopBot.1 hp).1
    · rintro s hs
      obtain rfl : _ = some s := hs
      exact Detection.detectOrder_phone hdetected
    · unfold detectAndNotifyOrder
      rw [hshop]
      dsimp only
      rw [hdetected]
      dsimp only
      rw [hcustomer]
      dsimp only
      refine congrArg _ (bind_congr fun recent => ?_)
      split_ifs
      · rfl
      · exact createOrderAwaitingConfirmation_map ..
  · cases h

/-- The product is one of the shop's own. -/
theorem candidate_product (h : db.candidate fmt now shopBotId customerId answer = some o) :
    ∀ i ∈ o.productId, ∃ p ∈ db.products.rows, p.id = i ∧ p.shopBotId = shopBotId := by
  unfold candidate at h
  obtain ⟨shopBot, -, h⟩ := Option.bind_eq_some_iff.1 h
  obtain ⟨customer, -, h⟩ := Option.bind_eq_some_iff.1 h
  split at h
  · rename_i hdetected
    cases h
    rintro i hi
    obtain rfl : _ = some i := hi
    obtain ⟨p, hp, hid⟩ := Detection.detectOrder_productId hdetected
    obtain ⟨hrow, hshop, -⟩ := mem_getActiveByShopBot.1 hp
    exact ⟨p, hrow, hid, hshop⟩
  · cases h

theorem detectAndNotifyOrder_of_none (sent : Bool)
    (h : db.candidate fmt now shopBotId customerId answer = none) :
    db.detectAndNotifyOrder fmt sent now shopBotId customerId answer = db := by
  unfold detectAndNotifyOrder
  split
  · rfl
  rename_i shopBot hshop
  split
  · rename_i hdetected
    split
    · rfl
    · rename_i customer hcustomer
      unfold candidate at h
      simp only [hshop, hcustomer, hdetected, bind, Option.bind] at h
      cases h
  · rfl

/-- **What a detection can do**: nothing, or insert its candidate. -/
theorem detectAndNotifyOrder_cases (fmt : PyJson → String) (db : ShopDb) (sent : Bool) (now : Datetime)
    (shopBotId customerId : ℕ) (answer : Option PyJson) :
    db.detectAndNotifyOrder fmt sent now shopBotId customerId answer = db ∨
      ∃ o, db.candidate fmt now shopBotId customerId answer = some o ∧
        db.detectAndNotifyOrder fmt sent now shopBotId customerId answer =
          db.withOrders (db.orderDb.apply (.insertOrder o)) := by
  cases hcandidate : db.candidate fmt now shopBotId customerId answer with
  | none => exact Or.inl (detectAndNotifyOrder_of_none sent hcandidate)
  | some o =>
    rw [(candidate_some sent hcandidate).2]
    refine commit_keeps (I := fun db' => db' = db ∨ ∃ o', some o = some o' ∧
      db' = db.withOrders (db.orderDb.apply (.insertOrder o'))) (Or.inl rfl) fun orders hok => ?_
    obtain ⟨recent, -, hok⟩ := bind_ok hok
    split_ifs at hok
    · cases hok
      exact Or.inl rfl
    · exact Or.inr ⟨o, rfl, by rw [insertOrder_ok hok]⟩

end Detection

/-! ## What the handlers keep -/

theorem rowsKept_withOrders {db : ShopDb} {orders : OrderDb} (h : Kept db.orderDb orders) :
    RowsKept db (db.withOrders orders) :=
  ⟨⟨h.order, h.product⟩, customersKept_of_eq rfl⟩

theorem commit_kept {db : ShopDb} {sent : Bool} {x : Except PyError OrderDb}
    (hx : ∀ orders, x = .ok orders → Kept db.orderDb orders) : RowsKept db (db.commit sent x) :=
  commit_keeps (rowsKept_refl db) fun orders h => rowsKept_withOrders (hx orders h)

theorem kept_of_touches {db db' : OrderDb} {order : OrderConsultation}
    (h : Edited (touches order) db db') : Kept db db' :=
  kept_of_updates (edited_mono touches_isUpdate h)

/-- An import inserts products of the shop, one after the other. -/
theorem bulkCreate_keeps {I : OrderDb → Prop} {shopBotId : ℕ}
    (hstep : ∀ db (p : Product), p.shopBotId = shopBotId → I db → I (db.apply (.insertProduct p)))
    {rows : List ImportRow} {db db' : OrderDb} (h : I db) (hok : db.bulkCreate shopBotId rows = .ok db') :
    I db' := by
  refine foldlM_keeps (fun row _ db₁ db₂ h₁ hrow => ?_) h hok
  obtain ⟨x, hx, rfl⟩ := map_ok hrow
  obtain ⟨p, -, hshop, -, hp⟩ := createProduct_ok hx
  rw [hp]
  exact hstep db₁ p hshop h₁

theorem bulkCreate_kept {shopBotId : ℕ} {rows : List ImportRow} {db db' : OrderDb}
    (h : db.bulkCreate shopBotId rows = .ok db') : Kept db db' :=
  bulkCreate_keeps (I := Kept db) (fun db₁ p _ hk => hk.trans (kept_insertProduct db₁ p))
    (kept_refl db) h

theorem processOrderExpiry_kept {db : ShopDb} {sent : Bool} {scan scan' : Scan OrderConsultation}
    {now now' : Datetime} : RowsKept db (db.processOrderExpiry sent scan scan' now now') :=
  processOrderExpiry_keeps (rowsKept_refl db) fun _ _ h =>
    rowsKept_withOrders ((kept_of_updates (cancelAll_updates _ _)).trans
      (kept_of_updates (expireAll_updates h)))

theorem getOrCreateCustomer_ok {db db' : ShopDb} {now : Datetime} {shopBotId : ℕ} {user : ℤ}
    {firstName username : Option String} {c : Customer}
    (h : db.getOrCreateCustomer now shopBotId user firstName username = .ok (db', c)) :
    RowsKept db db' ∧ c ∈ db'.customers.rows ∧ c.shopBotId = shopBotId := by
  unfold getOrCreateCustomer at h
  split at h
  · cases h
  split at h
  · rename_i c₀ hc₀
    obtain ⟨hrow, hshop, -⟩ := getCustomer_some hc₀
    cases h
    refine ⟨rowsKept_of_customers rfl rfl fun c hc => ?_, ?_, hshop⟩
    · by_cases hid : c.id = c₀.id
      · exact ⟨_, Table.mem_modify_self (f := seenAgain now firstName username) (fun _ => rfl) hc hid,
          rfl, rfl⟩
      · exact ⟨c, Table.mem_modify_of_ne (f := seenAgain now firstName username) (fun _ => rfl) hc hid,
          rfl, rfl⟩
    · exact Table.mem_modify_self (f := seenAgain now firstName username) (fun _ => rfl) hrow rfl
  · split at h
    · cases h
    cases h
    refine ⟨rowsKept_of_customers rfl rfl fun c hc => ⟨c, Table.mem_insert_of_mem hc, rfl, rfl⟩,
      ?_, rfl⟩
    exact (Table.mem_insert (Table.nextId_notMem _)).2 (Or.inr rfl)

/-- A handler behind the channel gate, or a session that may be rolled back. -/
theorem ite_keeps {I : ShopDb → Prop} {b : Bool} {db db' : ShopDb} (h : I db) (h' : I db') :
    I (if b then db' else db) := by
  split_ifs
  · exact h'
  · exact h

theorem cbConfirmOrder_kept {db : ShopDb} {sent : Bool} {now : Datetime} {user : ℤ} {orderId : ℕ} :
    RowsKept db (db.cbConfirmOrder sent now user orderId) := by
  refine withOwnedOrder_keeps (rowsKept_refl db) fun _ order _ _ _ _ => ?_
  split_ifs
  · exact rowsKept_refl db
  refine commit_kept fun orders h => ?_
  obtain ⟨x, hx, rfl⟩ := map_ok h
  exact kept_of_touches (confirmOrder_touches hx)

theorem cbRejectOrder_kept {db : ShopDb} {sent : Bool} {user : ℤ} {orderId : ℕ} :
    RowsKept db (db.cbRejectOrder sent user orderId) := by
  refine withOwnedOrder_keeps (rowsKept_refl db) fun _ order _ _ _ _ => commit_kept fun orders h => ?_
  obtain ⟨x, hx, rfl⟩ := map_ok h
  exact kept_of_touches (rejectOrder_touches hx)

theorem cbAdvanceOrder_kept {db : ShopDb} {sent : Bool} {user : ℤ} {orderId : ℕ} :
    RowsKept db (db.cbAdvanceOrder sent user orderId) := by
  refine withOwnedOrder_keeps (rowsKept_refl db) fun _ order _ _ _ _ => commit_kept fun orders h => ?_
  cases h
  exact kept_of_touches (advanceStatus_touches _ order)

theorem addProductStock_kept {db : ShopDb} {sent : Bool} {user : ℤ} {data : ProductData}
    {stock : Option ℕ} : RowsKept db (db.addProductStock sent user data stock) := by
  refine withShop_keeps (rowsKept_refl db) fun shopBot _ => ?_
  split
  · refine commit_kept fun orders h => ?_
    obtain ⟨x, hx, rfl⟩ := map_ok h
    obtain ⟨p, -, -, -, hp⟩ := createProduct_ok hx
    rw [hp]
    exact kept_insertProduct _ p
  · exact rowsKept_refl db

theorem cbProductDeleteConfirm_kept {db : ShopDb} {sent : Bool} {user : ℤ} {productId : ℕ} :
    RowsKept db (db.cbProductDeleteConfirm sent user productId) := by
  refine withShop_keeps (rowsKept_refl db) fun shopBot _ => ?_
  split
  · exact rowsKept_refl db
  · refine commit_kept fun orders h => ?_
    rw [setProduct_ok h]
    exact kept_apply _ rfl

theorem editProductValue_kept {db : ShopDb} {sent : Bool} {user : ℤ} {productId : Option ℕ}
    {field : Option ProductField} {value : FieldValue} :
    RowsKept db (db.editProductValue sent user productId field value) := by
  refine withShop_keeps (rowsKept_refl db) fun shopBot _ => ?_
  split
  · refine commit_kept fun orders h => ?_
    obtain ⟨edit, -, h⟩ := bind_ok h
    obtain ⟨x, hx, rfl⟩ := map_ok h
    obtain hsame | ⟨p, -, -, hp⟩ := applyFieldEdit_ok hx
    · rw [hsame]
      exact kept_refl _
    · rw [hp]
      exact kept_apply _ rfl
  · exact rowsKept_refl db

theorem cbCustomerConfirmOrder_kept {db : ShopDb} {sent : Bool} {now : Datetime} {bot user : ℤ}
    {orderId : ℕ} : RowsKept db (db.cbCustomerConfirmOrder sent now bot user orderId) := by
  unfold cbCustomerConfirmOrder
  split
  · exact rowsKept_refl db
  · exact commit_kept fun orders h => kept_of_touches (customerConfirmOrder_touches h)

theorem cbCustomerCancelOrder_kept {db : ShopDb} {sent : Bool} {bot user : ℤ} {orderId : ℕ} :
    RowsKept db (db.cbCustomerCancelOrder sent bot user orderId) := by
  unfold cbCustomerCancelOrder
  split
  · exact rowsKept_refl db
  · refine commit_kept fun orders h => ?_
    cases h
    exact kept_of_touches (customerCancelOrder_touches _ _)

theorem customerMessage_kept {db : ShopDb} {sent : Bool} {now : Datetime} {bot user : ℤ}
    {firstName username : Option String} :
    RowsKept db (db.customerMessage sent now bot user firstName username) := by
  unfold customerMessage
  split
  · exact rowsKept_refl db
  split
  · exact rowsKept_refl db
  · rename_i db' c h
    exact ite_keeps (rowsKept_refl db) (getOrCreateCustomer_ok h).1

/-- A handler that writes owners or shops only. -/
structure SameRows (db db' : ShopDb) : Prop where
  products : db'.products = db.products
  orders : db'.orders = db.orders
  customers : db'.customers = db.customers

theorem sameRows_refl (db : ShopDb) : SameRows db db := ⟨rfl, rfl, rfl⟩

theorem SameRows.kept {db db' : ShopDb} (h : SameRows db db') : RowsKept db db' :=
  rowsKept_of_customers h.products h.orders (customersKept_of_eq h.customers)

theorem registerOwner_same {db : ShopDb} {sent : Bool} {user : ℤ} {referredByCode : Option String}
    {code : String} : SameRows db (db.registerOwner sent user referredByCode code) := by
  unfold registerOwner
  split
  · exact sameRows_refl db
  · rename_i db' owner h
    refine ite_keeps (sameRows_refl db) ?_
    unfold getOrCreateShopOwner at h
    split at h
    · cases h
      exact sameRows_refl db
    · split_ifs at h
      cases h
      exact ⟨rfl, rfl, rfl⟩

theorem saveShopBotToken_same {db : ShopDb} {sent : Bool} {user : ℤ} {token : String} {bot : ℤ}
    {username secret : String} : SameRows db (db.saveShopBotToken sent user token bot username secret) := by
  unfold saveShopBotToken
  split
  · exact sameRows_refl db
  split
  · exact sameRows_refl db
  split
  · exact sameRows_refl db
  · rename_i db' shopBot h
    refine ite_keeps (sameRows_refl db) ?_
    unfold upsertShopBot at h
    split at h
    · cases h
    split at h
    · dsimp only at h
      split_ifs at h
      cases h
      exact ⟨rfl, rfl, rfl⟩
    · dsimp only at h
      split_ifs at h
      cases h
      exact ⟨rfl, rfl, rfl⟩

theorem cbSetTenantMode_same {db : ShopDb} {sent : Bool} {user : ℤ} {mode : TenantMode} :
    SameRows db (db.cbSetTenantMode sent user mode) :=
  withShop_keeps (sameRows_refl db) fun _ _ => ite_keeps (sameRows_refl db) ⟨rfl, rfl, rfl⟩

/-- **The handlers leave every row with its shop.** -/
theorem handle_kept (db : ShopDb) (d : Delivery) : RowsKept db (db.handle d) := by
  have hrefl := rowsKept_refl db
  obtain ⟨update, admitted, sent⟩ := d
  cases update with
  | confirmOrder now user orderId => exact ite_keeps hrefl cbConfirmOrder_kept
  | rejectOrder user orderId => exact ite_keeps hrefl cbRejectOrder_kept
  | advanceOrder user orderId => exact ite_keeps hrefl cbAdvanceOrder_kept
  | addProductStock user data stock => exact ite_keeps hrefl addProductStock_kept
  | productBulkImportConfirm user rows =>
    exact ite_keeps hrefl (withShop_keeps hrefl fun _ _ => commit_kept fun _ h => bulkCreate_kept h)
  | productDeleteConfirm user productId => exact ite_keeps hrefl cbProductDeleteConfirm_kept
  | editProductValue user productId field value => exact ite_keeps hrefl editProductValue_kept
  | customerConfirmOrder now bot user orderId => exact cbCustomerConfirmOrder_kept
  | customerCancelOrder bot user orderId => exact cbCustomerCancelOrder_kept
  | customerMessage now bot user firstName username => exact customerMessage_kept
  | reply now shopBotId user => exact hrefl
  | detectOrder now task answer => exact hrefl
  | orderExpiry scan scan' now now' => exact processOrderExpiry_kept
  | registerOwner user referredByCode code => exact registerOwner_same.kept
  | saveToken user token bot username secret => exact ite_keeps hrefl saveShopBotToken_same.kept
  | setTenantMode user mode => exact ite_keeps hrefl cbSetTenantMode_same.kept
  | setActive shopBotId isActive => exact SameRows.kept ⟨rfl, rfl, rfl⟩

end ShopDb

namespace Bots

/-! ## The invariant -/

/-- Every order's product and customer belong to the shop of the order, and every customer handed to
a detection task to the shop of the task. -/
structure Tenanted (s : Bots) : Prop where
  product : ∀ o ∈ s.db.orders.rows, ∀ i, o.productId = some i →
    ∃ p ∈ s.db.products.rows, p.id = i ∧ p.shopBotId = o.shopBotId
  customer : ∀ o ∈ s.db.orders.rows,
    ∃ c ∈ s.db.customers.rows, c.id = o.customerId ∧ c.shopBotId = o.shopBotId
  task : ∀ t ∈ s.detections, ∃ c ∈ s.db.customers.rows, c.id = t.2 ∧ c.shopBotId = t.1

theorem Tenanted.kept {s : Bots} {db : ShopDb} (h : Tenanted s) (hk : ShopDb.RowsKept s.db db) :
    Tenanted { s with db := db } where
  product o' ho' i hi := by
    obtain ⟨o, ho, -, hshop, -, hprod⟩ := hk.orders.order o' ho'
    obtain ⟨p, hp, hid, hps⟩ := h.product o ho i (hprod ▸ hi)
    obtain ⟨p', hp', hid', hps'⟩ := hk.orders.product p hp
    exact ⟨p', hp', hid'.trans hid, hps'.trans (hps.trans hshop.symm)⟩
  customer o' ho' := by
    obtain ⟨o, ho, -, hshop, hcust, -⟩ := hk.orders.order o' ho'
    obtain ⟨c, hc, hid, hcs⟩ := h.customer o ho
    obtain ⟨c', hc', hid', hcs'⟩ := hk.customers c hc
    exact ⟨c', hc', hid'.trans (hid.trans hcust.symm), hcs'.trans (hcs.trans hshop.symm)⟩
  task t ht := by
    obtain ⟨c, hc, hid, hcs⟩ := h.task t ht
    obtain ⟨c', hc', hid', hcs'⟩ := hk.customers c hc
    exact ⟨c', hc', hid'.trans hid, hcs'.trans hcs⟩

/-- A new order of the shop's own customer and product. -/
theorem Tenanted.insertOrder {s : Bots} (h : Tenanted s) {o : OrderConsultation}
    (hproduct : ∀ i, o.productId = some i →
      ∃ p ∈ s.db.products.rows, p.id = i ∧ p.shopBotId = o.shopBotId)
    (hcustomer : ∃ c ∈ s.db.customers.rows, c.id = o.customerId ∧ c.shopBotId = o.shopBotId) :
    Tenanted { s with db := s.db.withOrders (s.db.orderDb.apply (.insertOrder o)) } := by
  have hrows : ∀ r ∈ (s.db.orders.insert o).rows, r ∈ s.db.orders.rows ∨ r = o := by
    intro r hr
    by_cases hid : Keyed.id o ∈ s.db.orders.ids
    · unfold Table.insert at hr
      rw [dif_pos hid] at hr
      exact Or.inl hr
    · exact (Table.mem_insert hid).1 hr
  refine ⟨fun r hr i hi => ?_, fun r hr => ?_, h.task⟩
  · rcases hrows r hr with hr | rfl
    · exact h.product r hr i hi
    · exact hproduct i hi
  · rcases hrows r hr with hr | rfl
    · exact h.customer r hr
    · exact hcustomer

theorem Tenanted.detect {fmt : PyJson → String} {s : Bots} (h : Tenanted s) {sent : Bool}
    {now : Datetime} {t : ℕ × ℕ} (ht : t ∈ s.detections) (answer : Option PyJson) :
    Tenanted { s with db := s.db.detectAndNotifyOrder fmt sent now t.1 t.2 answer } := by
  obtain hsame | ⟨o, ho, hinsert⟩ :=
    ShopDb.detectAndNotifyOrder_cases fmt s.db sent now t.1 t.2 answer
  · rw [hsame]
    exact h
  · rw [hinsert]
    have hrow := (ShopDb.candidate_some sent ho).1
    refine h.insertOrder (fun i hi => ?_) ?_
    · rw [hrow.shop.1]
      exact ShopDb.candidate_product ho i hi
    · rw [hrow.customer.1, hrow.shop.1]
      exact h.task t ht

/-- **What a step can do**: a reply makes sure of the customer and leaves a task behind, a detection
ends its task, and the other updates are the handlers'. -/
theorem step_cases {fmt : PyJson → String} {s s' : Bots} {d : Delivery}
    (hs : Bots.step fmt s d = some s') :
    s' = { s with db := s.db.handle d } ∨
    (∃ now shopBotId user c, d.update = .reply now shopBotId user ∧
      s.db.getOrCreateCustomer now shopBotId user none none = .ok (s'.db, c) ∧
      s'.detections = s.detections ++ [(shopBotId, c.id)]) ∨
    ∃ now task answer t, d.update = .detectOrder now task answer ∧ s.detections[task]? = some t ∧
      s'.db = s.db.detectAndNotifyOrder fmt d.sent now t.1 t.2 answer ∧
      s'.detections = s.detections.eraseIdx task := by
  obtain ⟨update, admitted, sent⟩ := d
  cases update with
  | reply now shopBotId user =>
    unfold Bots.step at hs
    dsimp only at hs
    split at hs
    · cases hs
      exact Or.inl rfl
    · rename_i db t hreply
      cases hs
      unfold ShopDb.generateReply at hreply
      split at hreply
      · cases hreply
      split_ifs at hreply
      split at hreply
      · cases hreply
      rename_i db' c hc
      cases hreply
      exact Or.inr (Or.inl ⟨now, shopBotId, user, c, rfl, hc, rfl⟩)
  | detectOrder now task answer =>
    unfold Bots.step at hs
    dsimp only at hs
    split at hs
    · cases hs
    · rename_i shopBotId customerId htask
      cases hs
      exact Or.inr (Or.inr ⟨now, task, answer, (shopBotId, customerId), rfl, htask, rfl, rfl⟩)
  | _ =>
    cases hs
    exact Or.inl rfl

/-- **Every step keeps the invariant.** -/
theorem Tenanted.step {fmt : PyJson → String} {s s' : Bots} {d : Delivery} (h : Tenanted s)
    (hs : Bots.step fmt s d = some s') : Tenanted s' := by
  obtain rfl | ⟨now, shopBotId, user, c, -, hc, htasks⟩ | ⟨now, task, answer, t, -, htask, hdb, htasks⟩ :=
    step_cases hs
  · exact h.kept (ShopDb.handle_kept s.db d)
  · obtain ⟨hk, hrow, hshop⟩ := ShopDb.getOrCreateCustomer_ok hc
    have h' := h.kept hk
    refine ⟨h'.product, h'.customer, fun t ht => ?_⟩
    rw [htasks] at ht
    rcases List.mem_append.1 ht with ht | ht
    · exact h'.task t ht
    · rw [List.mem_singleton] at ht
      subst ht
      exact ⟨c, hrow, rfl, hshop⟩
  · have h' : Tenanted { s with db := s'.db } := by
      rw [hdb]
      exact h.detect (List.mem_of_getElem? htask) answer
    exact ⟨h'.product, h'.customer, fun t ht => h'.task t (List.mem_of_mem_eraseIdx (htasks ▸ ht))⟩

end Bots

/-! ## Confinement -/

namespace ShopDb

/-- A session that stays inside. -/
theorem commit_confined {P : OrderConsultation → Prop} {Q : Product → Prop} {db : ShopDb} {sent : Bool}
    {x : Except PyError OrderDb} (hx : ∀ orders, x = .ok orders → Confined P Q db.orderDb orders) :
    Confined P Q db.orderDb (db.commit sent x).orderDb :=
  commit_keeps (I := fun db' => Confined P Q db.orderDb db'.orderDb) (confined_refl _)
    fun orders h => ⟨(hx orders h).order, (hx orders h).product⟩

/-- The order is of the shop of the user. -/
def ofShop (db : ShopDb) (user : ℤ) (o : OrderConsultation) : Prop :=
  some o.shopBotId = (db.shopOf user).map ShopBot.id

/-- The product is of the shop of the user. -/
def productOfShop (db : ShopDb) (user : ℤ) (p : Product) : Prop :=
  some p.shopBotId = (db.shopOf user).map ShopBot.id

theorem ofShop_write {db : ShopDb} {user : ℤ} (o : OrderConsultation) (c : OrderChange)
    (h : db.ofShop user o) : db.ofShop user (c.write o) := by
  unfold ofShop at h ⊢
  rw [OrderChange.write_shopBotId, h]

theorem productOfShop_write {db : ShopDb} {user : ℤ} (p : Product) (c : ProductChange)
    (h : db.productOfShop user p) : db.productOfShop user (c.write p) := by
  unfold productOfShop at h ⊢
  rw [ProductChange.write_shopBotId, h]

theorem productOfShop_of_eq {db : ShopDb} {user : ℤ} {shopBot : ShopBot} {p : Product}
    (hs : db.shopOf user = some shopBot) (hp : p.shopBotId = shopBot.id) : db.productOfShop user p := by
  unfold productOfShop
  rw [hs, hp]
  rfl

/-- An edit of a product of the user's shop. -/
theorem confined_ownProduct {db : ShopDb} {user : ℤ} {shopBot : ShopBot} {p : Product}
    (hs : db.shopOf user = some shopBot) (hrow : p ∈ db.products.rows) (hp : p.shopBotId = shopBot.id)
    (c : ProductChange) : Confined (db.ofShop user) (db.productOfShop user) db.orderDb
      (db.orderDb.apply (.product p.id c)) := by
  refine confined_product productOfShop_write (fun q hq hid => ?_) c
  rw [Table.eq_of_id_eq hq hrow hid]
  exact productOfShop_of_eq hs hp

/-- The tables agree outside the shop of the user. -/
abbrev SameElsewhere (user : ℤ) (db db' : ShopDb) : Prop :=
  Confined (db.ofShop user) (db.productOfShop user) db.orderDb db'.orderDb

theorem bulkCreate_confined {P : OrderConsultation → Prop} {Q : Product → Prop} {shopBotId : ℕ}
    (hQ : ∀ p : Product, p.shopBotId = shopBotId → Q p) {rows : List ImportRow} {db db' : OrderDb}
    (h : db.bulkCreate shopBotId rows = .ok db') : Confined P Q db db' :=
  bulkCreate_keeps (I := Confined P Q db)
    (fun _ p hp hc => hc.trans (confined_insertProduct (hQ p hp))) (confined_refl db) h

end ShopDb

namespace Bots

variable {s : Bots}

/-- An order of the user's shop, handled on its own. -/
theorem Tenanted.ownedOrder (h : Tenanted s) {user : ℤ} {shopBot : ShopBot} {sent : Bool}
    {x : Except PyError OrderDb} {order : OrderConsultation} (hshop : s.db.shopOf user = some shopBot)
    (ho : order ∈ s.db.orders.rows) (howned : order.shopBotId = shopBot.id)
    (hx : ∀ orders, x = .ok orders → Edited (touches order) s.db.orderDb orders) :
    ShopDb.SameElsewhere user s.db (s.db.commit sent x) := by
  refine ShopDb.commit_confined fun orders hok => ?_
  refine confined_of_touches ShopDb.ofShop_write ShopDb.productOfShop_write (fun o ho' hid => ?_)
    (fun p hp hid => ?_) (hx orders hok)
  · rw [Table.eq_of_id_eq ho' ho hid]
    unfold ShopDb.ofShop
    rw [hshop, howned]
    rfl
  · obtain ⟨q, hq, hqid, hqs⟩ := h.product order ho p.id hid
    rw [← Table.eq_of_id_eq hq hp hqid]
    unfold ShopDb.productOfShop
    rw [hshop, hqs, howned]
    rfl

/-- **The updates of an owner** stay inside the owner's shop. -/
theorem Tenanted.owner_confined (h : Tenanted s) {d : Delivery} {user : ℤ}
    (hd : d.update.owner = some user) : ShopDb.SameElsewhere user s.db (s.db.handle d) := by
  have hrefl : ShopDb.SameElsewhere user s.db s.db := confined_refl _
  obtain ⟨update, admitted, sent⟩ := d
  cases update with
  | confirmOrder now _ orderId =>
    cases hd
    refine ShopDb.ite_keeps hrefl (ShopDb.withOwnedOrder_keeps hrefl fun shopBot o hs ho _ hown => ?_)
    split_ifs
    · exact hrefl
    refine h.ownedOrder hs ho hown fun orders hok => ?_
    obtain ⟨x, hx, rfl⟩ := map_ok hok
    exact confirmOrder_touches hx
  | rejectOrder _ orderId =>
    cases hd
    refine ShopDb.ite_keeps hrefl (ShopDb.withOwnedOrder_keeps hrefl fun shopBot o hs ho _ hown => ?_)
    refine h.ownedOrder hs ho hown fun orders hok => ?_
    obtain ⟨x, hx, rfl⟩ := map_ok hok
    exact rejectOrder_touches hx
  | advanceOrder _ orderId =>
    cases hd
    refine ShopDb.ite_keeps hrefl (ShopDb.withOwnedOrder_keeps hrefl fun shopBot o hs ho _ hown => ?_)
    refine h.ownedOrder hs ho hown fun orders hok => ?_
    cases hok
    exact advanceStatus_touches _ o
  | addProductStock _ data stock =>
    cases hd
    refine ShopDb.ite_keeps hrefl (ShopDb.withShop_keeps hrefl fun shopBot hs => ?_)
    split
    · refine ShopDb.commit_confined fun orders hok => ?_
      obtain ⟨x, hx, rfl⟩ := map_ok hok
      obtain ⟨p, -, hshop, -, hp⟩ := createProduct_ok hx
      rw [hp]
      exact confined_insertProduct (ShopDb.productOfShop_of_eq hs hshop)
    · exact hrefl
  | productBulkImportConfirm _ rows =>
    cases hd
    refine ShopDb.ite_keeps hrefl (ShopDb.withShop_keeps hrefl fun shopBot hs => ?_)
    exact ShopDb.commit_confined fun orders hok =>
      ShopDb.bulkCreate_confined (fun p => ShopDb.productOfShop_of_eq hs) hok
  | productDeleteConfirm _ productId =>
    cases hd
    refine ShopDb.ite_keeps hrefl (ShopDb.withShop_keeps hrefl fun shopBot hs => ?_)
    split
    · exact hrefl
    rename_i product hproduct
    obtain ⟨hfind, hshop⟩ := Option.filter_eq_some_iff.1 hproduct
    refine ShopDb.commit_confined fun orders hok => ?_
    rw [setProduct_ok hok]
    refine ShopDb.confined_ownProduct hs (Table.mem_of_find? hfind) (by simpa using hshop) _
  | editProductValue _ productId field value =>
    cases hd
    refine ShopDb.ite_keeps hrefl (ShopDb.withShop_keeps hrefl fun shopBot hs => ?_)
    split
    · refine ShopDb.commit_confined fun orders hok => ?_
      obtain ⟨edit, -, hok⟩ := bind_ok hok
      obtain ⟨x, hx, rfl⟩ := map_ok hok
      obtain hsame | ⟨p, hrow, hshop, hp⟩ := applyFieldEdit_ok hx
      · rw [hsame]
        exact confined_refl _
      · rw [hp]
        exact ShopDb.confined_ownProduct hs hrow hshop _
    · exact hrefl
  | _ => cases hd

/-- The order that a customer's button finds, and the rows around it. -/
theorem Tenanted.resolved (h : Tenanted s) {bot user : ℤ} {orderId : ℕ} {order : OrderConsultation}
    (hr : s.db.resolveAwaitingOrder bot user orderId = some order) :
    order ∈ s.db.orders.rows ∧ some order.customerId = (s.db.customerOf bot user).map Customer.id ∧
      some order.shopBotId = (s.db.getByBotTelegramId bot).map ShopBot.id := by
  obtain ⟨shopBot, hshop, hr⟩ := Option.bind_eq_some_iff.1 hr
  obtain ⟨c, hc, hr⟩ := Option.bind_eq_some_iff.1 hr
  obtain ⟨hfind, -, hcust, -⟩ := getAwaiting_some hr
  have ho : order ∈ s.db.orders.rows := Table.mem_of_find? hfind
  obtain ⟨hrow, hcs, -⟩ := ShopDb.getCustomer_some hc
  obtain ⟨c', hc', hid, hcs'⟩ := h.customer order ho
  have hsame : c' = c := Table.eq_of_id_eq hc' hrow (hid.trans hcust)
  unfold ShopDb.customerOf
  rw [hshop, Option.bind_some, hc, hcust, ← hcs', hsame, hcs]
  exact ⟨ho, rfl, rfl⟩

/-- **The buttons of a customer** write orders of that customer and products of that shop. -/
theorem Tenanted.customer_confined (h : Tenanted s) {d : Delivery} {bot user : ℤ}
    (hd : d.update.customer = some (bot, user)) :
    Confined (fun o => some o.customerId = (s.db.customerOf bot user).map Customer.id)
      (fun p => some p.shopBotId = (s.db.getByBotTelegramId bot).map ShopBot.id)
      s.db.orderDb (s.db.handle d).orderDb := by
  have hrefl := confined_refl
    (P := fun o => some o.customerId = (s.db.customerOf bot user).map Customer.id)
    (Q := fun p => some p.shopBotId = (s.db.getByBotTelegramId bot).map ShopBot.id) s.db.orderDb
  have horder : ∀ {orderId order}, s.db.resolveAwaitingOrder bot user orderId = some order →
      ∀ orders, Edited (touches order) s.db.orderDb orders →
      Confined (fun o => some o.customerId = (s.db.customerOf bot user).map Customer.id)
        (fun p => some p.shopBotId = (s.db.getByBotTelegramId bot).map ShopBot.id)
        s.db.orderDb orders := by
    intro orderId order hr orders hed
    obtain ⟨ho, hcust, hshop⟩ := h.resolved hr
    refine confined_of_touches (fun o c ho' => by rw [OrderChange.write_customerId, ho'])
      (fun p c hp => by rw [ProductChange.write_shopBotId, hp]) (fun o ho' hid => ?_)
      (fun p hp hid => ?_) hed
    · rw [Table.eq_of_id_eq ho' ho hid]
      exact hcust
    · obtain ⟨q, hq, hqid, hqs⟩ := h.product order ho p.id hid
      rw [← Table.eq_of_id_eq hq hp hqid, hqs]
      exact hshop
  obtain ⟨update, admitted, sent⟩ := d
  cases update with
  | customerConfirmOrder now _ _ orderId =>
    cases hd
    unfold ShopDb.handle ShopDb.cbCustomerConfirmOrder
    dsimp only
    split
    · exact hrefl
    · rename_i order hr
      exact ShopDb.commit_confined fun orders hok =>
        horder hr orders (customerConfirmOrder_touches hok)
  | customerCancelOrder _ _ orderId =>
    cases hd
    unfold ShopDb.handle ShopDb.cbCustomerCancelOrder
    dsimp only
    split
    · exact hrefl
    · rename_i order hr
      refine ShopDb.commit_confined fun orders hok => ?_
      cases hok
      exact horder hr _ (customerCancelOrder_touches _ _)
  | _ => cases hd

theorem step_of_owner {fmt : PyJson → String} {d : Delivery} {user : ℤ}
    (hd : d.update.owner = some user) :
    Bots.step fmt s d = some { s with db := s.db.handle d } := by
  obtain ⟨update, admitted, sent⟩ := d
  cases update <;> first | rfl | cases hd

theorem step_of_customer {fmt : PyJson → String} {d : Delivery} {bot user : ℤ}
    (hd : d.update.customer = some (bot, user)) :
    Bots.step fmt s d = some { s with db := s.db.handle d } := by
  obtain ⟨update, admitted, sent⟩ := d
  cases update <;> first | rfl | cases hd

/-- Nothing ordered yet. -/
structure Fresh (s : Bots) : Prop where
  no_orders : s.db.orders.rows = []
  no_detections : s.detections = []

/-- **Tenant isolation.** In every state the bots can reach, every order's product and customer
belong to the shop of the order.  There, an update that an owner sends to the product and order
handlers changes no product and no order of another shop, whatever ids it carries, and a customer's
button changes no order of another customer and no product of another shop. -/
theorem tenant_isolation (fmt : PyJson → String) (s₀ s : Bots) (hs₀ : s₀.Fresh)
    (updates : List Delivery) (hrun : Runs.exec (Bots.step fmt) s₀ updates = some s) :
    Tenanted s ∧ ∀ d s', Bots.step fmt s d = some s' →
      (∀ user, d.update.owner = some user →
        (∀ p : Product, some p.shopBotId ≠ (s.db.shopOf user).map ShopBot.id →
          (p ∈ s'.db.products.rows ↔ p ∈ s.db.products.rows)) ∧
        ∀ o : OrderConsultation, some o.shopBotId ≠ (s.db.shopOf user).map ShopBot.id →
          (o ∈ s'.db.orders.rows ↔ o ∈ s.db.orders.rows)) ∧
      ∀ bot user, d.update.customer = some (bot, user) →
        (∀ o : OrderConsultation, some o.customerId ≠ (s.db.customerOf bot user).map Customer.id →
          (o ∈ s'.db.orders.rows ↔ o ∈ s.db.orders.rows)) ∧
        ∀ p : Product, some p.shopBotId ≠ (s.db.getByBotTelegramId bot).map ShopBot.id →
          (p ∈ s'.db.products.rows ↔ p ∈ s.db.products.rows) := by
  have h : Tenanted s := by
    refine Runs.exec_inv_of_step (I := Tenanted) (fun s d s' h hs => h.step hs) updates s₀ s ?_ hrun
    refine ⟨fun o ho => ?_, fun o ho => ?_, fun t ht => ?_⟩
    · rw [hs₀.no_orders] at ho
      cases ho
    · rw [hs₀.no_orders] at ho
      cases ho
    · rw [hs₀.no_detections] at ht
      cases ht
  refine ⟨h, fun d s' hs => ⟨fun user hd => ?_, fun bot user hd => ?_⟩⟩
  · have hconf := h.owner_confined hd
    rw [step_of_owner hd] at hs
    cases hs
    exact ⟨fun p hp => hconf.product p hp, fun o ho => hconf.order o ho⟩
  · have hconf := h.customer_confined hd
    rw [step_of_customer hd] at hs
    cases hs
    exact ⟨fun o ho => hconf.order o ho, fun p hp => hconf.product p hp⟩

/-- A tea shop and a rug shop. -/
def twoShops : Bots :=
  { db :=
      { owners := ⟨[{ id := 1, telegramId := 100 }, { id := 2, telegramId := 200 }], by decide⟩
        referrals := .empty
        shops := ⟨[{ id := 1, shopOwnerId := 1, encryptedToken := "a", botTelegramId := 501,
                     botUsername := "tea_bot", webhookSecretToken := "x" },
                   { id := 2, shopOwnerId := 2, encryptedToken := "b", botTelegramId := 502,
                     botUsername := "rug_bot", webhookSecretToken := "y" }], by decide⟩
        customers := .empty
        products := ⟨[{ id := 1, shopBotId := 1, name := "tea", priceToman := 10,
                        stockQuantity := some 5 },
                      { id := 2, shopBotId := 2, name := "rug", priceToman := 90 }], by decide⟩
        orders := .empty
        settings := {} }
    detections := [] }

/-- A customer orders tea. -/
def teaOrder : List Delivery :=
  [⟨.customerMessage 0 501 900 none none, true, true⟩, ⟨.reply 1 1 900, true, true⟩,
    ⟨.detectOrder 2 0 (some (.dict [("status", .str "completed"), ("type", .str "order"),
      ("summary", .str "tea"), ("product_id", .int 1), ("quantity", .int 2)])), true, true⟩,
    ⟨.customerConfirmOrder 3 501 900 1, true, true⟩]

/-- The owner of the rug shop presses the button of that order. -/
theorem tenant_isolation_twoShops :
    ∃ s s', Runs.exec (Bots.step fun _ => "") twoShops teaOrder = some s ∧
      s.db.orders.rows.map OrderConsultation.status = [.PENDING] ∧
      Bots.step (fun _ => "") s ⟨.confirmOrder 9 200 1, true, true⟩ = some s' ∧
      ∀ o : OrderConsultation, o.shopBotId = 1 → (o ∈ s'.db.orders.rows ↔ o ∈ s.db.orders.rows) := by
  refine ⟨_, _, rfl, by decide +kernel, rfl, fun o ho => ?_⟩
  refine (((tenant_isolation _ twoShops _ ⟨rfl, rfl⟩ teaOrder rfl).2
    ⟨.confirmOrder 9 200 1, true, true⟩ _ rfl).1 200 rfl).2 o ?_
  rw [ho]
  decide +kernel

end Bots

end KasbOKar
