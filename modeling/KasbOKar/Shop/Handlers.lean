import KasbOKar.Lib.Runs
import KasbOKar.Order.Detection
import KasbOKar.Shop.Tables

/-!
# The handlers for products and orders

The handlers that write products, orders or the rows they belong to: the order buttons of
`handlers/panel.py`, the product handlers of `handlers/products.py`, the customer's buttons and the
background tasks of `shop_bot/handlers/customer.py`, and `process_order_expiry`.  An id in
`callback_data` or in the FSM data is part of the update and may be any number; one that does not
parse, or names no row, finds nothing.

`sent` says that no call to Telegram raises where the handler does not catch it: only then is the
session of the handler committed.  `admitted` is the verdict of `ChannelGateMiddleware`, which
stands before the handlers of the main bot.
-/

namespace KasbOKar

/-- What the steps of `ProductStates` have put into the FSM data. -/
structure ProductData where
  name : Option String := none
  description : Option String := none
  priceToman : Option ℤ := none
  photoFileId : Option String := none

/-- A row of an imported sheet. -/
structure ImportRow where
  name : String
  description : Option String
  priceToman : ℤ
  stockQuantity : Option ℕ

inductive ProductField where
  | name
  | description
  | price
  | photo
  | stock

/-- The value that `edit_product_value_text` or `edit_product_value_photo` passes on. -/
inductive FieldValue where
  | str (s : String)
  | int (n : ℤ)
  | none

namespace OrderDb

/-- `setattr(product, field_attr, value)`: the driver refuses a value of the wrong type. -/
def fieldEdit : ProductField → FieldValue → Except PyError FieldEdit
  | .name, .str s => .ok (.name s)
  | .description, .str s => .ok (.description s)
  | .price, .int n => .ok (.price n)
  | .photo, .str s => .ok (.photo s)
  | .stock, .int n => .ok (.stock (some n.toNat))
  | .stock, .none => .ok (.stock none)
  | _, _ => .error .DataError

/-- `bulk_create`. -/
def bulkCreate (db : OrderDb) (shopBotId : ℕ) (rows : List ImportRow) : Except PyError OrderDb :=
  rows.foldlM (fun db row => (db.createProduct shopBotId row.name row.description row.priceToman none
    row.stockQuantity).map Prod.fst) db

/-- `soft_delete`. -/
def softDelete (db : OrderDb) (product : Product) : Except PyError OrderDb :=
  db.setProduct product.id .deactivate

/-- `get_owned_by_id` of `order_service.py`. -/
def getOwnedOrder (db : OrderDb) (orderId shopBotId : ℕ) : Option OrderConsultation :=
  (db.orders.find? orderId).filter fun o => o.shopBotId == shopBotId

/-- `get_recent_duplicate`. -/
def getRecentDuplicate (db : OrderDb) (now : Datetime) (customerId : ℕ) (orderType : OrderType)
    (productId : Option ℕ) (n : ℤ) : Except PyError (Option OrderConsultation) := do
  let cutoff ← datetimeAdd now (-minutes n)
  return (orderBy (fun o => -(o.id : ℤ)) (db.orders.rows.filter fun o =>
    o.customerId == customerId && decide (cutoff < o.createdAt) && o.type == orderType &&
    o.productId == productId)).head?

end OrderDb

namespace ShopDb

/-- The end of a session that wrote products and orders. -/
def commit (db : ShopDb) (sent : Bool) (x : Except PyError OrderDb) : ShopDb :=
  match x with
  | .error _ => db
  | .ok orders => if sent then db.withOrders orders else db

/-! ## The owner's orders -/

/-- The first lines of the three order handlers: the order must belong to the shop of the user. -/
def withOwnedOrder (db : ShopDb) (user : ℤ) (orderId : ℕ)
    (handle : OrderConsultation → ShopDb) : ShopDb :=
  match db.shopOf user with
  | none => db
  | some shopBot =>
    match db.orderDb.getOwnedOrder orderId shopBot.id with
    | none => db
    | some order => handle order

/-- `cb_confirm_order`. -/
def cbConfirmOrder (db : ShopDb) (sent : Bool) (now : Datetime) (user : ℤ) (orderId : ℕ) : ShopDb :=
  db.withOwnedOrder user orderId fun order =>
    if order.confirmed then db
    else db.commit sent ((db.orderDb.confirmOrder now order).map Prod.fst)

/-- `cb_reject_order`. -/
def cbRejectOrder (db : ShopDb) (sent : Bool) (user : ℤ) (orderId : ℕ) : ShopDb :=
  db.withOwnedOrder user orderId fun order =>
    db.commit sent ((db.orderDb.rejectOrder order).map Prod.fst)

/-- `cb_advance_order`. -/
def cbAdvanceOrder (db : ShopDb) (sent : Bool) (user : ℤ) (orderId : ℕ) : ShopDb :=
  db.withOwnedOrder user orderId fun order =>
    db.commit sent (.ok (db.orderDb.advanceStatus order).1)

/-! ## The owner's products -/

/-- `_require_shop_bot`. -/
def withShop (db : ShopDb) (user : ℤ) (handle : ShopBot → ShopDb) : ShopDb :=
  match db.shopOf user with
  | none => db
  | some shopBot => handle shopBot

/-- `add_product_stock` with a valid stock, and `_finalize_new_product`. -/
def addProductStock (db : ShopDb) (sent : Bool) (user : ℤ) (data : ProductData)
    (stockQuantity : Option ℕ) : ShopDb :=
  db.withShop user fun shopBot =>
    match data.name, data.priceToman with
    | some name, some priceToman => db.commit sent ((db.orderDb.createProduct shopBot.id name
        data.description priceToman data.photoFileId stockQuantity).map Prod.fst)
    | _, _ => db

/-- `cb_product_bulk_import_confirm`. -/
def cbProductBulkImportConfirm (db : ShopDb) (sent : Bool) (user : ℤ) (rows : List ImportRow) :
    ShopDb :=
  db.withShop user fun shopBot => db.commit sent (db.orderDb.bulkCreate shopBot.id rows)

/-- `cb_product_delete_confirm`. -/
def cbProductDeleteConfirm (db : ShopDb) (sent : Bool) (user : ℤ) (productId : ℕ) : ShopDb :=
  db.withShop user fun shopBot =>
    match db.orderDb.getOwnedProduct productId shopBot.id with
    | none => db
    | some product => db.commit sent (db.orderDb.softDelete product)

/-- `edit_product_value_text` and `edit_product_value_photo`, with `_apply_field_edit`; the product
and the field are what `cb_product_edit_field` has put into the FSM data, if it has. -/
def editProductValue (db : ShopDb) (sent : Bool) (user : ℤ) (editProductId : Option ℕ)
    (editField : Option ProductField) (value : FieldValue) : ShopDb :=
  db.withShop user fun shopBot =>
    match editProductId, editField with
    | some productId, some field => db.commit sent do
        let edit ← OrderDb.fieldEdit field value
        (db.orderDb.applyFieldEdit productId shopBot.id edit).map Prod.fst
    | _, _ => db

/-! ## The customer's buttons -/

/-- `_resolve_awaiting_order_for_callback`. -/
def resolveAwaitingOrder (db : ShopDb) (bot user : ℤ) (orderId : ℕ) : Option OrderConsultation := do
  let shopBot ← db.getByBotTelegramId bot
  let customer ← db.getCustomer shopBot.id user
  db.orderDb.getAwaitingConfirmationForCustomer orderId customer.id

/-- `cb_customer_confirm_order`. -/
def cbCustomerConfirmOrder (db : ShopDb) (sent : Bool) (now : Datetime) (bot user : ℤ)
    (orderId : ℕ) : ShopDb :=
  match db.resolveAwaitingOrder bot user orderId with
  | none => db
  | some order => db.commit sent (db.orderDb.customerConfirmOrder now order)

/-- `cb_customer_cancel_order`. -/
def cbCustomerCancelOrder (db : ShopDb) (sent : Bool) (bot user : ℤ) (orderId : ℕ) : ShopDb :=
  match db.resolveAwaitingOrder bot user orderId with
  | none => db
  | some order => db.commit sent (.ok (db.orderDb.customerCancelOrder order))

/-- The lines that every message of a customer starts with. -/
def customerMessage (db : ShopDb) (sent : Bool) (now : Datetime) (bot user : ℤ)
    (firstName username : Option String) : ShopDb :=
  match db.getByBotTelegramId bot with
  | none => db
  | some shopBot =>
    match db.getOrCreateCustomer now shopBot.id user firstName username with
    | .error _ => db
    | .ok (db', _) => if sent then db' else db

/-! ## Background tasks -/

/-- What `_generate_and_send_reply` does to these tables when it comes to its end; the customer is
then handed to `_detect_and_notify_order`. -/
def generateReply (db : ShopDb) (now : Datetime) (shopBotId : ℕ) (user : ℤ) :
    Option (ShopDb × (ℕ × ℕ)) :=
  match db.shops.find? shopBotId with
  | none => none
  | some shopBot =>
    if !shopBot.isActive then none
    else
      match db.getOrCreateCustomer now shopBotId user none none with
      | .error _ => none
      | .ok (db', customer) => some (db', (shopBotId, customer.id))

/-- `_detect_and_notify_order`, from the answer of the classifier on; `none` is an answer that is
not JSON, a call that failed, or a task that ended before the call. -/
def detectAndNotifyOrder (fmt : PyJson → String) (db : ShopDb) (sent : Bool) (now : Datetime)
    (shopBotId customerId : ℕ) (answer : Option PyJson) : ShopDb :=
  match db.shops.find? shopBotId with
  | none => db
  | some shopBot =>
    match Detection.detectOrder fmt answer (db.getActiveByShopBot shopBotId)
      (shopBot.tenantMode == .CONSULTATION) with
    | .ok (some (.completed orderType summary estimatedValueToman productId quantity phone address)) =>
      match db.customers.find? customerId with
      | none => db
      | some _ => db.commit sent do
        let recent ← db.orderDb.getRecentDuplicate now customerId orderType productId 10
        if recent.isSome then return db.orderDb
        else (db.orderDb.createOrderAwaitingConfirmation now shopBotId customerId orderType summary
          estimatedValueToman productId quantity phone address).map Prod.fst
    | _ => db

/-- `process_order_expiry`. -/
def processOrderExpiry (db : ShopDb) (sent : Bool) (scan scan' : Scan OrderConsultation)
    (now now' : Datetime) : ShopDb :=
  db.commit sent do
    let stale ← db.orderDb.expireStaleCustomerConfirmations scan now
      db.settings.orderCustomerConfirmationTimeoutMinutes
    let expired ← stale.1.expireStaleReservations scan' now'
    return expired.1

end ShopDb

/-! ## Updates -/

/-- An update of one of the bots, a background task or a run of the scheduler. -/
inductive Update where
  | confirmOrder (now : Datetime) (user : ℤ) (orderId : ℕ)
  | rejectOrder (user : ℤ) (orderId : ℕ)
  | advanceOrder (user : ℤ) (orderId : ℕ)
  | addProductStock (user : ℤ) (data : ProductData) (stockQuantity : Option ℕ)
  | productBulkImportConfirm (user : ℤ) (rows : List ImportRow)
  | productDeleteConfirm (user : ℤ) (productId : ℕ)
  | editProductValue (user : ℤ) (editProductId : Option ℕ) (editField : Option ProductField)
      (value : FieldValue)
  | customerConfirmOrder (now : Datetime) (bot user : ℤ) (orderId : ℕ)
  | customerCancelOrder (bot user : ℤ) (orderId : ℕ)
  | customerMessage (now : Datetime) (bot user : ℤ) (firstName username : Option String)
  | reply (now : Datetime) (shopBotId : ℕ) (user : ℤ)
  /-- One of the tasks that are under way. -/
  | detectOrder (now : Datetime) (task : ℕ) (answer : Option PyJson)
  | orderExpiry (scan scan' : Scan OrderConsultation) (now now' : Datetime)
  /-- A step of the registration of an owner. -/
  | registerOwner (user : ℤ) (referredByCode : Option String) (code : String)
  /-- A token for the owner's shop: the bot it belongs to, as `get_me` returns it. -/
  | saveToken (user : ℤ) (encryptedToken : String) (botTelegramId : ℤ) (botUsername secret : String)
  | setTenantMode (user : ℤ) (mode : TenantMode)
  /-- A suspension, its end, or a polling task whose token was refused. -/
  | setActive (shopBotId : ℕ) (isActive : Bool)

namespace Update

/-- The owner who sent an update to a product or order handler of the main bot. -/
def owner : Update → Option ℤ
  | confirmOrder _ user _ => some user
  | rejectOrder user _ => some user
  | advanceOrder user _ => some user
  | addProductStock user _ _ => some user
  | productBulkImportConfirm user _ => some user
  | productDeleteConfirm user _ => some user
  | editProductValue user _ _ _ => some user
  | _ => none

/-- The bot and the customer of `cust_confirm_order` and `cust_cancel_order`. -/
def customer : Update → Option (ℤ × ℤ)
  | customerConfirmOrder _ bot user _ => some (bot, user)
  | customerCancelOrder bot user _ => some (bot, user)
  | _ => none

end Update

/-- An update with what the network makes of it. -/
structure Delivery where
  update : Update
  admitted : Bool := true
  sent : Bool := true

/-- The tables and the detection tasks under way: the shop and the customer of each. -/
structure Bots where
  db : ShopDb
  detections : List (ℕ × ℕ)

namespace ShopDb

/-- `save_shop_bot_token` on these tables. -/
def saveShopBotToken (db : ShopDb) (sent : Bool) (user : ℤ) (encryptedToken : String)
    (botTelegramId : ℤ) (botUsername secret : String) : ShopDb :=
  match db.ownerByTelegramId user with
  | none => db
  | some owner =>
    if (db.getByBotTelegramId botTelegramId).any fun s => s.shopOwnerId != owner.id then db
    else
      match db.upsertShopBot owner encryptedToken botTelegramId botUsername secret with
      | .error _ => db
      | .ok (db', _) => if sent then db' else db

/-- `cb_set_tenant_mode`. -/
def cbSetTenantMode (db : ShopDb) (sent : Bool) (user : ℤ) (mode : TenantMode) : ShopDb :=
  db.withShop user fun shopBot =>
    if sent then
      { db with shops := db.shops.modify shopBot.id fun s => { s with tenantMode := mode } }
    else db

/-- A write of `shop_bots.is_active`. -/
def setActive (db : ShopDb) (shopBotId : ℕ) (isActive : Bool) : ShopDb :=
  { db with shops := db.shops.modify shopBotId fun s => { s with isActive := isActive } }

/-- A call of `get_or_create_shop_owner` by one of the registration handlers. -/
def registerOwner (db : ShopDb) (sent : Bool) (user : ℤ) (referredByCode : Option String)
    (code : String) : ShopDb :=
  match db.getOrCreateShopOwner user referredByCode code with
  | .error _ => db
  | .ok (db', _) => if sent then db' else db

/-- The handlers that only write tables. -/
def handle (db : ShopDb) (d : Delivery) : ShopDb :=
  match d.update with
  | .confirmOrder now user orderId =>
    if d.admitted then db.cbConfirmOrder d.sent now user orderId else db
  | .rejectOrder user orderId => if d.admitted then db.cbRejectOrder d.sent user orderId else db
  | .advanceOrder user orderId => if d.admitted then db.cbAdvanceOrder d.sent user orderId else db
  | .addProductStock user data stock =>
    if d.admitted then db.addProductStock d.sent user data stock else db
  | .productBulkImportConfirm user rows =>
    if d.admitted then db.cbProductBulkImportConfirm d.sent user rows else db
  | .productDeleteConfirm user productId =>
    if d.admitted then db.cbProductDeleteConfirm d.sent user productId else db
  | .editProductValue user productId field value =>
    if d.admitted then db.editProductValue d.sent user productId field value else db
  | .customerConfirmOrder now bot user orderId => db.cbCustomerConfirmOrder d.sent now bot user orderId
  | .customerCancelOrder bot user orderId => db.cbCustomerCancelOrder d.sent bot user orderId
  | .customerMessage now bot user firstName username =>
    db.customerMessage d.sent now bot user firstName username
  | .reply _ _ _ => db
  | .detectOrder _ _ _ => db
  | .orderExpiry scan scan' now now' => db.processOrderExpiry d.sent scan scan' now now'
  | .registerOwner user referredByCode code => db.registerOwner d.sent user referredByCode code
  | .saveToken user encryptedToken botTelegramId botUsername secret =>
    if d.admitted then
      db.saveShopBotToken d.sent user encryptedToken botTelegramId botUsername secret
    else db
  | .setTenantMode user mode => if d.admitted then db.cbSetTenantMode d.sent user mode else db
  | .setActive shopBotId isActive => db.setActive shopBotId isActive

end ShopDb

namespace Bots

/-- One update.  A reply leaves a detection task behind, a detection task ends with its step. -/
def step (fmt : PyJson → String) (s : Bots) (d : Delivery) : Option Bots :=
  match d.update with
  | .reply now shopBotId user =>
    match s.db.generateReply now shopBotId user with
    | none => some s
    | some (db, task) => some { db := db, detections := s.detections ++ [task] }
  | .detectOrder now task answer =>
    match s.detections[task]? with
    | none => none
    | some (shopBotId, customerId) => some
        { db := s.db.detectAndNotifyOrder fmt d.sent now shopBotId customerId answer,
          detections := s.detections.eraseIdx task }
  | _ => some { s with db := s.db.handle d }

end Bots

end KasbOKar
