import KasbOKar.Order.Service

/-!
# Owners, shops and customers

The tables that the handlers of both bots share, and the look-ups of `shop_owner_service.py`,
`shop_bot_service.py` and `customer_service.py`.  The columns `shop_owners.telegram_id`,
`shop_bots.shop_owner_id` and `shop_bots.bot_telegram_id` are unique, so a `scalar_one_or_none`
returns the first row that matches.

`orderDb` is the part of the tables that the order service works on.
-/

namespace KasbOKar

structure ShopDb where
  owners : Table ShopOwner
  referrals : Table Referral
  shops : Table ShopBot
  customers : Table Customer
  products : Table Product
  orders : Table OrderConsultation
  settings : AdminSettings

namespace ShopDb

/-- The tables of the order service. -/
def orderDb (db : ShopDb) : OrderDb :=
  { products := db.products, orders := db.orders, shopBots := db.shops.ids,
    customers := db.customers.ids, settings := db.settings }

/-- The tables after the order service has written to its part. -/
def withOrders (db : ShopDb) (orders : OrderDb) : ShopDb :=
  { db with products := orders.products, orders := orders.orders }

@[simp] theorem withOrders_products (db : ShopDb) (odb : OrderDb) :
    (db.withOrders odb).products = odb.products := rfl

@[simp] theorem withOrders_orders (db : ShopDb) (odb : OrderDb) :
    (db.withOrders odb).orders = odb.orders := rfl

@[simp] theorem withOrders_customers (db : ShopDb) (odb : OrderDb) :
    (db.withOrders odb).customers = db.customers := rfl

@[simp] theorem withOrders_shops (db : ShopDb) (odb : OrderDb) :
    (db.withOrders odb).shops = db.shops := rfl

/-! ## Look-ups -/

/-- `shop_owner_service.get_by_telegram_id`. -/
def ownerByTelegramId (db : ShopDb) (telegramId : ℤ) : Option ShopOwner :=
  db.owners.rows.find? fun o => o.telegramId == telegramId

/-- `shop_owner_service.get_by_referral_code`. -/
def ownerByReferralCode (db : ShopDb) (code : String) : Option ShopOwner :=
  db.owners.rows.find? fun o => o.referralCode == code

/-- `shop_bot_service.get_by_owner`. -/
def getByOwner (db : ShopDb) (owner : ShopOwner) : Option ShopBot :=
  db.shops.rows.find? fun s => s.shopOwnerId == owner.id

/-- `shop_bot_service.get_by_bot_telegram_id`. -/
def getByBotTelegramId (db : ShopDb) (botTelegramId : ℤ) : Option ShopBot :=
  db.shops.rows.find? fun s => s.botTelegramId == botTelegramId

/-- `_current_owner` and `get_by_owner`: the shop of the user who sent an update. -/
def shopOf (db : ShopDb) (user : ℤ) : Option ShopBot :=
  (db.ownerByTelegramId user).bind db.getByOwner

/-- `customer_service.get_by_shop_bot_and_telegram_id`. -/
def getCustomer (db : ShopDb) (shopBotId : ℕ) (telegramId : ℤ) : Option Customer :=
  db.customers.rows.find? fun c => c.shopBotId == shopBotId && c.telegramId == telegramId

theorem getCustomer_some {db : ShopDb} {shopBotId : ℕ} {telegramId : ℤ} {c : Customer}
    (h : db.getCustomer shopBotId telegramId = some c) :
    c ∈ db.customers.rows ∧ c.shopBotId = shopBotId ∧ c.telegramId = telegramId := by
  have hp := List.find?_some h
  simp only [Bool.and_eq_true, beq_iff_eq] at hp
  exact ⟨List.mem_of_find?_eq_some h, hp.1, hp.2⟩

/-- `product_service.get_active_by_shop_bot`, ordered by key. -/
def getActiveByShopBot (db : ShopDb) (shopBotId : ℕ) : List Product :=
  orderBy (fun p => (p.id : ℤ)) (db.products.rows.filter fun p => p.shopBotId == shopBotId && p.isActive)

theorem mem_getActiveByShopBot {db : ShopDb} {shopBotId : ℕ} {p : Product} :
    p ∈ db.getActiveByShopBot shopBotId ↔
      p ∈ db.products.rows ∧ p.shopBotId = shopBotId ∧ p.isActive = true := by
  unfold getActiveByShopBot
  rw [(orderBy_perm _ _).mem_iff, List.mem_filter]
  simp only [Bool.and_eq_true, beq_iff_eq]

/-! ## Owners -/

/-- The owner whose code a new user came with; an empty code counts as none. -/
def referrerOf (db : ShopDb) (referredByCode : Option String) : Option ℕ :=
  match referredByCode with
  | none => none
  | some code => if code = "" then none else (db.ownerByReferralCode code).map ShopOwner.id

/-- The row that `get_or_create_shop_owner` inserts. -/
def newOwner (db : ShopDb) (telegramId : ℤ) (referredByCode : Option String) (code : String) :
    ShopOwner :=
  { id := db.owners.nextId, telegramId := telegramId, referralCode := code,
    referredById := db.referrerOf referredByCode }

/-- `get_or_create_shop_owner`.  `code` is the code its loop ends with. -/
def getOrCreateShopOwner (db : ShopDb) (telegramId : ℤ) (referredByCode : Option String)
    (code : String) : Except PyError (ShopDb × ShopOwner) :=
  match db.ownerByTelegramId telegramId with
  | some owner => .ok (db, owner)
  | none =>
    if (db.ownerByReferralCode code).isSome ∨ 16 < code.length then .error .IntegrityError
    else
      let owner := db.newOwner telegramId referredByCode code
      let referrals :=
        match owner.referredById with
        | none => db.referrals
        | some referrerId => db.referrals.insert { referredId := owner.id, referrerId := referrerId }
      .ok ({ db with owners := db.owners.insert owner, referrals := referrals }, owner)

/-! ## Customers -/

/-- The row that `get_or_create_customer` inserts. -/
def newCustomer (db : ShopDb) (now : Datetime) (shopBotId : ℕ) (telegramId : ℤ)
    (firstName username : Option String) : Customer :=
  { id := db.customers.nextId, shopBotId := shopBotId, telegramId := telegramId,
    firstName := firstName, username := username, lastMessageAt := some now }

/-- The columns that `get_or_create_customer` updates: a name only if there is a new one. -/
def seenAgain (now : Datetime) (firstName username : Option String) (c : Customer) : Customer :=
  { c with firstName := firstName.or c.firstName, username := username.or c.username,
           lastMessageAt := some now }

/-- `get_or_create_customer`. -/
def getOrCreateCustomer (db : ShopDb) (now : Datetime) (shopBotId : ℕ) (telegramId : ℤ)
    (firstName username : Option String) : Except PyError (ShopDb × Customer) :=
  if firstName.any (fun s => 255 < s.length) ∨ username.any (fun s => 255 < s.length) then
    .error .DataError
  else
    match db.getCustomer shopBotId telegramId with
    | some c =>
      let seen := seenAgain now firstName username
      .ok ({ db with customers := db.customers.modify c.id seen }, seen c)
    | none =>
      if shopBotId ∉ db.shops.ids then .error .IntegrityError
      else
        let c := db.newCustomer now shopBotId telegramId firstName username
        .ok ({ db with customers := db.customers.insert c }, c)

/-! ## Shops -/

/-- `upsert_shop_bot`: a shop that exists becomes active again.  `encryptedToken` and `secret` are
what `encrypt_token` and `secrets.token_urlsafe` return. -/
def upsertShopBot (db : ShopDb) (owner : ShopOwner) (encryptedToken : String) (botTelegramId : ℤ)
    (botUsername secret : String) : Except PyError (ShopDb × ShopBot) :=
  if 255 < botUsername.length then .error .DataError
  else
    match db.getByOwner owner with
    | none =>
      let shopBot : ShopBot :=
        { id := db.shops.nextId, shopOwnerId := owner.id, encryptedToken := encryptedToken,
          botTelegramId := botTelegramId, botUsername := botUsername, webhookSecretToken := secret }
      if db.shops.rows.any (fun s => s.botTelegramId == botTelegramId) then .error .IntegrityError
      else .ok ({ db with shops := db.shops.insert shopBot }, shopBot)
    | some shopBot =>
      let set := fun s : ShopBot =>
        { s with encryptedToken := encryptedToken, botTelegramId := botTelegramId,
                 botUsername := botUsername, isActive := true, disabledReason := none }
      if db.shops.rows.any (fun s => s.botTelegramId == botTelegramId && s.id != shopBot.id) then
        .error .IntegrityError
      else .ok ({ db with shops := db.shops.modify shopBot.id set }, set shopBot)

end ShopDb

end KasbOKar
