import KasbOKar.Chat.Handlers
import KasbOKar.Wallet.Transactions

/-!
# The detection task as a transaction

`_detect_and_notify_order` statement by statement, in its own session: what it reads before and after
the classifier has answered, the charge for the call, the notice to the owner, the duplicate check and
the candidate.  `solo_detectAndNotifyTx` says that a task that runs alone does what the function of
`Chat.Handlers` does.

`created_at` is a default of the server, `now()`, which is the time at which the transaction began;
`startedAt` is this time and `env.now` the later one at which the task looks for duplicates.
-/

namespace KasbOKar

open ReadCommitted

/-- The row changes of the task. -/
inductive ChatEdit where
  | wallet (e : WalletEdit)
  | order (e : OrderEdit)
  /-- `UPDATE shop_owners SET wallet_empty_notified_at = …` -/
  | notifiedEmpty (ownerId : ℕ) (now : Datetime)
  /-- `UPDATE shop_owners SET wallet_low_balance_notified_at = …` -/
  | notifiedLow (ownerId : ℕ) (now : Datetime)
  /-- `INSERT INTO conversation_messages` -/
  | insertMessage (m : ConversationMessage)
  deriving DecidableEq

/-- The address of a row. -/
inductive ChatRow where
  | wallet (r : WalletRow)
  | order (r : OrderRow)
  | message (id : ℕ)
  deriving DecidableEq

/-- The content of a row. -/
inductive ChatRecord where
  | wallet (r : WalletRecord)
  | order (r : OrderRecord)
  | message (m : ConversationMessage)
  deriving DecidableEq

namespace ChatEdit

/-- The row an edit writes. -/
def row : ChatEdit → ChatRow
  | wallet e => .wallet e.row
  | order e => .order e.row
  | notifiedEmpty ownerId _ => .wallet (.owner ownerId)
  | notifiedLow ownerId _ => .wallet (.owner ownerId)
  | insertMessage m => .message m.id

/-- The edits that insert a row. -/
def isNew : ChatEdit → Bool
  | wallet e => e.isNew
  | order e => e.isNew
  | insertMessage _ => true
  | _ => false

end ChatEdit

namespace ChatDb

/-- The effect of an edit. -/
def apply (db : ChatDb) : ChatEdit → ChatDb
  | .wallet e => db.withWallet (db.walletDb.apply e)
  | .order e => db.withShopDb (db.withOrders (db.orderDb.apply e))
  | .notifiedEmpty ownerId now =>
    db.setOwner ownerId (fun o => { o with walletEmptyNotifiedAt := some now }) fun _ => rfl
  | .notifiedLow ownerId now =>
    db.setOwner ownerId (fun o => { o with walletLowBalanceNotifiedAt := some now }) fun _ => rfl
  | .insertMessage m => { db with messages := db.messages.insert m }

/-- The content of a row. -/
def get (db : ChatDb) : ChatRow → Option ChatRecord
  | .wallet r => (db.walletDb.get r).map .wallet
  | .order r => (db.orderDb.get r).map .order
  | .message i => (db.messages.find? i).map .message

/-- A write to an owner leaves the other rows. -/
theorem get_setOwner_of_ne (db : ChatDb) {ownerId : ℕ} {f : ShopOwner → ShopOwner}
    (hf : ∀ o, (f o).id = o.id) {k : ChatRow} (h : k ≠ .wallet (.owner ownerId)) :
    (db.setOwner ownerId f hf).get k = db.get k := by
  cases k with
  | wallet r =>
    cases r with
    | owner i =>
      have hi : i ≠ ownerId := fun hi => h (by rw [hi])
      exact congrArg (fun x => (x.map WalletRecord.owner).map ChatRecord.wallet)
        (Table.find?_modify_of_ne hf hi)
    | _ => rfl
  | _ => rfl

theorem get_wallet_eq {db db' : ChatDb} {r : WalletRow} (h : db'.get (.wallet r) = db.get (.wallet r)) :
    db'.walletDb.get r = db.walletDb.get r :=
  Option.map_injective (fun _ _ h => by cases h; rfl) h

theorem get_order_eq {db db' : ChatDb} {r : OrderRow} (h : db'.get (.order r) = db.get (.order r)) :
    db'.orderDb.get r = db.orderDb.get r :=
  Option.map_injective (fun _ _ h => by cases h; rfl) h

theorem get_setOwner_self {db db' : ChatDb} {ownerId : ℕ} {f : ShopOwner → ShopOwner}
    (hf : ∀ o, (f o).id = o.id)
    (h : db'.get (.wallet (.owner ownerId)) = db.get (.wallet (.owner ownerId))) :
    (db'.setOwner ownerId f hf).get (.wallet (.owner ownerId)) =
      (db.setOwner ownerId f hf).get (.wallet (.owner ownerId)) := by
  have howner : db'.owners.find? ownerId = db.owners.find? ownerId :=
    WalletDb.get_owner_eq (get_wallet_eq h)
  have hfind : (db'.owners.modify ownerId f hf).find? ownerId =
      (db.owners.modify ownerId f hf).find? ownerId := by
    rw [Table.find?_modify, Table.find?_modify, howner]
  exact congrArg (fun x => (x.map WalletRecord.owner).map ChatRecord.wallet) hfind

theorem get_apply_of_ne (db : ChatDb) (e : ChatEdit) (k : ChatRow) (h : k ≠ e.row) :
    (db.apply e).get k = db.get k := by
  cases e with
  | wallet e =>
    cases k with
    | wallet r =>
      have hr : r ≠ e.row := fun hr => h (congrArg _ hr)
      exact congrArg (Option.map ChatRecord.wallet) (WalletDb.get_apply_of_ne db.walletDb e r hr)
    | _ => rfl
  | order e =>
    cases k with
    | order r =>
      have hr : r ≠ e.row := fun hr => h (congrArg _ hr)
      exact congrArg (Option.map ChatRecord.order) (OrderDb.get_apply_of_ne db.orderDb e r hr)
    | _ => rfl
  | notifiedEmpty i now => exact get_setOwner_of_ne db _ h
  | notifiedLow i now => exact get_setOwner_of_ne db _ h
  | insertMessage m =>
    cases k with
    | message i =>
      have hi : i ≠ Keyed.id m := fun hi => h (congrArg _ hi)
      exact congrArg (Option.map ChatRecord.message) (Table.find?_insert_of_ne hi)
    | _ => rfl

theorem get_apply_row (db db' : ChatDb) (e : ChatEdit) (h : db'.get e.row = db.get e.row) :
    (db'.apply e).get e.row = (db.apply e).get e.row := by
  cases e with
  | wallet e =>
    exact congrArg (Option.map ChatRecord.wallet)
      (WalletDb.get_apply_row db.walletDb db'.walletDb e (get_wallet_eq h))
  | order e =>
    exact congrArg (Option.map ChatRecord.order)
      (OrderDb.get_apply_row db.orderDb db'.orderDb e (get_order_eq h))
  | notifiedEmpty i now => exact get_setOwner_self _ h
  | notifiedLow i now => exact get_setOwner_self _ h
  | insertMessage m =>
    have hm : db'.messages.find? m.id = db.messages.find? m.id :=
      Option.map_injective (fun _ _ h => by cases h; rfl) h
    have hfind : (db'.messages.insert m).find? m.id = (db.messages.insert m).find? m.id := by
      rw [Table.find?_insert, Table.find?_insert, hm]
    exact congrArg (Option.map ChatRecord.message) hfind

instance : Store ChatDb ChatEdit ChatRow ChatRecord where
  apply := apply
  row := ChatEdit.row
  isNew := ChatEdit.isNew
  get := get
  get_apply_of_ne := get_apply_of_ne
  get_apply_row := get_apply_row

end ChatDb

/-- A task returns the candidate it has created, if it has. -/
abbrev ChatProg := Prog ChatDb ChatEdit ChatRow (Option OrderConsultation)

namespace ChatResult

/-- The rest of a session, unless an exception has ended it. -/
def andEnd {α : Type} (r : ChatResult) (f : ChatDb → Option α) : Option α :=
  if r.raised.isSome then none else f r.db

theorem andThen_andEnd {α : Type} (r : ChatResult) (g : ChatDb → ChatResult) (f : ChatDb → Option α) :
    (r.andThen g).andEnd f = r.andEnd fun db => (g db).andEnd f := by
  obtain ⟨db, log, raised⟩ := r
  cases raised <;> rfl

theorem map_andEnd {α β : Type} (r : ChatResult) (f : ChatDb → Option α) (g : α → β) :
    (r.andEnd f).map g = r.andEnd fun db => (f db).map g := by
  unfold andEnd
  split_ifs <;> rfl

end ChatResult

namespace ChatDb

variable (env : ChatEnv)

/-! ## The program -/

/-- A message under `except TelegramAPIError`. -/
def sendLoggedTx (notice : ChatNotice) (k : ChatProg) : ChatProg :=
  match env.send notice with
  | none => k
  | some .TelegramAPIError => k
  | some _ => .rollback

/-- `try_claim_empty_notification` and `try_claim_low_balance_notification`, and the notice: the
`UPDATE` waits for a row that meets its `WHERE` clause and then looks at the newest version. -/
def claimTx (ownerId : ℕ) (notifiedAt : ShopOwner → Option Datetime) (n : ℤ) (edit : ChatEdit)
    (notice : ChatNotice) (k : ChatProg) : ChatProg :=
  .read fun db =>
    if (db.owners.find? ownerId).any fun o => claimable (notifiedAt o) env.now n then
      .lock (.wallet (.owner ownerId)) fun db =>
        if (db.owners.find? ownerId).any fun o => claimable (notifiedAt o) env.now n then
          .exec edit (sendLoggedTx env notice k)
        else k
    else k

/-- The lines of `_deduct_and_notify` after the deduction, for the balance that the task knows. -/
def notifyBalanceTx (settings : AdminSettings) (ownerId : ℕ) (balance : ℤ) (k : ChatProg) : ChatProg :=
  if balance ≤ 0 then
    claimTx env ownerId ShopOwner.walletEmptyNotifiedAt emptyRenotifyHours
      (.notifiedEmpty ownerId env.now) .walletEmpty k
  else if balance < settings.walletLowBalanceWarningToman then
    claimTx env ownerId ShopOwner.walletLowBalanceNotifiedAt lowBalanceRenotifyHours
      (.notifiedLow ownerId env.now) (.walletLowBalance balance) k
  else k

/-- The balance after `deduct`: the one that its `UPDATE` returned, or, without an `UPDATE`, still the
one of the owner that was loaded. -/
def afterDeduct (settings : AdminSettings) (owner : ShopOwner) (amountToman : ℤ) (k : ChatProg) :
    WalletReply → ChatProg
  | .ok true =>
    if amountToman ≤ 0 then notifyBalanceTx env settings owner.id owner.walletBalanceToman k
    else .read fun db =>
      match db.owners.find? owner.id with
      | none => k
      | some o => notifyBalanceTx env settings owner.id o.walletBalanceToman k
  | _ => notifyBalanceTx env settings owner.id owner.walletBalanceToman k

/-- `_deduct_and_notify`. -/
def deductAndNotifyTx (settings : AdminSettings) (owner : ShopOwner) (amountToman : ℤ)
    (reason : WalletTransactionReason) (k : ChatProg) : ChatProg :=
  (WalletDb.deductTx env.chargeScan owner.id amountToman reason none).embed walletDb .wallet .wallet
    (afterDeduct env settings owner amountToman k)

/-- `save_turn`. -/
def saveTurnTx (customerId : ℕ) (userMessage : String) (assistantReply : PyJson) (k : ChatProg) :
    ChatProg :=
  match storable (.str userMessage), storable assistantReply with
  | some userMessage, some reply =>
    .insert (fun id => .insertMessage ⟨id, customerId, .user, userMessage⟩) fun _ =>
      .insert (fun id => .insertMessage ⟨id, customerId, .assistant, reply⟩) fun _ => k
  | _, _ => .rollback

/-- The duplicate check, and the candidate.  The `read` before the `INSERT` is the check of its foreign
keys. -/
def createCandidateTx (startedAt : Datetime) (shopBotId customerId : ℕ) (orderType : OrderType)
    (summary : String) (estimatedValueToman : Option ℤ) (productId : Option ℕ) (quantity : Option ℤ)
    (customerPhone customerAddress : Option String) : ChatProg :=
  .read fun db =>
    match db.orderDb.getRecentDuplicate env.now customerId orderType productId 10 with
    | .error _ => .rollback
    | .ok (some _) => .commit none
    | .ok none =>
      let order (id : ℕ) : OrderConsultation :=
        { id := id, shopBotId := shopBotId, customerId := customerId, type := orderType,
          summary := summary, estimatedValueToman := estimatedValueToman, productId := productId,
          quantity := quantity, customerPhone := customerPhone, customerAddress := customerAddress,
          status := .AWAITING_CUSTOMER_CONFIRMATION, createdAt := startedAt }
      .read fun db =>
        match db.orderDb.insertOrder (order db.orders.nextId) with
        | .error _ => .rollback
        | .ok _ =>
          .insert (fun id => .order (.insertOrder (order id))) fun id =>
            sendLoggedTx env .orderConfirmationPrompt (.commit (some (order id)))

/-- What the task does with the verdict of the classifier. -/
def actOnDetectionTx (startedAt : Datetime) (shopBotId customerId : ℕ) (result : Option Detection) :
    ChatProg :=
  match result with
  | none => .commit none
  | some result =>
    .read fun db =>
      match db.customers.find? customerId with
      | none => .commit none
      | some _ =>
        match result with
        | .unsure question =>
          match env.send (.clarifyingQuestion question) with
          | some .TelegramAPIError => .commit none
          | some _ => .rollback
          | none => saveTurnTx customerId "" (.str question) (.commit none)
        | .completed orderType summary value productId quantity phone address =>
          createCandidateTx env startedAt shopBotId customerId orderType summary value productId quantity
            phone address

/-- The charge for the call: there is none if the provider has not said how many tokens it took. -/
def chargeDetectionTx (settings : AdminSettings) (owner : ShopOwner) (totalTokens : Option ℤ)
    (k : ChatProg) : ChatProg :=
  match totalTokens with
  | none => k
  | some tokens =>
    match estimateOrderDetectionCost settings (some tokens) with
    | .error _ => .rollback
    | .ok cost => deductAndNotifyTx env settings owner cost .ORDER_DETECTION k

/-- The task from the answer of the classifier on. -/
def afterClassifierTx (fmt : PyJson → String) (extractJson : PyJson → Option PyJson)
    (startedAt : Datetime) (shopBotId customerId : ℕ) (isConsultation : Bool) (owner : ShopOwner)
    (settings : AdminSettings) (products : List Product) : ChatProg :=
  match env.ai with
  | .error .AiServiceError => .commit none
  | .error _ => .rollback
  | .ok answer =>
    match Detection.detectOrder fmt (extractJson answer.text) products isConsultation with
    | .error _ => .rollback
    | .ok result =>
      chargeDetectionTx env settings owner answer.totalTokens
        (actOnDetectionTx env startedAt shopBotId customerId result)

/-- `_detect_and_notify_order`. -/
def detectAndNotifyTx (fmt : PyJson → String) (extractJson : PyJson → Option PyJson)
    (startedAt : Datetime) (shopBotId customerId : ℕ) : ChatProg :=
  .read fun db =>
    match db.shops.find? shopBotId with
    | none => .commit none
    | some shopBot =>
      .read fun db =>
        match db.owners.find? shopBot.shopOwnerId with
        | none => .commit none
        | some owner =>
          if owner.walletBalanceToman ≤ 0 then .commit none
          else
            .read fun db =>
              let settings := db.settings
              .read fun db =>
                let products := db.getActiveByShopBot shopBotId
                .read fun db =>
                  if !db.buildAiService .CHAT then .commit none
                  else afterClassifierTx env fmt extractJson startedAt shopBotId customerId
                    (shopBot.tenantMode == .CONSULTATION) owner settings products

/-! ## A task alone -/

/-- The keys that a serial column hands out. -/
def serial (db : ChatDb) (e : ℕ → ChatEdit) : ℕ :=
  match e 0 with
  | .wallet e' => db.walletDb.serial fun _ => e'
  | .order _ => db.orders.nextId
  | .insertMessage _ => db.messages.nextId
  | _ => 0

variable {env : ChatEnv} {k : ChatProg} {db : ChatDb}

theorem solo_sendLoggedTx (chat : ℤ) (notice : ChatNotice) :
    solo serial (sendLoggedTx env notice k) db =
      (sendLogged env db chat notice).andEnd (solo serial k) := by
  unfold sendLoggedTx sendLogged
  cases env.send notice with
  | none => rfl
  | some e => cases e <;> rfl

/-- A claim on the row of an owner, as one of the two functions makes it. -/
theorem solo_claimTx {owner : ShopOwner} {notifiedAt : ShopOwner → Option Datetime} {n : ℤ}
    {edit : ChatEdit} {notice : ChatNotice} (howner : db.owners.find? owner.id = some owner) :
    solo serial (claimTx env owner.id notifiedAt n edit notice k) db =
      (if claimable (notifiedAt owner) env.now n then
        sendLogged env (db.apply edit) owner.telegramId notice
      else ChatResult.done db).andEnd (solo serial k) := by
  unfold claimTx
  rw [solo, howner, Option.any_some]
  split_ifs with hclaim
  · rw [solo, howner, Option.any_some, if_pos hclaim, solo, solo_sendLoggedTx owner.telegramId]
    rfl
  · rfl

theorem solo_notifyBalanceTx {owner : ShopOwner} (howner : db.owners.find? owner.id = some owner) :
    solo serial (notifyBalanceTx env db.settings owner.id owner.walletBalanceToman k) db =
      (notifyBalance env db owner.id).andEnd (solo serial k) := by
  unfold notifyBalanceTx notifyBalance
  rw [howner]
  dsimp only
  split_ifs
  · rw [solo_claimTx howner]
    rfl
  · rw [solo_claimTx howner]
    rfl
  · rfl

theorem solo_deductAndNotifyTx {owner : ShopOwner} {amount : ℤ} {reason : WalletTransactionReason}
    (howner : db.owners.find? owner.id = some owner) :
    solo serial (deductAndNotifyTx env db.settings owner amount reason k) db =
      (deductAndNotify env db owner.id amount reason).andEnd (solo serial k) := by
  unfold deductAndNotifyTx deductAndNotify charge
  rw [solo_embed withWallet WalletDb.serial (fun _ _ => rfl) (fun _ _ _ => rfl) (fun _ => rfl)
    (fun _ _ => rfl) (fun _ _ => rfl), WalletDb.solo_deductTx, ChatResult.andThen_andEnd]
  cases hok : db.walletDb.deduct env.chargeScan owner.id amount reason none with
  | error e => rfl
  | ok x =>
    obtain ⟨wallet, ok⟩ := x
    show solo serial (afterDeduct env db.settings owner amount k (.ok ok)) (db.withWallet wallet) =
      (notifyBalance env (db.withWallet wallet) owner.id).andEnd (solo serial k)
    obtain ⟨rfl, rfl⟩ | ⟨rfl, hpos, -, -⟩ := WalletDb.deduct_ok hok
    · by_cases hamount : amount ≤ 0
      · rw [decide_eq_true hamount]
        unfold afterDeduct
        dsimp only
        rw [if_pos hamount]
        exact solo_notifyBalanceTx howner
      · rw [decide_eq_false hamount]
        exact solo_notifyBalanceTx howner
    · unfold afterDeduct
      dsimp only
      rw [if_neg (not_le.2 hpos), solo]
      cases hfind : (db.withWallet wallet).owners.find? owner.id with
      | none =>
        unfold notifyBalance
        rw [hfind]
        rfl
      | some o =>
        have hid : o.id = owner.id := Table.id_of_find? hfind
        rw [← hid] at hfind ⊢
        exact solo_notifyBalanceTx hfind

theorem solo_chargeDetectionTx {owner : ShopOwner} (howner : db.owners.find? owner.id = some owner)
    (totalTokens : Option ℤ) :
    solo serial (chargeDetectionTx env db.settings owner totalTokens k) db =
      (match totalTokens with
        | none => ChatResult.done db
        | some tokens =>
          match estimateOrderDetectionCost db.settings (some tokens) with
          | .error e => ChatResult.raise db e
          | .ok cost => deductAndNotify env db owner.id cost .ORDER_DETECTION).andEnd (solo serial k) := by
  unfold chargeDetectionTx
  cases totalTokens with
  | none => rfl
  | some tokens =>
    dsimp only
    cases estimateOrderDetectionCost db.settings (some tokens) with
    | error e => rfl
    | ok cost => exact solo_deductAndNotifyTx howner

theorem solo_saveTurnTx {customerId : ℕ} {userMessage : String} {reply : PyJson} :
    solo serial (saveTurnTx customerId userMessage reply k) db =
      match db.saveTurn customerId userMessage reply with
      | .error _ => none
      | .ok db => solo serial k db := by
  unfold saveTurnTx saveTurn
  cases storable (.str userMessage) with
  | none => rfl
  | some message => cases storable reply <;> rfl

theorem orderDb_orders (db : ChatDb) : db.orderDb.orders = db.orders := rfl

theorem solo_createCandidateTx (chat : ℤ) {shopBotId customerId : ℕ} {orderType : OrderType}
    {summary : String} {value : Option ℤ} {productId : Option ℕ} {quantity : Option ℤ}
    {phone address : Option String} :
    (solo serial (createCandidateTx env env.now shopBotId customerId orderType summary value productId
      quantity phone address) db).map Prod.fst =
    (match createCandidate env db shopBotId customerId orderType summary value productId quantity phone
        address with
      | .error e => ChatResult.raise db e
      | .ok none => ChatResult.done db
      | .ok (some db) => sendLogged env db chat .orderConfirmationPrompt).andEnd some := by
  unfold createCandidateTx createCandidate
  rw [solo]
  cases db.orderDb.getRecentDuplicate env.now customerId orderType productId 10 with
  | error e => rfl
  | ok recent =>
    cases recent with
    | some duplicate => rfl
    | none =>
      unfold OrderDb.createOrderAwaitingConfirmation
      dsimp only
      rw [solo]
      split
      · rename_i hinsert
        simp only [bind, Except.bind, orderDb_orders, hinsert]
        rfl
      · rename_i orders hinsert
        simp only [bind, Except.bind, orderDb_orders, hinsert]
        rw [solo, solo_sendLoggedTx chat, ChatResult.map_andEnd]
        rw [OrderDb.insertOrder_ok hinsert]
        rfl

theorem solo_actOnDetectionTx (shopBotId customerId : ℕ) (result : Option Detection) :
    (solo serial (actOnDetectionTx env env.now shopBotId customerId result) db).map Prod.fst =
      (actOnDetection env db shopBotId customerId result).andEnd some := by
  unfold actOnDetectionTx actOnDetection
  cases result with
  | none => rfl
  | some result =>
    dsimp only
    rw [solo]
    cases db.customers.find? customerId with
    | none => rfl
    | some customer =>
      cases result with
      | completed orderType summary value productId quantity phone address =>
        exact solo_createCandidateTx customer.telegramId
      | unsure question =>
        dsimp only
        cases env.send (.clarifyingQuestion question) with
        | some e => cases e <;> rfl
        | none =>
          dsimp only
          rw [solo_saveTurnTx]
          cases db.saveTurn customerId "" (.str question) <;> rfl

/-- Alone, the task is the function. -/
theorem solo_detectAndNotifyTx (env : ChatEnv) (fmt : PyJson → String)
    (extractJson : PyJson → Option PyJson) (db : ChatDb) (shopBotId customerId : ℕ) :
    ((solo serial (detectAndNotifyTx env fmt extractJson env.now shopBotId customerId) db).map
        Prod.fst).getD db =
      (detectAndNotify env fmt extractJson db shopBotId customerId).committed db := by
  have hend : ∀ r : ChatResult, (r.andEnd some).getD db = r.committed db := by
    intro r
    unfold ChatResult.andEnd ChatResult.committed
    split_ifs <;> rfl
  rw [← hend]
  refine congrArg (fun x : Option ChatDb => x.getD db) ?_
  unfold detectAndNotifyTx detectAndNotify
  rw [solo]
  cases db.shops.find? shopBotId with
  | none => rfl
  | some shopBot =>
    dsimp only
    rw [solo]
    cases howner : db.owners.find? shopBot.shopOwnerId with
    | none => rfl
    | some owner =>
      dsimp only
      split_ifs with hbalance hkey
      · rfl
      · rw [solo, solo, solo, if_pos hkey]
        rfl
      · rw [solo, solo, solo, if_neg hkey, ChatResult.andThen_andEnd]
        unfold afterClassifierTx
        show _ = ChatResult.andEnd _ some
        cases env.ai with
        | error e => cases e <;> rfl
        | ok answer =>
          dsimp only
          cases Detection.detectOrder fmt (extractJson answer.text) (db.getActiveByShopBot shopBotId)
            (shopBot.tenantMode == .CONSULTATION) with
          | error e => rfl
          | ok result =>
            have hid : owner.id = shopBot.shopOwnerId := Table.id_of_find? howner
            rw [← hid] at howner
            dsimp only
            rw [solo_chargeDetectionTx howner, ChatResult.map_andEnd, ChatResult.andThen_andEnd]
            exact congrArg (ChatResult.andEnd _)
              (funext fun db => by rw [solo_actOnDetectionTx])

end ChatDb

end KasbOKar
