import KasbOKar.Chat.Tables
import KasbOKar.Shop.Handlers

/-!
# The handlers of a shop bot

`shop_bot/handlers/customer.py`: the access check, the messages of customers, the reply to a batch of
them, the detection of orders, and the charge that follows every use of the AI.  A handler ends with
the tables it has written, what it has done outside of the database (`ChatLog`, in order), and
perhaps an exception; only without one is its session committed.

`send` gives the exception that the sending of a text raises, if any.  The wallet's notices and a few
others are sent under `except TelegramAPIError`, the rest is not guarded.
-/

namespace KasbOKar

/-- A text to a customer or to the owner, by its name in `texts.py`. -/
inductive ChatNotice where
  | platformMaintenance
  | shopUnavailable
  | rateLimited
  | moderationBlocked
  | moderationReview (category : Option String)
  | aiError
  | reply (text : PyJson)
  | photoForward
  | photoReceived
  | voiceTranscribeError
  | clarifyingQuestion (text : String)
  | orderConfirmationPrompt
  | walletEmpty
  | walletLowBalance (balanceToman : ℤ)

inductive AiCall where
  | getReply (userMessage : String)
  | analyzeImage
  | transcribeAudio
  | detectOrder
  deriving DecidableEq

/-- What a handler does outside of the database, and the verdicts of `deduct`. -/
inductive ChatLog where
  /-- A request to the AI, on behalf of an owner. -/
  | ai (ownerId : ℕ) (call : AiCall)
  | deduct (ownerId : ℕ) (amountToman : ℤ) (ok : Bool)
  /-- `add_charge` -/
  | credit (ownerId : ℕ)
  | sent (chat : ℤ) (notice : ChatNotice)
  /-- `_schedule_debounced_processing` -/
  | scheduled (shopBotId : ℕ) (user : ℤ) (text : String)
  /-- A new task `_detect_and_notify_order`. -/
  | detectionTask (shopBotId customerId : ℕ)

/-- `AiCallResult`; the text is whatever the provider puts there. -/
structure AiCallResult where
  text : PyJson
  totalTokens : Option ℤ := none

/-- How a handler ends. -/
structure ChatResult where
  db : ChatDb
  log : List ChatLog
  raised : Option PyError

namespace ChatResult

/-- The handler has come to its end. -/
def done (db : ChatDb) : ChatResult := ⟨db, [], none⟩

def raise (db : ChatDb) (e : PyError) : ChatResult := ⟨db, [], some e⟩

/-- One line after the other; nothing runs after an exception. -/
def andThen (r : ChatResult) (f : ChatDb → ChatResult) : ChatResult :=
  match r.raised with
  | some _ => r
  | none => { f r.db with log := r.log ++ (f r.db).log }

/-- `session_scope` and `DbSessionMiddleware`: commit, or roll back to the tables before. -/
def committed (r : ChatResult) (before : ChatDb) : ChatDb :=
  if r.raised.isSome then before else r.db

end ChatResult

/-- The outside world in one run of a handler. -/
structure ChatEnv where
  now : Datetime
  text : TextOps
  ruleScan : Scan ModerationRule := .plain
  chargeScan : Scan WalletCharge := .plain
  /-- The exception of a call that sends a text. -/
  send : ChatNotice → Option PyError := fun _ => none
  /-- What a request to the AI returns or raises. -/
  ai : Except PyError AiCallResult := .error .AiServiceError
  /-- `rate_limiter.check_and_record`. -/
  withinRate : Bool := true
  /-- `download` returns. -/
  downloaded : Bool := true

namespace ChatDb

open ChatResult

variable (env : ChatEnv)

/-- A message that is not guarded. -/
def sendMessage (db : ChatDb) (chat : ℤ) (notice : ChatNotice) : ChatResult :=
  match env.send notice with
  | none => ⟨db, [.sent chat notice], none⟩
  | some e => raise db e

/-- A message under `except TelegramAPIError`. -/
def sendLogged (db : ChatDb) (chat : ℤ) (notice : ChatNotice) : ChatResult :=
  match env.send notice with
  | none => ⟨db, [.sent chat notice], none⟩
  | some .TelegramAPIError => done db
  | some e => raise db e

/-! ## Charging -/

/-- `try_claim_empty_notification`, and the notice. -/
def notifyEmpty (db : ChatDb) (owner : ShopOwner) : ChatResult :=
  if claimable owner.walletEmptyNotifiedAt env.now emptyRenotifyHours then
    sendLogged env (db.setOwner owner.id
      (fun o => { o with walletEmptyNotifiedAt := some env.now }) fun _ => rfl)
      owner.telegramId .walletEmpty
  else done db

/-- `try_claim_low_balance_notification`, and the notice. -/
def notifyLowBalance (db : ChatDb) (owner : ShopOwner) : ChatResult :=
  if claimable owner.walletLowBalanceNotifiedAt env.now lowBalanceRenotifyHours then
    sendLogged env (db.setOwner owner.id
      (fun o => { o with walletLowBalanceNotifiedAt := some env.now }) fun _ => rfl)
      owner.telegramId (.walletLowBalance owner.walletBalanceToman)
  else done db

/-- The lines of `_deduct_and_notify` after the deduction. -/
def notifyBalance (db : ChatDb) (ownerId : ℕ) : ChatResult :=
  match db.owners.find? ownerId with
  | none => done db
  | some owner =>
    if owner.walletBalanceToman ≤ 0 then notifyEmpty env db owner
    else if owner.walletBalanceToman < db.settings.walletLowBalanceWarningToman then
      notifyLowBalance env db owner
    else done db

/-- `wallet_service.deduct` for a use of the AI. -/
def charge (db : ChatDb) (ownerId : ℕ) (amountToman : ℤ) (reason : WalletTransactionReason) :
    ChatResult :=
  match db.walletDb.deduct env.chargeScan ownerId amountToman reason none with
  | .error e => raise db e
  | .ok (w, ok) => ⟨db.withWallet w, [.deduct ownerId amountToman ok], none⟩

/-- `_deduct_and_notify`: whether the deduction succeeded makes no difference but for the log. -/
def deductAndNotify (db : ChatDb) (ownerId : ℕ) (amountToman : ℤ) (reason : WalletTransactionReason) :
    ChatResult :=
  (charge env db ownerId amountToman reason).andThen fun db => notifyBalance env db ownerId

/-! ## Replies -/

/-- The lines of `_generate_and_send_reply` for a text that may not be answered. -/
def refuseBatch (db : ChatDb) (shopBot : ShopBot) (user : ℤ) (rule : ModerationRule) : ChatResult :=
  (sendMessage env db user .moderationBlocked).andThen fun db =>
    if rule.action = .REVIEW then
      match db.owners.find? shopBot.shopOwnerId with
      | none => done db
      | some owner => sendLogged env db owner.telegramId (.moderationReview rule.category)
    else done db

/-- `bot_error_service.log_error`. -/
def logError (db : ChatDb) (shopBotId : ℕ) : ChatResult :=
  done { db with botErrors := db.botErrors ++ [shopBotId] }

/-- The lines of `_generate_and_send_reply` after `get_reply` has returned. -/
def finishReply (db : ChatDb) (shopBotId customerId ownerId : ℕ) (user : ℤ) (combinedText : String)
    (result : AiCallResult) : ChatResult :=
  match db.saveTurn customerId combinedText result.text with
  | .error e => raise db e
  | .ok db => (sendMessage env db user (.reply result.text)).andThen fun db =>
      match estimateChatCost db.settings result.totalTokens with
      | .error e => raise db e
      | .ok cost => (deductAndNotify env db ownerId cost .CHAT_MESSAGE).andThen fun db =>
          ⟨db, [.detectionTask shopBotId customerId], none⟩

/-- The lines of `_generate_and_send_reply` from the look-up of the owner on. -/
def askForReply (db : ChatDb) (shopBot : ShopBot) (customer : Customer) (user : ℤ)
    (combinedText : String) : ChatResult :=
  match db.owners.find? shopBot.shopOwnerId with
  | none => sendMessage env db user .shopUnavailable
  | some owner =>
    if owner.walletBalanceToman ≤ 0 then sendMessage env db user .shopUnavailable
    else if !db.settings.aiApiKey.any (fun key => key != "") then
      (sendMessage env db user .aiError).andThen fun db => logError db shopBot.id
    else if !db.buildAiService .CHAT then sendMessage env db user .aiError
    else ChatResult.andThen ⟨db, [.ai owner.id (.getReply combinedText)], none⟩ fun db =>
      match env.ai with
      | .error .AiServiceError =>
        (sendMessage env db user .aiError).andThen fun db => logError db shopBot.id
      | .error e => raise db e
      | .ok result => finishReply env db shopBot.id customer.id owner.id user combinedText result

/-- The lines of `_generate_and_send_reply` for a text that may be answered. -/
def answerBatch (db : ChatDb) (shopBot : ShopBot) (user : ℤ) (combinedText : String) : ChatResult :=
  match db.getOrCreateCustomer env.now shopBot.id user none none with
  | .error e => raise db e
  | .ok (shop, customer) => askForReply env (db.withShopDb shop) shopBot customer user combinedText

/-- `_generate_and_send_reply`. -/
def generateAndSendReply (db : ChatDb) (shopBotId : ℕ) (user : ℤ) (combinedText : String) :
    ChatResult :=
  match db.shops.find? shopBotId with
  | none => done db
  | some shopBot =>
    if !shopBot.isActive then done db
    else
      match db.checkText env.text env.ruleScan combinedText with
      | none => answerBatch env db shopBot user combinedText
      | some rule =>
        if rule.action ≠ .WARN then refuseBatch env (db.logMatch shopBotId user rule) shopBot user rule
        else answerBatch env (db.logMatch shopBotId user rule) shopBot user combinedText

/-! ## Messages -/

/-- `_check_access`, with the handler that follows. -/
def checkAccess (db : ChatDb) (shopBot : ShopBot) (user : ℤ) (handler : ChatDb → ChatResult) :
    ChatResult :=
  if db.settings.maintenanceMode then sendMessage env db user .platformMaintenance
  else
    match db.owners.find? shopBot.shopOwnerId with
    | none => sendMessage env db user .shopUnavailable
    | some owner =>
      if owner.walletBalanceToman ≤ 0 then
        (sendMessage env db user .shopUnavailable).andThen fun db => notifyEmpty env db owner
      else if !env.withinRate then sendMessage env db user .rateLimited
      else handler db

/-- The lines that the three handlers share: the access check and the row of the customer. -/
def withCustomer (db : ChatDb) (bot user : ℤ) (firstName username : Option String)
    (handler : ChatDb → ShopBot → ChatResult) : ChatResult :=
  match db.getByBotTelegramId bot with
  | none => done db
  | some shopBot => checkAccess env db shopBot user fun db =>
      match db.getOrCreateCustomer env.now shopBot.id user firstName username with
      | .error e => raise db e
      | .ok (shop, _) => handler (db.withShopDb shop) shopBot

/-- `customer_message`. -/
def customerText (db : ChatDb) (bot user : ℤ) (firstName username : Option String) (text : String) :
    ChatResult :=
  withCustomer env db bot user firstName username fun db shopBot =>
    ⟨db, [.scheduled shopBot.id user text], none⟩

/-- The analysis in `customer_photo`, which swallows every exception.  If `deduct` raises, the
session cannot be committed any more. -/
def analyzePhoto (db : ChatDb) (owner : ShopOwner) : ChatResult :=
  if !db.buildAiService .VISION then done db
  else ChatResult.andThen ⟨db, [.ai owner.id .analyzeImage], none⟩ fun db =>
    match env.ai with
    | .error _ => done db
    | .ok _ => (charge env db owner.id (estimatePhotoCost db.settings) .PHOTO_ANALYSIS).andThen fun db =>
        { notifyBalance env db owner.id with raised := none }

/-- `customer_photo`. -/
def customerPhoto (db : ChatDb) (bot user : ℤ) (firstName username : Option String) : ChatResult :=
  withCustomer env db bot user firstName username fun db shopBot =>
    match db.owners.find? shopBot.shopOwnerId with
    | none => sendMessage env db user .photoReceived
    | some owner =>
      if !env.downloaded then sendMessage env db user .photoReceived
      else ChatResult.andThen (if 0 < owner.walletBalanceToman then analyzePhoto env db owner else done db)
        fun db => (sendLogged env db owner.telegramId .photoForward).andThen fun db =>
          sendMessage env db user .photoReceived

/-- `customer_voice`. -/
def customerVoice (db : ChatDb) (bot user : ℤ) (firstName username : Option String) : ChatResult :=
  withCustomer env db bot user firstName username fun db shopBot =>
    match db.owners.find? shopBot.shopOwnerId with
    | none => sendMessage env db user .shopUnavailable
    | some owner =>
      if owner.walletBalanceToman ≤ 0 then sendMessage env db user .shopUnavailable
      else if !db.buildAiService .CHAT then sendMessage env db user .aiError
      else if !env.downloaded then sendMessage env db user .voiceTranscribeError
      else ChatResult.andThen ⟨db, [.ai owner.id .transcribeAudio], none⟩ fun db =>
        match env.ai with
        | .ok { text := .str transcript, .. } =>
          if strip transcript = "" then sendMessage env db user .voiceTranscribeError
          else
            (deductAndNotify env db owner.id (estimateVoiceCost db.settings)
              .VOICE_TRANSCRIPTION).andThen fun db =>
                ⟨db, [.scheduled shopBot.id user (strip transcript)], none⟩
        | _ => sendMessage env db user .voiceTranscribeError

/-! ## Detection of orders -/

/-- The candidate that `_detect_and_notify_order` creates, unless there is a recent one like it. -/
def createCandidate (db : ChatDb) (shopBotId customerId : ℕ) (orderType : OrderType) (summary : String)
    (estimatedValueToman : Option ℤ) (productId : Option ℕ) (quantity : Option ℤ)
    (customerPhone customerAddress : Option String) : Except PyError (Option ChatDb) := do
  let recent ← db.orderDb.getRecentDuplicate env.now customerId orderType productId 10
  if recent.isSome then return none
  else
    let x ← db.orderDb.createOrderAwaitingConfirmation env.now shopBotId customerId orderType summary
      estimatedValueToman productId quantity customerPhone customerAddress
    return some (db.withShopDb (db.withOrders x.1))

/-- What `_detect_and_notify_order` does with the verdict of the classifier. -/
def actOnDetection (db : ChatDb) (shopBotId customerId : ℕ) (result : Option Detection) : ChatResult :=
  match result with
  | none => done db
  | some result =>
    match db.customers.find? customerId with
    | none => done db
    | some customer =>
      match result with
      | .unsure question =>
        match env.send (.clarifyingQuestion question) with
        | some .TelegramAPIError => done db
        | some e => raise db e
        | none =>
          match db.saveTurn customerId "" (.str question) with
          | .error e => raise db e
          | .ok db => ⟨db, [.sent customer.telegramId (.clarifyingQuestion question)], none⟩
      | .completed orderType summary value productId quantity phone address =>
        match createCandidate env db shopBotId customerId orderType summary value productId quantity
          phone address with
        | .error e => raise db e
        | .ok none => done db
        | .ok (some db) => sendLogged env db customer.telegramId .orderConfirmationPrompt

/-- `_detect_and_notify_order`.  `extractJson` is `_extract_json`, `fmt` is `str` of a decoded value
that is no string. -/
def detectAndNotify (fmt : PyJson → String) (extractJson : PyJson → Option PyJson) (db : ChatDb)
    (shopBotId customerId : ℕ) : ChatResult :=
  match db.shops.find? shopBotId with
  | none => done db
  | some shopBot =>
    match db.owners.find? shopBot.shopOwnerId with
    | none => done db
    | some owner =>
      if owner.walletBalanceToman ≤ 0 then done db
      else if !db.buildAiService .CHAT then done db
      else ChatResult.andThen ⟨db, [.ai owner.id .detectOrder], none⟩ fun db =>
        match env.ai with
        | .error .AiServiceError => done db
        | .error e => raise db e
        | .ok answer =>
          match Detection.detectOrder fmt (extractJson answer.text) (db.getActiveByShopBot shopBotId)
            (shopBot.tenantMode == .CONSULTATION) with
          | .error e => raise db e
          | .ok result =>
            (match answer.totalTokens with
              | none => done db
              | some tokens =>
                match estimateOrderDetectionCost db.settings (some tokens) with
                | .error e => raise db e
                | .ok cost => deductAndNotify env db owner.id cost .ORDER_DETECTION).andThen
              fun db => actOnDetection env db shopBotId customerId result

end ChatDb

end KasbOKar
