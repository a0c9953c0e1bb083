import KasbOKar.Admin.Tables
import KasbOKar.Input.Numbers
import KasbOKar.Lib.Session

/-!
# The handlers of the admin panel

`app/bots/main_bot/handlers/admin.py`, handler by handler, as computations on the tables of the session
and the FSM context of the user.  Every call to Telegram can raise, and what a handler has written into
the context by then stays, while its rows are given up with the transaction.

The dialogs keep their answers in the data of the context, under keys of their own; `required` is the
reading `data[key]`, which raises a `KeyError` if the key is missing.  The two handlers of payments are in
`Payment.Handlers`, those of discount codes in `Payment.CodeAdmin`; the handlers that only show something
are one definition, `display`.
-/

namespace KasbOKar

open Session

/-! ## The FSM context -/

/-- The states of the dialogs of the panel. -/
inductive DialogState where
  | broadcastMessage
  | broadcastConfirmation
  | channelName
  | channelProof
  | channelIsPrimary
  | planDuration
  | planPrice
  | settingValue
  | rateLimitMax
  | rateLimitWindow
  | giftAmount
  | correctionAmount
  | correctionReason
  | moderationPattern
  | poolEntryDetails
  | roleTelegramId
  /-- `PreviewStates.active` -/
  | preview
  /-- A state of a dialog of another router, or of the discount codes. -/
  | elsewhere
  deriving DecidableEq, Repr

/-- The entries of the FSM data that the dialogs use. -/
structure DialogData where
  broadcastText : Option String := none
  channelName : Option String := none
  channelId : Option String := none
  inviteLink : Option String := none
  planDuration : Option ℤ := none
  /-- `field` and `field_kind` -/
  field : Option SettingField := none
  rateLimitMax : Option ℤ := none
  giftOwnerId : Option ℕ := none
  correctionOwnerId : Option ℕ := none
  correctionAmount : Option ℤ := none
  pattern : Option String := none
  deriving DecidableEq, Repr

/-- `FSMContext`, of one user; without arguments it is the one that `state.clear()` leaves. -/
structure DialogContext where
  state : Option DialogState := none
  data : DialogData := {}
  deriving DecidableEq, Repr

/-! ## Calls -/

/-- The texts of `texts.py` that the panel sends. -/
inductive PanelText where
  | adminPanelIntro
  | askBroadcastMessage
  | broadcastPreview
  | broadcast (text : String)
  | broadcastSentConfirmation
  | broadcastCancelled
  | askChannelName
  | askChannelProofAdmin
  | channelProofInvalid
  | askChannelIsPrimary
  | channelAddedConfirmation
  | channelDeletedConfirmation
  | channelList
  | adminPricingMenuIntro
  | adminAskPlanDuration
  | adminAskPlanPrice
  | adminPlanSaved
  | adminWalletCostRecalculated
  | adminInvalidNumber
  | adminSettingsMenuIntro
  | settingQuestion
  | adminSettingSaved
  | adminAskRateLimitMaxMessages
  | adminAskRateLimitWindowSeconds
  | adminShopOwnersEmpty
  | adminOwnerSuspendedConfirmation
  | adminOwnerUnsuspendedConfirmation
  | adminShopOwnerDetail
  | adminAskGiftAmount
  | adminGiftConfirmation
  | ownerGiftNotification
  | adminWalletCorrectionIntro
  | adminInvalidSignedAmount
  | adminAskWalletCorrectionReason
  | adminWalletCorrectionEmptyReason
  | adminWalletCorrectionReasonTooLong
  | adminWalletCorrectionInsufficientBalance
  | adminWalletCorrectionConfirmation
  | ownerWalletCorrectionNotification
  | askModerationPattern
  | askModerationAction
  | moderationRuleAddedConfirmation
  | moderationMenuIntro
  | moderationRuleDetailText
  | askAiPoolEntry
  | aiPoolEntryInvalidFormat
  | aiPoolEntryInvalidCapability
  | aiPoolEntryAddedConfirmation
  | aiPoolMenuIntro
  | aiPoolEntryDetailText
  | askAdminRoleTelegramId
  | adminRoleInvalidTelegramId
  | adminRoleAlreadySuperAdmin
  | adminRoleAlreadyOperator
  | adminRoleAddedConfirmation
  | adminRolesMenu
  deriving DecidableEq

/-- A call that a handler waits for. -/
inductive PanelCall where
  /-- `callback.answer()`, also with an alert. -/
  | callbackAnswer
  | answer (text : PanelText)
  | editText (text : PanelText)
  | editReplyMarkup
  | sendMessage (chatId : ℤ) (text : PanelText)
  /-- `bot_manager.register` or `unregister`. -/
  | botManager
  /-- What a handler that only shows something reads and sends. -/
  | display
  deriving DecidableEq

/-- A message to the main bot: its text, and the chat it was forwarded from. -/
structure PanelMessage where
  text : Option String := none
  forwardFromChat : Option ℤ := none

/-- What the world answers during one update.  No call raises a `KeyError`. -/
structure PanelEnv where
  now : Datetime
  scan : Scan WalletCharge
  send : PanelCall → Option PyError
  /-- `Decimal(text)`; `none` for `InvalidOperation`. -/
  decimal : String → Option PyDecimal
  /-- `get_chat(username)`, with the id of the chat. -/
  getChat : String → Except PyError ℤ
  /-- `get_me` and `get_chat_member`: whether the bot is an administrator or the creator. -/
  isAdministrator : String → Except PyError Bool
  /-- `create_chat_invite_link`. -/
  createChatInviteLink : String → Except PyError String
  send_ne_keyError : ∀ c, send c ≠ some .KeyError
  getChat_ne_keyError : ∀ s, getChat s ≠ .error .KeyError
  isAdministrator_ne_keyError : ∀ s, isAdministrator s ≠ .error .KeyError
  createChatInviteLink_ne_keyError : ∀ s, createChatInviteLink s ≠ .error .KeyError

/-- A handler of the panel. -/
abbrev Handler (α : Type) := EStateM PyError (PanelDb × DialogContext) α

namespace AdminPanel

section Parts

/-- `state.set_state`. -/
def setState (state : DialogState) : Handler Unit :=
  modify fun s => (s.1, { s.2 with state := some state })

/-- `state.update_data`. -/
def updateData (f : DialogData → DialogData) : Handler Unit :=
  modify fun s => (s.1, { s.2 with data := f s.2.data })

/-- `state.clear`. -/
def clear : Handler Unit := modify fun s => (s.1, {})

/-- `data[key]`. -/
def required {α : Type} (key : DialogData → Option α) : Handler α := do
  match key (← get).2.data with
  | some a => pure a
  | none => throw .KeyError

/-- Reading the tables. -/
def query {α : Type} (f : PanelDb → Except PyError α) : Handler α := do lift (f (← get).1)

/-- Writing to the tables, with the flush. -/
def flush (f : PanelDb → Except PyError PanelDb) : Handler Unit := do
  let db ← query f
  modify fun s => (db, s.2)

/-- `audit_log_service.log`. -/
def log (eventType : AuditEventType) (shopBotId : Option ℕ) (actor : ℤ) (details : Option String) :
    Handler Unit := flush fun db => .ok (db.log eventType shopBotId (some actor) details)

variable (env : PanelEnv)

/-- A call that is waited for. -/
def send (c : PanelCall) : Handler Unit :=
  match env.send c with
  | none => pure ()
  | some e => throw e

/-- A call in a `try` that catches a `TelegramAPIError`. -/
def attempt (c : PanelCall) : Handler Unit :=
  match env.send c with
  | none => pure ()
  | some .TelegramAPIError => pure ()
  | some e => throw e

/-- A handler that reads some tables, sends a text and writes nothing. -/
def display : Handler Unit := send env .display

end Parts

/-- `int(text.strip())`, if that is a positive number. -/
def positive (raw : String) : Option ℤ :=
  match Input.int (strip raw) with
  | .ok n => if n ≤ 0 then none else some n
  | .error _ => none

variable (env : PanelEnv)

/-! ## The entry and the broadcast -/

/-- `cmd_admin`, and the handlers of menu buttons that end the dialog and show a list. -/
def clearAndShow : Handler Unit := do
  clear
  display env

/-- `broadcast_start`. -/
def broadcastStart : Handler Unit := do
  setState .broadcastMessage
  send env (.answer .askBroadcastMessage)

/-- `broadcast_message_entered`. -/
def broadcastMessageEntered (text : String) : Handler Unit := do
  updateData fun d => { d with broadcastText := some text }
  setState .broadcastConfirmation
  send env (.answer .broadcastPreview)

/-- `get_all_registered`. -/
def getAllRegistered (db : PanelDb) : List ShopOwner :=
  orderBy (fun o => (o.id : ℤ)) (db.books.wallet.owners.rows.filter ShopOwner.registrationCompleted)

/-- One round of the loop of `broadcast_confirmed`. -/
def broadcastTo (owner : ShopOwner) : Handler Unit := do
  let text ← required DialogData.broadcastText
  attempt env (.sendMessage owner.telegramId (.broadcast text))

/-- `broadcast_confirmed`. -/
def broadcastConfirmed : Handler Unit := do
  let owners ← query fun db => .ok (getAllRegistered db)
  owners.forM (broadcastTo env)
  clear
  send env .callbackAnswer
  send env (.editText .broadcastSentConfirmation)

/-- `broadcast_cancelled`. -/
def broadcastCancelled : Handler Unit := do
  clear
  send env .callbackAnswer
  send env (.editText .broadcastCancelled)

/-! ## The mandatory channels -/

/-- `cb_channel_add`. -/
def cbChannelAdd : Handler Unit := do
  setState .channelName
  send env .callbackAnswer
  send env (.answer .askChannelName)

/-- `channel_add_name`. -/
def channelAddName (text : String) : Handler Unit := do
  updateData fun d => { d with channelName := some (strip text) }
  setState .channelProof
  send env (.answer .askChannelProofAdmin)

/-- `except TelegramAPIError: return None`. -/
def caught {α : Type} : Except PyError α → Except PyError (Option α)
  | .ok a => .ok (some a)
  | .error .TelegramAPIError => .ok none
  | .error e => .error e

/-- The channel that a message names: its id, and the link of its username. -/
def channelOf (m : PanelMessage) : Except PyError (Option (String × Option String)) :=
  match m.forwardFromChat, m.text.map strip with
  | some chatId, _ => .ok (some (toString chatId, none))
  | none, some username =>
    if username.toList.head? = some '@' then
      (caught (env.getChat username)).map fun chatId => chatId.map fun n =>
        (toString n, some ("https://t.me/" ++ .ofList (username.toList.dropWhile (· == '@'))))
    else .ok none
  | none, none => .ok none

/-- `_resolve_main_channel`. -/
def resolveMainChannel (m : PanelMessage) : Except PyError (Option (String × Option String)) := do
  match ← channelOf env m with
  | none => return none
  | some (channelId, usernameLink) =>
    match ← caught (env.isAdministrator channelId) with
    | some true =>
      match usernameLink with
      | some link => return some (channelId, some link)
      | none => return some (channelId, ← caught (env.createChatInviteLink channelId))
    | _ => return none

/-- `channel_add_proof`. -/
def channelAddProof (m : PanelMessage) : Handler Unit := do
  match ← lift (resolveMainChannel env m) with
  | none => send env (.answer .channelProofInvalid)
  | some (channelId, inviteLink) =>
    updateData fun d => { d with channelId := some channelId, inviteLink := inviteLink }
    setState .channelIsPrimary
    send env (.answer .askChannelIsPrimary)

/-- `channel_add_primary_choice`. -/
def channelAddPrimaryChoice (isPrimary : Bool) : Handler Unit := do
  let channelId ← required DialogData.channelId
  let channelName ← required DialogData.channelName
  let inviteLink := (← get).2.data.inviteLink
  flush fun db => db.createChannel channelId channelName inviteLink isPrimary
  clear
  send env .callbackAnswer
  send env (.editText .channelAddedConfirmation)
  send env (.answer .channelList)

/-- `cb_channel_delete_confirm`. -/
def cbChannelDeleteConfirm (channelPk : ℕ) : Handler Unit := do
  match ← query fun db => .ok (db.channels.find? channelPk) with
  | none =>
    send env .callbackAnswer
    send env (.answer .channelList)
  | some channel =>
    flush fun db => .ok { db with channels := db.channels.delete channel.id }
    send env .callbackAnswer
    send env (.editText .channelDeletedConfirmation)
    send env (.answer .channelList)

/-! ## Plans and switches -/

/-- `cb_pricing_menu`. -/
def cbPricingMenu : Handler Unit := do
  clear
  send env .callbackAnswer
  send env (.editText .adminPricingMenuIntro)

/-- `cb_toggle_zarinpal`. -/
def cbToggleZarinpal : Handler Unit := do
  flush fun db => .ok { db with books.settings.zarinpalEnabled := !db.books.settings.zarinpalEnabled }
  send env .callbackAnswer
  send env .editReplyMarkup

/-- `cb_toggle_bale_pay`. -/
def cbToggleBalePay : Handler Unit := do
  let db := (← get).1
  if !db.books.settings.balePayEnabled && (db.books.settings.baleProviderToken.getD "") == "" then
    send env .callbackAnswer
  else
    flush fun db => .ok { db with books.settings.balePayEnabled := !db.books.settings.balePayEnabled }
    send env .callbackAnswer
    send env .editReplyMarkup

/-- `cb_recalc_wallet_cost`. -/
def cbRecalcWalletCost : Handler Unit := do
  flush fun db => db.updateInt .walletCostPer1kTokensToman
    (PanelDb.computeCostPer1kTokensFromFormula db.more)
  send env .callbackAnswer
  send env (.answer .adminWalletCostRecalculated)
  send env .editReplyMarkup

/-- `cb_toggle_registrations`, `cb_toggle_topups` and `cb_toggle_maintenance`. -/
def cbToggle (user : ℤ) (switch : KillSwitch) : Handler Unit := do
  let value := !switch.read (← get).1
  flush fun db => .ok (switch.write db value)
  log .KILL_SWITCH_TOGGLED none user (some (switch.details value))
  send env .callbackAnswer
  send env .editReplyMarkup

def cbToggleRegistrations (user : ℤ) : Handler Unit := cbToggle env user .allowNewRegistrations
def cbToggleTopups (user : ℤ) : Handler Unit := cbToggle env user .allowWalletTopups
def cbToggleMaintenance (user : ℤ) : Handler Unit := cbToggle env user .maintenanceMode

/-- `cb_plan_toggle`. -/
def cbPlanToggle (planId : ℕ) : Handler Unit := do
  flush fun db => .ok (db.togglePlanActive planId)
  send env .callbackAnswer
  send env (.editText .adminPricingMenuIntro)

/-- `cb_plan_add`. -/
def cbPlanAdd : Handler Unit := do
  setState .planDuration
  send env .callbackAnswer
  send env (.answer .adminAskPlanDuration)

/-- `plan_duration_entered`. -/
def planDurationEntered (text : String) : Handler Unit := do
  match positive text with
  | none => send env (.answer .adminInvalidNumber)
  | some months =>
    updateData fun d => { d with planDuration := some months }
    setState .planPrice
    send env (.answer .adminAskPlanPrice)

/-- `message.text.strip().replace(",", "").replace("،", "")`. -/
def withoutCommas (text : String) : String :=
  .ofList ((strip text).toList.filter fun c => c != ',' && c != '\u060C')

/-- `plan_price_entered`. -/
def planPriceEntered (text : String) : Handler Unit := do
  match positive (withoutCommas text) with
  | none => send env (.answer .adminInvalidNumber)
  | some price =>
    let months ← required DialogData.planDuration
    match ← query fun db => db.getByDuration months with
    | some existing => flush fun db => db.updatePrice existing price
    | none => flush fun db => db.createPlan months price
    clear
    send env (.answer .adminPlanSaved)
    send env (.answer .adminPricingMenuIntro)

/-! ## The settings row -/

/-- `cb_setting_edit`. -/
def cbSettingEdit (key : String) : Handler Unit := do
  send env .callbackAnswer
  if key = "rate_limit" then
    setState .rateLimitMax
    send env (.answer .adminAskRateLimitMaxMessages)
  else
    match settingField? key with
    | none => pure ()
    | some field =>
      setState .settingValue
      updateData fun d => { d with field := some field }
      send env (.answer .settingQuestion)

/-- The assignment of `setting_value_entered`, if the text is accepted. -/
def settingValue (raw : String) : SettingField → Option (PanelDb → Except PyError PanelDb)
  | .int field =>
    match Input.int raw with
    | .ok value => if value < field.minimum then none else some fun db => db.updateInt field value
    | .error _ => none
  | .decimal field =>
    match env.decimal (.ofList (raw.toList.map fun c => if c = ',' then '.' else c)) with
    | some (.finite value) => if value ≤ 0 then none else some fun db => db.updateDecimal field value
    | some (.infinite false) => some fun _ => .error .DataError
    | _ => none
  | .nullableText field =>
    let value := if raw = "خالی" ∨ raw = "پاک کن" ∨ raw = "-" then none else some raw
    some fun db => db.updateNullableText field value
  | .text field => some fun db => db.updateText field raw

/-- `setting_value_entered`. -/
def settingValueEntered (text : String) : Handler Unit := do
  let field ← required DialogData.field
  match settingValue env (strip text) field with
  | none => send env (.answer .adminInvalidNumber)
  | some update =>
    flush update
    clear
    send env (.answer .adminSettingSaved)
    send env (.answer .adminSettingsMenuIntro)

/-- `rate_limit_max_entered`. -/
def rateLimitMaxEntered (text : String) : Handler Unit := do
  match positive text with
  | none => send env (.answer .adminInvalidNumber)
  | some maxMessages =>
    updateData fun d => { d with rateLimitMax := some maxMessages }
    setState .rateLimitWindow
    send env (.answer .adminAskRateLimitWindowSeconds)

/-- The assignments of `rate_limit_window_entered`. -/
def setRateLimit (maxMessages windowSeconds : ℤ) (db : PanelDb) : Except PyError PanelDb :=
  if Int4 maxMessages ∧ Int4 windowSeconds then
    .ok { db with
      more := { db.more with
        rateLimitMaxMessages := maxMessages, rateLimitWindowSeconds := windowSeconds } }
  else .error .DataError

/-- `rate_limit_window_entered`. -/
def rateLimitWindowEntered (text : String) : Handler Unit := do
  match positive text with
  | none => send env (.answer .adminInvalidNumber)
  | some windowSeconds =>
    let maxMessages ← required DialogData.rateLimitMax
    flush (setRateLimit maxMessages windowSeconds)
    clear
    send env (.answer .adminSettingSaved)
    send env (.answer .adminSettingsMenuIntro)

/-! ## The shop owners -/

/-- The owner of a button, with the shop. -/
def ownerWithShop (db : PanelDb) (ownerId : ℕ) : Except PyError (Option (ShopOwner × ShopBot)) :=
  match db.books.wallet.owners.find? ownerId with
  | none => .ok none
  | some owner => (db.getByOwner owner.id).map fun shopBot => shopBot.map fun s => (owner, s)

/-- The assignments to the shop. -/
def assignActive (isActive : Bool) (disabledReason : Option String) (shopBot : ShopBot) : ShopBot :=
  { shopBot with isActive := isActive, disabledReason := disabledReason }

def setActive (shopBotId : ℕ) (isActive : Bool) (disabledReason : Option String) (db : PanelDb) :
    Except PyError PanelDb :=
  .ok { db with shops := db.shops.modify shopBotId (assignActive isActive disabledReason) }

/-- `cb_owner_suspend`. -/
def cbOwnerSuspend (user : ℤ) (ownerId : ℕ) : Handler Unit := do
  match ← query fun db => ownerWithShop db ownerId with
  | none => send env .callbackAnswer
  | some (_, shopBot) =>
    flush (setActive shopBot.id false (some "توسط ادمین معلق شد"))
    log .SHOP_SUSPENDED (some shopBot.id) user none
    send env .botManager
    send env .callbackAnswer
    send env (.answer .adminOwnerSuspendedConfirmation)
    send env (.editText .adminShopOwnerDetail)

/-- `cb_owner_unsuspend`. -/
def cbOwnerUnsuspend (user : ℤ) (ownerId : ℕ) : Handler Unit := do
  match ← query fun db => ownerWithShop db ownerId with
  | none => send env .callbackAnswer
  | some (_, shopBot) =>
    flush (setActive shopBot.id true none)
    log .SHOP_UNSUSPENDED (some shopBot.id) user none
    send env .botManager
    send env .callbackAnswer
    send env (.answer .adminOwnerUnsuspendedConfirmation)
    send env (.editText .adminShopOwnerDetail)

/-- `cb_owner_gift_start`. -/
def cbOwnerGiftStart (ownerId : ℕ) : Handler Unit := do
  setState .giftAmount
  updateData fun d => { d with giftOwnerId := some ownerId }
  send env .callbackAnswer
  send env (.answer .adminAskGiftAmount)

/-- The details of a gift's entry. -/
def giftDetails (ownerId : ℕ) (amountToman : ℤ) : String :=
  "owner_id=" ++ toString ownerId ++ ", amount_toman=" ++ toString amountToman

/-- `owner_gift_amount_entered`. -/
def ownerGiftAmountEntered (user : ℤ) (text : String) : Handler Unit := do
  match positive text with
  | none => send env (.answer .adminInvalidNumber)
  | some amountToman =>
    let ownerId ← required DialogData.giftOwnerId
    match ← query fun db => .ok (db.books.wallet.owners.find? ownerId) with
    | none =>
      clear
      send env (.answer .adminShopOwnersEmpty)
    | some owner =>
      flush fun db => do
        let (books, _) ← db.books.addCharge env.now owner.id amountToman .ADMIN_GRANT none
        return { db with books := books }
      let giftShopBot ← query fun db => db.getByOwner owner.id
      log .OWNER_GIFT_GRANTED (giftShopBot.map ShopBot.id) user (some (giftDetails ownerId amountToman))
      clear
      send env (.answer .adminGiftConfirmation)
      attempt env (.sendMessage owner.telegramId .ownerGiftNotification)

/-- `cb_owner_wallet_correction_start`. -/
def cbOwnerWalletCorrectionStart (ownerId : ℕ) : Handler Unit := do
  match ← query fun db => .ok (db.books.wallet.owners.find? ownerId) with
  | none => send env .callbackAnswer
  | some _ =>
    setState .correctionAmount
    updateData fun d => { d with correctionOwnerId := some ownerId }
    send env .callbackAnswer
    send env (.answer .adminWalletCorrectionIntro)

/-- `owner_wallet_correction_amount_entered`. -/
def ownerWalletCorrectionAmountEntered (text : String) : Handler Unit := do
  match ← lift (Input.parseSignedTomanAmount (strip text)) with
  | none => send env (.answer .adminInvalidSignedAmount)
  | some amountToman =>
    updateData fun d => { d with correctionAmount := some amountToman }
    setState .correctionReason
    send env (.answer .adminAskWalletCorrectionReason)

/-- The details of a correction's entry. -/
def correctionDetails (ownerId : ℕ) (amountToman : ℤ) (note : String) : String :=
  giftDetails ownerId amountToman ++ ", note=" ++ note

/-- The change of the wallet in `owner_wallet_correction_reason_entered`, and whether it was applied. -/
def applyCorrection (ownerId : ℕ) (amountToman : ℤ) (note : String) (db : PanelDb) :
    Except PyError (PanelDb × Bool) :=
  if 0 < amountToman then do
    let (wallet, _) ← db.books.wallet.addCharge db.books.settings env.now ownerId amountToman
      .ADMIN_CORRECTION none none (some note)
    return ({ db with books.wallet := wallet }, true)
  else do
    let (wallet, applied) ←
      db.books.wallet.deduct env.scan ownerId |amountToman| .ADMIN_CORRECTION (some note)
    return ({ db with books.wallet := wallet }, applied)

/-- `owner_wallet_correction_reason_entered`. -/
def ownerWalletCorrectionReasonEntered (user : ℤ) (text : String) : Handler Unit := do
  let note := strip text
  if note = "" then send env (.answer .adminWalletCorrectionEmptyReason)
  else if 255 < note.length then send env (.answer .adminWalletCorrectionReasonTooLong)
  else
    let ownerId ← required DialogData.correctionOwnerId
    let amountToman ← required DialogData.correctionAmount
    match ← query fun db => .ok (db.books.wallet.owners.find? ownerId) with
    | none =>
      clear
      send env (.answer .adminShopOwnersEmpty)
    | some owner =>
      let (db, applied) ← query (applyCorrection env owner.id amountToman note)
      modify fun s => (db, s.2)
      if !applied then
        setState .correctionAmount
        send env (.answer .adminWalletCorrectionInsufficientBalance)
      else
        let shopBot ← query fun db => db.getByOwner owner.id
        log .OWNER_WALLET_CORRECTED (shopBot.map ShopBot.id) user
          (some (correctionDetails ownerId amountToman note))
        clear
        send env (.answer .adminWalletCorrectionConfirmation)
        attempt env (.sendMessage owner.telegramId .ownerWalletCorrectionNotification)

/-- `owner_wallet_correction_reason_wrong_type`. -/
def ownerWalletCorrectionReasonWrongType : Handler Unit :=
  send env (.answer .adminWalletCorrectionEmptyReason)

/-! ## The moderation rules -/

/-- `cb_moderation_rule_add`. -/
def cbModerationRuleAdd : Handler Unit := do
  send env .callbackAnswer
  setState .moderationPattern
  send env (.answer .askModerationPattern)

/-- `moderation_pattern_received`. -/
def moderationPatternReceived (text : String) : Handler Unit := do
  updateData fun d => { d with pattern := some (strip text) }
  send env (.answer .askModerationAction)

/-- `cb_moderation_rule_action`, which asks for no state. -/
def cbModerationRuleAction (action : ModerationAction) : Handler Unit := do
  let pattern := (← get).2.data.pattern.getD ""
  if pattern = "" then send env .callbackAnswer
  else
    flush fun db => db.createRule pattern action
    clear
    send env .callbackAnswer
    send env (.editText .moderationRuleAddedConfirmation)
    send env (.answer .moderationMenuIntro)

/-- `cb_moderation_rule_toggle`. -/
def cbModerationRuleToggle (ruleId : ℕ) : Handler Unit := do
  match ← query fun db => .ok (db.rules.find? ruleId) with
  | none => send env .callbackAnswer
  | some rule =>
    flush fun db => .ok { db with
      rules := db.rules.modify rule.id fun r => { r with isActive := !r.isActive } }
    send env .callbackAnswer
    send env (.editText .moderationRuleDetailText)

/-- `cb_moderation_rule_delete`. -/
def cbModerationRuleDelete (ruleId : ℕ) : Handler Unit := do
  match ← query fun db => .ok (db.rules.find? ruleId) with
  | none => send env .callbackAnswer
  | some rule =>
    flush fun db => .ok { db with rules := db.rules.delete rule.id }
    send env .callbackAnswer
    send env (.editText .moderationMenuIntro)

/-! ## The pool of AI keys -/

/-- `cb_ai_pool_add`. -/
def cbAiPoolAdd : Handler Unit := do
  send env .callbackAnswer
  setState .poolEntryDetails
  send env (.answer .askAiPoolEntry)

/-- A character at which `splitlines` cuts. -/
def isLineBreak (c : Char) : Bool :=
  (10 ≤ c.toNat && c.toNat ≤ 13) || (28 ≤ c.toNat && c.toNat ≤ 30) || c.toNat == 0x85 ||
    c.toNat == 0x2028 || c.toNat == 0x2029

/-- `[line.strip() for line in text.strip().splitlines() if line.strip()]`.  Both characters of `"\r\n"`
cut, which adds a line without text. -/
def filledLines (text : String) : List String :=
  (((strip text).toList.splitOnP isLineBreak).map fun line => strip (.ofList line)).filter (· != "")

/-- The capability of a text. -/
def capability? (raw : String) : Option AiKeyCapability :=
  if raw.toLower = "chat" then some .CHAT
  else if raw.toLower = "vision" then some .VISION
  else if raw.toLower = "both" then some .BOTH
  else none

/-- `ai_pool_entry_received`. -/
def aiPoolEntryReceived (text : String) : Handler Unit := do
  match filledLines text with
  | [label, apiKey, model, baseUrl, capabilityRaw] =>
    match capability? capabilityRaw with
    | none => send env (.answer .aiPoolEntryInvalidCapability)
    | some capability =>
      flush fun db => db.addEntry label apiKey model baseUrl capability
      clear
      send env (.answer .aiPoolEntryAddedConfirmation)
      send env (.answer .aiPoolMenuIntro)
  | _ => send env (.answer .aiPoolEntryInvalidFormat)

/-- `cb_ai_pool_toggle`. -/
def cbAiPoolToggle (entryId : ℕ) : Handler Unit := do
  match ← query fun db => .ok (db.pool.find? entryId) with
  | none => send env .callbackAnswer
  | some entry =>
    flush fun db => .ok { db with
      pool := db.pool.modify entry.id fun e => { e with isActive := !e.isActive } }
    send env .callbackAnswer
    send env (.editText .aiPoolEntryDetailText)

/-- `cb_ai_pool_delete`. -/
def cbAiPoolDelete (entryId : ℕ) : Handler Unit := do
  match ← query fun db => .ok (db.pool.find? entryId) with
  | none => send env .callbackAnswer
  | some entry =>
    flush fun db => .ok { db with pool := db.pool.delete entry.id }
    send env .callbackAnswer
    send env (.editText .aiPoolMenuIntro)

/-! ## The operators -/

/-- `cb_admin_role_add`. -/
def cbAdminRoleAdd : Handler Unit := do
  send env .callbackAnswer
  setState .roleTelegramId
  send env (.answer .askAdminRoleTelegramId)

/-- The details of an entry about an operator. -/
def roleDetails (telegramId : ℤ) : String := "telegram_id=" ++ telegramId.repr

/-- `admin_role_telegram_id_received`. -/
def adminRoleTelegramIdReceived (adminIds : List ℤ) (user : ℤ) (text : String) : Handler Unit := do
  match Input.int (strip text) with
  | .error _ => send env (.answer .adminRoleInvalidTelegramId)
  | .ok telegramId =>
    if telegramId ∈ adminIds then send env (.answer .adminRoleAlreadySuperAdmin)
    else
      match ← query fun db => db.getByTelegramId telegramId with
      | some _ => send env (.answer .adminRoleAlreadyOperator)
      | none =>
        flush fun db => db.grantOperator telegramId user
        log .OPERATOR_ADMIN_GRANTED none user (some (roleDetails telegramId))
        clear
        send env (.answer .adminRoleAddedConfirmation)
        send env (.answer .adminRolesMenu)

/-- `cb_admin_role_revoke`. -/
def cbAdminRoleRevoke (user : ℤ) (roleId : ℕ) : Handler Unit := do
  match ← query fun db => .ok (db.roles.find? roleId) with
  | none => send env .callbackAnswer
  | some role =>
    flush fun db => .ok (db.revoke role)
    log .OPERATOR_ADMIN_REVOKED none user (some (roleDetails role.telegramId))
    send env .callbackAnswer
    send env (.editText .adminRolesMenu)

end AdminPanel

end KasbOKar
