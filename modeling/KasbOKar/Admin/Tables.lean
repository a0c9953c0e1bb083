import KasbOKar.Lib.Serial
import KasbOKar.Payment.Books

/-!
# The tables of the admin panel

What the handlers of `app/bots/main_bot/handlers/admin.py` read and write, with the services that they
call: `audit_log_service`, `admin_role_service`, `admin_settings_service`, `channel_service`,
`moderation_service`, `ai_pool_service` and `subscription_plan_service`.  Rows of four of the tables are
deleted, so these stand beside their sequences.

The settings row is in two parts: the columns that the payments read are in `books`, the others in `more`.
A column is named by its field, and `IntField.read` and `IntField.write` reach it in either part.
-/

namespace KasbOKar

/-! ## Rows -/

inductive AuditEventType where
  | MODERATION_MATCH
  | ADMIN_SETTING_CHANGED
  | KILL_SWITCH_TOGGLED
  | SHOP_SUSPENDED
  | SHOP_UNSUSPENDED
  | PAYMENT_APPROVED
  | PAYMENT_REJECTED
  | OWNER_GIFT_GRANTED
  | OPERATOR_ADMIN_GRANTED
  | OPERATOR_ADMIN_REVOKED
  | OWNER_WALLET_CORRECTED
  deriving DecidableEq, Repr

structure AuditLogEntry where
  id : ℕ
  eventType : AuditEventType
  shopBotId : Option ℕ := none
  actorTelegramId : Option ℤ := none
  details : Option String := none
  deriving DecidableEq, Repr

structure AdminRole where
  id : ℕ
  telegramId : ℤ
  grantedByTelegramId : ℤ
  deriving DecidableEq, Repr

/-- A mandatory channel, with the columns that the gate does not read. -/
structure ChannelRow extends MandatoryChannel where
  name : String
  inviteLink : Option String
  deriving DecidableEq, Repr

/-- A key of the pool, with the columns that its client is built from. -/
structure PoolRow extends AiApiKeyPoolEntry where
  label : String
  apiKey : String
  model : String
  baseUrl : String
  deriving DecidableEq, Repr

structure SubscriptionPlan where
  id : ℕ
  durationMonths : ℤ
  priceToman : ℤ
  isActive : Bool := true
  deriving DecidableEq, Repr

instance : Keyed AuditLogEntry := ⟨AuditLogEntry.id⟩
instance : Keyed AdminRole := ⟨AdminRole.id⟩
instance : Keyed ChannelRow := ⟨fun c => c.id⟩
instance : Keyed PoolRow := ⟨fun e => e.id⟩
instance : Keyed SubscriptionPlan := ⟨SubscriptionPlan.id⟩

/-- The columns of the settings row beside those in `AdminSettings`. -/
structure MoreSettings where
  aiModel : String := "grok-4-1-fast-non-reasoning"
  aiBaseUrl : String := "https://api.x.ai/v1/chat/completions"
  aiFallbackApiKey : Option String := none
  aiFallbackModel : Option String := none
  aiFallbackBaseUrl : Option String := none
  platformCardNumber : Option String := none
  platformCardHolderName : Option String := none
  gracePeriodHours : ℤ := 48
  rateLimitMaxMessages : ℤ := 15
  rateLimitWindowSeconds : ℤ := 60
  periodicReportFrequencyDays : ℤ := 7
  conversationHistoryLimit : ℤ := 20
  conversationRetentionDays : ℤ := 90
  knowledgeItemsLimit : ℤ := 15
  globalAiSystemPrompt : Option String := none
  referenceChannelLink : Option String := none
  /-- `ai_cost_usd_per_1m_tokens`, `Numeric(10, 4)`, in ten-thousandths -/
  aiCostUsdPer1mTokens : ℤ := 140
  usdToTomanRate : ℤ := 100000
  /-- `wallet_markup_multiplier`, `Numeric(5, 2)`, in hundredths -/
  walletMarkupMultiplier : ℤ := 500
  deriving DecidableEq, Repr

structure PanelDb where
  roles : Serial AdminRole
  audit : Serial AuditLogEntry
  books : PaymentDb
  more : MoreSettings
  shops : Table ShopBot
  channels : Serial ChannelRow
  rules : Serial ModerationRule
  pool : Serial PoolRow
  plans : Table SubscriptionPlan

/-- The range of a `BIGINT` column. -/
def Int8 (x : ℤ) : Prop := -9223372036854775808 ≤ x ∧ x ≤ 9223372036854775807

instance (x : ℤ) : Decidable (Int8 x) := inferInstanceAs (Decidable (_ ∧ _))

/-- The text fits a column of this length. -/
def fitsText (length : Option ℕ) (s : String) : Bool := length.all fun n => decide (s.length ≤ n)

/-! ## The fields of the settings row -/

/-- `_INT_FIELDS`. -/
inductive IntField where
  | gracePeriodHours
  | paymentReservationMinutes
  | orderReservationMinutes
  | orderCustomerConfirmationTimeoutMinutes
  | periodicReportFrequencyDays
  | conversationHistoryLimit
  | knowledgeItemsLimit
  | referralRewardValue
  | walletCostPer1kTokensToman
  | walletCostPhotoAnalysisToman
  | walletCostVoiceTranscriptionToman
  | walletCostOrderDetectionToman
  | walletTopupValidityMonths
  | walletTrialCreditToman
  | walletLowBalanceWarningToman
  | conversationRetentionDays
  | usdToTomanRate
  deriving DecidableEq, Repr

namespace IntField

/-- The key in `_INT_FIELDS`. -/
def name : IntField → String
  | gracePeriodHours => "grace_period_hours"
  | paymentReservationMinutes => "payment_reservation_minutes"
  | orderReservationMinutes => "order_reservation_minutes"
  | orderCustomerConfirmationTimeoutMinutes => "order_customer_confirmation_timeout_minutes"
  | periodicReportFrequencyDays => "periodic_report_frequency_days"
  | conversationHistoryLimit => "conversation_history_limit"
  | knowledgeItemsLimit => "knowledge_items_limit"
  | referralRewardValue => "referral_reward_value"
  | walletCostPer1kTokensToman => "wallet_cost_per_1k_tokens_toman"
  | walletCostPhotoAnalysisToman => "wallet_cost_photo_analysis_toman"
  | walletCostVoiceTranscriptionToman => "wallet_cost_voice_transcription_toman"
  | walletCostOrderDetectionToman => "wallet_cost_order_detection_toman"
  | walletTopupValidityMonths => "wallet_topup_validity_months"
  | walletTrialCreditToman => "wallet_trial_credit_toman"
  | walletLowBalanceWarningToman => "wallet_low_balance_warning_toman"
  | conversationRetentionDays => "conversation_retention_days"
  | usdToTomanRate => "usd_to_toman_rate"

def all : List IntField :=
  [gracePeriodHours, paymentReservationMinutes, orderReservationMinutes,
    orderCustomerConfirmationTimeoutMinutes, periodicReportFrequencyDays, conversationHistoryLimit,
    knowledgeItemsLimit, referralRewardValue, walletCostPer1kTokensToman, walletCostPhotoAnalysisToman,
    walletCostVoiceTranscriptionToman, walletCostOrderDetectionToman, walletTopupValidityMonths,
    walletTrialCreditToman, walletLowBalanceWarningToman, conversationRetentionDays, usdToTomanRate]

/-- `0 if field in _INT_FIELDS_ALLOW_ZERO else 1`. -/
def minimum : IntField → ℤ
  | conversationRetentionDays => 0
  | referralRewardValue => 0
  | _ => 1

/-- The value of the column; the reward is in hundredths. -/
def read (db : PanelDb) : IntField → ℤ
  | gracePeriodHours => db.more.gracePeriodHours
  | paymentReservationMinutes => db.books.settings.paymentReservationMinutes
  | orderReservationMinutes => db.books.settings.orderReservationMinutes
  | orderCustomerConfirmationTimeoutMinutes => db.books.settings.orderCustomerConfirmationTimeoutMinutes
  | periodicReportFrequencyDays => db.more.periodicReportFrequencyDays
  | conversationHistoryLimit => db.more.conversationHistoryLimit
  | knowledgeItemsLimit => db.more.knowledgeItemsLimit
  | referralRewardValue => db.books.settings.referralRewardValueCents
  | walletCostPer1kTokensToman => db.books.settings.walletCostPer1kTokensToman
  | walletCostPhotoAnalysisToman => db.books.settings.walletCostPhotoAnalysisToman
  | walletCostVoiceTranscriptionToman => db.books.settings.walletCostVoiceTranscriptionToman
  | walletCostOrderDetectionToman => db.books.settings.walletCostOrderDetectionToman
  | walletTopupValidityMonths => db.books.settings.walletTopupValidityMonths
  | walletTrialCreditToman => db.books.settings.walletTrialCreditToman
  | walletLowBalanceWarningToman => db.books.settings.walletLowBalanceWarningToman
  | conversationRetentionDays => db.more.conversationRetentionDays
  | usdToTomanRate => db.more.usdToTomanRate

/-- The assigned number as the column holds it. -/
def stored (value : ℤ) : IntField → ℤ
  | referralRewardValue => 100 * value
  | _ => value

/-- The number fits the column. -/
def fits (value : ℤ) : IntField → Bool
  | referralRewardValue => decide (|value| < 100000000)
  | _ => decide (Int4 value)

/-- `setattr(settings_row, field_name, value)`. -/
def write (db : PanelDb) (field : IntField) (value : ℤ) : PanelDb :=
  let v := field.stored value
  match field with
  | gracePeriodHours => { db with more.gracePeriodHours := v }
  | paymentReservationMinutes => { db with books.settings.paymentReservationMinutes := v }
  | orderReservationMinutes => { db with books.settings.orderReservationMinutes := v }
  | orderCustomerConfirmationTimeoutMinutes =>
    { db with books.settings.orderCustomerConfirmationTimeoutMinutes := v }
  | periodicReportFrequencyDays => { db with more.periodicReportFrequencyDays := v }
  | conversationHistoryLimit => { db with more.conversationHistoryLimit := v }
  | knowledgeItemsLimit => { db with more.knowledgeItemsLimit := v }
  | referralRewardValue => { db with books.settings.referralRewardValueCents := v }
  | walletCostPer1kTokensToman => { db with books.settings.walletCostPer1kTokensToman := v }
  | walletCostPhotoAnalysisToman => { db with books.settings.walletCostPhotoAnalysisToman := v }
  | walletCostVoiceTranscriptionToman =>
    { db with books.settings.walletCostVoiceTranscriptionToman := v }
  | walletCostOrderDetectionToman => { db with books.settings.walletCostOrderDetectionToman := v }
  | walletTopupValidityMonths => { db with books.settings.walletTopupValidityMonths := v }
  | walletTrialCreditToman => { db with books.settings.walletTrialCreditToman := v }
  | walletLowBalanceWarningToman => { db with books.settings.walletLowBalanceWarningToman := v }
  | conversationRetentionDays => { db with more.conversationRetentionDays := v }
  | usdToTomanRate => { db with more.usdToTomanRate := v }

end IntField

/-- `_TEXT_FIELDS`. -/
inductive TextField where
  | smsApiKey
  | aiApiKey
  | aiModel
  | aiBaseUrl
  | zarinpalMerchantId
  | baleProviderToken
  | platformCardNumber
  | platformCardHolderName
  deriving DecidableEq, Repr

namespace TextField

/-- The key in `_TEXT_FIELDS`. -/
def name : TextField → String
  | smsApiKey => "sms_api_key"
  | aiApiKey => "ai_api_key"
  | aiModel => "ai_model"
  | aiBaseUrl => "ai_base_url"
  | zarinpalMerchantId => "zarinpal_merchant_id"
  | baleProviderToken => "bale_provider_token"
  | platformCardNumber => "platform_card_number"
  | platformCardHolderName => "platform_card_holder_name"

def all : List TextField :=
  [smsApiKey, aiApiKey, aiModel, aiBaseUrl, zarinpalMerchantId, baleProviderToken, platformCardNumber,
    platformCardHolderName]

/-- The length of the column, if it has one. -/
def length : TextField → Option ℕ
  | smsApiKey => none
  | aiApiKey => none
  | aiModel => some 100
  | aiBaseUrl => some 255
  | zarinpalMerchantId => some 64
  | baleProviderToken => some 128
  | platformCardNumber => some 32
  | platformCardHolderName => some 255

/-- `setattr(settings_row, field_name, value)`. -/
def write (db : PanelDb) (value : String) : TextField → PanelDb
  | smsApiKey => { db with books.settings.smsApiKey := some value }
  | aiApiKey => { db with books.settings.aiApiKey := some value }
  | aiModel => { db with more.aiModel := value }
  | aiBaseUrl => { db with more.aiBaseUrl := value }
  | zarinpalMerchantId => { db with books.settings.zarinpalMerchantId := some value }
  | baleProviderToken => { db with books.settings.baleProviderToken := some value }
  | platformCardNumber => { db with more.platformCardNumber := some value }
  | platformCardHolderName => { db with more.platformCardHolderName := some value }

end TextField

/-- `_NULLABLE_TEXT_FIELDS`. -/
inductive NullableTextField where
  | globalAiSystemPrompt
  | referenceChannelLink
  | aiFallbackApiKey
  | aiFallbackModel
  | aiFallbackBaseUrl
  deriving DecidableEq, Repr

namespace NullableTextField

/-- The key in `_NULLABLE_TEXT_FIELDS`. -/
def name : NullableTextField → String
  | globalAiSystemPrompt => "global_ai_system_prompt"
  | referenceChannelLink => "reference_channel_link"
  | aiFallbackApiKey => "ai_fallback_api_key"
  | aiFallbackModel => "ai_fallback_model"
  | aiFallbackBaseUrl => "ai_fallback_base_url"

def all : List NullableTextField :=
  [globalAiSystemPrompt, referenceChannelLink, aiFallbackApiKey, aiFallbackModel, aiFallbackBaseUrl]

def length : NullableTextField → Option ℕ
  | globalAiSystemPrompt => none
  | referenceChannelLink => some 255
  | aiFallbackApiKey => none
  | aiFallbackModel => some 100
  | aiFallbackBaseUrl => some 255

/-- `setattr(settings_row, field_name, value)`. -/
def write (db : PanelDb) (value : Option String) : NullableTextField → PanelDb
  | globalAiSystemPrompt => { db with more.globalAiSystemPrompt := value }
  | referenceChannelLink => { db with more.referenceChannelLink := value }
  | aiFallbackApiKey => { db with more.aiFallbackApiKey := value }
  | aiFallbackModel => { db with more.aiFallbackModel := value }
  | aiFallbackBaseUrl => { db with more.aiFallbackBaseUrl := value }

end NullableTextField

/-- `_DECIMAL_FIELDS`. -/
inductive DecimalField where
  | aiCostUsdPer1mTokens
  | walletMarkupMultiplier
  deriving DecidableEq, Repr

/-- A value as a column with this scale stores it: halves are rounded away from zero. -/
def numericScaled (scale : ℕ) (value : ℚ) : ℤ :=
  if 0 ≤ value then ⌊value * 10 ^ scale + 1 / 2⌋ else -⌊-value * 10 ^ scale + 1 / 2⌋

namespace DecimalField

/-- The key in `_DECIMAL_FIELDS`. -/
def name : DecimalField → String
  | aiCostUsdPer1mTokens => "ai_cost_usd_per_1m_tokens"
  | walletMarkupMultiplier => "wallet_markup_multiplier"

def all : List DecimalField := [aiCostUsdPer1mTokens, walletMarkupMultiplier]

/-- The digits of the column, and how many of them stand behind the point. -/
def precision : DecimalField → ℕ × ℕ
  | aiCostUsdPer1mTokens => (10, 4)
  | walletMarkupMultiplier => (5, 2)

def stored (value : ℚ) (field : DecimalField) : ℤ := numericScaled field.precision.2 value

def read (db : PanelDb) : DecimalField → ℤ
  | aiCostUsdPer1mTokens => db.more.aiCostUsdPer1mTokens
  | walletMarkupMultiplier => db.more.walletMarkupMultiplier

/-- `setattr(settings_row, field_name, value)`. -/
def write (db : PanelDb) (field : DecimalField) (value : ℚ) : PanelDb :=
  let v := field.stored value
  match field with
  | aiCostUsdPer1mTokens => { db with more.aiCostUsdPer1mTokens := v }
  | walletMarkupMultiplier => { db with more.walletMarkupMultiplier := v }

end DecimalField

/-- `Decimal(text)`, when it is a number. -/
inductive PyDecimal where
  | finite (q : ℚ)
  | infinite (negative : Bool)
  | nan
  deriving DecidableEq

/-- A field with its kind: `field` and `field_kind` of the dialog's data. -/
inductive SettingField where
  | nullableText (field : NullableTextField)
  | text (field : TextField)
  | int (field : IntField)
  | decimal (field : DecimalField)
  deriving DecidableEq, Repr

/-- The field of a key, as `cb_setting_edit` looks it up. -/
def settingField? (key : String) : Option SettingField :=
  ((NullableTextField.all.find? fun f => f.name == key).map .nullableText).or <|
    ((TextField.all.find? fun f => f.name == key).map .text).or <|
      ((IntField.all.find? fun f => f.name == key).map .int).or <|
        (DecimalField.all.find? fun f => f.name == key).map .decimal

/-- A switch in the settings row whose changes are logged. -/
inductive KillSwitch where
  | allowNewRegistrations
  | allowWalletTopups
  | maintenanceMode
  deriving DecidableEq, Repr

namespace KillSwitch

def name : KillSwitch → String
  | allowNewRegistrations => "allow_new_registrations"
  | allowWalletTopups => "allow_wallet_topups"
  | maintenanceMode => "maintenance_mode"

def read (db : PanelDb) : KillSwitch → Bool
  | allowNewRegistrations => db.books.settings.allowNewRegistrations
  | allowWalletTopups => db.books.settings.allowWalletTopups
  | maintenanceMode => db.books.settings.maintenanceMode

def write (db : PanelDb) (value : Bool) : KillSwitch → PanelDb
  | allowNewRegistrations => { db with books.settings.allowNewRegistrations := value }
  | allowWalletTopups => { db with books.settings.allowWalletTopups := value }
  | maintenanceMode => { db with books.settings.maintenanceMode := value }

/-- The details of the entry: `f"{name} -> {value}"`. -/
def details (value : Bool) (s : KillSwitch) : String :=
  s.name ++ " -> " ++ if value then "True" else "False"

end KillSwitch

namespace PanelDb

/-! ## `audit_log_service` and `admin_role_service` -/

/-- `log`. -/
def log (db : PanelDb) (eventType : AuditEventType) (shopBotId : Option ℕ) (actorTelegramId : Option ℤ)
    (details : Option String) : PanelDb :=
  { db with
    audit := db.audit.add fun id =>
      { id := id, eventType := eventType, shopBotId := shopBotId, actorTelegramId := actorTelegramId,
        details := details } }

/-- `get_by_telegram_id`. -/
def getByTelegramId (db : PanelDb) (telegramId : ℤ) : Except PyError (Option AdminRole) :=
  if Int8 telegramId then scalarOneOrNone (db.roles.rows.filter fun r => r.telegramId == telegramId)
  else .error .DataError

/-- `is_operator`. -/
def isOperator (db : PanelDb) (telegramId : ℤ) : Except PyError Bool :=
  (db.getByTelegramId telegramId).map Option.isSome

/-- `grant_operator`. -/
def grantOperator (db : PanelDb) (telegramId grantedByTelegramId : ℤ) : Except PyError PanelDb :=
  if db.roles.rows.any fun r => r.telegramId == telegramId then .error .IntegrityError
  else .ok { db with
    roles := db.roles.add fun id =>
      { id := id, telegramId := telegramId, grantedByTelegramId := grantedByTelegramId } }

/-- `revoke`. -/
def revoke (db : PanelDb) (role : AdminRole) : PanelDb := { db with roles := db.roles.delete role.id }

/-! ## `admin_settings_service` -/

/-- `update_setting` of a field that takes a number. -/
def updateInt (db : PanelDb) (field : IntField) (value : ℤ) : Except PyError PanelDb :=
  if field.fits value then .ok (field.write db value) else .error .DataError

/-- `update_setting` of a field that takes a text. -/
def updateText (db : PanelDb) (field : TextField) (value : String) : Except PyError PanelDb :=
  if fitsText field.length value then .ok (field.write db value) else .error .DataError

/-- `update_setting` of a field that can be emptied. -/
def updateNullableText (db : PanelDb) (field : NullableTextField) (value : Option String) :
    Except PyError PanelDb :=
  if value.all (fitsText field.length) then .ok (field.write db value) else .error .DataError

/-- `update_setting` of a field that takes a decimal number. -/
def updateDecimal (db : PanelDb) (field : DecimalField) (value : ℚ) : Except PyError PanelDb :=
  if |field.stored value| < 10 ^ field.precision.1 then .ok (field.write db value)
  else .error .DataError

/-- `compute_cost_per_1k_tokens_from_formula`.  The product has at most 25 digits, so the arithmetic of
`Decimal` is exact. -/
def computeCostPer1kTokensFromFormula (more : MoreSettings) : ℤ :=
  let usdPer1k : ℚ := more.aiCostUsdPer1mTokens / 10000 / 1000
  let rawToman := usdPer1k * more.usdToTomanRate
  max 1 (roundHalfEven (rawToman * (more.walletMarkupMultiplier / 100)))

/-! ## The other services -/

/-- The lines of `create_channel` before the new row: the primary channel is primary no more. -/
def demotePrimary (channels : Serial ChannelRow) (isPrimary : Bool) : Serial ChannelRow :=
  match if isPrimary then channels.rows.find? fun c => c.isPrimary else none with
  | some existing => channels.modify existing.id fun c => { c with isPrimary := false }
  | none => channels

/-- `create_channel`. -/
def createChannel (db : PanelDb) (channelId name : String) (inviteLink : Option String)
    (isPrimary : Bool) : Except PyError PanelDb :=
  if ¬ (fitsText (some 64) channelId && fitsText (some 255) name &&
      inviteLink.all (fitsText (some 255))) then .error .DataError
  else if db.channels.rows.any fun c => c.channelId == channelId then .error .IntegrityError
  else .ok { db with
    channels := (demotePrimary db.channels isPrimary).add fun id =>
      { id := id, channelId := channelId, isPrimary := isPrimary, name := name,
        inviteLink := inviteLink } }

/-- `moderation_service.create_rule` of a rule that is no regular expression, which `validate_pattern_safety`
lets pass. -/
def createRule (db : PanelDb) (pattern : String) (action : ModerationAction) : Except PyError PanelDb :=
  if fitsText (some 200) pattern then
    .ok { db with rules := db.rules.add fun id => { id := id, pattern := pattern, action := action } }
  else .error .DataError

/-- `add_entry`. -/
def addEntry (db : PanelDb) (label apiKey model baseUrl : String) (capability : AiKeyCapability) :
    Except PyError PanelDb :=
  if fitsText (some 100) label && fitsText (some 100) model && fitsText (some 255) baseUrl then
    .ok { db with
      pool := db.pool.add fun id =>
        { id := id, capability := capability, label := label, apiKey := apiKey, model := model,
          baseUrl := baseUrl } }
  else .error .DataError

/-- `get_by_duration`. -/
def getByDuration (db : PanelDb) (durationMonths : ℤ) : Except PyError (Option SubscriptionPlan) :=
  if Int4 durationMonths then
    scalarOneOrNone (db.plans.rows.filter fun p => p.durationMonths == durationMonths)
  else .error .DataError

/-- `create_plan`. -/
def createPlan (db : PanelDb) (durationMonths priceToman : ℤ) : Except PyError PanelDb :=
  if ¬ (Int4 durationMonths ∧ Int4 priceToman) then .error .DataError
  else if db.plans.rows.any fun p => p.durationMonths == durationMonths then .error .IntegrityError
  else .ok { db with
    plans := db.plans.insert
      { id := db.plans.nextId, durationMonths := durationMonths, priceToman := priceToman } }

/-- `update_price`. -/
def updatePrice (db : PanelDb) (plan : SubscriptionPlan) (newPriceToman : ℤ) : Except PyError PanelDb :=
  if Int4 newPriceToman then
    .ok { db with plans := db.plans.modify plan.id fun p => { p with priceToman := newPriceToman } }
  else .error .DataError

/-- `toggle_plan_active`. -/
def togglePlanActive (db : PanelDb) (planId : ℕ) : PanelDb :=
  { db with plans := db.plans.modify planId fun p => { p with isActive := !p.isActive } }

/-- `shop_bot_service.get_by_owner`. -/
def getByOwner (db : PanelDb) (ownerId : ℕ) : Except PyError (Option ShopBot) :=
  scalarOneOrNone (db.shops.rows.filter fun s => s.shopOwnerId == ownerId)

end PanelDb

end KasbOKar
