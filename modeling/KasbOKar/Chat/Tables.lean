import KasbOKar.Order.Detection
import KasbOKar.Shop.Tables
import KasbOKar.Wallet.Service

/-!
# Tables and services behind a reply

The tables that the handlers of the shop bots work on: those of the shops, the wallet, the
conversations, the moderation rules and the pool of API keys.  `check_text` asks for the active rules
without an order, so the database may return them in any (`Scan`).

The code compares texts with `str.lower` and `re.search`; both are parameters here (`TextOps`).
-/

namespace KasbOKar

/-- An entry `MODERATION_MATCH` of the audit log. -/
structure ModerationMatch where
  shopBotId : ℕ
  actorTelegramId : ℤ
  pattern : String
  action : ModerationAction
  category : Option String
  deriving DecidableEq

structure ChatDb extends ShopDb where
  charges : Table WalletCharge
  transactions : Table WalletTransaction
  rules : Table ModerationRule
  messages : Table ConversationMessage
  keyPool : Table AiApiKeyPoolEntry
  auditLog : List ModerationMatch
  /-- `bot_error_events`, by shop. -/
  botErrors : List ℕ

/-- What `re` and `str` do with the texts. -/
structure TextOps where
  /-- `s.lower()` -/
  lower : String → String
  /-- `re.search(pattern, text, re.IGNORECASE) is not None`, and `False` for an invalid pattern -/
  search : String → String → Bool

namespace ModerationRule

/-- The test of the loop in `check_text`, with `_safe_regex_match`. -/
def fires (T : TextOps) (text : String) (rule : ModerationRule) : Bool :=
  if rule.isRegex then T.search rule.pattern (slice 4096 text)
  else decide ((T.lower rule.pattern).toList <:+: (T.lower text).toList)

end ModerationRule

namespace ChatDb

/-- The tables of the wallet service. -/
def walletDb (db : ChatDb) : WalletDb :=
  { owners := db.owners, charges := db.charges, transactions := db.transactions }

/-- The tables after the wallet service has written to its part. -/
def withWallet (db : ChatDb) (w : WalletDb) : ChatDb :=
  { db with owners := w.owners, charges := w.charges, transactions := w.transactions }

/-- The tables after a change of the shop's part. -/
def withShopDb (db : ChatDb) (shop : ShopDb) : ChatDb := { db with toShopDb := shop }

/-! ## Moderation -/

/-- `get_active_rules`. -/
def getActiveRules (db : ChatDb) (scan : Scan ModerationRule) : List ModerationRule :=
  db.rules.select scan ModerationRule.isActive

/-- `check_text`. -/
def checkText (T : TextOps) (db : ChatDb) (scan : Scan ModerationRule) (text : String) :
    Option ModerationRule :=
  if text = "" then none else (db.getActiveRules scan).find? fun rule => rule.fires T text

/-- `audit_log_service.log` of a match. -/
def logMatch (db : ChatDb) (shopBotId : ℕ) (user : ℤ) (rule : ModerationRule) : ChatDb :=
  let entry : ModerationMatch :=
    { shopBotId := shopBotId, actorTelegramId := user, pattern := rule.pattern, action := rule.action,
      category := rule.category }
  { db with auditLog := db.auditLog ++ [entry] }

/-! ## Conversations -/

/-- A value that a `Text` column takes: a string without a zero character. -/
def storable : PyJson → Option String
  | .str s => if s.toList.contains (Char.ofNat 0) then none else some s
  | _ => none

/-- `session.add(ConversationMessage(…))`. -/
def addMessage (db : ChatDb) (customerId : ℕ) (role : MessageRole) (content : String) : ChatDb :=
  let message : ConversationMessage :=
    { id := db.messages.nextId, customerId := customerId, role := role, content := content }
  { db with messages := db.messages.insert message }

/-- `save_turn`. -/
def saveTurn (db : ChatDb) (customerId : ℕ) (userMessage : String) (assistantReply : PyJson) :
    Except PyError ChatDb :=
  match storable (.str userMessage), storable assistantReply with
  | some userMessage, some reply =>
    .ok ((db.addMessage customerId .user userMessage).addMessage customerId .assistant reply)
  | _, _ => .error .DataError

/-! ## API keys and costs -/

/-- `build_ai_service` finds a key: one of the pool, or the one of the settings. -/
def buildAiService (db : ChatDb) (capability : AiKeyCapability) : Bool :=
  (db.keyPool.rows.any fun e => e.isActive && (e.capability == capability || e.capability == .BOTH)) ||
    db.settings.aiApiKey.any fun key => key != ""

/-- `round(a / b)` of two integers: the quotient is the nearest `float`. -/
def roundQuotient (a : ℤ) (b : ℕ) : Except PyError ℤ :=
  let q := nearestFloat (a / b)
  if (2 : ℚ) ^ 1024 ≤ |q| then .error .OverflowError else .ok (roundHalfEven q)

/-- `max(1, round(total_tokens * wallet_cost_per_1k_tokens_toman / 1000))`. -/
def tokenCost (settings : AdminSettings) (totalTokens : ℤ) : Except PyError ℤ :=
  (roundQuotient (totalTokens * settings.walletCostPer1kTokensToman) 1000).map (max 1)

/-- `estimate_chat_cost`. -/
def estimateChatCost (settings : AdminSettings) (totalTokens : Option ℤ) : Except PyError ℤ :=
  tokenCost settings (totalTokens.getD 800)

/-- `estimate_photo_cost`. -/
def estimatePhotoCost (settings : AdminSettings) : ℤ := settings.walletCostPhotoAnalysisToman

/-- `estimate_voice_cost`. -/
def estimateVoiceCost (settings : AdminSettings) : ℤ := settings.walletCostVoiceTranscriptionToman

/-- `estimate_order_detection_cost`. -/
def estimateOrderDetectionCost (settings : AdminSettings) (totalTokens : Option ℤ) :
    Except PyError ℤ :=
  match totalTokens with
  | none => .ok settings.walletCostOrderDetectionToman
  | some n => tokenCost settings n

/-! ## Notices to the owner -/

/-- `_EMPTY_RENOTIFY_HOURS`. -/
def emptyRenotifyHours : ℤ := 6

/-- `_LOW_BALANCE_RENOTIFY_HOURS`. -/
def lowBalanceRenotifyHours : ℤ := 24

/-- The `WHERE` clauses of `try_claim_empty_notification` and `try_claim_low_balance_notification`:
the last notice was not sent, or long enough ago. -/
def claimable (notifiedAt : Option Datetime) (now : Datetime) (n : ℤ) : Bool :=
  notifiedAt.all fun t => decide (t ≤ now - hours n)

/-- A write to the row of an owner. -/
def setOwner (db : ChatDb) (ownerId : ℕ) (f : ShopOwner → ShopOwner) (hf : ∀ o, (f o).id = o.id) :
    ChatDb :=
  { db with owners := db.owners.modify ownerId f hf }

end ChatDb

end KasbOKar
