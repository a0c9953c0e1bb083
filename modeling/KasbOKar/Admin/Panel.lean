import KasbOKar.Admin.Handlers
import KasbOKar.Lib.Runs

/-!
# The admin panel

The panel as one system: its tables, and the FSM contexts of all users.  `MenuButtonEscapeMiddleware`
clears the context of a user who presses a button of the menu; then the routers choose a handler by the
text, the button and the state.  `router` is for the admins of the configuration and the operators of the
table, `super_router` for the former only.

Beside the updates of the panel stand the steps of the rest of the program that meet its tables: payments
and wallets, matches of the moderation rules, shops, and the dialogs of other routers.
-/

namespace KasbOKar

open Session

/-- `settings`, and the name of the bot. -/
structure PanelConfig where
  adminIds : List ℤ
  botUsername : String

/-- The data of an inline button, as the keyboards write it. -/
inductive AdminButton where
  /-- A button whose handler only shows something: `admin_channel_list`, `admin_channel_delete:`, `noop`,
  `admin_owners_list`, `admin_owner_view:`, `mod_rules_list` and `mod_rule_view:`. -/
  | display
  /-- The same in `super_router`: `admin_pricing_plans`, `ai_pool_list`, `ai_pool_view:`,
  `admin_role_list` and `admin_role_view:`. -/
  | superDisplay
  | broadcastConfirm
  | broadcastCancel
  | channelAdd
  | channelPrimary (yes : Bool)
  | channelDeleteConfirm (channelPk : ℕ)
  | pricingMenu
  | toggleZarinpal
  | toggleBalePay
  | recalcWalletCost
  | toggleRegistrations
  | toggleTopups
  | toggleMaintenance
  | planToggle (planId : ℕ)
  | planAdd
  | settingEdit (key : String)
  | ownerSuspend (ownerId : ℕ)
  | ownerUnsuspend (ownerId : ℕ)
  | ownerGift (ownerId : ℕ)
  | ownerWalletCorrection (ownerId : ℕ)
  | modRuleAdd
  | modRuleAction (action : ModerationAction)
  | modRuleToggle (ruleId : ℕ)
  | modRuleDelete (ruleId : ℕ)
  | aiPoolAdd
  | aiPoolToggle (entryId : ℕ)
  | aiPoolDelete (entryId : ℕ)
  | adminRoleAdd
  | adminRoleRevoke (roleId : ℕ)
  deriving DecidableEq

inductive PanelUpdate where
  | message (m : PanelMessage)
  | button (b : AdminButton)

/-- `_KNOWN_MENU_BUTTONS`. -/
def knownMenuButtons : List String :=
  ["🔑 ثبت/ویرایش توکن ربات", "📦 محصولات", "🧠 دستور هوشمندسازی", "📢 کانال دانش‌افزایی",
    "👀 پیش‌نمایش ربات", "📊 آمار", "💰 کیف‌پول", "🎁 کد معرف", "🧾 تاریخچه‌ی پرداخت", "📤 خروجی اکسل",
    "✏️ ویرایش اطلاعات", "👤 پروفایل من", "📢 مدیریت کانال‌های اجباری", "🧾 صف تایید پرداخت‌ها",
    "💰 تنظیمات قیمت و تخفیف", "🔑 تنظیمات کلیدها", "📊 آمار سراسری", "📣 پیام همگانی",
    "👥 مدیریت فروشگاه‌دارها", "🔑 استخرِ کلیدهایِ AI", "🛡 نگهبانِ محتوا", "📜 گزارشِ ممیزی",
    "👑 مدیریتِ ادمین‌ها"]

/-- The filter `Command(name)`: the first word is the command, with the name of this bot or none. -/
def isCommand (botUsername name text : String) : Bool :=
  match (text.toList.dropWhile isSpace).takeWhile fun c => !isSpace c with
  | '/' :: word =>
    let mention := (word.dropWhile (· != '@')).drop 1
    word.takeWhile (· != '@') == name.toList &&
      (mention.isEmpty || (String.ofList mention).toLower == botUsername.toLower)
  | _ => false

namespace AdminPanel

/-! ## Routing -/

section Routing

variable (cfg : PanelConfig) (env : PanelEnv)

/-- The handler of a command or of a menu button. -/
def namedHandler (isSuper : Bool) (text : String) : Option (Handler Unit) :=
  if isCommand cfg.botUsername "admin" text then some (clearAndShow env)
  else if text = "🧾 صف تایید پرداخت‌ها" ∨ text = "📊 آمار سراسری" ∨
      isCommand cfg.botUsername "admin_stats" text then some (display env)
  else if text = "📣 پیام همگانی" ∨ isCommand cfg.botUsername "broadcast" text then
    some (broadcastStart env)
  else if text = "📢 مدیریت کانال‌های اجباری" ∨ text = "👥 مدیریت فروشگاه‌دارها" ∨
      text = "🛡 نگهبانِ محتوا" ∨ text = "📜 گزارشِ ممیزی" then some (clearAndShow env)
  else if isSuper ∧ (text = "💰 تنظیمات قیمت و تخفیف" ∨ text = "🔑 تنظیمات کلیدها" ∨
      text = "👑 مدیریتِ ادمین‌ها") then some (clearAndShow env)
  else if isSuper ∧ text = "🔑 استخرِ کلیدهایِ AI" then some (display env)
  else none

/-- The handlers of `router` and `super_router` that wait for a text. -/
def textHandler (user : ℤ) (m : PanelMessage) (text : String) : DialogState → Option (Handler Unit)
  | .broadcastMessage => some (broadcastMessageEntered env text)
  | .channelName => some (channelAddName env text)
  | .channelProof => some (channelAddProof env m)
  | .giftAmount => some (ownerGiftAmountEntered env user text)
  | .correctionAmount => some (ownerWalletCorrectionAmountEntered env text)
  | .correctionReason => some (ownerWalletCorrectionReasonEntered env user text)
  | .moderationPattern => some (moderationPatternReceived env text)
  | _ => none

def superTextHandler (user : ℤ) (text : String) : DialogState → Option (Handler Unit)
  | .planDuration => some (planDurationEntered env text)
  | .planPrice => some (planPriceEntered env text)
  | .settingValue => some (settingValueEntered env text)
  | .rateLimitMax => some (rateLimitMaxEntered env text)
  | .rateLimitWindow => some (rateLimitWindowEntered env text)
  | .poolEntryDetails => some (aiPoolEntryReceived env text)
  | .roleTelegramId => some (adminRoleTelegramIdReceived env cfg.adminIds user text)
  | _ => none

/-- The handlers that take a message without a text. -/
def otherHandler (m : PanelMessage) : DialogState → Option (Handler Unit)
  | .channelProof => some (channelAddProof env m)
  | .correctionReason => some (ownerWalletCorrectionReasonWrongType env)
  | _ => none

/-- The handler of a message of an admin. -/
def messageHandler (isSuper : Bool) (user : ℤ) (m : PanelMessage) (state : Option DialogState) :
    Option (Handler Unit) :=
  match m.text with
  | none => state.bind (otherHandler env m)
  | some text =>
    (namedHandler cfg env isSuper text).or <|
      (state.bind (textHandler env user m text)).or <|
        if isSuper then state.bind (superTextHandler cfg env user text) else none

/-- The handler of a button in `router`. -/
def buttonHandler (user : ℤ) (state : Option DialogState) : AdminButton → Option (Handler Unit)
  | .display => some (display env)
  | .broadcastConfirm =>
    if state = some .broadcastConfirmation then some (broadcastConfirmed env) else none
  | .broadcastCancel =>
    if state = some .broadcastConfirmation then some (broadcastCancelled env) else none
  | .channelAdd => some (cbChannelAdd env)
  | .channelPrimary yes =>
    if state = some .channelIsPrimary then some (channelAddPrimaryChoice env yes) else none
  | .channelDeleteConfirm channelPk => some (cbChannelDeleteConfirm env channelPk)
  | .ownerSuspend ownerId => some (cbOwnerSuspend env user ownerId)
  | .ownerUnsuspend ownerId => some (cbOwnerUnsuspend env user ownerId)
  | .ownerGift ownerId => some (cbOwnerGiftStart env ownerId)
  | .ownerWalletCorrection ownerId => some (cbOwnerWalletCorrectionStart env ownerId)
  | .modRuleAdd => some (cbModerationRuleAdd env)
  | .modRuleAction action => some (cbModerationRuleAction env action)
  | .modRuleToggle ruleId => some (cbModerationRuleToggle env ruleId)
  | .modRuleDelete ruleId => some (cbModerationRuleDelete env ruleId)
  | _ => none

/-- The handler of a button in `super_router`. -/
def superButtonHandler (user : ℤ) : AdminButton → Option (Handler Unit)
  | .superDisplay => some (display env)
  | .pricingMenu => some (cbPricingMenu env)
  | .toggleZarinpal => some (cbToggleZarinpal env)
  | .toggleBalePay => some (cbToggleBalePay env)
  | .recalcWalletCost => some (cbRecalcWalletCost env)
  | .toggleRegistrations => some (cbToggleRegistrations env user)
  | .toggleTopups => some (cbToggleTopups env user)
  | .toggleMaintenance => some (cbToggleMaintenance env user)
  | .planToggle planId => some (cbPlanToggle env planId)
  | .planAdd => some (cbPlanAdd env)
  | .settingEdit key => some (cbSettingEdit env key)
  | .aiPoolAdd => some (cbAiPoolAdd env)
  | .aiPoolToggle entryId => some (cbAiPoolToggle env entryId)
  | .aiPoolDelete entryId => some (cbAiPoolDelete env entryId)
  | .adminRoleAdd => some (cbAdminRoleAdd env)
  | .adminRoleRevoke roleId => some (cbAdminRoleRevoke env user roleId)
  | _ => none

/-- `IsSuperAdmin`. -/
def isSuperAdmin (user : ℤ) : Bool := decide (user ∈ cfg.adminIds)

/-- `IsAdmin`. -/
def isAdmin (db : PanelDb) (user : ℤ) : Except PyError Bool :=
  if isSuperAdmin cfg user then .ok true else db.isOperator user

/-- The handler of an update, if the panel has one for it. -/
def handlerOf (db : PanelDb) (user : ℤ) (state : Option DialogState) : PanelUpdate → Option (Handler Unit)
  | .message m =>
    if isAdmin cfg db user = .ok true then messageHandler cfg env (isSuperAdmin cfg user) user m state
    else none
  | .button b =>
    if isAdmin cfg db user = .ok true then
      (buttonHandler env user state b).or
        (if isSuperAdmin cfg user then superButtonHandler env user b else none)
    else none

end Routing

/-- `MenuButtonEscapeMiddleware`. -/
def escape (u : PanelUpdate) (ctx : DialogContext) : DialogContext :=
  match u with
  | .message { text := some text, .. } =>
    if text ∈ knownMenuButtons ∧ ctx.state.isSome ∧ ctx.state ≠ some .preview then {} else ctx
  | _ => ctx

end AdminPanel

open AdminPanel

/-! ## The system -/

namespace BookAct

/-- An act that no handler of the panel does. -/
def elsewhere : BookAct → Bool
  | ownerGift _ _ => false
  | ownerWalletCorrection _ _ _ _ => false
  | setSettings _ => false
  | _ => true

end BookAct

inductive AdminAct where
  | update (env : PanelEnv) (user : ℤ) (u : PanelUpdate)
  /-- A handler of another router ends a dialog, or leads to a state of its own. -/
  | dialog (user : ℤ) (next : Option DialogState)
  /-- A customer's message matches a moderation rule. -/
  | moderationMatch (shopBotId : ℕ) (actor : ℤ) (details : String)
  | book (now : Datetime) (committed : Bool) (act : BookAct)
  /-- A shop is registered, disabled or changed. -/
  | shops (shops : Table ShopBot)
  /-- The process is started again; the contexts are in memory. -/
  | restart

structure PanelSystem where
  db : PanelDb
  fsm : ℤ → DialogContext

namespace PanelSystem

variable (cfg : PanelConfig) (W : World)

/-- One update of a user. -/
def handle (s : PanelSystem) (env : PanelEnv) (user : ℤ) (u : PanelUpdate) : PanelSystem :=
  let ctx := escape u (s.fsm user)
  match handlerOf cfg env s.db user ctx.state u with
  | none => { s with fsm := Function.update s.fsm user ctx }
  | some handler =>
    let (db, ctx) := session handler (s.db, ctx)
    { db := db, fsm := Function.update s.fsm user ctx }

/-- The exception with which the update ends. -/
def failure (s : PanelSystem) (env : PanelEnv) (user : ℤ) (u : PanelUpdate) : Option PyError :=
  let ctx := escape u (s.fsm user)
  (handlerOf cfg env s.db user ctx.state u).bind fun handler => Session.failure handler (s.db, ctx)

def step (s : PanelSystem) : AdminAct → Option PanelSystem
  | .update env user u => some (s.handle cfg env user u)
  | .dialog user none => some { s with fsm := Function.update s.fsm user {} }
  | .dialog user (some next) =>
    if next = .elsewhere ∨ next = .preview then
      let ctx := s.fsm user
      some { s with fsm := Function.update s.fsm user { ctx with state := some next } }
    else none
  | .moderationMatch shopBotId actor details =>
    some { s with db := s.db.log .MODERATION_MATCH (some shopBotId) (some actor) (some details) }
  | .book now committed act =>
    if act.elsewhere then
      (PaymentDb.book W s.db.books (now, committed, act)).map fun books =>
        { s with db := { s.db with books := books } }
    else none
  | .shops shops => some { s with db := { s.db with shops := shops } }
  | .restart => some { s with fsm := fun _ => {} }

/-- A new installation, over the books it starts with. -/
def new (books : PaymentDb) : PanelSystem where
  db :=
    { roles := .empty
      audit := .empty
      books := { books with settings := {} }
      more := {}
      shops := .empty
      channels := .empty
      rules := .empty
      pool := .empty
      plans := .empty }
  fsm := fun _ => {}

end PanelSystem

end KasbOKar
