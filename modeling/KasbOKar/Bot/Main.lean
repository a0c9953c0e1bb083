import KasbOKar.Bot.Manager
import KasbOKar.Bot.Start
import KasbOKar.Lib.Runs
import KasbOKar.Shop.Isolation

/-!
# The main bot

The updates of the main bot as one system: its tables, the registered shop bots and the FSM contexts
of the users.  `MenuButtonEscapeMiddleware` clears the context of a user who presses a button of the
menu, the routers then choose a handler by the text and the state: those of the panel, behind the gate
of the channels, stand before those of the registration.

Only `save_shop_bot_token` and the two handlers of a suspension write to the registered bots.  They do
so before the last calls to Telegram: if one of these raises, the tables are rolled back and the
registered bots are not.
-/

namespace KasbOKar

/-- A text to the main bot, as the filters of the handlers see it. -/
inductive MainText where
  /-- `/start`, with its argument -/
  | start (args : Option String) (raw : String)
  | cancel (raw : String)
  | panel (raw : String)
  /-- The button for the token of the shop bot. -/
  | tokenButton
  /-- Another one of `_KNOWN_MENU_BUTTONS`. -/
  | menuButton
  | plain (raw : String)

namespace MainText

/-- The text that the states of the registration take. -/
def answered : MainText → Option String
  | panel raw => some raw
  | plain raw => some raw
  | _ => none

/-- `event.text in self._known_button_texts`. -/
def isButton : MainText → Bool
  | tokenButton => true
  | menuButton => true
  | _ => false

end MainText

namespace Update

/-- An update of the shops' tables that has no part in what follows: products, orders, customers and
the mode of a shop. -/
def elsewhere : Update → Bool
  | reply _ _ _ => false
  | detectOrder _ _ _ => false
  | registerOwner _ _ _ => false
  | saveToken _ _ _ _ _ => false
  | setActive _ _ => false
  | _ => true

end Update

/-- An update of the main bot, or something that happens beside it. -/
inductive MainUpdate where
  | text (user : ℤ) (text : MainText)
  | contact (user : ℤ) (phoneNumber : String)
  /-- The button `check_channels_membership`. -/
  | checkChannels (user : ℤ)
  /-- The button `admin_owner_suspend` of an owner. -/
  | suspend (ownerId : ℕ)
  /-- The button `admin_owner_unsuspend` of an owner. -/
  | unsuspend (ownerId : ℕ)
  | toggleRegistrations
  /-- The admin changes the mandatory channels. -/
  | setChannels (channels : Table MandatoryChannel)
  /-- A step of another dialog, which ends it or leads to another of its states. -/
  | dialog (user : ℤ) (next : Option FsmState)
  | shop (d : Delivery)
  /-- A polling task whose token is refused. -/
  | markDisabled (shopBotId : ℕ) (reason : String)
  /-- The process is started again. -/
  | restart

structure MainBot where
  db : MainDb
  manager : ShopBotManager
  /-- The FSM contexts, in memory. -/
  fsm : ℤ → FsmContext

namespace MainBot

open MainDb MainResult

/-- The session of an update ends; the FSM context stays as the handler has left it. -/
def close (s : MainBot) (user : ℤ) (r : MainResult) : MainBot :=
  { s with db := r.committed s.db, fsm := Function.update s.fsm user r.ctx }

/-- `MenuButtonEscapeMiddleware`. -/
def escape (text : MainText) (ctx : FsmContext) : FsmContext :=
  if text.isButton && ctx.state.isSome && ctx.state != some .preview then {} else ctx

variable (env : MainEnv)

/-- A handler behind `ChannelGateMiddleware`. -/
def gated (s : MainBot) (user : ℤ) (ctx : FsmContext) (r : MainResult) : MainBot :=
  s.close user (if env.admitted then r else ⟨s.db, ctx, none⟩)

/-! ## Shop bots -/

/-- The lines of `save_shop_bot_token` after `upsert_shop_bot`. -/
def registerShopBot (s : MainBot) (user : ℤ) (db : ShopDb) (shopBot : ShopBot) (isBrandNew : Bool) :
    MainBot :=
  let s := { s with fsm := Function.update s.fsm user {} }
  if (env.send .tokenSaved).isSome then s
  else
    let s := { s with manager := s.manager.register shopBot }
    if isBrandNew && (env.send .askTenantMode).isSome then s else { s with db := s.db.withShop db }

/-- The owner of a user and the bot of a token, if `save_shop_bot_token` gets as far as
`upsert_shop_bot`.  Without an owner it ends with an `AttributeError`. -/
def tokenOwner (s : MainBot) (user : ℤ) (rawToken : String) : Option (ShopOwner × ℤ × String) :=
  match env.getMe (strip rawToken), s.db.ownerByTelegramId user with
  | some (botId, username), some owner =>
    if (s.db.getByBotTelegramId botId).any fun shop => shop.shopOwnerId != owner.id then none
    else some (owner, botId, username)
  | _, _ => none

/-- `save_shop_bot_token`. -/
def saveShopBotToken (s : MainBot) (user : ℤ) (rawToken : String) : MainBot :=
  match s.tokenOwner env user rawToken with
  | none => s
  | some (owner, botId, username) =>
    match s.db.upsertShopBot owner (env.encrypt (strip rawToken)) botId username env.secret with
    | .error _ => s
    | .ok (db, shopBot) => s.registerShopBot env user db shopBot (s.db.getByOwner owner).isNone

/-- The owner named by a button, and the shop. -/
def shopOfOwner (s : MainBot) (ownerId : ℕ) : Option ShopBot :=
  (s.db.owners.find? ownerId).bind s.db.getByOwner

/-- A write of `is_active` and `disabled_reason`, in a session that may be rolled back. -/
def setActive (s : MainBot) (shopBotId : ℕ) (isActive : Bool) (reason : Option String)
    (raised : Option PyError) : MainBot :=
  if raised.isSome then s
  else
    let set := fun shop : ShopBot => { shop with isActive := isActive, disabledReason := reason }
    { s with db := { s.db with shops := s.db.shops.modify shopBotId set } }

/-- The last calls of the two handlers below. -/
def confirmation (notice : MainNotice) : Option PyError :=
  ((env.send .callbackAnswer).or (env.send notice)).or (env.send .ownerDetail)

/-- `cb_owner_suspend`. -/
def cbOwnerSuspend (s : MainBot) (ownerId : ℕ) : MainBot :=
  match s.shopOfOwner ownerId with
  | none => s
  | some shopBot =>
    { s with manager := s.manager.unregister shopBot.id }.setActive shopBot.id false
      (some "توسط ادمین معلق شد") (confirmation env .ownerSuspended)

/-- `cb_owner_unsuspend`. -/
def cbOwnerUnsuspend (s : MainBot) (ownerId : ℕ) : MainBot :=
  match s.shopOfOwner ownerId with
  | none => s
  | some shopBot =>
    { s with manager := s.manager.register shopBot }.setActive shopBot.id true none
      (env.setWebhook.or (confirmation env .ownerUnsuspended))

/-- `cb_toggle_registrations`. -/
def cbToggleRegistrations (s : MainBot) : MainBot :=
  if (env.send .toggled).isSome then s
  else
    { s with db := { s.db with settings.allowNewRegistrations := !s.db.settings.allowNewRegistrations } }

/-- `get_all_active`. -/
def activeShops (db : MainDb) : List ShopBot := db.shops.rows.filter ShopBot.isActive

/-! ## Routing -/

/-- The states of the panel's dialogs, which come before the handlers of `start.py`; `none` for a text
that another dialog takes. -/
def panelState (s : MainBot) (user : ℤ) (raw : String) (rest : Option MainBot) :
    Option FsmState → Option MainBot
  | some .waitingToken => some (if env.admitted then s.saveShopBotToken env user raw else s)
  | some .preview => none
  | some .other => none
  | _ => rest

/-- The states of the registration. -/
def registrationState (s : MainBot) (user : ℤ) (ctx : FsmContext) (raw : String) (rest : MainResult) :
    Option FsmState → MainBot
  | some .waitingFirstName => s.close user (regFirstName env s.db ctx raw)
  | some .waitingLastName => s.close user (regLastName env s.db ctx raw)
  | some .waitingPhone => s.close user (handlePhoneInput env s.db ctx raw)
  | some .waitingEmail => s.close user (regEmail env s.db ctx user raw)
  | some .waitingPhoneOtp => s.close user (regPhoneOtp env s.db ctx user raw)
  | some .waitingEmailOtp => s.close user (regEmailOtp env s.db ctx user raw)
  | _ => s.close user rest

/-- The handler of a text. -/
def route (s : MainBot) (user : ℤ) (ctx : FsmContext) : MainText → Option MainBot
  | .tokenButton => some (s.gated env user ctx
      (answer env s.db { ctx with state := some .waitingToken } .askShopBotToken))
  | .menuButton => some (s.close user ⟨s.db, ctx, none⟩)
  | .cancel _ => some (s.gated env user ctx (answer env s.db {} .operationCancelled))
  | .start args raw =>
    s.panelState env user raw (some (s.close user (cmdStart env s.db ctx user args))) ctx.state
  | .panel raw => s.panelState env user raw
      (some (s.registrationState env user ctx raw (cmdPanel env s.db user) ctx.state)) ctx.state
  | .plain raw => s.panelState env user raw
      (some (s.registrationState env user ctx raw ⟨s.db, ctx, none⟩ ctx.state)) ctx.state

/-- The FSM context with which a text is routed. -/
def contextOf (s : MainBot) (user : ℤ) (text : MainText) : FsmContext := escape text (s.fsm user)

/-- One update. -/
def step (s : MainBot) : MainEnv × MainUpdate → Option MainBot
  | (env, .text user text) =>
    s.route env user (s.contextOf user text) text
  | (env, .contact user phoneNumber) =>
    if (s.fsm user).state = some .waitingPhone then
      some (s.close user (handlePhoneInput env s.db (s.fsm user) phoneNumber))
    else some s
  | (env, .checkChannels user) =>
    some (s.close user (cbCheckChannelsMembership env s.db (s.fsm user) user))
  | (env, .suspend ownerId) => some (if env.isAdmin then s.cbOwnerSuspend env ownerId else s)
  | (env, .unsuspend ownerId) => some (if env.isAdmin then s.cbOwnerUnsuspend env ownerId else s)
  | (env, .toggleRegistrations) => some (if env.isAdmin then s.cbToggleRegistrations env else s)
  | (_, .setChannels channels) => some { s with db := { s.db with channels := channels } }
  | (_, .dialog user none) => some { s with fsm := Function.update s.fsm user {} }
  | (_, .dialog user (some next)) =>
    if next = .other ∨ next = .preview then
      let ctx := s.fsm user
      some { s with fsm := Function.update s.fsm user { ctx with state := some next } }
    else none
  | (_, .shop d) =>
    if d.update.elsewhere then some { s with db := s.db.withShop (s.db.handle d) } else none
  | (_, .markDisabled shopBotId reason) => some (s.setActive shopBotId false (some reason) none)
  | (_, .restart) =>
    some { s with manager := ShopBotManager.empty.loadAll (activeShops s.db), fsm := fun _ => {} }

/-- Nobody is registered yet. -/
def newPlatform : MainBot where
  db :=
    { owners := .empty
      referrals := .empty
      shops := .empty
      customers := .empty
      products := .empty
      orders := .empty
      settings := {}
      otps := .empty
      channels := .empty }
  manager := .empty
  fsm := fun _ => {}

/-! ## What a text can do -/

/-- The token in a text, if `save_shop_bot_token` takes it. -/
def tokenText (ctx : FsmContext) : MainText → Option String
  | .start _ raw => if ctx.state = some .waitingToken then some raw else none
  | .panel raw => if ctx.state = some .waitingToken then some raw else none
  | .plain raw => if ctx.state = some .waitingToken then some raw else none
  | _ => none

/-- The handlers of the other texts: those that write no table, and those of the registration. -/
inductive Routed (db : MainDb) (ctx : FsmContext) (user : ℤ) (text : MainText) : MainResult → Prop
  | idle (ctx' : FsmContext) (raised : Option PyError) : Routed db ctx user text ⟨db, ctx', raised⟩
  | start (args : Option String) : Routed db ctx user text (cmdStart env db ctx user args)
  | email {raw : String} (htext : text.answered = some raw) (h : ctx.state = some .waitingEmail) :
    Routed db ctx user text (regEmail env db ctx user raw)
  | phoneOtp {raw : String} (htext : text.answered = some raw)
    (h : ctx.state = some .waitingPhoneOtp) : Routed db ctx user text (regPhoneOtp env db ctx user raw)
  | emailOtp {raw : String} (htext : text.answered = some raw)
    (h : ctx.state = some .waitingEmailOtp) : Routed db ctx user text (regEmailOtp env db ctx user raw)

variable {env} {s s' : MainBot} {user : ℤ} {ctx : FsmContext} {text : MainText}

theorem routed_gated (ctx' : FsmContext) (raised : Option PyError) :
    ∃ r, s.gated env user ctx ⟨s.db, ctx', raised⟩ = s.close user r ∧
      Routed env s.db ctx user text r := by
  unfold gated
  split_ifs
  · exact ⟨_, rfl, .idle ..⟩
  · exact ⟨_, rfl, .idle ..⟩

theorem routed_registration {raw : String} (htext : text.answered = some raw) {rest : MainResult}
    (hrest : Routed env s.db ctx user text rest) :
    ∃ r, s.registrationState env user ctx raw rest ctx.state = s.close user r ∧
      Routed env s.db ctx user text r := by
  unfold registrationState
  split
  · exact ⟨_, rfl, .idle ..⟩
  · exact ⟨_, rfl, .idle ..⟩
  · refine ⟨_, rfl, ?_⟩
    unfold handlePhoneInput
    split
    · exact .idle ..
    · exact .idle ..
  · rename_i hstate
    exact ⟨_, rfl, .email htext hstate⟩
  · rename_i hstate
    exact ⟨_, rfl, .phoneOtp htext hstate⟩
  · rename_i hstate
    exact ⟨_, rfl, .emailOtp htext hstate⟩
  · exact ⟨rest, rfl, hrest⟩

theorem panelState_cases {raw : String} {rest : Option MainBot}
    (h : s.panelState env user raw rest ctx.state = some s') :
    (ctx.state = some .waitingToken ∧
      s' = if env.admitted then s.saveShopBotToken env user raw else s) ∨
    (ctx.state ≠ some .waitingToken ∧ rest = some s') := by
  unfold panelState at h
  split at h
  · rename_i hstate
    exact Or.inl ⟨hstate, (Option.some.inj h).symm⟩
  · cases h
  · cases h
  · rename_i hstate _ _
    exact Or.inr ⟨hstate, h⟩

/-- **What a text can do**: it is taken for a token, or handled in a session of its own. -/
theorem route_cases (h : s.route env user ctx text = some s') :
    (∃ raw, tokenText ctx text = some raw ∧
      s' = if env.admitted then s.saveShopBotToken env user raw else s) ∨
    (tokenText ctx text = none ∧ ∃ r, s' = s.close user r ∧ Routed env s.db ctx user text r) := by
  cases text with
  | tokenButton =>
    cases h
    exact Or.inr ⟨rfl, routed_gated _ _⟩
  | menuButton =>
    cases h
    exact Or.inr ⟨rfl, _, rfl, .idle ..⟩
  | cancel raw =>
    cases h
    exact Or.inr ⟨rfl, routed_gated _ _⟩
  | start args raw =>
    obtain ⟨hstate, hs'⟩ | ⟨hstate, hs'⟩ := panelState_cases h
    · exact Or.inl ⟨raw, if_pos hstate, hs'⟩
    · cases hs'
      exact Or.inr ⟨if_neg hstate, _, rfl, .start args⟩
  | panel raw =>
    obtain ⟨hstate, hs'⟩ | ⟨hstate, hs'⟩ := panelState_cases h
    · exact Or.inl ⟨raw, if_pos hstate, hs'⟩
    · cases hs'
      refine Or.inr ⟨if_neg hstate, routed_registration rfl ?_⟩
      unfold cmdPanel
      split_ifs
      · exact .idle ..
      · exact .idle ..
  | plain raw =>
    obtain ⟨hstate, hs'⟩ | ⟨hstate, hs'⟩ := panelState_cases h
    · exact Or.inl ⟨raw, if_pos hstate, hs'⟩
    · cases hs'
      exact Or.inr ⟨if_neg hstate, routed_registration rfl (.idle ..)⟩

/-! ## What a step can do -/

/-- The effects of an update.  A button of an admin that somebody else presses, a contact that nobody
has asked for and an answer that is not delivered change nothing. -/
inductive Effect (env : MainEnv) (s : MainBot) : MainUpdate → MainBot → Prop
  | token {user : ℤ} {text : MainText} {raw : String}
    (htext : tokenText (s.contextOf user text) text = some raw) :
    Effect env s (.text user text) (if env.admitted then s.saveShopBotToken env user raw else s)
  | handled {user : ℤ} {text : MainText} {r : MainResult}
    (htext : tokenText (s.contextOf user text) text = none)
    (h : Routed env s.db (s.contextOf user text) user text r) : Effect env s (.text user text) (s.close user r)
  | same {update : MainUpdate} (htext : ∀ user text, update ≠ .text user text) : Effect env s update s
  | contact (user : ℤ) (phone : String) : Effect env s (.contact user phone)
    (s.close user (handlePhoneInput env s.db (s.fsm user) phone))
  | checkChannels (user : ℤ) : Effect env s (.checkChannels user)
    (s.close user (cbCheckChannelsMembership env s.db (s.fsm user) user))
  | suspend (ownerId : ℕ) : Effect env s (.suspend ownerId) (s.cbOwnerSuspend env ownerId)
  | unsuspend (h : env.isAdmin = true) (ownerId : ℕ) :
    Effect env s (.unsuspend ownerId) (s.cbOwnerUnsuspend env ownerId)
  | settings {update : MainUpdate} (htext : ∀ user text, update ≠ .text user text)
    (settings : AdminSettings) (channels : Table MandatoryChannel) :
    Effect env s update { s with db := { s.db with settings := settings, channels := channels } }
  | dialog {user : ℤ} {next : Option FsmState} {ctx : FsmContext}
    (hctx : ctx.state = none ∨ ctx.state = some .other ∨ ctx.state = some .preview) :
    Effect env s (.dialog user next) { s with fsm := Function.update s.fsm user ctx }
  | shop {d : Delivery} (h : d.update.elsewhere = true) :
    Effect env s (.shop d) { s with db := s.db.withShop (s.db.handle d) }
  | markDisabled (shopBotId : ℕ) (reason : String) : Effect env s (.markDisabled shopBotId reason)
    (s.setActive shopBotId false (some reason) none)
  | restart : Effect env s .restart
    { s with manager := ShopBotManager.empty.loadAll (activeShops s.db), fsm := fun _ => {} }

/-- **What a step can do.** -/
theorem step_effect {update : MainUpdate} (h : s.step (env, update) = some s') :
    Effect env s update s' := by
  cases update with
  | text user text =>
    obtain ⟨raw, htext, rfl⟩ | ⟨htext, r, rfl, hr⟩ := route_cases h
    · exact .token htext
    · exact .handled htext hr
  | contact user phone =>
    dsimp only [step] at h
    split_ifs at h
    · cases h
      exact .contact user phone
    · cases h
      exact .same fun _ _ => nofun
  | checkChannels user =>
    cases h
    exact .checkChannels user
  | suspend ownerId =>
    cases h
    split_ifs
    · exact .suspend ownerId
    · exact .same fun _ _ => nofun
  | unsuspend ownerId =>
    cases h
    split_ifs with hadmin
    · exact .unsuspend hadmin ownerId
    · exact .same fun _ _ => nofun
  | toggleRegistrations =>
    cases h
    unfold cbToggleRegistrations
    split_ifs
    · exact .same fun _ _ => nofun
    · refine .settings ?_ _ s.db.channels
      exact fun _ _ => nofun
    · exact .same fun _ _ => nofun
  | setChannels channels =>
    cases h
    refine .settings ?_ s.db.settings channels
    exact fun _ _ => nofun
  | dialog user next =>
    cases next with
    | none =>
      cases h
      exact .dialog (Or.inl rfl)
    | some next =>
      dsimp only [step] at h
      split_ifs at h with hnext
      cases h
      exact .dialog (Or.inr (hnext.imp (congrArg some) (congrArg some)))
  | shop d =>
    dsimp only [step] at h
    split_ifs at h with hd
    cases h
    exact .shop hd
  | markDisabled shopBotId reason =>
    cases h
    exact .markDisabled shopBotId reason
  | restart =>
    cases h
    exact .restart

section Stays

variable {β : Type} {f : MainBot → β}

/-- What writes of `is_active` and of the manager leave alone. -/
theorem cbOwnerSuspend_stays (hf : ∀ manager shopBotId isActive reason raised,
      f (setActive { s with manager := manager } shopBotId isActive reason raised) = f s) (ownerId : ℕ) :
    f (s.cbOwnerSuspend env ownerId) = f s := by
  unfold cbOwnerSuspend
  split
  · rfl
  · exact hf ..

theorem cbOwnerUnsuspend_stays (hf : ∀ manager shopBotId isActive reason raised,
      f (setActive { s with manager := manager } shopBotId isActive reason raised) = f s) (ownerId : ℕ) :
    f (s.cbOwnerUnsuspend env ownerId) = f s := by
  unfold cbOwnerUnsuspend
  split
  · rfl
  · exact hf ..

end Stays

/-! ## What the handlers of a shop leave alone -/

theorem setActive_owners (shopBotId : ℕ) (isActive : Bool) (reason : Option String)
    (raised : Option PyError) : (s.setActive shopBotId isActive reason raised).db.owners = s.db.owners := by
  unfold setActive
  split_ifs
  · rfl
  · rfl

theorem setActive_otps (shopBotId : ℕ) (isActive : Bool) (reason : Option String)
    (raised : Option PyError) : (s.setActive shopBotId isActive reason raised).db.otps = s.db.otps := by
  unfold setActive
  split_ifs
  · rfl
  · rfl

theorem setActive_fsm (shopBotId : ℕ) (isActive : Bool) (reason : Option String)
    (raised : Option PyError) : (s.setActive shopBotId isActive reason raised).fsm = s.fsm := by
  unfold setActive
  split_ifs
  · rfl
  · rfl

theorem saveShopBotToken_db (user : ℤ) (rawToken : String) :
    ∃ shop : ShopDb, shop.owners = s.db.owners ∧
      (s.saveShopBotToken env user rawToken).db = s.db.withShop shop := by
  have hsame : ∃ shop : ShopDb, shop.owners = s.db.owners ∧ s.db = s.db.withShop shop := ⟨_, rfl, rfl⟩
  unfold saveShopBotToken
  split
  · exact hsame
  split
  · exact hsame
  · rename_i db shopBot hupsert
    have howners : db.owners = s.db.owners := by
      unfold ShopDb.upsertShopBot at hupsert
      split at hupsert
      · cases hupsert
      split at hupsert
      · dsimp only at hupsert
        split_ifs at hupsert
        cases hupsert
        rfl
      · dsimp only at hupsert
        split_ifs at hupsert
        cases hupsert
        rfl
    unfold registerShopBot
    dsimp only
    split_ifs
    · exact hsame
    · exact hsame
    · exact ⟨db, howners, rfl⟩

end MainBot

namespace ShopDb

/-! ## The standing of a shop -/

/-- The owner of a shop, and whether it is active. -/
def standing (db : ShopDb) (shopBotId : ℕ) : Option (ℕ × Bool) :=
  (db.shops.find? shopBotId).map fun s => (s.shopOwnerId, s.isActive)

section Standing

variable {db db' : ShopDb} {i j : ℕ} {f : ShopBot → ShopBot} (hf : ∀ s, (f s).id = s.id)

theorem standing_of_shops (h : db'.shops = db.shops) (i : ℕ) : db'.standing i = db.standing i := by
  unfold standing
  rw [h]

theorem standing_modify_of_ne (h : db'.shops = db.shops.modify j f hf) (hne : i ≠ j) :
    db'.standing i = db.standing i := by
  unfold standing
  rw [h, Table.find?_modify_of_ne hf hne]

theorem standing_modify_self {shop : ShopBot} {x : ℕ × Bool} (h : db'.shops = db.shops.modify i f hf)
    (hfind : db.shops.find? i = some shop) (hx : ((f shop).shopOwnerId, (f shop).isActive) = x) :
    db'.standing i = some x := by
  unfold standing
  rw [h, Table.find?_modify_self hf hfind, Option.map_some, hx]

theorem standing_modify_same (h : db'.shops = db.shops.modify j f hf)
    (hsame : ∀ s, ((f s).shopOwnerId, (f s).isActive) = (s.shopOwnerId, s.isActive)) (i : ℕ) :
    db'.standing i = db.standing i := by
  unfold standing
  rw [h, Table.find?_modify]
  split_ifs
  · rw [Option.map_map]
    exact congrArg (fun g => Option.map g (db.shops.find? i)) (funext hsame)
  · rfl

end Standing

/-- What a handler of products, orders or customers leaves alone. -/
structure Aside (db db' : ShopDb) : Prop where
  standing : ∀ i, db'.standing i = db.standing i
  owners : db'.owners = db.owners
  settings : db'.settings = db.settings

theorem aside_of_eq {db db' : ShopDb} (hshops : db'.shops = db.shops) (howners : db'.owners = db.owners)
    (hsettings : db'.settings = db.settings) : Aside db db' :=
  ⟨standing_of_shops hshops, howners, hsettings⟩

theorem aside_refl (db : ShopDb) : Aside db db := aside_of_eq rfl rfl rfl

theorem commit_aside {db : ShopDb} {sent : Bool} {x : Except PyError OrderDb} :
    Aside db (db.commit sent x) :=
  commit_keeps (aside_refl db) fun _ _ => aside_of_eq rfl rfl rfl

theorem customerMessage_aside {db : ShopDb} {sent : Bool} {now : Datetime} {bot user : ℤ}
    {firstName username : Option String} :
    Aside db (db.customerMessage sent now bot user firstName username) := by
  unfold customerMessage
  split
  · exact aside_refl db
  split
  · exact aside_refl db
  · rename_i db' c h
    refine ite_keeps (aside_refl db) ?_
    unfold getOrCreateCustomer at h
    split at h
    · cases h
    split at h
    · cases h
      exact aside_of_eq rfl rfl rfl
    · split at h
      · cases h
      cases h
      exact aside_of_eq rfl rfl rfl

theorem cbSetTenantMode_aside {db : ShopDb} {sent : Bool} {user : ℤ} {mode : TenantMode} :
    Aside db (db.cbSetTenantMode sent user mode) := by
  refine withShop_keeps (aside_refl db) fun shopBot _ => ite_keeps (aside_refl db) ⟨fun i => ?_, rfl, rfl⟩
  exact standing_modify_same (by intro; rfl) rfl (by intro; rfl) i

theorem handle_aside (db : ShopDb) {d : Delivery} (hd : d.update.elsewhere = true) :
    Aside db (db.handle d) := by
  have hrefl := aside_refl db
  obtain ⟨update, admitted, sent⟩ := d
  cases update with
  | confirmOrder now user orderId =>
    refine ite_keeps hrefl (withOwnedOrder_keeps hrefl fun _ order _ _ _ _ => ?_)
    split_ifs
    · exact hrefl
    · exact commit_aside
  | rejectOrder user orderId =>
    exact ite_keeps hrefl (withOwnedOrder_keeps hrefl fun _ _ _ _ _ _ => commit_aside)
  | advanceOrder user orderId =>
    exact ite_keeps hrefl (withOwnedOrder_keeps hrefl fun _ _ _ _ _ _ => commit_aside)
  | addProductStock user data stock =>
    refine ite_keeps hrefl (withShop_keeps hrefl fun _ _ => ?_)
    split
    · exact commit_aside
    · exact hrefl
  | productBulkImportConfirm user rows =>
    exact ite_keeps hrefl (withShop_keeps hrefl fun _ _ => commit_aside)
  | productDeleteConfirm user productId =>
    refine ite_keeps hrefl (withShop_keeps hrefl fun _ _ => ?_)
    split
    · exact hrefl
    · exact commit_aside
  | editProductValue user productId field value =>
    refine ite_keeps hrefl (withShop_keeps hrefl fun _ _ => ?_)
    split
    · exact commit_aside
    · exact hrefl
  | customerConfirmOrder now bot user orderId =>
    dsimp only [handle]
    unfold cbCustomerConfirmOrder
    split
    · exact hrefl
    · exact commit_aside
  | customerCancelOrder bot user orderId =>
    dsimp only [handle]
    unfold cbCustomerCancelOrder
    split
    · exact hrefl
    · exact commit_aside
  | customerMessage now bot user firstName username => exact customerMessage_aside
  | orderExpiry scan scan' now now' => exact commit_aside
  | setTenantMode user mode => exact ite_keeps hrefl cbSetTenantMode_aside
  | reply => cases hd
  | detectOrder => cases hd
  | registerOwner => cases hd
  | saveToken => cases hd
  | setActive => cases hd

end ShopDb

end KasbOKar
