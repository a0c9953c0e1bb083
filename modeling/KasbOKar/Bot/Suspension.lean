import KasbOKar.Bot.Main

/-!
# Suspended shops

`cb_owner_suspend` sets `is_active` of a shop to false and takes its bot from the registered ones.
Both are undone by `cb_owner_unsuspend`, which is for admins, and also by `save_shop_bot_token`: the
owner of a suspended shop only has to send its token once more (`suspension_undone`).
`suspension_iff` says that nothing else does.
-/

namespace KasbOKar

namespace ShopDb

/-- `upsert_shop_bot` makes one shop active, and leaves the others alone. -/
theorem upsertShopBot_standing {db db' : ShopDb} {owner : ShopOwner} {token : String} {botId : ℤ}
    {username secret : String} {shopBot : ShopBot}
    (h : db.upsertShopBot owner token botId username secret = .ok (db', shopBot)) :
    (∀ i, i ≠ shopBot.id → db'.standing i = db.standing i) ∧
      ∃ ownerId, db'.standing shopBot.id = some (ownerId, true) := by
  unfold upsertShopBot at h
  split at h
  · cases h
  split at h
  · dsimp only at h
    split_ifs at h
    cases h
    refine ⟨fun i hi => ?_, owner.id, ?_⟩
    · exact congrArg (Option.map _) (Table.find?_insert_of_ne hi)
    · exact congrArg (Option.map _) (Table.find?_insert_self (Table.nextId_notMem _))
  · rename_i shop hshop
    dsimp only at h
    split_ifs at h
    cases h
    have hfind : db.shops.find? shop.id = some shop :=
      Table.find?_of_mem (List.mem_of_find?_eq_some hshop)
    refine ⟨fun i hi => ?_, shop.shopOwnerId, ?_⟩
    · exact standing_modify_of_ne (by intro; rfl) rfl hi
    · exact standing_modify_self (by intro; rfl) rfl hfind (by rfl)

end ShopDb

namespace ShopBotManager

theorem getBot_register_self (m : ShopBotManager) (shopBot : ShopBot) :
    (m.register shopBot).getBot shopBot.id ≠ none := by
  unfold getBot register
  dsimp only
  rw [Function.update_self]
  nofun

theorem getBot_loadAll {shopBots : List ShopBot} {i : ℕ} (h : ∀ shop ∈ shopBots, i ≠ shop.id) :
    ∀ m : ShopBotManager, (m.loadAll shopBots).getBot i = m.getBot i := by
  induction shopBots with
  | nil => intro m; rfl
  | cons shop shopBots ih =>
    intro m
    calc ((m.register shop).loadAll shopBots).getBot i
        = (m.register shop).getBot i := ih (fun shop hs => h shop (List.mem_cons_of_mem _ hs)) _
      _ = m.getBot i := getBot_register_of_ne m (h shop List.mem_cons_self)

end ShopBotManager

namespace MainBot

open MainDb MainResult

/-- The shop of an owner is suspended: it is not active, and its bot is not registered. -/
structure Suspended (s : MainBot) (shopBotId ownerId : ℕ) : Prop where
  inactive : s.db.standing shopBotId = some (ownerId, false)
  unregistered : s.manager.getBot shopBotId = none

/-- The shop that `save_shop_bot_token` registers for a user. -/
def brings (env : MainEnv) (s : MainBot) (user : ℤ) (rawToken : String) : Option ℕ :=
  match s.tokenOwner env user rawToken with
  | none => none
  | some (owner, botId, username) =>
    match s.db.upsertShopBot owner (env.encrypt (strip rawToken)) botId username env.secret with
    | .error _ => none
    | .ok (_, shopBot) => if (env.send .tokenSaved).isSome then none else some shopBot.id

/-- The shop whose token is registered in a step: a text in the state `waiting_token`, behind the gate
of the channels. -/
def reregisters (s : MainBot) : MainEnv × MainUpdate → Option ℕ
  | (env, .text user text) =>
    if env.admitted then (tokenText (s.contextOf user text) text).bind (s.brings env user) else none
  | _ => none

theorem reregisters_of_ne {env : MainEnv} {s : MainBot} {update : MainUpdate}
    (htext : ∀ user text, update ≠ .text user text) : s.reregisters (env, update) = none := by
  unfold reregisters
  split
  · rename_i user text hupdate
    exact absurd (Prod.mk.inj hupdate).2 (htext user text)
  · rfl

/-- The button `admin_owner_unsuspend` of an owner, pressed by an admin. -/
def lifts (ownerId : ℕ) : MainEnv × MainUpdate → Bool
  | (env, .unsuspend i) => env.isAdmin && i == ownerId
  | _ => false

section Step

variable {env : MainEnv} {s : MainBot} {i ownerId : ℕ}

/-- Another part of the state changes. -/
theorem Suspended.congr {s' : MainBot} (h : Suspended s i ownerId)
    (hstanding : s'.db.standing i = s.db.standing i)
    (hmanager : s'.manager.getBot i = s.manager.getBot i) : Suspended s' i ownerId :=
  ⟨hstanding.trans h.inactive, hmanager.trans h.unregistered⟩

/-- A bot is registered: the shop stays suspended unless it is the bot's. -/
theorem Suspended.register {s' : MainBot} {shopBot : ShopBot} (h : Suspended s i ownerId)
    (hmanager : s'.manager = s.manager.register shopBot)
    (hstanding : i ≠ shopBot.id → s'.db.standing i = s.db.standing i) :
    Suspended s' i ownerId ↔ some shopBot.id ≠ some i := by
  constructor
  · rintro h' hid
    have hnone := h'.unregistered
    rw [hmanager, ← Option.some.inj hid] at hnone
    exact s.manager.getBot_register_self shopBot hnone
  · intro hid
    have hne : i ≠ shopBot.id := fun he => hid (by rw [he])
    refine h.congr (hstanding hne) ?_
    rw [hmanager]
    exact s.manager.getBot_register_of_ne hne

theorem saveShopBotToken_suspended (h : Suspended s i ownerId) (user : ℤ) (rawToken : String) :
    Suspended (s.saveShopBotToken env user rawToken) i ownerId ↔
      s.brings env user rawToken ≠ some i := by
  unfold saveShopBotToken brings
  cases s.tokenOwner env user rawToken with
  | none => exact ⟨fun _ => nofun, fun _ => h⟩
  | some x =>
    obtain ⟨owner, botId, username⟩ := x
    dsimp only
    cases hupsert : s.db.upsertShopBot owner (env.encrypt (strip rawToken)) botId username
      env.secret with
    | error e => exact ⟨fun _ => nofun, fun _ => h⟩
    | ok y =>
      obtain ⟨db, shopBot⟩ := y
      obtain ⟨hothers, -⟩ := ShopDb.upsertShopBot_standing hupsert
      unfold registerShopBot
      dsimp only
      split_ifs with hsaved hasked
      · exact ⟨fun _ => nofun, fun _ => h.congr rfl rfl⟩
      · exact h.register rfl fun _ => rfl
      · exact h.register rfl (hothers i)

/-- A write to `is_active` leaves the other shops alone. -/
theorem setActive_of_ne {shopBotId : ℕ} (hne : i ≠ shopBotId) (isActive : Bool) (reason : Option String)
    (raised : Option PyError) :
    (s.setActive shopBotId isActive reason raised).db.standing i = s.db.standing i := by
  unfold setActive
  split_ifs
  · rfl
  · exact ShopDb.standing_modify_of_ne (by intro; rfl) rfl hne

/-- A shop that is not active stays so when it is suspended again. -/
theorem setActive_false (h : s.db.standing i = some (ownerId, false)) (shopBotId : ℕ)
    (reason : Option String) (raised : Option PyError) :
    (s.setActive shopBotId false reason raised).db.standing i = some (ownerId, false) := by
  by_cases hne : i = shopBotId
  · unfold setActive
    split_ifs
    · exact h
    obtain ⟨shop, hfind, hshop⟩ := Option.map_eq_some_iff.1 h
    rw [← hne, ← (Prod.mk.inj hshop).1]
    exact ShopDb.standing_modify_self (by intro; rfl) rfl hfind (by rfl)
  · exact (setActive_of_ne hne ..).trans h

theorem close_suspended (h : Suspended s i ownerId) (user : ℤ) {r : MainResult}
    (hr : r.db.shops = s.db.shops) : Suspended (s.close user r) i ownerId := by
  refine h.congr (ShopDb.standing_of_shops ?_ i) rfl
  unfold close committed
  dsimp only
  split_ifs
  · rfl
  · exact hr

theorem blind_shops : Blind (fun db : MainDb => db.shops) := ⟨fun _ _ => rfl, fun _ _ _ _ => rfl⟩

/-- A new owner has no shop. -/
theorem unseen_shops (db : MainDb) (user : ℤ) : Unseen (fun db : MainDb => db.shops) db user := by
  intro referredByCode code shop owner h
  unfold ShopDb.getOrCreateShopOwner at h
  split at h
  · cases h
    rfl
  · dsimp only at h
    split_ifs at h
    cases h
    rfl

/-- The handlers of the registration write to no shop. -/
theorem routed_shops {ctx : FsmContext} {user : ℤ} {r : MainResult}
    {text : MainText} (h : Routed env s.db ctx user text r) : r.db.shops = s.db.shops := by
  have hunseen := unseen_shops s.db user
  cases h with
  | idle => rfl
  | start args => exact cmdStart_stays env (fun _ => hunseen) ctx args
  | email => exact regEmail_stays env blind_shops (fun _ => hunseen) ctx
  | phoneOtp => exact regOtp_stays env blind_shops hunseen ..
  | emailOtp => exact regOtp_stays env blind_shops hunseen ..

/-- The shop that a button of another owner names is another one. -/
theorem shopOfOwner_ne (h : Suspended s i ownerId) {j : ℕ} (hj : j ≠ ownerId) {shopBot : ShopBot}
    (hshop : s.shopOfOwner j = some shopBot) : i ≠ shopBot.id := by
  rintro rfl
  obtain ⟨owner, howner, hfind⟩ := Option.bind_eq_some_iff.1 hshop
  have hrow : s.db.shops.find? shopBot.id = some shopBot :=
    Table.find?_of_mem (List.mem_of_find?_eq_some hfind)
  have hid : shopBot.shopOwnerId = owner.id := by simpa using List.find?_some hfind
  have hstanding : s.db.standing shopBot.id = some (shopBot.shopOwnerId, shopBot.isActive) := by
    unfold ShopDb.standing
    rw [hrow]
    rfl
  rw [h.inactive] at hstanding
  have howner' : ownerId = shopBot.shopOwnerId := (Prod.mk.inj (Option.some.inj hstanding)).1
  exact hj ((Table.id_of_find? howner).symm.trans (hid.symm.trans howner'.symm))

theorem cbOwnerSuspend_suspended (h : Suspended s i ownerId) (j : ℕ) :
    Suspended (s.cbOwnerSuspend env j) i ownerId := by
  unfold cbOwnerSuspend
  split
  · exact h
  · rename_i shopBot _
    refine ⟨setActive_false (s := { s with manager := s.manager.unregister shopBot.id }) h.inactive .., ?_⟩
    have hnone := s.manager.getBot_unregister_of_none h.unregistered
    unfold setActive
    split_ifs
    · exact hnone _
    · exact hnone _

theorem cbOwnerUnsuspend_suspended (h : Suspended s i ownerId) {j : ℕ} (hj : j ≠ ownerId) :
    Suspended (s.cbOwnerUnsuspend env j) i ownerId := by
  unfold cbOwnerUnsuspend
  split
  · exact h
  · rename_i shopBot hshop
    have hne := shopOfOwner_ne h hj hshop
    refine h.congr (setActive_of_ne (s := { s with manager := s.manager.register shopBot }) hne ..) ?_
    unfold setActive
    split_ifs
    · exact s.manager.getBot_register_of_ne hne
    · exact s.manager.getBot_register_of_ne hne

theorem restart_suspended (h : Suspended s i ownerId) :
    (ShopBotManager.empty.loadAll (activeShops s.db)).getBot i = none := by
  refine ShopBotManager.getBot_loadAll (fun shop hshop hid => ?_) _
  obtain ⟨hrow, hactive⟩ := List.mem_filter.1 hshop
  have hstanding := h.inactive
  rw [hid] at hstanding
  unfold ShopDb.standing at hstanding
  rw [show s.db.shops.find? shop.id = some shop from Table.find?_of_mem hrow, Option.map_some,
    hactive] at hstanding
  cases hstanding

/-- **A step keeps a suspension** unless it registers the shop's token, or an admin lifts it. -/
theorem step_suspended {s' : MainBot} {a : MainEnv × MainUpdate} (h : Suspended s i ownerId)
    (hlift : lifts ownerId a = false) (hs : s.step a = some s') :
    Suspended s' i ownerId ↔ s.reregisters a ≠ some i := by
  obtain ⟨env, update⟩ := a
  -- apart from texts, no update registers a token
  have hother : (∀ user text, update ≠ .text user text) → Suspended s' i ownerId →
      (Suspended s' i ownerId ↔ s.reregisters (env, update) ≠ some i) := by
    intro htext h'
    rw [reregisters_of_ne htext]
    exact ⟨fun _ => nofun, fun _ => h'⟩
  cases step_effect hs with
  | @token user text raw htoken =>
    dsimp only [reregisters]
    rw [htoken, Option.bind_some]
    split_ifs
    · exact saveShopBotToken_suspended h user raw
    · exact ⟨fun _ => nofun, fun _ => h⟩
  | @handled user text r htoken hr =>
    dsimp only [reregisters]
    rw [htoken, Option.bind_none, ite_self]
    exact ⟨fun _ => nofun, fun _ => close_suspended h user (routed_shops hr)⟩
  | same htext => exact hother htext h
  | contact user phone =>
    exact hother (fun _ _ => nofun)
      (close_suspended h user (handlePhoneInput_stays (f := fun db => db.shops) env _ phone))
  | checkChannels user =>
    refine hother (fun _ _ => nofun) (close_suspended h user ?_)
    exact cbCheckChannelsMembership_stays env (fun _ => unseen_shops s.db user) _
  | suspend j => exact hother (fun _ _ => nofun) (cbOwnerSuspend_suspended h j)
  | unsuspend hadmin j =>
    refine hother (fun _ _ => nofun) (cbOwnerUnsuspend_suspended h fun hj => ?_)
    dsimp only [lifts] at hlift
    rw [hadmin, hj, beq_self_eq_true] at hlift
    cases hlift
  | settings htext => exact hother htext (h.congr rfl rfl)
  | dialog => exact hother (fun _ _ => nofun) (h.congr rfl rfl)
  | shop hd => exact hother (fun _ _ => nofun) (h.congr ((ShopDb.handle_aside _ hd).standing i) rfl)
  | markDisabled => exact hother (fun _ _ => nofun) ⟨setActive_false h.inactive .., h.unregistered⟩
  | restart => exact hother (fun _ _ => nofun) ⟨h.inactive, restart_suspended h⟩

end Step

/-- A suspension that is committed. -/
theorem cbOwnerSuspend_spec {env : MainEnv} {s : MainBot} {ownerId : ℕ} {shopBot : ShopBot}
    (hshop : s.shopOfOwner ownerId = some shopBot)
    (hcommit : confirmation env .ownerSuspended = none) :
    Suspended (s.cbOwnerSuspend env ownerId) shopBot.id ownerId := by
  obtain ⟨owner, howner, hfind⟩ := Option.bind_eq_some_iff.1 hshop
  have hrow : s.db.shops.find? shopBot.id = some shopBot :=
    Table.find?_of_mem (List.mem_of_find?_eq_some hfind)
  have hid : shopBot.shopOwnerId = owner.id := by simpa using List.find?_some hfind
  have howner' : owner.id = ownerId := Table.id_of_find? howner
  unfold cbOwnerSuspend setActive
  rw [hshop, hcommit]
  refine ⟨?_, s.manager.getBot_unregister_self shopBot.id⟩
  exact ShopDb.standing_modify_self (by intro; rfl) rfl hrow (by rw [hid, howner'])

/-- **A suspension holds until an admin lifts it**, in every run from a suspension that is committed, if
and only if no token is registered for the shop: no text of its owner reaches `save_shop_bot_token`
with a token that `get_me` knows, of a bot that is not another owner's, and with an answer that is
delivered. -/
theorem suspension_iff (env : MainEnv) (s₀ s₁ s : MainBot) (ownerId : ℕ) (shopBot : ShopBot)
    (as : List (MainEnv × MainUpdate)) (hadmin : env.isAdmin = true)
    (hshop : s₀.shopOfOwner ownerId = some shopBot)
    (hcommit : confirmation env .ownerSuspended = none)
    (hsuspend : s₀.step (env, .suspend ownerId) = some s₁)
    (hlift : ∀ a ∈ as, lifts ownerId a = false) (hrun : Runs.exec step s₁ as = some s) :
    Runs.Always step (fun s => Suspended s shopBot.id ownerId) s₁ as ↔
      Runs.Along step (fun s a => s.reregisters a ≠ some shopBot.id) s₁ as := by
  have hs₁ : Suspended s₁ shopBot.id ownerId := by
    dsimp only [step] at hsuspend
    rw [if_pos hadmin] at hsuspend
    cases hsuspend
    exact cbOwnerSuspend_spec hshop hcommit
  exact Runs.always_iff (D := fun a => lifts ownerId a = false)
    (fun s a s' h hl hs => step_suspended h hl hs) as s₁ s hs₁ hlift hrun

/-- One owner with one shop, whose bot is registered. -/
def oneShop : MainBot where
  db :=
    { owners := ⟨[{ id := 1, telegramId := 100, registrationCompleted := true }], by decide⟩
      referrals := .empty
      shops := ⟨[{ id := 1, shopOwnerId := 1, encryptedToken := "a", botTelegramId := 501,
                   botUsername := "tea_bot", webhookSecretToken := "s" }], by decide⟩
      customers := .empty
      products := .empty
      orders := .empty
      settings := {}
      otps := .empty
      channels := .empty }
  manager := ⟨fun i => if i = 1 then some { botId := 501, secret := "s" } else none⟩
  fsm := fun _ => {}

def byAdmin : MainEnv := { isAdmin := true }

/-- The owner, who has the token of the bot. -/
def byOwner : MainEnv := { getMe := fun token => if token = "501:A" then some (501, "tea_bot") else none }

/-- The owner asks for the token dialog and leaves it again. -/
def wavering : List (MainEnv × MainUpdate) :=
  [(byOwner, .text 100 .tokenButton), (byOwner, .text 100 (.cancel "/cancel")),
    (byOwner, .text 100 (.plain "501:A")), (byOwner, .restart)]

theorem suspension_iff_wavering :
    ∃ s₁ s, oneShop.step (byAdmin, .suspend 1) = some s₁ ∧ Runs.exec step s₁ wavering = some s ∧
      Runs.Always step (fun s => Suspended s 1 1) s₁ wavering := by
  refine ⟨_, _, rfl, rfl, ?_⟩
  exact (suspension_iff byAdmin oneShop _ _ 1
    { id := 1, shopOwnerId := 1, encryptedToken := "a", botTelegramId := 501, botUsername := "tea_bot",
      webhookSecretToken := "s" } wavering rfl rfl rfl rfl (by decide) rfl).2 (by decide +kernel)

/-- The owner sends the token once more. -/
def comeback : List (MainEnv × MainUpdate) :=
  [(byOwner, .text 100 .tokenButton), (byOwner, .text 100 (.plain "501:A"))]

/-- The shop is active again, and its bot is registered. -/
theorem suspension_undone :
    ∃ s₁ s, oneShop.step (byAdmin, .suspend 1) = some s₁ ∧ Suspended s₁ 1 1 ∧
      (∀ a ∈ comeback, a.1.isAdmin = false) ∧ Runs.exec step s₁ comeback = some s ∧
      s.db.standing 1 = some (1, true) ∧ s.manager.getBot 1 ≠ none := by
  exact ⟨_, _, rfl, ⟨by decide, by decide⟩, by decide, rfl, by decide +kernel, by decide +kernel⟩

end MainBot

end KasbOKar
