import KasbOKar.Bot.Manager
import KasbOKar.Lib.Runs

/-!
# Telegram's webhooks

`webhook_main` and `webhook_shop` of `app/main.py`.  Both drop an update that they have seen before:
the pair of bot and update id is kept in `_seen_update_ids`, which holds the last 2000 of them.  The
pair is recorded when the update comes in, before it is handled, so an update whose handler raised is
dropped as well when Telegram delivers it again (`failed_update_acknowledged`).  `acknowledged_iff`
says exactly when an endpoint answers 200 only to updates that were handled.

The code of an endpoint runs without suspension from the look-up in the cache to the call of
`feed_update`, which may be under way for several updates at once.
-/

namespace KasbOKar

/-- `bot_id` and `update_id`. -/
abbrev UpdateKey : Type := ℤ × ℤ

/-- A request: the header `X-Telegram-Bot-Api-Secret-Token` and the id of the update, if the body is
a valid one. -/
structure WebhookRequest where
  secret : Option String
  updateId : Option ℤ

/-- An answer, with the update it is for if the request was authenticated. -/
structure WebhookAnswer where
  statusCode : ℕ
  update : Option UpdateKey
  deriving DecidableEq

/-- The state of the process that the endpoints share. -/
structure WebhookApp where
  mainBotId : ℤ
  mainBotWebhookSecret : String
  botManager : ShopBotManager
  /-- `_seen_update_ids`, the oldest first. -/
  seen : List UpdateKey
  /-- The calls of `feed_update` under way. -/
  feeding : List UpdateKey
  /-- The calls of `feed_update` that have completed without an exception. -/
  handled : List UpdateKey
  answers : List WebhookAnswer

inductive WebhookEvent where
  | webhookMain (request : WebhookRequest)
  | webhookShop (shopBotId : ℕ) (request : WebhookRequest)
  /-- One of the calls of `feed_update` returns, or raises. -/
  | fed (call : ℕ) (ok : Bool)
  | register (shopBot : ShopBot)
  | unregister (shopBotId : ℕ)

namespace WebhookApp

/-- The process after `on_startup`. -/
def startup (mainBotId : ℤ) (mainBotWebhookSecret : String) (shopBots : List ShopBot) : WebhookApp :=
  { mainBotId := mainBotId, mainBotWebhookSecret := mainBotWebhookSecret
    botManager := ShopBotManager.empty.loadAll shopBots
    seen := [], feeding := [], handled := [], answers := [] }

/-- `_MAX_SEEN_UPDATES`. -/
def maxSeenUpdates : ℕ := 2000

/-- `_is_duplicate_update`, with the cache after it. -/
def isDuplicateUpdate (seen : List UpdateKey) (key : UpdateKey) : List UpdateKey × Bool :=
  if key ∈ seen then (seen, true)
  else if maxSeenUpdates < (seen ++ [key]).length then ((seen ++ [key]).tail, false)
  else (seen ++ [key], false)

/-- `_is_valid_webhook_secret`. -/
def isValidWebhookSecret (s : WebhookApp) (provided : Option String) : Bool :=
  s.mainBotWebhookSecret == "" || provided == some s.mainBotWebhookSecret

/-- The endpoint answers. -/
def answer (s : WebhookApp) (statusCode : ℕ) (update : Option UpdateKey) : WebhookApp :=
  { s with answers := s.answers ++ [{ statusCode := statusCode, update := update }] }

/-- The lines that both endpoints share, for a request that is authenticated.  A body that is not an
update raises. -/
def receive (s : WebhookApp) (botId : ℤ) (updateId : Option ℤ) : WebhookApp :=
  match updateId with
  | none => s.answer 500 none
  | some updateId =>
    match isDuplicateUpdate s.seen (botId, updateId) with
    | (_, true) => s.answer 200 (some (botId, updateId))
    | (seen, false) => { s with seen := seen, feeding := s.feeding ++ [(botId, updateId)] }

/-- `webhook_main`, up to the end of the request or the call of `feed_update`. -/
def webhookMain (s : WebhookApp) (request : WebhookRequest) : WebhookApp :=
  if !s.isValidWebhookSecret request.secret then s.answer 403 none
  else s.receive s.mainBotId request.updateId

/-- `webhook_shop`. -/
def webhookShop (s : WebhookApp) (shopBotId : ℕ) (request : WebhookRequest) : WebhookApp :=
  match s.botManager.getBot shopBotId with
  | none => s.answer 404 none
  | some bot =>
    if request.secret ≠ some bot.secret then s.answer 403 none
    else s.receive bot.botId request.updateId

/-- The last lines of both endpoints. -/
def fed (s : WebhookApp) (call : ℕ) (ok : Bool) : Option WebhookApp :=
  match s.feeding[call]? with
  | none => none
  | some key =>
    let s := { s with feeding := s.feeding.eraseIdx call }
    if ok then some ({ s with handled := s.handled ++ [key] }.answer 200 (some key))
    else some (s.answer 500 (some key))

def step (s : WebhookApp) : WebhookEvent → Option WebhookApp
  | .webhookMain request => some (s.webhookMain request)
  | .webhookShop shopBotId request => some (s.webhookShop shopBotId request)
  | .fed call ok => s.fed call ok
  | .register shopBot => some { s with botManager := s.botManager.register shopBot }
  | .unregister shopBotId => some { s with botManager := s.botManager.unregister shopBotId }

/-- The update of an authenticated delivery. -/
def keyOf (s : WebhookApp) : WebhookEvent → Option UpdateKey
  | .webhookMain request =>
    if s.isValidWebhookSecret request.secret then request.updateId.map fun id => (s.mainBotId, id)
    else none
  | .webhookShop shopBotId request =>
    (s.botManager.getBot shopBotId).bind fun bot =>
      if request.secret = some bot.secret then request.updateId.map fun id => (bot.botId, id) else none
  | _ => none

/-- The delivery of an update that is in the cache although no `feed_update` for it has completed. -/
def unhandledInCache (s : WebhookApp) (e : WebhookEvent) : Bool :=
  (s.keyOf e).any fun key => decide (key ∈ s.seen) && decide (key ∉ s.handled)

/-- Every update that was answered with 200 has been handled. -/
def Acknowledged (s : WebhookApp) : Prop :=
  ∀ a ∈ s.answers, a.statusCode = 200 → ∀ key, a.update = some key → key ∈ s.handled

section

variable {s s' : WebhookApp} {key : UpdateKey}

theorem isDuplicateUpdate_of_mem {seen : List UpdateKey} (h : key ∈ seen) :
    isDuplicateUpdate seen key = (seen, true) := if_pos h

theorem isDuplicateUpdate_of_notMem {seen : List UpdateKey} (h : key ∉ seen) :
    ∃ seen', isDuplicateUpdate seen key = (seen', false) := by
  unfold isDuplicateUpdate
  rw [if_neg h]
  split_ifs
  · exact ⟨_, rfl⟩
  · exact ⟨_, rfl⟩

/-- An update in the cache is answered at once. -/
theorem receive_of_mem {botId updateId : ℤ} (h : (botId, updateId) ∈ s.seen) :
    s.receive botId (some updateId) = s.answer 200 (some (botId, updateId)) := by
  unfold receive
  dsimp only
  rw [isDuplicateUpdate_of_mem h]

theorem step_of_mem {e : WebhookEvent} (hkey : s.keyOf e = some key) (h : key ∈ s.seen) :
    s.step e = some (s.answer 200 (some key)) := by
  cases e with
  | webhookMain request =>
    change (if _ then _ else _) = _ at hkey
    split_ifs at hkey with hsecret
    obtain ⟨id, hid, rfl⟩ := Option.map_eq_some_iff.1 hkey
    change some (s.webhookMain request) = _
    unfold webhookMain
    rw [hsecret, hid, receive_of_mem h]
    rfl
  | webhookShop shopBotId request =>
    obtain ⟨bot, hbot, hkey⟩ := Option.bind_eq_some_iff.1 hkey
    split_ifs at hkey with hsecret
    obtain ⟨id, hid, rfl⟩ := Option.map_eq_some_iff.1 hkey
    change some (s.webhookShop shopBotId request) = _
    unfold webhookShop
    rw [hbot]
    dsimp only
    rw [if_neg (not_not.2 hsecret), hid, receive_of_mem h]
  | _ => cases hkey

/-! ## Answers -/

theorem acknowledged_answer (h : s.Acknowledged) {statusCode : ℕ} {update : Option UpdateKey}
    (hnew : statusCode = 200 → ∀ key, update = some key → key ∈ s.handled) :
    (s.answer statusCode update).Acknowledged := by
  intro a ha
  rcases List.mem_append.1 ha with ha | ha
  · exact h a ha
  · rw [List.mem_singleton] at ha
    subst ha
    exact hnew

theorem acknowledged_receive (h : s.Acknowledged) {botId : ℤ} {updateId : Option ℤ}
    (hcache : ∀ id, updateId = some id → (botId, id) ∈ s.seen → (botId, id) ∈ s.handled) :
    (s.receive botId updateId).Acknowledged := by
  cases updateId with
  | none => exact acknowledged_answer h nofun
  | some id =>
    by_cases hseen : (botId, id) ∈ s.seen
    · rw [receive_of_mem hseen]
      refine acknowledged_answer h fun _ key hkey => ?_
      cases hkey
      exact hcache id rfl hseen
    · obtain ⟨seen', hdup⟩ := isDuplicateUpdate_of_notMem hseen
      unfold receive
      dsimp only
      rw [hdup]
      exact h

theorem handled_of_cached {e : WebhookEvent} (he : s.unhandledInCache e = false)
    (hkey : s.keyOf e = some key) (hseen : key ∈ s.seen) : key ∈ s.handled := by
  unfold unhandledInCache at he
  rw [hkey, Option.any_some, decide_eq_true hseen, Bool.true_and] at he
  exact not_not.1 (of_decide_eq_false he)

theorem acknowledged_step {e : WebhookEvent} (h : s.Acknowledged) (he : s.unhandledInCache e = false)
    (hs : s.step e = some s') : s'.Acknowledged := by
  cases e with
  | webhookMain request =>
    cases hs
    unfold webhookMain
    split_ifs with hsecret
    · exact acknowledged_answer h nofun
    · refine acknowledged_receive h fun id hid => handled_of_cached he ?_
      dsimp only [keyOf]
      rw [if_pos (by simpa using hsecret), hid]
      rfl
  | webhookShop shopBotId request =>
    cases hs
    unfold webhookShop
    split
    · exact acknowledged_answer h nofun
    rename_i bot hbot
    split_ifs with hsecret
    · exact acknowledged_answer h nofun
    · refine acknowledged_receive h fun id hid => handled_of_cached he ?_
      dsimp only [keyOf]
      rw [hbot, Option.bind_some, if_pos (not_not.1 hsecret), hid]
      rfl
  | fed call ok =>
    change s.fed call ok = some s' at hs
    unfold fed at hs
    split at hs
    · cases hs
    rename_i key _
    cases ok with
    | true =>
      cases hs
      refine acknowledged_answer (fun a ha hok k hk => ?_) fun _ k hk => ?_
      · exact List.mem_append_left _ (h a ha hok k hk)
      · cases hk
        exact List.mem_append_right _ List.mem_cons_self
    | false =>
      cases hs
      exact acknowledged_answer h nofun
  | register shopBot =>
    cases hs
    exact h
  | unregister shopBotId =>
    cases hs
    exact h

end

/-- **An update is acknowledged only after it was handled**, in all states of a run, if and only if
no delivery of the run is for an update that is in the cache while no `feed_update` for it has
completed. -/
theorem acknowledged_iff (mainBotId : ℤ) (secret : String) (shopBots : List ShopBot)
    (events : List WebhookEvent) :
    (∀ before after s, events = before ++ after →
      Runs.exec step (startup mainBotId secret shopBots) before = some s → s.Acknowledged) ↔
    Runs.Along step (fun s e => s.unhandledInCache e = false) (startup mainBotId secret shopBots)
      events := by
  constructor
  · intro h
    refine Runs.along_iff.2 fun before e after s hsplit hs => ?_
    by_contra hcache
    rw [Bool.not_eq_false] at hcache
    obtain ⟨key, hkey, hin⟩ := (Option.any_eq_true _ _).1 hcache
    rw [Bool.and_eq_true, decide_eq_true_eq, decide_eq_true_eq] at hin
    -- the answer to this delivery is 200
    have hnext : Runs.exec step (startup mainBotId secret shopBots) (before ++ [e]) =
        some (s.answer 200 (some key)) := by
      rw [Runs.exec_append, hs, Option.bind_some]
      unfold Runs.exec
      rw [step_of_mem hkey hin.1]
      rfl
    refine hin.2 (h (before ++ [e]) after _ (by rw [hsplit, List.append_assoc]; rfl) hnext
      { statusCode := 200, update := some key } ?_ rfl key rfl)
    exact List.mem_append_right _ List.mem_cons_self
  · intro h before after s hsplit hs
    subst hsplit
    refine Runs.exec_inv (I := Acknowledged) (fun s e s' h he hs => acknowledged_step h he hs) before
      _ s (fun a ha => ?_) (Runs.along_append h hs).1 hs
    cases ha

/-- The handler of an update raises, Telegram delivers the update again, and the second delivery is
answered with 200. -/
theorem failed_update_acknowledged :
    ∃ s, Runs.exec step (startup 7 "s" []) [.webhookMain ⟨some "s", some 1⟩, .fed 0 false,
        .webhookMain ⟨some "s", some 1⟩] = some s ∧
      s.answers = [⟨500, some (7, 1)⟩, ⟨200, some (7, 1)⟩] ∧ s.handled = [] ∧ ¬ s.Acknowledged := by
  refine ⟨_, rfl, rfl, rfl, fun h => ?_⟩
  exact absurd (h ⟨200, some (7, 1)⟩ (by decide) rfl (7, 1) rfl) List.not_mem_nil

end WebhookApp

end KasbOKar
