import KasbOKar.Chat.Tables
import KasbOKar.Lib.Runs

/-!
# The knowledge channel of a shop

An owner links a channel to the shop, and the posts of the channel are kept for the answers to the
shop's customers.  The proof is that a bot is an administrator of the channel: the bot of the shop or,
at choice, the main bot, which all owners share.  Nobody asks whether the channel is another shop's, and
the capture of a post looks its shop up with `scalar_one_or_none`.

`knowledge_kept_iff`: the posts of all linked channels are captured in all states of a run if and only
if no link takes a channel that is another shop's at that time.
-/

namespace KasbOKar

/-- The tables of `channel_knowledge_service`. -/
structure KnowledgeDb extends ShopDb where
  knowledge : Table ChannelKnowledge

/-- A post of a channel. -/
structure ChannelPost where
  chatId : ℤ
  text : Option String
  caption : Option String := none
  date : Datetime

/-- `channel_post.text or channel_post.caption`, if that is not empty. -/
def ChannelPost.body (post : ChannelPost) : Option String :=
  ((post.text.filter fun s => s != "").or post.caption).filter fun s => s != ""

/-- The message that is to prove the channel: a forwarded post, or a user name. -/
structure ChannelProof where
  forwardFromChat : Option ℤ := none
  text : Option String := none

/-- What the Bot API and the stored token make of one run of `channel_knowledge_proof`. -/
structure KnowledgeEnv where
  /-- `message.bot.get_me()`: the id of the main bot. -/
  getMe : Except PyError ℤ
  /-- `Bot(token=decrypt_token(…))` -/
  makeBot : String → Except PyError Unit := fun _ => .ok ()
  /-- `get_chat`: the id of the chat. -/
  getChat : String → Except PyError ℤ
  /-- `get_chat_member`: the status of a bot in a chat. -/
  memberStatus : ℤ → ℤ → Except PyError String
  /-- No other call to Telegram raises. -/
  sent : Bool := true

/-- The answers of `channel_knowledge_proof`. -/
inductive KnowledgeNotice where
  | shopBotNotSetUp
  | channelKnowledgeNotFound
  | channelKnowledgeLinked
  deriving DecidableEq

namespace KnowledgeDb

/-! ## Linking a channel -/

/-- `_resolve_target_bot`: the id of the bot. -/
def resolveTargetBot (env : KnowledgeEnv) (db : KnowledgeDb) (choice : String) (user : ℤ) :
    Except PyError (Option ℤ) :=
  if choice = "main" then env.getMe.map some
  else
    match db.shopOf user with
    | none => .ok none
    | some shopBot => do
      env.makeBot shopBot.encryptedToken
      return some shopBot.botTelegramId

/-- The chat that the message names. -/
def provenChat (env : KnowledgeEnv) (proof : ChannelProof) : Except PyError (Option ℤ) :=
  match proof.forwardFromChat with
  | some chatId => .ok (some chatId)
  | none =>
    match proof.text with
    | none => .ok none
    | some text =>
      if (strip text).toList.head? = some '@' then (env.getChat (strip text)).map some else .ok none

/-- The lines under `try`: the chat, if the bot is one of its administrators. -/
def administeredChat (env : KnowledgeEnv) (proof : ChannelProof) (botId : ℤ) :
    Except PyError (Option ℤ) := do
  match ← provenChat env proof with
  | none => return none
  | some chatId =>
    let status ← env.memberStatus chatId botId
    return if status = "administrator" ∨ status = "creator" then some chatId else none

/-- `shop_bot.knowledge_channel_id = …`, `shop_bot.knowledge_channel_bot = …`; an id of a chat always
fits its column. -/
def withChannel (channelId choice : String) (s : ShopBot) : ShopBot :=
  { s with knowledgeChannelId := some channelId, knowledgeChannelBot := some choice }

def setKnowledgeChannel (db : KnowledgeDb) (shopBotId : ℕ) (channelId choice : String) : KnowledgeDb :=
  { db with shops := db.shops.modify shopBotId (withChannel channelId choice) fun _ => rfl }

/-- `channel_knowledge_proof`; `choice` is `knowledge_bot` of the FSM data. -/
def channelKnowledgeProof (env : KnowledgeEnv) (db : KnowledgeDb) (choice : String) (user : ℤ)
    (proof : ChannelProof) : Except PyError (KnowledgeDb × KnowledgeNotice) := do
  match ← resolveTargetBot env db choice user with
  | none => return (db, .shopBotNotSetUp)
  | some botId =>
    match administeredChat env proof botId with
    | .error .TelegramAPIError => return (db, .channelKnowledgeNotFound)
    | .error e => .error e
    | .ok none => return (db, .channelKnowledgeNotFound)
    | .ok (some chatId) =>
      match db.shopOf user with
      | none => .error .AttributeError
      | some shopBot =>
        if 16 < choice.length then .error .DataError
        else return (db.setKnowledgeChannel shopBot.id (toString chatId) choice, .channelKnowledgeLinked)

/-! ## Capturing a post -/

/-- The shops that a channel is linked to. -/
def linkedShops (db : KnowledgeDb) (channelId : String) : List ShopBot :=
  db.shops.rows.filter fun s => s.knowledgeChannelId == some channelId

/-- `get_shop_bot_by_channel_id`. -/
def getShopBotByChannelId (db : KnowledgeDb) (channelId : String) : Except PyError (Option ShopBot) :=
  scalarOneOrNone (db.linkedShops channelId)

/-- `save_knowledge_post`. -/
def saveKnowledgePost (db : KnowledgeDb) (shopBotId : ℕ) (sourceChannelId text : String)
    (postedAt : Datetime) : Except PyError KnowledgeDb :=
  match ChatDb.storable (.str text) with
  | none => .error .DataError
  | some text =>
    let entry : ChannelKnowledge :=
      { id := db.knowledge.nextId, shopBotId := shopBotId, sourceChannelId := sourceChannelId,
        text := text, postedAt := postedAt }
    .ok { db with knowledge := db.knowledge.insert entry }

/-- `capture_channel_post`. -/
def captureChannelPost (db : KnowledgeDb) (post : ChannelPost) : Except PyError KnowledgeDb :=
  match post.body with
  | none => .ok db
  | some text => do
    match ← db.getShopBotByChannelId (toString post.chatId) with
    | none => return db
    | some shopBot => db.saveKnowledgePost shopBot.id (toString post.chatId) text post.date

end KnowledgeDb

/-! ## Runs -/

inductive KnowledgeAct where
  | link (env : KnowledgeEnv) (choice : String) (user : ℤ) (proof : ChannelProof)
  | post (post : ChannelPost)

namespace KnowledgeDb

/-- One update: its session is committed, unless it raises. -/
def step (db : KnowledgeDb) : KnowledgeAct → Option KnowledgeDb
  | .link env choice user proof =>
    match channelKnowledgeProof env db choice user proof with
    | .error _ => some db
    | .ok (db', _) => some (if env.sent then db' else db)
  | .post post =>
    match db.captureChannelPost post with
    | .error _ => some db
    | .ok db' => some db'

/-- Every post with a text in a linked channel is captured: without an exception, and for a shop that
the channel is linked to. -/
def CapturesPosts (db : KnowledgeDb) : Prop :=
  ∀ (post : ChannelPost) (text : String), post.body = some text →
    ChatDb.storable (.str text) = some text →
    (∃ s ∈ db.shops.rows, s.knowledgeChannelId = some (toString post.chatId)) →
    ∃ db' entry, db.captureChannelPost post = .ok db' ∧
      db'.knowledge.rows = db.knowledge.rows ++ [entry] ∧ entry.text = text ∧
      ∃ s ∈ db.shops.rows, s.knowledgeChannelId = some (toString post.chatId) ∧ entry.shopBotId = s.id

/-- The shop of an owner and the channel that a step links to it. -/
def linked (db : KnowledgeDb) : KnowledgeAct → Option (ℕ × ℤ)
  | .post _ => none
  | .link env choice user proof =>
    match resolveTargetBot env db choice user with
    | .ok (some botId) =>
      match administeredChat env proof botId with
      | .ok (some chatId) =>
        if env.sent ∧ choice.length ≤ 16 then (db.shopOf user).map fun s => (s.id, chatId) else none
      | _ => none
    | _ => none

/-- The step takes a channel that is another shop's. -/
def takesOver (db : KnowledgeDb) (a : KnowledgeAct) : Bool :=
  (db.linked a).any fun x => (db.linkedShops (toString x.2)).any fun s => s.id != x.1

/-- Every channel is one shop's at most. -/
def Exclusive (db : KnowledgeDb) : Prop :=
  ∀ chatId : ℤ, ∀ s ∈ db.shops.rows, ∀ t ∈ db.shops.rows,
    s.knowledgeChannelId = some (toString chatId) → t.knowledgeChannelId = some (toString chatId) →
      s.id = t.id

variable {db db' : KnowledgeDb}

theorem mem_linkedShops {channelId : String} {s : ShopBot} :
    s ∈ db.linkedShops channelId ↔ s ∈ db.shops.rows ∧ s.knowledgeChannelId = some channelId := by
  unfold linkedShops
  rw [List.mem_filter, beq_iff_eq]

/-! ## What a step does to the links -/

theorem captureChannelPost_shops {post : ChannelPost} (h : db.captureChannelPost post = .ok db') :
    db'.shops = db.shops := by
  unfold captureChannelPost at h
  split at h
  · cases h
    rfl
  · obtain ⟨found, -, h⟩ := bind_ok h
    cases found with
    | none =>
      cases h
      rfl
    | some shopBot =>
      unfold saveKnowledgePost at h
      dsimp only at h
      split at h
      · cases h
      · cases h
        rfl

theorem mem_of_shopOf {user : ℤ} {shopBot : ShopBot} (h : db.shopOf user = some shopBot) :
    shopBot ∈ db.shops.rows := by
  obtain ⟨owner, -, hfind⟩ := Option.bind_eq_some_iff.1 h
  exact List.mem_of_find?_eq_some hfind

/-- **What a step can do**: nothing to the links, or link one channel to the shop of the user. -/
theorem step_cases {a : KnowledgeAct} (hs : db.step a = some db') :
    (db.linked a = none ∧ db'.shops = db.shops) ∨
      ∃ shopBot ∈ db.shops.rows, ∃ chatId choice, db.linked a = some (shopBot.id, chatId) ∧
        db' = db.setKnowledgeChannel shopBot.id (toString chatId) choice := by
  cases a with
  | post post =>
    refine Or.inl ⟨rfl, ?_⟩
    unfold step at hs
    dsimp only at hs
    split at hs
    · cases hs
      rfl
    · rename_i hcapture
      cases hs
      exact captureChannelPost_shops hcapture
  | link env choice user proof =>
    unfold step channelKnowledgeProof at hs
    unfold linked
    dsimp only at hs ⊢
    cases htarget : resolveTargetBot env db choice user with
    | error e =>
      rw [htarget] at hs
      cases hs
      exact Or.inl ⟨rfl, rfl⟩
    | ok target =>
      rw [htarget] at hs
      cases target with
      | none =>
        refine Or.inl ⟨rfl, ?_⟩
        cases ite_self (c := env.sent = true) db ▸ Option.some.inj hs
        rfl
      | some botId =>
        simp only [bind, Except.bind] at hs
        dsimp only
        cases hchat : administeredChat env proof botId with
        | error e =>
          rw [hchat] at hs
          have hsame : db' = db := by cases e <;> simpa [pure, Except.pure] using hs.symm
          exact Or.inl ⟨rfl, by rw [hsame]⟩
        | ok chat =>
          rw [hchat] at hs
          cases chat with
          | none =>
            have hsame : db' = db := by simpa [pure, Except.pure] using hs.symm
            exact Or.inl ⟨rfl, by rw [hsame]⟩
          | some chatId =>
            dsimp only at hs ⊢
            cases hshop : db.shopOf user with
            | none =>
              rw [hshop] at hs
              cases hs
              exact Or.inl ⟨by rw [Option.map_none, ite_self], rfl⟩
            | some shopBot =>
              rw [hshop] at hs
              dsimp only at hs
              rw [Option.map_some]
              by_cases hlong : 16 < choice.length
              · rw [if_pos hlong] at hs
                cases hs
                exact Or.inl ⟨if_neg fun h => absurd h.2 (not_le.2 hlong), rfl⟩
              · rw [if_neg hlong] at hs
                obtain rfl := Option.some.inj hs
                by_cases hsent : env.sent = true
                · rw [if_pos hsent, if_pos ⟨hsent, not_lt.1 hlong⟩]
                  exact Or.inr ⟨shopBot, mem_of_shopOf hshop, chatId, choice, rfl, rfl⟩
                · rw [if_neg hsent]
                  exact Or.inl ⟨if_neg fun h => hsent h.1, rfl⟩

/-! ## Captured posts -/

/-- A list of shops is found by `scalar_one_or_none` if they are all the same one. -/
theorem scalarOneOrNone_of_exclusive (h : Exclusive db) {chatId : ℤ} {s : ShopBot}
    (hs : s ∈ db.linkedShops (toString chatId)) :
    db.getShopBotByChannelId (toString chatId) = .ok (some s) := by
  have hnodup : ((db.linkedShops (toString chatId)).map ShopBot.id).Nodup :=
    db.shops.nodup.sublist (List.filter_sublist.map ShopBot.id)
  have hall : ∀ t ∈ db.linkedShops (toString chatId), t = s := by
    intro t ht
    obtain ⟨hsrow, hslink⟩ := mem_linkedShops.1 hs
    obtain ⟨htrow, htlink⟩ := mem_linkedShops.1 ht
    exact Table.eq_of_id_eq htrow hsrow (h chatId t htrow s hsrow htlink hslink)
  unfold getShopBotByChannelId
  cases hlist : db.linkedShops (toString chatId) with
  | nil =>
    rw [hlist] at hs
    cases hs
  | cons t rest =>
    rw [hlist] at hnodup hall
    obtain rfl := hall t List.mem_cons_self
    cases rest with
    | nil => rfl
    | cons u rest =>
      obtain rfl := hall u (List.mem_cons_of_mem _ List.mem_cons_self)
      exact absurd List.mem_cons_self (List.nodup_cons.1 hnodup).1

/-- **Posts are captured exactly where no two shops share a channel.** -/
theorem capturesPosts_iff : CapturesPosts db ↔ Exclusive db := by
  constructor
  · intro h chatId s hs t ht hslink htlink
    obtain ⟨db', entry, hcapture, hrows, -⟩ := h ⟨chatId, some "post", none, 0⟩ "post"
      rfl (by decide) ⟨s, hs, hslink⟩
    obtain ⟨found, hfound, hsave⟩ := bind_ok hcapture
    cases found with
    | none =>
      cases hsave
      exact absurd (List.self_eq_append_right.1 hrows) nofun
    | some shopBot =>
      have hsingle := scalarOneOrNone_some hfound
      have hmem : ∀ u ∈ db.shops.rows, u.knowledgeChannelId = some (toString chatId) → u = shopBot := by
        intro u hu hlink
        have hu' : u ∈ db.linkedShops (toString chatId) := mem_linkedShops.2 ⟨hu, hlink⟩
        rw [hsingle] at hu'
        exact List.mem_singleton.1 hu'
      rw [hmem s hs hslink, hmem t ht htlink]
  · rintro h post text hbody hstorable ⟨s, hs, hlink⟩
    have hfound := scalarOneOrNone_of_exclusive h (mem_linkedShops.2 ⟨hs, hlink⟩)
    let entry : ChannelKnowledge :=
      ⟨db.knowledge.nextId, s.id, toString post.chatId, text, post.date⟩
    refine ⟨{ db with knowledge := db.knowledge.insert entry }, entry, ?_,
      Table.insert_rows (Table.nextId_notMem _), rfl, s, hs, hlink, rfl⟩
    unfold captureChannelPost
    rw [hbody]
    simp only [hfound, bind, Except.bind, saveKnowledgePost, hstorable]
    rfl

/-! ## Links -/

/-- A row after a link: untouched, or the shop's own, with the channel. -/
theorem mem_setKnowledgeChannel {shopBotId : ℕ} {channelId choice : String} {t : ShopBot}
    (ht : t ∈ (db.setKnowledgeChannel shopBotId channelId choice).shops.rows) :
    (t ∈ db.shops.rows ∧ t.id ≠ shopBotId) ∨
      (t.id = shopBotId ∧ t.knowledgeChannelId = some channelId) := by
  rcases Table.mem_modify_cases (f := withChannel channelId choice) (fun _ => rfl) ht with h | ⟨s, -, hid, rfl⟩
  · exact Or.inl h
  · exact Or.inr ⟨hid, rfl⟩

/-- A link keeps the channels apart if and only if the channel is nobody else's. -/
theorem exclusive_setKnowledgeChannel (h : Exclusive db) {shopBot : ShopBot}
    (hmem : shopBot ∈ db.shops.rows) (chatId : ℤ) (choice : String) :
    Exclusive (db.setKnowledgeChannel shopBot.id (toString chatId) choice) ↔
      ∀ t ∈ db.linkedShops (toString chatId), t.id = shopBot.id := by
  constructor
  · intro hnew t ht
    obtain ⟨htrow, htlink⟩ := mem_linkedShops.1 ht
    by_contra hne
    have htnew : t ∈ (db.setKnowledgeChannel shopBot.id (toString chatId) choice).shops.rows :=
      Table.mem_modify_of_ne (f := withChannel (toString chatId) choice) (fun _ => rfl) htrow hne
    have hself : withChannel (toString chatId) choice shopBot ∈
        (db.setKnowledgeChannel shopBot.id (toString chatId) choice).shops.rows :=
      Table.mem_modify_self (f := withChannel (toString chatId) choice) (fun _ => rfl) hmem rfl
    exact hne (hnew chatId t htnew (withChannel (toString chatId) choice shopBot) hself htlink rfl)
  · intro hfree c s hs t ht hslink htlink
    -- a row that keeps its channel and has the linked one is the shop itself
    have hother : ∀ u ∈ db.shops.rows, u.id ≠ shopBot.id →
        u.knowledgeChannelId ≠ some (toString chatId) :=
      fun u hu hne hlink => hne (hfree u (mem_linkedShops.2 ⟨hu, hlink⟩))
    rcases mem_setKnowledgeChannel hs with ⟨hs, hsne⟩ | ⟨hsid, hsnew⟩
    · rcases mem_setKnowledgeChannel ht with ⟨ht, -⟩ | ⟨-, htnew⟩
      · exact h c s hs t ht hslink htlink
      · exact absurd (by rw [hslink, ← htlink, htnew]) (hother s hs hsne)
    · rcases mem_setKnowledgeChannel ht with ⟨ht, htne⟩ | ⟨htid, -⟩
      · exact absurd (by rw [htlink, ← hslink, hsnew]) (hother t ht htne)
      · rw [hsid, htid]

theorem exclusive_congr (h : db'.shops = db.shops) : Exclusive db' ↔ Exclusive db := by
  unfold Exclusive
  rw [h]

theorem takesOver_eq_false {a : KnowledgeAct} {shopBotId : ℕ} {chatId : ℤ}
    (h : db.linked a = some (shopBotId, chatId)) :
    takesOver db a = false ↔ ∀ t ∈ db.linkedShops (toString chatId), t.id = shopBotId := by
  unfold takesOver
  rw [h, Option.any_some, List.any_eq_false]
  refine forall₂_congr fun t _ => ?_
  rw [bne_iff_ne, not_not]

/-- **A step keeps the posts captured if and only if it takes over no channel.** -/
theorem capturesPosts_step {a : KnowledgeAct} (h : CapturesPosts db) (hs : db.step a = some db') :
    CapturesPosts db' ↔ takesOver db a = false := by
  rw [capturesPosts_iff] at h ⊢
  rcases step_cases hs with ⟨hnone, hshops⟩ | ⟨shopBot, hmem, chatId, choice, hlinked, rfl⟩
  · refine ⟨fun _ => ?_, fun _ => (exclusive_congr hshops).2 h⟩
    unfold takesOver
    rw [hnone]
    rfl
  · rw [takesOver_eq_false hlinked]
    exact exclusive_setKnowledgeChannel h hmem chatId choice

/-- **One owner cannot break another owner's channel as long as nobody takes it over**: in a run from
shops without channels, every post of a linked channel is captured in all states if and only if no step
links a channel to a shop that is another shop's at that time. -/
theorem knowledge_kept_iff (start db' : KnowledgeDb) (acts : List KnowledgeAct)
    (hstart : ∀ s ∈ start.shops.rows, s.knowledgeChannelId = none)
    (hrun : Runs.exec step start acts = some db') :
    Runs.Always step CapturesPosts start acts ↔
      Runs.Along step (fun db a => takesOver db a = false) start acts := by
  have hexcl : Exclusive start := by
    intro c s hs t _ hslink _
    rw [hstart s hs] at hslink
    cases hslink
  exact Runs.always_iff (D := fun _ => True) (fun _ _ _ h _ hs => capturesPosts_step h hs) acts start db'
    (capturesPosts_iff.2 hexcl) (fun _ _ => trivial) hrun

/-- The owners 300 and 400 with a shop each. -/
def channelShops : KnowledgeDb :=
  { owners := ⟨[{ id := 1, telegramId := 300 }, { id := 2, telegramId := 400 }], by decide⟩
    referrals := .empty
    shops := ⟨[{ id := 1, shopOwnerId := 1, encryptedToken := "c", botTelegramId := 503,
                 botUsername := "tea_bot", webhookSecretToken := "z" },
               { id := 2, shopOwnerId := 2, encryptedToken := "d", botTelegramId := 504,
                 botUsername := "rug_bot", webhookSecretToken := "w" }], by decide⟩
    customers := .empty
    products := .empty
    orders := .empty
    settings := {}
    knowledge := .empty }

/-- The main bot is an administrator of all channels. -/
def mainBot : KnowledgeEnv :=
  { getMe := .ok 500, getChat := fun _ => .error .TelegramAPIError,
    memberStatus := fun _ _ => .ok "administrator" }

/-- An owner forwards a post of a channel and chooses the main bot. -/
def linkMain (user chatId : ℤ) : KnowledgeAct := .link mainBot "main" user ⟨some chatId, none⟩

/-- Two channels, a post in each. -/
def ownChannels : List KnowledgeAct :=
  [linkMain 300 (-71), linkMain 400 (-72), .post ⟨-71, some "tea is back", none, 5⟩,
    .post ⟨-72, none, some "new rugs", 6⟩]

theorem knowledge_kept_iff_ownChannels :
    ∃ db', Runs.exec step channelShops ownChannels = some db' ∧
      db'.knowledge.rows.map (fun e => (e.shopBotId, e.text)) = [(1, "tea is back"), (2, "new rugs")] ∧
      Runs.Always step CapturesPosts channelShops ownChannels :=
  ⟨_, rfl, by decide +kernel, (knowledge_kept_iff channelShops _ ownChannels (by decide) rfl).2
    (by decide +kernel)⟩

/-- The second owner links the channel of the first: the posts of the first are lost. -/
theorem channel_taken_over :
    ∃ db', Runs.exec step channelShops [linkMain 300 (-71), linkMain 400 (-71)] = some db' ∧
      db'.captureChannelPost ⟨-71, some "tea is back", none, 5⟩ = .error .MultipleResultsFound ∧
      ¬ CapturesPosts db' := by
  refine ⟨_, rfl, rfl, fun h => ?_⟩
  obtain ⟨_, _, hcapture, -⟩ := h ⟨-71, some "tea is back", none, 5⟩ "tea is back" rfl (by decide)
    ⟨_, List.mem_cons_self, rfl⟩
  cases hcapture

end KnowledgeDb

end KasbOKar
