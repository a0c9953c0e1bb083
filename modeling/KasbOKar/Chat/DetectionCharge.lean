import KasbOKar.Ai.Provider
import KasbOKar.Chat.Unpaid

/-!
# The charge for the classifier

`detect_order` returns the tokens that the classifier has used, and `None` when the call has failed;
`_detect_and_notify_order` charges unless it gets `None`.  But one layer below `None` says that the
provider has not reported its usage, and one layer above it has a price of its own, which is never asked
for.  `charged_iff` says for which answers a call that succeeds is charged; `unreported_not_charged` is
one that is not.
-/

namespace KasbOKar

namespace Provider

/-- An answer as the handlers see it. -/
def toAi (r : Except CallError AiCallResult) : Except PyError AiCallResult := r.mapError CallError.toPyError

/-- The body has a usage with this number of tokens. -/
def ReportsTokens (body : PyJson) (n : ℤ) : Prop :=
  ∃ items usage total, body = .dict items ∧ items.lookup "usage" = some (.dict usage) ∧
    usage.lookup "total_tokens" = some total ∧ total.isNumber = true ∧ total.toInt = .ok n

theorem lookup_of_get {items : List (String × PyJson)} {key : String} {value : PyJson}
    (h : PyJson.get items key = value) (hvalue : value ≠ .null) : items.lookup key = some value := by
  unfold PyJson.get at h
  cases hlookup : items.lookup key with
  | none =>
    rw [hlookup] at h
    exact absurd h.symm hvalue
  | some value' =>
    rw [hlookup] at h
    rw [← h]
    rfl

/-- What is read out of the usage is what the body reports. -/
theorem extractUsage_some_iff {body : PyJson} {n : ℤ} :
    extractUsage body = .ok (some n) ↔ ReportsTokens body n := by
  constructor
  · intro h
    unfold extractUsage at h
    split at h
    · rename_i items
      split at h
      · rename_i usage husage
        split_ifs at h with hnumber
        swap
        · cases h
        split at h
        · rename_i total htotal
          cases h
          have hnull : PyJson.get usage "total_tokens" ≠ .null := by
            intro hnull
            rw [hnull] at hnumber
            cases hnumber
          exact ⟨items, usage, _, rfl, lookup_of_get husage nofun, lookup_of_get rfl hnull, hnumber,
            htotal⟩
        · cases h
      · cases h
    · cases h
  · rintro ⟨items, usage, total, rfl, husage, htotal, hnumber, hint⟩
    unfold extractUsage PyJson.get
    dsimp only
    rw [husage, Option.getD_some]
    dsimp only
    rw [htotal, Option.getD_some, if_pos hnumber, hint]

/-- A call that gets a text succeeds if the usage can be read. -/
theorem getReply_of_content {fmt : PyJson → String} {attempts : ℕ → Attempt} {body : PyJson}
    {text : String} (hpost : postChat attempts = .ok body) (hcontent : content body = .ok (.str text)) :
    getReply fmt attempts =
      (extractUsage body).map fun totalTokens => { text := .str text, totalTokens := totalTokens } := by
  unfold getReply
  rw [hpost]
  change reply fmt body = _
  unfold reply
  rw [extractText_of_content hcontent]
  cases extractUsage body <;> rfl

theorem dict_of_content {body text : PyJson} (h : content body = .ok text) :
    ∃ items, body = .dict items := by
  cases body with
  | dict items => exact ⟨items, rfl⟩
  | _ => cases h

end Provider

namespace ChatDb

open ChatResult

variable (env : ChatEnv) (fmt : PyJson → String) (extractJson : PyJson → Option PyJson)

/-- `detect_order`, with the tokens. -/
def detectOrderTokens (products : List Product) (isConsultation : Bool) :
    Except PyError (Option Detection × Option ℤ) :=
  match env.ai with
  | .error .AiServiceError => .ok (none, none)
  | .error e => .error e
  | .ok answer =>
    match Detection.detectOrder fmt (extractJson answer.text) products isConsultation with
    | .error e => .error e
    | .ok result => .ok (result, answer.totalTokens)

/-- The lines between `detect_order` and its verdict, with the amounts for which `deduct` is called. -/
def chargeDetection (db : ChatDb) (ownerId : ℕ) (tokensUsed : Option ℤ) : ChatResult × List ℤ :=
  match tokensUsed with
  | none => (done db, [])
  | some tokensUsed =>
    match estimateOrderDetectionCost db.settings (some tokensUsed) with
    | .error e => (raise db e, [])
    | .ok cost => (deductAndNotify env db ownerId cost .ORDER_DETECTION, [cost])

/-- `_detect_and_notify_order`, with the calls of `deduct`: the owner and the amount of each. -/
def detectAndCharge (db : ChatDb) (shopBotId customerId : ℕ) : ChatResult × List (ℕ × ℤ) :=
  match db.shops.find? shopBotId with
  | none => (done db, [])
  | some shopBot =>
    match db.owners.find? shopBot.shopOwnerId with
    | none => (done db, [])
    | some owner =>
      if owner.walletBalanceToman ≤ 0 then (done db, [])
      else if !db.buildAiService .CHAT then (done db, [])
      else
        let asked : ChatResult := ⟨db, [.ai owner.id .detectOrder], none⟩
        match detectOrderTokens env fmt extractJson (db.getActiveByShopBot shopBotId)
          (shopBot.tenantMode == .CONSULTATION) with
        | .error e => (asked.andThen fun db => raise db e, [])
        | .ok (result, tokensUsed) =>
          let (charged, amounts) := chargeDetection env db owner.id tokensUsed
          (asked.andThen fun _ => charged.andThen fun db =>
              actOnDetection env db shopBotId customerId result,
            amounts.map fun amount => (owner.id, amount))

/-- Without the calls it is the handler. -/
theorem detectAndCharge_fst (db : ChatDb) (shopBotId customerId : ℕ) :
    (detectAndCharge env fmt extractJson db shopBotId customerId).1 =
      detectAndNotify env fmt extractJson db shopBotId customerId := by
  unfold detectAndCharge detectAndNotify
  cases db.shops.find? shopBotId with
  | none => rfl
  | some shopBot =>
    dsimp only
    cases db.owners.find? shopBot.shopOwnerId with
    | none => rfl
    | some owner =>
      dsimp only
      split_ifs with hbalance hkey
      · rfl
      · rfl
      · unfold detectOrderTokens
        cases env.ai with
        | error e => cases e <;> rfl
        | ok answer =>
          -- the request has been logged, and the handler goes on with the same tables
          dsimp only [ChatResult.andThen]
          cases Detection.detectOrder fmt (extractJson answer.text) (db.getActiveByShopBot shopBotId)
            (shopBot.tenantMode == .CONSULTATION) with
          | error e => rfl
          | ok result =>
            dsimp only
            unfold chargeDetection
            cases answer.totalTokens with
            | none => rfl
            | some tokens =>
              dsimp only
              cases estimateOrderDetectionCost db.settings (some tokens) <;> rfl

/-! ## When a call is charged -/

/-- The price of some tokens, unless the quotient is too large for a `float`. -/
theorem estimate_ok_iff (settings : AdminSettings) (n : ℤ) :
    (∃ cost, estimateOrderDetectionCost settings (some n) = .ok cost) ↔
      |nearestFloat (n * settings.walletCostPer1kTokensToman / 1000)| < 2 ^ 1024 := by
  unfold estimateOrderDetectionCost tokenCost roundQuotient
  dsimp only
  push_cast
  split_ifs with hlarge
  · refine iff_of_false ?_ (not_lt.2 hlarge)
    rintro ⟨cost, h⟩
    cases h
  · exact iff_of_true ⟨_, rfl⟩ (not_le.1 hlarge)

variable {env fmt extractJson}

/-- The calls of `deduct` once `detect_order` has returned. -/
theorem detectAndCharge_snd {db : ChatDb} {shopBotId ownerId : ℕ} {shopBot : ShopBot}
    (hshop : db.shops.find? shopBotId = some shopBot)
    (howner : detectionOwner db shopBotId = some ownerId) {result : Option Detection}
    {tokensUsed : Option ℤ} (hreturns : detectOrderTokens env fmt extractJson
      (db.getActiveByShopBot shopBotId) (shopBot.tenantMode == .CONSULTATION) = .ok (result, tokensUsed))
    (customerId : ℕ) :
    (detectAndCharge env fmt extractJson db shopBotId customerId).2 =
      (chargeDetection env db ownerId tokensUsed).2.map fun amount => (ownerId, amount) := by
  obtain ⟨owner, hfound, rfl, hbalance, hservice⟩ := detectionOwner_some hshop howner
  unfold detectAndCharge
  rw [hshop]
  dsimp only
  rw [hfound]
  dsimp only
  rw [if_neg (not_le.mpr hbalance), if_neg (by rw [hservice]; decide), hreturns]

/-- When `detect_order` returns for a text, the call has succeeded and the usage has been read. -/
theorem usage_of_returns {attempts : ℕ → Provider.Attempt} {body : PyJson} {text : String}
    (hpost : Provider.postChat attempts = .ok body) (hcontent : Provider.content body = .ok (.str text))
    (hai : env.ai = Provider.toAi (Provider.getReply fmt attempts)) {products : List Product}
    {isConsultation : Bool} {result : Option Detection} {tokensUsed : Option ℤ}
    (hreturns : detectOrderTokens env fmt extractJson products isConsultation =
      .ok (result, tokensUsed)) :
    Provider.extractUsage body = .ok tokensUsed ∧
      env.ai = .ok { text := .str text, totalTokens := tokensUsed } := by
  rw [Provider.getReply_of_content hpost hcontent] at hai
  obtain ⟨items, rfl⟩ := Provider.dict_of_content hcontent
  unfold detectOrderTokens at hreturns
  rcases Provider.extractUsage_dict items with ⟨totalTokens, hok, -⟩ | ⟨e, herror, -⟩
  · rw [hok] at hai
    replace hai : env.ai = .ok { text := .str text, totalTokens := totalTokens } := hai
    rw [hai] at hreturns
    dsimp only at hreturns
    split at hreturns
    · cases hreturns
    · cases hreturns
      exact ⟨hok, hai⟩
  · -- the tokens cannot be read: `detect_order` raises
    rw [herror] at hai
    replace hai : env.ai = .error e.val := hai
    rw [hai] at hreturns
    obtain ⟨e, he⟩ := e
    cases e with
    | AiServiceError => exact absurd rfl he
    | _ => cases hreturns

/-- The tokens of a call are charged once if they have a price. -/
theorem chargeDetection_some_iff (db : ChatDb) (ownerId : ℕ) (n : ℤ) :
    (∃ cost, estimateOrderDetectionCost db.settings (some n) = .ok cost ∧
        (chargeDetection env db ownerId (some n)).2 = [cost]) ↔
      |nearestFloat (n * db.settings.walletCostPer1kTokensToman / 1000)| < 2 ^ 1024 := by
  rw [← estimate_ok_iff]
  refine exists_congr fun cost => and_iff_left_of_imp fun hcost => ?_
  unfold chargeDetection
  dsimp only
  rw [hcost]

/-- For an answer with a text on which `detect_order` returns, the tokens are `None` exactly if the call
has failed, and `deduct` is called once, with the price of the call, if and only if the provider reports a
number of tokens, and one whose price is a `float`. -/
theorem charged_iff {attempts : ℕ → Provider.Attempt} {body : PyJson} {text : String}
    (hpost : Provider.postChat attempts = .ok body) (hcontent : Provider.content body = .ok (.str text))
    (hai : env.ai = Provider.toAi (Provider.getReply fmt attempts)) {db : ChatDb}
    {shopBotId ownerId : ℕ} {shopBot : ShopBot} (hshop : db.shops.find? shopBotId = some shopBot)
    (howner : detectionOwner db shopBotId = some ownerId) {result : Option Detection}
    {tokensUsed : Option ℤ} (hreturns : detectOrderTokens env fmt extractJson
      (db.getActiveByShopBot shopBotId) (shopBot.tenantMode == .CONSULTATION) = .ok (result, tokensUsed))
    (customerId : ℕ) :
    ((tokensUsed = none ↔ env.ai = .error .AiServiceError) ∧
      ∃ cost, estimateOrderDetectionCost db.settings tokensUsed = .ok cost ∧
        (detectAndCharge env fmt extractJson db shopBotId customerId).2 = [(ownerId, cost)]) ↔
      ∃ n, Provider.ReportsTokens body n ∧
        |nearestFloat (n * db.settings.walletCostPer1kTokensToman / 1000)| < 2 ^ 1024 := by
  obtain ⟨husage, hok⟩ := usage_of_returns hpost hcontent hai hreturns
  rw [detectAndCharge_snd hshop howner hreturns, hok]
  cases tokensUsed with
  | none =>
    -- the provider has not said what it has used
    refine iff_of_false ?_ ?_
    · rintro ⟨hnone, -⟩
      cases hnone.1 rfl
    · rintro ⟨n, hn, -⟩
      rw [Provider.extractUsage_some_iff.2 hn] at husage
      cases husage
  | some n =>
    have hreports : ∀ m, Provider.ReportsTokens body m ↔ m = n := by
      intro m
      rw [← Provider.extractUsage_some_iff, husage, Except.ok.injEq, Option.some_inj]
      exact eq_comm
    have hcalls : ∀ cost, (chargeDetection env db ownerId (some n)).2.map (fun amount =>
        (ownerId, amount)) = [(ownerId, cost)] ↔ (chargeDetection env db ownerId (some n)).2 = [cost] := by
      intro cost
      rw [List.map_eq_singleton_iff]
      simp
    simp only [hreports, exists_eq_left, hcalls]
    rw [chargeDetection_some_iff]
    exact and_iff_right (iff_of_false nofun nofun)

/-- An answer of the classifier that finds nothing. -/
def nothingFound (usage : List (String × PyJson)) : PyJson :=
  .dict (("choices", .list [.dict [("message", .dict [("content", .str "\x7b\x7d")])]]) :: usage)

/-- The classifier answers with this body. -/
def classifierAnswers (body : PyJson) : ChatEnv :=
  { now := 0, text := ascii, ai := Provider.toAi (Provider.getReply (fun _ => "") fun _ => .body body) }

/-- A usage of 120 tokens. -/
def reportedUsage : List (String × PyJson) := [("usage", .dict [("total_tokens", .int 120)])]

theorem charged_iff_reported :
    ((some 120 : Option ℤ) = none ↔ (classifierAnswers (nothingFound reportedUsage)).ai =
        .error .AiServiceError) ∧
      ∃ cost, estimateOrderDetectionCost moderatedShop.settings (some 120) = .ok cost ∧
        (detectAndCharge (classifierAnswers (nothingFound reportedUsage)) (fun _ => "")
          (fun _ => some (.dict [])) moderatedShop 1 1).2 = [(1, cost)] := by
  have hpost : Provider.postChat (fun _ => .body (nothingFound reportedUsage)) =
      .ok (nothingFound reportedUsage) := rfl
  refine (charged_iff hpost rfl rfl rfl rfl rfl 1).2 ⟨120, ⟨_, _, _, rfl, rfl, rfl, rfl, rfl⟩, ?_⟩
  decide +kernel

/-- Without a usage the call has succeeded, the classifier's verdict is used, and nothing is charged. -/
theorem unreported_not_charged :
    (classifierAnswers (nothingFound [])).ai = .ok { text := .str "\x7b\x7d", totalTokens := none } ∧
      detectOrderTokens (classifierAnswers (nothingFound [])) (fun _ => "") (fun _ => some (.dict []))
        (moderatedShop.getActiveByShopBot 1) false = .ok (none, none) ∧
      (detectAndCharge (classifierAnswers (nothingFound [])) (fun _ => "") (fun _ => some (.dict []))
        moderatedShop 1 1).2 = [] :=
  ⟨rfl, rfl, rfl⟩

end ChatDb

end KasbOKar
