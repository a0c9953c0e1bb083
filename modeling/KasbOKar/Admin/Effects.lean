import KasbOKar.Admin.Panel

/-!
# What an update of the panel can do

`PanelEffect` lists the changes of the tables that an update can commit, one constructor for each kind,
with what the handler has checked.  `handler_fine` derives it from the handlers, together with two facts on
the dialogs: the data of a context holds what the handlers of its state read, and so no handler raises a
`KeyError`.

The rules of this module are those of `Ends`, for the parts that the handlers are written with.
-/

namespace KasbOKar

open Session

namespace AdminPanel

/-! ## The data of the dialogs -/

/-- The keys that the handlers of a state read. -/
def DialogState.Answered (d : DialogData) : DialogState → Prop
  | .broadcastConfirmation => d.broadcastText.isSome
  | .channelProof => d.channelName.isSome
  | .channelIsPrimary => d.channelName.isSome ∧ d.channelId.isSome
  | .planPrice => d.planDuration.isSome
  | .settingValue => d.field.isSome
  | .rateLimitWindow => d.rateLimitMax.isSome
  | .giftAmount => d.giftOwnerId.isSome
  | .correctionAmount => d.correctionOwnerId.isSome
  | .correctionReason => d.correctionOwnerId.isSome ∧ d.correctionAmount.isSome
  | _ => True

/-- The answers in the data are such as their handlers have accepted. -/
structure Accepted (d : DialogData) : Prop where
  pattern : ∀ p ∈ d.pattern, strip p = p
  planDuration : ∀ n ∈ d.planDuration, 0 < n
  rateLimitMax : ∀ n ∈ d.rateLimitMax, 0 < n
  correctionAmount : ∀ n ∈ d.correctionAmount, n ≠ 0

/-- The data holds what the handlers of the state read. -/
structure Complete (ctx : DialogContext) : Prop where
  answered : ∀ state ∈ ctx.state, DialogState.Answered ctx.data state
  accepted : Accepted ctx.data

theorem accepted_empty : Accepted {} := ⟨nofun, nofun, nofun, nofun⟩

/-- Other answers do not matter. -/
theorem Accepted.kept {d d' : DialogData} (h : Accepted d) (hpattern : d'.pattern = d.pattern := by rfl)
    (hduration : d'.planDuration = d.planDuration := by rfl)
    (hmax : d'.rateLimitMax = d.rateLimitMax := by rfl)
    (hamount : d'.correctionAmount = d.correctionAmount := by rfl) : Accepted d' :=
  ⟨hpattern ▸ h.pattern, hduration ▸ h.planDuration, hmax ▸ h.rateLimitMax,
    hamount ▸ h.correctionAmount⟩

theorem complete_empty : Complete {} := ⟨nofun, accepted_empty⟩

theorem Complete.state {data : DialogData} {state : DialogState} (h : Accepted data)
    (hstate : DialogState.Answered data state) : Complete { state := some state, data := data } :=
  ⟨fun state' hs => by cases hs; exact hstate, h⟩

/-! ## The changes of the tables -/

/-- An assignment to the settings row. -/
inductive Assigned (db : PanelDb) : PanelDb → Prop
  | zarinpal :
    Assigned db { db with books.settings.zarinpalEnabled := !db.books.settings.zarinpalEnabled }
  | balePay (htoken : db.books.settings.balePayEnabled = true ∨
        db.books.settings.baleProviderToken.getD "" ≠ "") :
    Assigned db { db with books.settings.balePayEnabled := !db.books.settings.balePayEnabled }
  | int {field : IntField} {value : ℤ} (hmin : field.minimum ≤ value) :
    Assigned db (field.write db value)
  | text {field : TextField} {value : String} : Assigned db (field.write db value)
  | nullableText {field : NullableTextField} {value : Option String} :
    Assigned db (field.write db value)
  | decimal {field : DecimalField} {value : ℚ} (hpos : 0 < value) : Assigned db (field.write db value)
  | rateLimit {maxMessages windowSeconds : ℤ} (hmax : 0 < maxMessages) (hwindow : 0 < windowSeconds) :
    Assigned db { db with
      more := { db.more with
        rateLimitMaxMessages := maxMessages, rateLimitWindowSeconds := windowSeconds } }

/-- A change of the plans. -/
inductive PlanStep (plans : Table SubscriptionPlan) : Table SubscriptionPlan → Prop
  | created {months price : ℤ} (hmonths : 0 < months) (hprice : 0 < price)
      (hnew : ∀ p ∈ plans.rows, p.durationMonths ≠ months) :
    PlanStep plans
      (plans.insert { id := plans.nextId, durationMonths := months, priceToman := price })
  | priced {id : ℕ} {price : ℤ} (hprice : 0 < price) :
    PlanStep plans (plans.modify id fun p => { p with priceToman := price })
  | toggled {id : ℕ} : PlanStep plans (plans.modify id fun p => { p with isActive := !p.isActive })

/-- A change of the mandatory channels. -/
inductive ChannelStep (channels : Serial ChannelRow) : Serial ChannelRow → Prop
  | created {channelId name : String} {inviteLink : Option String} {isPrimary : Bool}
      (hnew : ∀ c ∈ channels.rows, c.channelId ≠ channelId) :
    ChannelStep channels ((PanelDb.demotePrimary channels isPrimary).add fun id =>
      { id := id, channelId := channelId, isPrimary := isPrimary, name := name,
        inviteLink := inviteLink })
  | deleted {id : ℕ} : ChannelStep channels (channels.delete id)

/-- A change of the moderation rules. -/
inductive RuleStep (rules : Serial ModerationRule) : Serial ModerationRule → Prop
  | created {pattern : String} {action : ModerationAction} (hne : pattern ≠ "")
      (hstrip : strip pattern = pattern) (hlength : pattern.length ≤ 200) :
    RuleStep rules (rules.add fun id => { id := id, pattern := pattern, action := action })
  | toggled {id : ℕ} : RuleStep rules (rules.modify id fun r => { r with isActive := !r.isActive })
  | deleted {id : ℕ} : RuleStep rules (rules.delete id)

/-- A change of the pool. -/
inductive PoolStep (pool : Serial PoolRow) : Serial PoolRow → Prop
  | created {label apiKey model baseUrl : String} {capability : AiKeyCapability}
      (hfilled : ∀ s ∈ [label, apiKey, model, baseUrl], s ≠ "" ∧ strip s = s) :
    PoolStep pool (pool.add fun id =>
      { id := id, capability := capability, label := label, apiKey := apiKey, model := model,
        baseUrl := baseUrl })
  | toggled {id : ℕ} : PoolStep pool (pool.modify id fun e => { e with isActive := !e.isActive })
  | deleted {id : ℕ} : PoolStep pool (pool.delete id)

/-- **What an update can do to the tables.** -/
inductive PanelEffect (cfg : PanelConfig) (env : PanelEnv) (user : ℤ) (db : PanelDb) : PanelDb → Prop
  | same : PanelEffect cfg env user db db
  | granted {telegramId : ℤ} (huser : user ∈ cfg.adminIds) (hother : telegramId ∉ cfg.adminIds)
      (hnew : ∀ r ∈ db.roles.rows, r.telegramId ≠ telegramId) :
    PanelEffect cfg env user db
      (PanelDb.log { db with
        roles := db.roles.add fun id =>
          { id := id, telegramId := telegramId, grantedByTelegramId := user } }
        .OPERATOR_ADMIN_GRANTED none (some user) (some (roleDetails telegramId)))
  | revoked {role : AdminRole} (huser : user ∈ cfg.adminIds) (hrole : role ∈ db.roles.rows) :
    PanelEffect cfg env user db ((db.revoke role).log .OPERATOR_ADMIN_REVOKED none (some user)
      (some (roleDetails role.telegramId)))
  | toggled (switch : KillSwitch) (huser : user ∈ cfg.adminIds) :
    PanelEffect cfg env user db ((switch.write db !switch.read db).log .KILL_SWITCH_TOGGLED none
      (some user) (some (switch.details !switch.read db)))
  | assigned {db' : PanelDb} (huser : user ∈ cfg.adminIds) (h : Assigned db db') :
    PanelEffect cfg env user db db'
  | planned {plans : Table SubscriptionPlan} (huser : user ∈ cfg.adminIds)
      (h : PlanStep db.plans plans) : PanelEffect cfg env user db { db with plans := plans }
  | pooled {pool : Serial PoolRow} (huser : user ∈ cfg.adminIds) (h : PoolStep db.pool pool) :
    PanelEffect cfg env user db { db with pool := pool }
  | channelled {channels : Serial ChannelRow} (h : ChannelStep db.channels channels) :
    PanelEffect cfg env user db { db with channels := channels }
  | ruled {rules : Serial ModerationRule} (h : RuleStep db.rules rules) :
    PanelEffect cfg env user db { db with rules := rules }
  | activated {shopBotId : ℕ} {isActive : Bool} {reason : Option String} {event : AuditEventType}
      (hevent : event = if isActive then .SHOP_UNSUSPENDED else .SHOP_SUSPENDED) :
    PanelEffect cfg env user db
      (PanelDb.log { db with
        shops := db.shops.modify shopBotId fun s =>
          { s with isActive := isActive, disabledReason := reason } }
        event (some shopBotId) (some user) none)
  | gifted {ownerId : ℕ} {amountToman : ℤ} {books : PaymentDb} {c : WalletCharge}
      {shopBotId : Option ℕ} (hpos : 0 < amountToman) (hadd : db.books.addCharge env.now ownerId amountToman .ADMIN_GRANT none =
        .ok (books, c)) :
    PanelEffect cfg env user db (PanelDb.log { db with books := books } .OWNER_GIFT_GRANTED shopBotId
      (some user) (some (giftDetails ownerId amountToman)))
  | corrected {ownerId : ℕ} {amountToman : ℤ} {note : String} {db' : PanelDb} {shopBotId : Option ℕ}
      (howner : ownerId ∈ db.books.wallet.owners.ids) (hamount : amountToman ≠ 0) (hne : note ≠ "")
      (hlength : note.length ≤ 255)
      (happly : applyCorrection env ownerId amountToman note db = .ok (db', true)) :
    PanelEffect cfg env user db (db'.log .OWNER_WALLET_CORRECTED shopBotId (some user)
      (some (correctionDetails ownerId amountToman note)))

/-! ## Handlers that are in order -/

/-- The computation never raises a `KeyError`. -/
def NoKeyError {α : Type} (x : Except PyError α) : Prop := x ≠ .error .KeyError

theorem noKeyError_ok {α : Type} (a : α) : NoKeyError (.ok a : Except PyError α) := nofun

theorem noKeyError_error {α : Type} {e : PyError} (he : e ≠ .KeyError) :
    NoKeyError (.error e : Except PyError α) := fun h => he (Except.error.inj h)

theorem ite_ok {α : Type} {c : Prop} [Decidable c] {a b : α} {e : PyError}
    (h : (if c then .ok a else .error e : Except PyError α) = .ok b) : a = b := by
  split_ifs at h
  exact Except.ok.inj h

theorem noKeyError_ite {α : Type} {c : Prop} [Decidable c] {x y : Except PyError α} (hx : NoKeyError x)
    (hy : NoKeyError y) : NoKeyError (if c then x else y) := by
  split_ifs
  · exact hx
  · exact hy

/-- A check of the server, with a `DataError` if it fails. -/
theorem noKeyError_ite_ok {α : Type} {c : Prop} [Decidable c] {a : α} :
    NoKeyError (if c then .ok a else .error .DataError) :=
  noKeyError_ite (noKeyError_ok a) (noKeyError_error (by decide))

theorem noKeyError_scalarOneOrNone {α : Type} (l : List α) : NoKeyError (scalarOneOrNone l) := by
  unfold scalarOneOrNone
  split
  · exact noKeyError_ok _
  · exact noKeyError_ok _
  · exact noKeyError_error (by decide)

theorem of_ite_none {α : Type} {c : Prop} [Decidable c] {x : Except PyError (Option α)} {a : α}
    (h : (if c then .ok none else x) = .ok (some a)) : x = .ok (some a) := by
  split_ifs at h
  · cases h
  · exact h

theorem noKeyError_bind {α β : Type} {x : Except PyError α} {f : α → Except PyError β}
    (hx : NoKeyError x) (hf : ∀ a, NoKeyError (f a)) : NoKeyError (x >>= f) := by
  cases x with
  | ok a => exact hf a
  | error e =>
    intro h
    cases h
    exact hx rfl

theorem noKeyError_map {α β : Type} {x : Except PyError α} {f : α → β} (hx : NoKeyError x) :
    NoKeyError (x.map f) := by
  cases x with
  | ok a => exact nofun
  | error _ =>
    intro h
    cases h
    exact hx rfl

theorem noKeyError_applyBalanceDelta (db : WalletDb) (ownerId : ℕ) (deltaToman : ℤ) :
    NoKeyError (db.applyBalanceDelta ownerId deltaToman) := by
  unfold WalletDb.applyBalanceDelta NoKeyError
  split
  · nofun
  · split_ifs <;> nofun

section Fine

variable {cfg : PanelConfig} {env : PanelEnv} {user : ℤ} {db₀ : PanelDb}

/-- From the tables `db₀` at its beginning, the handler commits an effect, keeps the dialog complete and
raises no `KeyError`. -/
def Fine (cfg : PanelConfig) (env : PanelEnv) (user : ℤ) (db₀ : PanelDb) (m : Handler Unit)
    (s : PanelDb × DialogContext) : Prop :=
  Ends m s (fun _ s' => PanelEffect cfg env user db₀ s'.1 ∧ Complete s'.2)
    fun e s' => e ≠ .KeyError ∧ Complete s'.2

variable {s : PanelDb × DialogContext} {f : Unit → Handler Unit}

theorem fine_send {c : PanelCall} (h : PanelEffect cfg env user db₀ s.1) (hc : Complete s.2) :
    Fine cfg env user db₀ (send env c) s := by
  have hsend := env.send_ne_keyError c
  unfold Fine send
  cases henv : env.send c with
  | none => exact ⟨h, hc⟩
  | some e => exact ⟨fun he => hsend (he ▸ henv), hc⟩

theorem fine_send_bind {c : PanelCall} (hc : Complete s.2) (h : Fine cfg env user db₀ (f ()) s) :
    Fine cfg env user db₀ (send env c >>= f) s := by
  have hsend := env.send_ne_keyError c
  unfold Fine send
  rw [ends_bind]
  cases henv : env.send c with
  | none => exact h
  | some e => exact ⟨fun he => hsend (he ▸ henv), hc⟩

theorem fine_attempt {c : PanelCall} (h : PanelEffect cfg env user db₀ s.1) (hc : Complete s.2) :
    Fine cfg env user db₀ (attempt env c) s := by
  have hsend := env.send_ne_keyError c
  unfold Fine attempt
  split
  · exact ⟨h, hc⟩
  · exact ⟨h, hc⟩
  · rename_i henv
    exact ⟨fun he => hsend (he ▸ henv), hc⟩

theorem fine_setState_bind {state : DialogState}
    (h : Fine cfg env user db₀ (f ()) (s.1, { s.2 with state := some state })) :
    Fine cfg env user db₀ (setState state >>= f) s := ends_bind.2 h

theorem fine_updateData_bind {g : DialogData → DialogData}
    (h : Fine cfg env user db₀ (f ()) (s.1, { s.2 with data := g s.2.data })) :
    Fine cfg env user db₀ (updateData g >>= f) s := ends_bind.2 h

theorem fine_clear_bind (h : Fine cfg env user db₀ (f ()) (s.1, {})) :
    Fine cfg env user db₀ (clear >>= f) s := ends_bind.2 h

theorem fine_get_bind {f : PanelDb × DialogContext → Handler Unit}
    (h : Fine cfg env user db₀ (f s) s) : Fine cfg env user db₀ (get >>= f) s := ends_bind.2 h

theorem fine_lift_bind {α : Type} {x : Except PyError α} {f : α → Handler Unit} (hx : NoKeyError x)
    (hc : Complete s.2) (h : ∀ a, x = .ok a → Fine cfg env user db₀ (f a) s) :
    Fine cfg env user db₀ (lift x >>= f) s :=
  ends_bind.2 (ends_lift.2 ⟨h, fun _ he => ⟨fun hkey => hx (hkey ▸ he), hc⟩⟩)

theorem fine_query_bind {α : Type} {g : PanelDb → Except PyError α} {f : α → Handler Unit}
    (hg : NoKeyError (g s.1)) (hc : Complete s.2)
    (h : ∀ a, g s.1 = .ok a → Fine cfg env user db₀ (f a) s) :
    Fine cfg env user db₀ (query g >>= f) s := by
  unfold query Fine
  rw [ends_bind, ends_bind, ends_get]
  exact ends_lift.2 ⟨h, fun _ he => ⟨fun hkey => hg (hkey ▸ he), hc⟩⟩

theorem fine_flush_bind {g : PanelDb → Except PyError PanelDb} (hg : NoKeyError (g s.1))
    (hc : Complete s.2) (h : ∀ db, g s.1 = .ok db → Fine cfg env user db₀ (f ()) (db, s.2)) :
    Fine cfg env user db₀ (flush g >>= f) s := by
  unfold flush Fine
  rw [ends_bind, ends_bind]
  unfold query
  rw [ends_bind, ends_get]
  exact ends_lift.2 ⟨h, fun _ he => ⟨fun hkey => hg (hkey ▸ he), hc⟩⟩

theorem fine_log_bind {event : AuditEventType} {shopBotId : Option ℕ} {actor : ℤ}
    {details : Option String} (hc : Complete s.2)
    (h : Fine cfg env user db₀ (f ()) (s.1.log event shopBotId (some actor) details, s.2)) :
    Fine cfg env user db₀ (log event shopBotId actor details >>= f) s :=
  fine_flush_bind (noKeyError_ok _) hc fun db hdb => by cases hdb; exact h

theorem fine_required_bind {α : Type} {key : DialogData → Option α} {f : α → Handler Unit}
    (hkey : (key s.2.data).isSome)
    (h : ∀ a, key s.2.data = some a → Fine cfg env user db₀ (f a) s) :
    Fine cfg env user db₀ (required key >>= f) s := by
  obtain ⟨a, ha⟩ := Option.isSome_iff_exists.1 hkey
  unfold required Fine
  rw [ends_bind, ends_bind, ends_get, ha]
  exact h a ha

/-! ## The handlers -/

theorem display_fine (hc : Complete s.2) : Fine cfg env user s.1 (display env) s := fine_send .same hc

theorem clearAndShow_fine : Fine cfg env user s.1 (clearAndShow env) s :=
  fine_clear_bind (fine_send .same complete_empty)

theorem broadcastStart_fine (hc : Complete s.2) : Fine cfg env user s.1 (broadcastStart env) s :=
  fine_setState_bind (fine_send .same (.state hc.accepted trivial))

theorem broadcastMessageEntered_fine (hc : Complete s.2) (text : String) :
    Fine cfg env user s.1 (broadcastMessageEntered env text) s := by
  have haccepted := hc.accepted
  refine fine_updateData_bind (fine_setState_bind (fine_send .same ?_))
  exact .state haccepted.kept rfl

/-- The round of an owner changes nothing. -/
theorem broadcastTo_ends (hc : Complete s.2) (hkey : s.2.data.broadcastText.isSome) (owner : ShopOwner) :
    Ends (broadcastTo env owner) s (fun _ s' => s' = s) fun e s' => e ≠ .KeyError ∧ Complete s'.2 := by
  have hsend := fun text => env.send_ne_keyError (.sendMessage owner.telegramId (.broadcast text))
  obtain ⟨text, htext⟩ := Option.isSome_iff_exists.1 hkey
  unfold broadcastTo required
  rw [ends_bind, ends_bind, ends_get, htext]
  show Ends (attempt env _) s _ _
  unfold attempt
  split
  · rfl
  · rfl
  · rename_i henv
    exact ⟨fun he => hsend text (he ▸ henv), hc⟩

theorem broadcastConfirmed_fine (hc : Complete s.2) (hstate : s.2.state = some .broadcastConfirmation) :
    Fine cfg env user s.1 (broadcastConfirmed env) s := by
  have hkey : s.2.data.broadcastText.isSome := hc.answered _ hstate
  refine fine_query_bind (noKeyError_ok _) hc fun owners _ => ?_
  refine ends_bind.2 ?_
  refine (ends_forM (I := fun s' => s' = s) (fun owner _ s' hs' => ?_) rfl).mono (fun _ s' hs' => ?_)
    fun _ _ h => h
  · subst hs'
    exact broadcastTo_ends hc hkey owner
  · subst hs'
    exact fine_clear_bind (fine_send_bind complete_empty (fine_send .same complete_empty))

theorem broadcastCancelled_fine : Fine cfg env user s.1 (broadcastCancelled env) s :=
  fine_clear_bind (fine_send_bind complete_empty (fine_send .same complete_empty))

/-! ### The mandatory channels -/

theorem cbChannelAdd_fine (hc : Complete s.2) : Fine cfg env user s.1 (cbChannelAdd env) s := by
  have hc' : Complete { s.2 with state := some .channelName } := .state hc.accepted trivial
  exact fine_setState_bind (fine_send_bind hc' (fine_send .same hc'))

theorem channelAddName_fine (hc : Complete s.2) (text : String) :
    Fine cfg env user s.1 (channelAddName env text) s := by
  have haccepted := hc.accepted
  refine fine_updateData_bind (fine_setState_bind (fine_send .same ?_))
  exact .state haccepted.kept rfl

theorem noKeyError_caught {α : Type} {x : Except PyError α} (hx : NoKeyError x) :
    NoKeyError (caught x) := by
  unfold caught
  split
  · exact nofun
  · exact nofun
  · intro h
    cases h
    exact hx rfl

theorem noKeyError_resolveMainChannel (m : PanelMessage) : NoKeyError (resolveMainChannel env m) := by
  have hchannel : NoKeyError (channelOf env m) := by
    unfold channelOf
    split
    · exact nofun
    · split_ifs
      · exact noKeyError_map (noKeyError_caught (env.getChat_ne_keyError _))
      · exact nofun
    · exact nofun
  unfold resolveMainChannel
  refine noKeyError_bind hchannel fun channel => ?_
  split
  · exact nofun
  · refine noKeyError_bind (noKeyError_caught (env.isAdministrator_ne_keyError _)) fun administrator => ?_
    split
    · split
      · exact nofun
      · exact noKeyError_bind (noKeyError_caught (env.createChatInviteLink_ne_keyError _)) fun _ => nofun
    · exact nofun

theorem channelAddProof_fine (hc : Complete s.2) (hstate : s.2.state = some .channelProof)
    (m : PanelMessage) : Fine cfg env user s.1 (channelAddProof env m) s := by
  have hkey : s.2.data.channelName.isSome := hc.answered _ hstate
  have haccepted := hc.accepted
  refine fine_lift_bind (noKeyError_resolveMainChannel m) hc fun resolved _ => ?_
  cases resolved with
  | none => exact fine_send .same hc
  | some channel =>
    refine fine_updateData_bind (fine_setState_bind (fine_send .same ?_))
    exact .state haccepted.kept ⟨hkey, rfl⟩

theorem createChannel_effect {db' : PanelDb} {channelId name : String} {inviteLink : Option String}
    {isPrimary : Bool} (h : s.1.createChannel channelId name inviteLink isPrimary = .ok db') :
    PanelEffect cfg env user s.1 db' := by
  unfold PanelDb.createChannel at h
  split_ifs at h with _ hany
  cases h
  refine .channelled (.created fun c hmem heq => hany ?_)
  exact List.any_eq_true.2 ⟨c, hmem, beq_iff_eq.2 heq⟩

theorem channelAddPrimaryChoice_fine (hc : Complete s.2) (hstate : s.2.state = some .channelIsPrimary)
    (isPrimary : Bool) : Fine cfg env user s.1 (channelAddPrimaryChoice env isPrimary) s := by
  obtain ⟨hname, hid⟩ : s.2.data.channelName.isSome ∧ s.2.data.channelId.isSome :=
    hc.answered _ hstate
  refine fine_required_bind hid fun channelId _ => fine_required_bind hname fun channelName _ => ?_
  refine fine_get_bind (fine_flush_bind ?_ hc fun db hdb => ?_)
  · exact noKeyError_ite (noKeyError_error (by decide))
      (noKeyError_ite (noKeyError_error (by decide)) (noKeyError_ok _))
  · have heffect : PanelEffect cfg env user s.1 db := createChannel_effect hdb
    exact fine_clear_bind (fine_send_bind complete_empty (fine_send_bind complete_empty
      (fine_send heffect complete_empty)))

theorem cbChannelDeleteConfirm_fine (hc : Complete s.2) (channelPk : ℕ) :
    Fine cfg env user s.1 (cbChannelDeleteConfirm env channelPk) s := by
  refine fine_query_bind (noKeyError_ok _) hc fun channel _ => ?_
  cases channel with
  | none => exact fine_send_bind hc (fine_send .same hc)
  | some channel =>
    refine fine_flush_bind (noKeyError_ok _) hc fun db hdb => ?_
    cases hdb
    exact fine_send_bind hc (fine_send_bind hc (fine_send (.channelled .deleted) hc))

/-! ### Plans and switches -/

theorem cbPricingMenu_fine : Fine cfg env user s.1 (cbPricingMenu env) s :=
  fine_clear_bind (fine_send_bind complete_empty (fine_send .same complete_empty))

theorem cbPlanAdd_fine (hc : Complete s.2) : Fine cfg env user s.1 (cbPlanAdd env) s := by
  have hc' : Complete { s.2 with state := some .planDuration } := .state hc.accepted trivial
  exact fine_setState_bind (fine_send_bind hc' (fine_send .same hc'))

theorem positive_pos {text : String} {n : ℤ} (h : positive text = some n) : 0 < n := by
  unfold positive at h
  split at h
  · split_ifs at h
    cases h
    omega
  · cases h

theorem planDurationEntered_fine (hc : Complete s.2) (text : String) :
    Fine cfg env user s.1 (planDurationEntered env text) s := by
  unfold planDurationEntered
  cases hmonths : positive text with
  | none => exact fine_send .same hc
  | some months =>
    refine fine_updateData_bind (fine_setState_bind (fine_send .same ?_))
    refine .state ⟨hc.accepted.pattern, fun n hn => ?_, hc.accepted.rateLimitMax, hc.accepted.correctionAmount⟩ rfl
    cases hn
    exact positive_pos hmonths

theorem noKeyError_updateInt {db : PanelDb} (field : IntField) (value : ℤ) :
    NoKeyError (db.updateInt field value) := noKeyError_ite_ok

theorem updateInt_ok {db db' : PanelDb} {field : IntField} {value : ℤ}
    (h : db.updateInt field value = .ok db') : field.write db value = db' := ite_ok h

section Super

variable (huser : user ∈ cfg.adminIds)

include huser

theorem cbToggleZarinpal_fine (hc : Complete s.2) : Fine cfg env user s.1 (cbToggleZarinpal env) s := by
  refine fine_flush_bind (noKeyError_ok _) hc fun db hdb => ?_
  cases hdb
  exact fine_send_bind hc (fine_send (.assigned huser .zarinpal) hc)

theorem cbToggleBalePay_fine (hc : Complete s.2) : Fine cfg env user s.1 (cbToggleBalePay env) s := by
  refine fine_get_bind ?_
  dsimp only
  split_ifs with htoken
  · exact fine_send .same hc
  · refine fine_flush_bind (noKeyError_ok _) hc fun db hdb => ?_
    cases hdb
    refine fine_send_bind hc (fine_send (.assigned huser (.balePay ?_)) hc)
    by_contra hno
    obtain ⟨hoff, hempty⟩ := not_or.1 hno
    exact htoken (by simp [hoff, not_not.1 hempty])

theorem cbRecalcWalletCost_fine (hc : Complete s.2) :
    Fine cfg env user s.1 (cbRecalcWalletCost env) s := by
  refine fine_flush_bind (noKeyError_updateInt _ _) hc fun db hdb => ?_
  obtain rfl := updateInt_ok hdb
  have hmin : IntField.minimum .walletCostPer1kTokensToman ≤
      PanelDb.computeCostPer1kTokensFromFormula s.1.more := le_max_left 1 _
  exact fine_send_bind hc (fine_send_bind hc (fine_send (.assigned huser (.int hmin)) hc))

theorem cbToggle_fine (hc : Complete s.2) (switch : KillSwitch) :
    Fine cfg env user s.1 (cbToggle env user switch) s := by
  refine fine_get_bind (fine_flush_bind (noKeyError_ok _) hc fun db hdb => ?_)
  cases hdb
  exact fine_log_bind hc (fine_send_bind hc (fine_send (.toggled switch huser) hc))

theorem cbPlanToggle_fine (hc : Complete s.2) (planId : ℕ) :
    Fine cfg env user s.1 (cbPlanToggle env planId) s := by
  refine fine_flush_bind (noKeyError_ok _) hc fun db hdb => ?_
  cases hdb
  exact fine_send_bind hc (fine_send (.planned huser .toggled) hc)

theorem planPriceEntered_fine (hc : Complete s.2) (hstate : s.2.state = some .planPrice) (text : String) :
    Fine cfg env user s.1 (planPriceEntered env text) s := by
  have hkey : s.2.data.planDuration.isSome := hc.answered _ hstate
  unfold planPriceEntered
  cases hprice : positive (withoutCommas text) with
  | none => exact fine_send .same hc
  | some price =>
    refine fine_required_bind hkey fun months hmonths => ?_
    refine fine_query_bind ?_ hc fun existing hexisting => ?_
    · exact noKeyError_ite (noKeyError_scalarOneOrNone _) (noKeyError_error (by decide))
    have hrest : ∀ db, PanelEffect cfg env user s.1 db → Fine cfg env user s.1
        (clear >>= fun _ => send env (.answer .adminPlanSaved) >>= fun _ =>
          send env (.answer .adminPricingMenuIntro)) (db, s.2) :=
      fun db h => fine_clear_bind (fine_send_bind complete_empty (fine_send h complete_empty))
    cases existing with
    | some plan =>
      refine fine_flush_bind ?_ hc fun db hdb => hrest db ?_
      · exact noKeyError_ite_ok
      · unfold PanelDb.updatePrice at hdb
        split_ifs at hdb
        cases hdb
        exact .planned huser (.priced (positive_pos hprice))
    | none =>
      refine fine_flush_bind ?_ hc fun db hdb => hrest db ?_
      · exact noKeyError_ite (noKeyError_error (by decide))
          (noKeyError_ite (noKeyError_error (by decide)) (noKeyError_ok _))
      · unfold PanelDb.createPlan at hdb
        split_ifs at hdb with _ hany
        cases hdb
        refine .planned huser (.created (hc.accepted.planDuration months hmonths) (positive_pos hprice) ?_)
        intro p hp heq
        exact hany (List.any_eq_true.2 ⟨p, hp, beq_iff_eq.2 heq⟩)

/-! ### The settings row -/

omit huser in
theorem cbSettingEdit_fine (hc : Complete s.2) (key : String) :
    Fine cfg env user s.1 (cbSettingEdit env key) s := by
  refine fine_send_bind hc ?_
  have haccepted := hc.accepted
  split_ifs
  · exact fine_setState_bind (fine_send .same (.state haccepted trivial))
  · cases settingField? key with
    | none => exact ⟨.same, hc⟩
    | some field =>
      refine fine_setState_bind (fine_updateData_bind (fine_send .same ?_))
      exact .state haccepted.kept rfl

/-- An accepted text is assigned to its field, or the flush raises. -/
theorem settingValue_effect {raw : String} {field : SettingField}
    {update : PanelDb → Except PyError PanelDb} (h : settingValue env raw field = some update) :
    NoKeyError (update s.1) ∧ ∀ db, update s.1 = .ok db → PanelEffect cfg env user s.1 db := by
  unfold settingValue at h
  split at h
  · rename_i field
    split at h
    · split_ifs at h with hmin
      cases h
      refine ⟨noKeyError_updateInt field _, fun db hdb => ?_⟩
      obtain rfl := updateInt_ok hdb
      exact .assigned huser (.int (not_lt.1 hmin))
    · cases h
  · rename_i field
    split at h
    · split_ifs at h with hpos
      cases h
      refine ⟨noKeyError_ite_ok, fun db hdb => ?_⟩
      obtain rfl := ite_ok hdb
      exact .assigned huser (.decimal (not_le.1 hpos))
    · cases h
      exact ⟨by unfold NoKeyError; nofun, fun db hdb => by cases hdb⟩
    · cases h
  · cases h
    refine ⟨noKeyError_ite_ok, fun db hdb => ?_⟩
    obtain rfl := ite_ok hdb
    exact .assigned huser .nullableText
  · cases h
    refine ⟨noKeyError_ite_ok, fun db hdb => ?_⟩
    obtain rfl := ite_ok hdb
    exact .assigned huser .text

theorem settingValueEntered_fine (hc : Complete s.2) (hstate : s.2.state = some .settingValue)
    (text : String) : Fine cfg env user s.1 (settingValueEntered env text) s := by
  have hkey : s.2.data.field.isSome := hc.answered _ hstate
  refine fine_required_bind hkey fun field _ => ?_
  cases hvalue : settingValue env (strip text) field with
  | none => exact fine_send .same hc
  | some update =>
    obtain ⟨hkeyError, heffect⟩ := settingValue_effect huser hvalue
    refine fine_flush_bind hkeyError hc fun db hdb => ?_
    exact fine_clear_bind (fine_send_bind complete_empty (fine_send (heffect db hdb) complete_empty))

omit huser in
theorem rateLimitMaxEntered_fine (hc : Complete s.2) (text : String) :
    Fine cfg env user s.1 (rateLimitMaxEntered env text) s := by
  unfold rateLimitMaxEntered
  cases hmax : positive text with
  | none => exact fine_send .same hc
  | some maxMessages =>
    refine fine_updateData_bind (fine_setState_bind (fine_send .same ?_))
    refine .state ⟨hc.accepted.pattern, hc.accepted.planDuration, fun n hn => ?_,
      hc.accepted.correctionAmount⟩ rfl
    cases hn
    exact positive_pos hmax

theorem rateLimitWindowEntered_fine (hc : Complete s.2) (hstate : s.2.state = some .rateLimitWindow)
    (text : String) : Fine cfg env user s.1 (rateLimitWindowEntered env text) s := by
  have hkey : s.2.data.rateLimitMax.isSome := hc.answered _ hstate
  unfold rateLimitWindowEntered
  cases hwindow : positive text with
  | none => exact fine_send .same hc
  | some windowSeconds =>
    refine fine_required_bind hkey fun maxMessages hmax => ?_
    refine fine_flush_bind (by unfold setRateLimit NoKeyError; split_ifs <;> nofun) hc fun db hdb => ?_
    unfold setRateLimit at hdb
    split_ifs at hdb
    cases hdb
    have heffect : Assigned s.1 _ :=
      .rateLimit (hc.accepted.rateLimitMax maxMessages hmax) (positive_pos hwindow)
    exact fine_clear_bind (fine_send_bind complete_empty
      (fine_send (.assigned huser heffect) complete_empty))

end Super

/-! ### The shop owners -/

theorem noKeyError_getByOwner (db : PanelDb) (ownerId : ℕ) : NoKeyError (db.getByOwner ownerId) := by
  exact noKeyError_scalarOneOrNone _

theorem noKeyError_ownerWithShop (db : PanelDb) (ownerId : ℕ) : NoKeyError (ownerWithShop db ownerId) := by
  unfold ownerWithShop
  split
  · exact nofun
  · exact noKeyError_map (noKeyError_getByOwner _ _)

theorem cbOwnerSuspend_fine (hc : Complete s.2) (ownerId : ℕ) :
    Fine cfg env user s.1 (cbOwnerSuspend env user ownerId) s := by
  refine fine_query_bind (noKeyError_ownerWithShop _ _) hc fun found _ => ?_
  cases found with
  | none => exact fine_send .same hc
  | some found =>
    refine fine_flush_bind (noKeyError_ok _) hc fun db hdb => ?_
    cases hdb
    exact fine_log_bind hc (fine_send_bind hc (fine_send_bind hc (fine_send_bind hc
      (fine_send (.activated (if_neg Bool.false_ne_true).symm) hc))))

theorem cbOwnerUnsuspend_fine (hc : Complete s.2) (ownerId : ℕ) :
    Fine cfg env user s.1 (cbOwnerUnsuspend env user ownerId) s := by
  refine fine_query_bind (noKeyError_ownerWithShop _ _) hc fun found _ => ?_
  cases found with
  | none => exact fine_send .same hc
  | some found =>
    refine fine_flush_bind (noKeyError_ok _) hc fun db hdb => ?_
    cases hdb
    exact fine_log_bind hc (fine_send_bind hc (fine_send_bind hc (fine_send_bind hc
      (fine_send (.activated (if_pos rfl).symm) hc))))

theorem cbOwnerGiftStart_fine (hc : Complete s.2) (ownerId : ℕ) :
    Fine cfg env user s.1 (cbOwnerGiftStart env ownerId) s := by
  have hc' : Complete { state := some .giftAmount, data := { s.2.data with giftOwnerId := some ownerId } } :=
    .state hc.accepted.kept rfl
  exact fine_setState_bind (fine_updateData_bind (fine_send_bind hc' (fine_send .same hc')))

theorem noKeyError_addCharge (db : WalletDb) (settings : AdminSettings) (now : Datetime) (ownerId : ℕ)
    (amountToman : ℤ) (reason : WalletTransactionReason) (paymentId : Option ℕ)
    (validityMonths : Option ℤ) (reference : Option String) :
    NoKeyError (db.addCharge settings now ownerId amountToman reason paymentId validityMonths
      reference) := by
  unfold WalletDb.addCharge
  split_ifs
  · exact nofun
  refine noKeyError_bind ?_ fun expiresAt => noKeyError_bind ?_ fun db => noKeyError_bind ?_ fun _ => nofun
  · unfold datetimeAdd NoKeyError
    split_ifs <;> nofun
  · exact noKeyError_ite (noKeyError_error (by decide))
      (noKeyError_ite (noKeyError_error (by decide)) (noKeyError_ok _))
  · exact noKeyError_applyBalanceDelta _ _ _

theorem ownerGiftAmountEntered_fine (hc : Complete s.2) (hstate : s.2.state = some .giftAmount)
    (text : String) : Fine cfg env user s.1 (ownerGiftAmountEntered env user text) s := by
  have hkey : s.2.data.giftOwnerId.isSome := hc.answered _ hstate
  unfold ownerGiftAmountEntered
  cases hamount : positive text with
  | none => exact fine_send .same hc
  | some amountToman =>
    refine fine_required_bind hkey fun ownerId _ => ?_
    refine fine_query_bind (noKeyError_ok _) hc fun owner howner => ?_
    cases owner with
    | none => exact fine_clear_bind (fine_send .same complete_empty)
    | some owner =>
      have hid : owner.id = ownerId := Table.id_of_find? (Except.ok.inj howner)
      refine fine_flush_bind ?_ hc fun db hdb => ?_
      · refine noKeyError_bind ?_ fun _ => noKeyError_ok _
        unfold PaymentDb.addCharge
        split
        · unfold NoKeyError
          split_ifs <;> nofun
        · exact noKeyError_bind (noKeyError_addCharge _ _ _ _ _ _ _ _ _) fun _ => noKeyError_ok _
      obtain ⟨⟨books, charge⟩, hadd, hdb⟩ := bind_ok hdb
      cases hdb
      rw [hid] at hadd
      refine fine_query_bind (noKeyError_getByOwner _ _) hc fun giftShopBot _ => ?_
      exact fine_log_bind hc (fine_clear_bind (fine_send_bind complete_empty
        (fine_attempt (.gifted (positive_pos hamount) hadd) complete_empty)))

theorem cbOwnerWalletCorrectionStart_fine (hc : Complete s.2) (ownerId : ℕ) :
    Fine cfg env user s.1 (cbOwnerWalletCorrectionStart env ownerId) s := by
  have hc' : Complete
      { state := some .correctionAmount, data := { s.2.data with correctionOwnerId := some ownerId } } :=
    .state hc.accepted.kept rfl
  refine fine_query_bind (noKeyError_ok _) hc fun owner _ => ?_
  cases owner with
  | none => exact fine_send .same hc
  | some _ => exact fine_setState_bind (fine_updateData_bind (fine_send_bind hc' (fine_send .same hc')))

theorem noKeyError_int (text : String) : NoKeyError (Input.int text) := by
  have hunsigned : ∀ l, NoKeyError (Input.unsignedInt l) := by
    intro l
    unfold Input.unsignedInt NoKeyError
    split
    · nofun
    · split_ifs <;> nofun
  unfold Input.int
  split
  · exact hunsigned _
  · exact noKeyError_map (hunsigned _)
  · exact hunsigned _

theorem noKeyError_parseSignedTomanAmount (text : String) :
    NoKeyError (Input.parseSignedTomanAmount text) := by
  unfold Input.parseSignedTomanAmount
  cases (Input.clean (strip text)).toList with
  | nil => exact noKeyError_ok none
  | cons c l =>
    exact noKeyError_ite (noKeyError_ok none)
      (noKeyError_bind (noKeyError_int _) fun _ => noKeyError_ok _)

theorem parseSignedTomanAmount_ne_zero {text : String} {n : ℤ}
    (h : Input.parseSignedTomanAmount text = .ok (some n)) : n ≠ 0 := by
  unfold Input.parseSignedTomanAmount at h
  split at h
  · cases h
  · obtain ⟨value, -, h⟩ := bind_ok (of_ite_none h)
    obtain ⟨hzero, h⟩ := Option.ite_none_left_eq_some.1 (Except.ok.inj h)
    rintro rfl
    exact hzero (Option.some.inj h)

theorem ownerWalletCorrectionAmountEntered_fine (hc : Complete s.2)
    (hstate : s.2.state = some .correctionAmount) (text : String) :
    Fine cfg env user s.1 (ownerWalletCorrectionAmountEntered env text) s := by
  have hkey : s.2.data.correctionOwnerId.isSome := hc.answered _ hstate
  have haccepted := hc.accepted
  have hparse := noKeyError_parseSignedTomanAmount (strip text)
  have hne : ∀ n, Input.parseSignedTomanAmount (strip text) = .ok (some n) → n ≠ 0 :=
    fun _ => parseSignedTomanAmount_ne_zero
  unfold ownerWalletCorrectionAmountEntered
  generalize Input.parseSignedTomanAmount (strip text) = parsed at hparse hne ⊢
  refine fine_lift_bind hparse hc fun amount hamount => ?_
  cases amount with
  | none => exact fine_send .same hc
  | some amountToman =>
    refine fine_updateData_bind (fine_setState_bind (fine_send .same ?_))
    refine .state ⟨haccepted.pattern, haccepted.planDuration, haccepted.rateLimitMax, fun n hn => ?_⟩
      ⟨hkey, rfl⟩
    cases hn
    exact hne amountToman hamount

theorem noKeyError_applyCorrection (db : PanelDb) (ownerId : ℕ) (amountToman : ℤ) (note : String) :
    NoKeyError (applyCorrection env ownerId amountToman note db) := by
  unfold applyCorrection
  split_ifs
  · exact noKeyError_bind (noKeyError_addCharge _ _ _ _ _ _ _ _ _) fun _ => noKeyError_ok _
  · refine noKeyError_bind ?_ fun _ => noKeyError_ok _
    unfold WalletDb.deduct
    refine noKeyError_ite (noKeyError_ok _) (noKeyError_ite (noKeyError_ok _) (noKeyError_ite
      (noKeyError_ok _) (noKeyError_bind (noKeyError_applyBalanceDelta _ _ _) fun _ => noKeyError_ok _)))

/-- A correction changes nothing but the wallet. -/
theorem applyCorrection_wallet {db db' : PanelDb} {ownerId : ℕ} {amountToman : ℤ} {note : String}
    {applied : Bool} (h : applyCorrection env ownerId amountToman note db = .ok (db', applied)) :
    ∃ wallet, db' = { db with books.wallet := wallet } := by
  unfold applyCorrection at h
  split_ifs at h
  · obtain ⟨⟨wallet, charge⟩, -, h⟩ := bind_ok h
    cases h
    exact ⟨wallet, rfl⟩
  · obtain ⟨⟨wallet, applied⟩, -, h⟩ := bind_ok h
    cases h
    exact ⟨wallet, rfl⟩

/-- A correction that is not applied leaves the tables as they are. -/
theorem applyCorrection_false {db db' : PanelDb} {ownerId : ℕ} {amountToman : ℤ} {note : String}
    (h : applyCorrection env ownerId amountToman note db = .ok (db', false)) : db' = db := by
  unfold applyCorrection at h
  split_ifs at h
  · obtain ⟨x, -, h⟩ := bind_ok h
    cases h
  · obtain ⟨⟨wallet, applied⟩, hdeduct, h⟩ := bind_ok h
    cases h
    obtain ⟨rfl, -⟩ | ⟨h, -⟩ := WalletDb.deduct_ok hdeduct
    · rfl
    · cases h

theorem ownerWalletCorrectionReasonEntered_fine (hc : Complete s.2)
    (hstate : s.2.state = some .correctionReason) (text : String) :
    Fine cfg env user s.1 (ownerWalletCorrectionReasonEntered env user text) s := by
  obtain ⟨howner, hamount⟩ :
      s.2.data.correctionOwnerId.isSome ∧ s.2.data.correctionAmount.isSome := hc.answered _ hstate
  unfold ownerWalletCorrectionReasonEntered
  generalize strip text = note
  dsimp only
  split_ifs with hempty hlong
  · exact fine_send .same hc
  · exact fine_send .same hc
  refine fine_required_bind howner fun ownerId _ =>
    fine_required_bind hamount fun amountToman hread => ?_
  refine fine_query_bind (noKeyError_ok _) hc fun owner hfind => ?_
  cases owner with
  | none => exact fine_clear_bind (fine_send .same complete_empty)
  | some owner =>
    have hid : owner.id = ownerId := Table.id_of_find? (Except.ok.inj hfind)
    refine fine_query_bind (noKeyError_applyCorrection _ _ _ _) hc fun result happly => ?_
    obtain ⟨db, applied⟩ := result
    rw [hid] at happly
    refine ends_bind.2 ?_
    cases applied with
    | false =>
      obtain rfl := applyCorrection_false happly
      exact fine_setState_bind (fine_send .same (.state hc.accepted howner))
    | true =>
      have hne := hc.accepted.correctionAmount amountToman hread
      have hmem : ownerId ∈ s.1.books.wallet.owners.ids :=
        hid ▸ Table.id_mem_ids (Table.mem_of_find? (Except.ok.inj hfind))
      refine fine_query_bind (s := (db, s.2)) (noKeyError_getByOwner _ _) hc fun shopBot _ => ?_
      exact fine_log_bind hc (fine_clear_bind (fine_send_bind complete_empty
        (fine_attempt (.corrected hmem hne hempty (not_lt.1 hlong) happly) complete_empty)))

/-! ### Rules, keys and operators -/

theorem cbModerationRuleAdd_fine (hc : Complete s.2) :
    Fine cfg env user s.1 (cbModerationRuleAdd env) s :=
  fine_send_bind hc (fine_setState_bind (fine_send .same (.state hc.accepted trivial)))

theorem moderationPatternReceived_fine (hc : Complete s.2)
    (hstate : s.2.state = some .moderationPattern) (text : String) :
    Fine cfg env user s.1 (moderationPatternReceived env text) s := by
  refine fine_updateData_bind (fine_send .same ⟨fun state hs => ?_, ?_⟩)
  · rw [hstate] at hs
    cases hs
    trivial
  · refine ⟨fun p hp => ?_, hc.accepted.planDuration, hc.accepted.rateLimitMax,
      hc.accepted.correctionAmount⟩
    cases hp
    exact strip_strip text

theorem cbModerationRuleAction_fine (hc : Complete s.2) (action : ModerationAction) :
    Fine cfg env user s.1 (cbModerationRuleAction env action) s := by
  refine fine_get_bind ?_
  dsimp only
  split_ifs with hempty
  · exact fine_send .same hc
  refine fine_flush_bind noKeyError_ite_ok hc fun db hdb => ?_
  unfold PanelDb.createRule at hdb
  split_ifs at hdb with hfits
  cases hdb
  have hstrip : strip (s.2.data.pattern.getD "") = s.2.data.pattern.getD "" := by
    cases hpattern : s.2.data.pattern with
    | none => decide
    | some p => exact hc.accepted.pattern p hpattern
  exact fine_clear_bind (fine_send_bind complete_empty (fine_send_bind complete_empty
    (fine_send (.ruled (.created hempty hstrip (of_decide_eq_true hfits))) complete_empty)))

theorem cbModerationRuleToggle_fine (hc : Complete s.2) (ruleId : ℕ) :
    Fine cfg env user s.1 (cbModerationRuleToggle env ruleId) s := by
  refine fine_query_bind (noKeyError_ok _) hc fun rule _ => ?_
  cases rule with
  | none => exact fine_send .same hc
  | some rule =>
    refine fine_flush_bind (noKeyError_ok _) hc fun db hdb => ?_
    cases hdb
    exact fine_send_bind hc (fine_send (.ruled .toggled) hc)

theorem cbModerationRuleDelete_fine (hc : Complete s.2) (ruleId : ℕ) :
    Fine cfg env user s.1 (cbModerationRuleDelete env ruleId) s := by
  refine fine_query_bind (noKeyError_ok _) hc fun rule _ => ?_
  cases rule with
  | none => exact fine_send .same hc
  | some rule =>
    refine fine_flush_bind (noKeyError_ok _) hc fun db hdb => ?_
    cases hdb
    exact fine_send_bind hc (fine_send (.ruled .deleted) hc)

theorem cbAiPoolAdd_fine (hc : Complete s.2) : Fine cfg env user s.1 (cbAiPoolAdd env) s :=
  fine_send_bind hc (fine_setState_bind (fine_send .same (.state hc.accepted trivial)))

theorem mem_filledLines {text line : String} (h : line ∈ filledLines text) :
    line ≠ "" ∧ strip line = line := by
  unfold filledLines at h
  rw [List.mem_filter, List.mem_map] at h
  obtain ⟨⟨l, -, rfl⟩, hne⟩ := h
  exact ⟨by simpa using hne, strip_strip _⟩

section Super

variable (huser : user ∈ cfg.adminIds)

include huser

theorem aiPoolEntryReceived_fine (hc : Complete s.2) (text : String) :
    Fine cfg env user s.1 (aiPoolEntryReceived env text) s := by
  have hlines : ∀ line ∈ filledLines text, line ≠ "" ∧ strip line = line := fun _ => mem_filledLines
  unfold aiPoolEntryReceived
  split
  · rename_i label apiKey model baseUrl capabilityRaw heq
    rw [heq] at hlines
    cases capability? capabilityRaw with
    | none => exact fine_send .same hc
    | some capability =>
      refine fine_flush_bind noKeyError_ite_ok hc fun db hdb => ?_
      obtain rfl := ite_ok hdb
      have hfilled : ∀ line ∈ [label, apiKey, model, baseUrl], line ≠ "" ∧ strip line = line :=
        fun line hmem => hlines line (List.mem_append_left [capabilityRaw] hmem)
      exact fine_clear_bind (fine_send_bind complete_empty
        (fine_send (.pooled huser (.created hfilled)) complete_empty))
  · exact fine_send .same hc

theorem cbAiPoolToggle_fine (hc : Complete s.2) (entryId : ℕ) :
    Fine cfg env user s.1 (cbAiPoolToggle env entryId) s := by
  refine fine_query_bind (noKeyError_ok _) hc fun entry _ => ?_
  cases entry with
  | none => exact fine_send .same hc
  | some entry =>
    refine fine_flush_bind (noKeyError_ok _) hc fun db hdb => ?_
    cases hdb
    exact fine_send_bind hc (fine_send (.pooled huser .toggled) hc)

theorem cbAiPoolDelete_fine (hc : Complete s.2) (entryId : ℕ) :
    Fine cfg env user s.1 (cbAiPoolDelete env entryId) s := by
  refine fine_query_bind (noKeyError_ok _) hc fun entry _ => ?_
  cases entry with
  | none => exact fine_send .same hc
  | some entry =>
    refine fine_flush_bind (noKeyError_ok _) hc fun db hdb => ?_
    cases hdb
    exact fine_send_bind hc (fine_send (.pooled huser .deleted) hc)

omit huser in
theorem cbAdminRoleAdd_fine (hc : Complete s.2) : Fine cfg env user s.1 (cbAdminRoleAdd env) s :=
  fine_send_bind hc (fine_setState_bind (fine_send .same (.state hc.accepted trivial)))

theorem adminRoleTelegramIdReceived_fine (hc : Complete s.2) (text : String) :
    Fine cfg env user s.1 (adminRoleTelegramIdReceived env cfg.adminIds user text) s := by
  unfold adminRoleTelegramIdReceived
  split
  · exact fine_send .same hc
  rename_i telegramId _
  split_ifs with hsuper
  · exact fine_send .same hc
  refine fine_query_bind ?_ hc fun existing _ => ?_
  · exact noKeyError_ite (noKeyError_scalarOneOrNone _) (noKeyError_error (by decide))
  cases existing with
  | some _ => exact fine_send .same hc
  | none =>
    refine fine_flush_bind ?_ hc fun db hdb => ?_
    · exact noKeyError_ite (noKeyError_error (by decide)) (noKeyError_ok _)
    unfold PanelDb.grantOperator at hdb
    split_ifs at hdb with hany
    cases hdb
    refine fine_log_bind hc (fine_clear_bind (fine_send_bind complete_empty
      (fine_send (.granted huser hsuper fun r hr heq => hany ?_) complete_empty)))
    exact List.any_eq_true.2 ⟨r, hr, beq_iff_eq.2 heq⟩

theorem cbAdminRoleRevoke_fine (hc : Complete s.2) (roleId : ℕ) :
    Fine cfg env user s.1 (cbAdminRoleRevoke env user roleId) s := by
  refine fine_query_bind (noKeyError_ok _) hc fun role hrole => ?_
  cases role with
  | none => exact fine_send .same hc
  | some role =>
    have hmem : role ∈ s.1.roles.rows := (Serial.find?_eq_some_iff.1 (Except.ok.inj hrole)).1
    refine fine_flush_bind (noKeyError_ok _) hc fun db hdb => ?_
    cases hdb
    exact fine_log_bind hc (fine_send_bind hc (fine_send (.revoked huser hmem) hc))

end Super

/-! ## The panel -/

section Panel

-- a handler is not computed to find its lemma
attribute [local irreducible] Fine

variable {handler : Handler Unit}

theorem namedHandler_fine {isSuper : Bool} {text : String} (hc : Complete s.2)
    (h : namedHandler cfg env isSuper text = some handler) : Fine cfg env user s.1 handler s := by
  unfold namedHandler at h
  split_ifs at h <;> cases h
  · exact clearAndShow_fine
  · exact display_fine hc
  · exact broadcastStart_fine hc
  · exact clearAndShow_fine
  · exact clearAndShow_fine
  · exact display_fine hc

theorem textHandler_fine {m : PanelMessage} {text : String} {state : DialogState} (hc : Complete s.2)
    (hstate : s.2.state = some state) (h : textHandler env user m text state = some handler) :
    Fine cfg env user s.1 handler s := by
  cases state with
  | broadcastMessage => exact Option.some.inj h ▸ broadcastMessageEntered_fine hc text
  | channelName => exact Option.some.inj h ▸ channelAddName_fine hc text
  | channelProof => exact Option.some.inj h ▸ channelAddProof_fine hc hstate m
  | giftAmount => exact Option.some.inj h ▸ ownerGiftAmountEntered_fine hc hstate text
  | correctionAmount => exact Option.some.inj h ▸ ownerWalletCorrectionAmountEntered_fine hc hstate text
  | correctionReason => exact Option.some.inj h ▸ ownerWalletCorrectionReasonEntered_fine hc hstate text
  | moderationPattern => exact Option.some.inj h ▸ moderationPatternReceived_fine hc hstate text
  | _ => cases h

theorem superTextHandler_fine (huser : user ∈ cfg.adminIds) {text : String} {state : DialogState}
    (hc : Complete s.2) (hstate : s.2.state = some state)
    (h : superTextHandler cfg env user text state = some handler) :
    Fine cfg env user s.1 handler s := by
  cases state with
  | planDuration => exact Option.some.inj h ▸ planDurationEntered_fine hc text
  | planPrice => exact Option.some.inj h ▸ planPriceEntered_fine huser hc hstate text
  | settingValue => exact Option.some.inj h ▸ settingValueEntered_fine huser hc hstate text
  | rateLimitMax => exact Option.some.inj h ▸ rateLimitMaxEntered_fine hc text
  | rateLimitWindow => exact Option.some.inj h ▸ rateLimitWindowEntered_fine huser hc hstate text
  | poolEntryDetails => exact Option.some.inj h ▸ aiPoolEntryReceived_fine huser hc text
  | roleTelegramId => exact Option.some.inj h ▸ adminRoleTelegramIdReceived_fine huser hc text
  | _ => cases h

theorem messageHandler_fine {m : PanelMessage} (hc : Complete s.2)
    (h : messageHandler cfg env (isSuperAdmin cfg user) user m s.2.state = some handler) :
    Fine cfg env user s.1 handler s := by
  unfold messageHandler at h
  split at h
  · obtain ⟨state, hstate, h⟩ := Option.bind_eq_some_iff.1 h
    cases state with
    | channelProof => exact Option.some.inj h ▸ channelAddProof_fine hc hstate m
    | correctionReason => exact Option.some.inj h ▸ fine_send .same hc
    | _ => cases h
  · rcases Option.or_eq_some_iff.1 h with h | ⟨-, h⟩
    · exact namedHandler_fine hc h
    rcases Option.or_eq_some_iff.1 h with h | ⟨-, h⟩
    · obtain ⟨state, hstate, h⟩ := Option.bind_eq_some_iff.1 h
      exact textHandler_fine hc hstate h
    · split_ifs at h with hsuper
      obtain ⟨state, hstate, h⟩ := Option.bind_eq_some_iff.1 h
      exact superTextHandler_fine (of_decide_eq_true hsuper) hc hstate h

theorem buttonHandler_fine {b : AdminButton} (hc : Complete s.2)
    (h : buttonHandler env user s.2.state b = some handler) : Fine cfg env user s.1 handler s := by
  cases b with
  | broadcastConfirm =>
    obtain ⟨hstate, h⟩ := Option.ite_none_right_eq_some.1 h
    exact Option.some.inj h ▸ broadcastConfirmed_fine hc hstate
  | broadcastCancel =>
    obtain ⟨-, h⟩ := Option.ite_none_right_eq_some.1 h
    exact Option.some.inj h ▸ broadcastCancelled_fine
  | channelPrimary yes =>
    obtain ⟨hstate, h⟩ := Option.ite_none_right_eq_some.1 h
    exact Option.some.inj h ▸ channelAddPrimaryChoice_fine hc hstate yes
  | display => exact Option.some.inj h ▸ display_fine hc
  | channelAdd => exact Option.some.inj h ▸ cbChannelAdd_fine hc
  | channelDeleteConfirm channelPk => exact Option.some.inj h ▸ cbChannelDeleteConfirm_fine hc channelPk
  | ownerSuspend ownerId => exact Option.some.inj h ▸ cbOwnerSuspend_fine hc ownerId
  | ownerUnsuspend ownerId => exact Option.some.inj h ▸ cbOwnerUnsuspend_fine hc ownerId
  | ownerGift ownerId => exact Option.some.inj h ▸ cbOwnerGiftStart_fine hc ownerId
  | ownerWalletCorrection ownerId => exact Option.some.inj h ▸ cbOwnerWalletCorrectionStart_fine hc ownerId
  | modRuleAdd => exact Option.some.inj h ▸ cbModerationRuleAdd_fine hc
  | modRuleAction action => exact Option.some.inj h ▸ cbModerationRuleAction_fine hc action
  | modRuleToggle ruleId => exact Option.some.inj h ▸ cbModerationRuleToggle_fine hc ruleId
  | modRuleDelete ruleId => exact Option.some.inj h ▸ cbModerationRuleDelete_fine hc ruleId
  | _ => cases h

theorem superButtonHandler_fine (huser : user ∈ cfg.adminIds) {b : AdminButton} (hc : Complete s.2)
    (h : superButtonHandler env user b = some handler) : Fine cfg env user s.1 handler s := by
  cases b with
  | superDisplay => exact Option.some.inj h ▸ display_fine hc
  | pricingMenu => exact Option.some.inj h ▸ cbPricingMenu_fine
  | toggleZarinpal => exact Option.some.inj h ▸ cbToggleZarinpal_fine huser hc
  | toggleBalePay => exact Option.some.inj h ▸ cbToggleBalePay_fine huser hc
  | recalcWalletCost => exact Option.some.inj h ▸ cbRecalcWalletCost_fine huser hc
  | toggleRegistrations => exact Option.some.inj h ▸ cbToggle_fine huser hc .allowNewRegistrations
  | toggleTopups => exact Option.some.inj h ▸ cbToggle_fine huser hc .allowWalletTopups
  | toggleMaintenance => exact Option.some.inj h ▸ cbToggle_fine huser hc .maintenanceMode
  | planToggle planId => exact Option.some.inj h ▸ cbPlanToggle_fine huser hc planId
  | planAdd => exact Option.some.inj h ▸ cbPlanAdd_fine hc
  | settingEdit key => exact Option.some.inj h ▸ cbSettingEdit_fine hc key
  | aiPoolAdd => exact Option.some.inj h ▸ cbAiPoolAdd_fine hc
  | aiPoolToggle entryId => exact Option.some.inj h ▸ cbAiPoolToggle_fine huser hc entryId
  | aiPoolDelete entryId => exact Option.some.inj h ▸ cbAiPoolDelete_fine huser hc entryId
  | adminRoleAdd => exact Option.some.inj h ▸ cbAdminRoleAdd_fine hc
  | adminRoleRevoke roleId => exact Option.some.inj h ▸ cbAdminRoleRevoke_fine huser hc roleId
  | _ => cases h

/-- Every handler that the panel chooses is in order in the state for which it is chosen. -/
theorem handler_fine {u : PanelUpdate} (hc : Complete s.2)
    (h : handlerOf cfg env s.1 user s.2.state u = some handler) :
    Fine cfg env user s.1 handler s ∧ isAdmin cfg s.1 user = .ok true := by
  cases u with
  | message m =>
    obtain ⟨hadmin, h⟩ := Option.ite_none_right_eq_some.1 h
    exact ⟨messageHandler_fine hc h, hadmin⟩
  | button b =>
    obtain ⟨hadmin, h⟩ := Option.ite_none_right_eq_some.1 h
    refine ⟨?_, hadmin⟩
    rcases Option.or_eq_some_iff.1 h with h | ⟨-, h⟩
    · exact buttonHandler_fine hc h
    · obtain ⟨hsuper, h⟩ := Option.ite_none_right_eq_some.1 h
      exact superButtonHandler_fine (of_decide_eq_true hsuper) hc h

end Panel

end Fine

theorem escape_complete {u : PanelUpdate} {ctx : DialogContext} (hc : Complete ctx) :
    Complete (escape u ctx) := by
  unfold escape
  split
  · split_ifs
    · exact complete_empty
    · exact hc
  · exact hc

end AdminPanel

namespace PanelSystem

open AdminPanel

variable {cfg : PanelConfig} {W : World}

/-- All dialogs of the system are complete. -/
def Complete (s : PanelSystem) : Prop := ∀ user, AdminPanel.Complete (s.fsm user)

/-- **The spec of an update.**  It commits an effect, of an admin unless it changes nothing, keeps the
dialogs complete, and raises no `KeyError`. -/
theorem handle_spec {s : PanelSystem} (hc : s.Complete) (env : PanelEnv) (user : ℤ) (u : PanelUpdate) :
    (s.handle cfg env user u).Complete ∧
      ((s.handle cfg env user u).db = s.db ∨
        PanelEffect cfg env user s.db (s.handle cfg env user u).db ∧
          isAdmin cfg s.db user = .ok true) ∧
      s.failure cfg env user u ≠ some .KeyError := by
  have hctx : AdminPanel.Complete (escape u (s.fsm user)) := escape_complete (hc user)
  have hupdate : ∀ db ctx, AdminPanel.Complete ctx →
      PanelSystem.Complete { db := db, fsm := Function.update s.fsm user ctx } := by
    intro db ctx h user'
    rcases eq_or_ne user' user with rfl | hne
    · show AdminPanel.Complete (Function.update s.fsm user' ctx user')
      rw [Function.update_self]
      exact h
    · show AdminPanel.Complete (Function.update s.fsm user ctx user')
      rw [Function.update_of_ne hne]
      exact hc user'
  unfold handle failure
  dsimp only
  cases hhandler : handlerOf cfg env s.db user (escape u (s.fsm user)).state u with
  | none => exact ⟨hupdate _ _ hctx, .inl rfl, nofun⟩
  | some handler =>
    obtain ⟨hfine, hadmin⟩ := handler_fine (s := (s.db, escape u (s.fsm user))) hctx hhandler
    obtain ⟨heffect, hcomplete, hfailure⟩ := session_ends .same hfine
    refine ⟨hupdate _ _ hcomplete, .inr ⟨heffect, hadmin⟩, fun hkey => hfailure _ hkey rfl⟩

end PanelSystem

end KasbOKar
