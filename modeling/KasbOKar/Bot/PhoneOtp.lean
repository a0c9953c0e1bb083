import KasbOKar.Bot.Main
import KasbOKar.Bot.Otp

/-!
# Verified phone numbers

In the mode `sms` a number is verified by a code that was sent to it.  A code is bound to its owner and
its purpose, the number is in the FSM data: after `/start` the dialog takes another number while the
code for the first one is still good (`verified_with_old_code`).

`OtpLog` notes for which number each code was generated.  `phone_verified` says that a code is taken
for another number only if it is not one for the number of the latest call of `_send_phone_otp`; the
argument is that the state `waiting_phone_otp` always goes with the number of this call
(`Waits.step`).
-/

namespace KasbOKar

/-- The main bot, with the numbers that `_send_phone_otp` was called with. -/
structure OtpLog where
  bot : MainBot
  /-- The number for which the code with this key was generated. -/
  sentTo : ℕ → Option String
  /-- The number of the latest call for a user. -/
  latest : ℤ → Option String

namespace MainBot

/-- The user and the number of the call of `_send_phone_otp` that an update makes. -/
def sendsPhoneOtp (s : MainBot) : MainEnv × MainUpdate → Option (ℤ × Option String)
  | (env, .text user text) =>
    let ctx := s.contextOf user text
    if ctx.state = some .waitingEmail ∧ text.answered.any (fun raw => isValidEmail (strip raw)) = true ∧
        env.authMode = .SMS then
      some (user, ctx.data.phoneNumber)
    else none
  | _ => none

/-- The code that a text in the state `waiting_phone_otp` finds. -/
def typedOtp (s : MainBot) : MainEnv × MainUpdate → Option (ℤ × OtpCode)
  | (env, .text user text) =>
    let ctx := s.contextOf user text
    match text.answered, s.db.getOrCreateShopOwner user ctx.data.referredByCode env.referralCode with
    | some raw, .ok (_, owner) =>
      match s.db.otps.rows.filter (MainDb.otpMatches env owner.id .registrationPhone (strip raw)) with
      | [otp] => if ctx.state = some .waitingPhoneOtp then some (user, otp) else none
      | _ => none
    | _, _ => none
  | _ => none

end MainBot

namespace OtpLog

/-- One update.  The code of a call gets the next key. -/
def step (w : OtpLog) (a : MainEnv × MainUpdate) : Option OtpLog :=
  (w.bot.step a).map fun bot =>
    match w.bot.sendsPhoneOtp a with
    | none => { w with bot := bot }
    | some (user, phone) =>
      { bot := bot, sentTo := Function.update w.sentTo w.bot.db.otps.nextId phone,
        latest := Function.update w.latest user phone }

/-- The text is a code for another number than that of the latest call. -/
def typesOldCode (w : OtpLog) (a : MainEnv × MainUpdate) : Bool :=
  (w.bot.typedOtp a).any fun x => w.sentTo x.2.id != w.latest x.1

/-- A phone code that is used up in a step. -/
def Accepted (w w' : OtpLog) (otp : OtpCode) : Prop :=
  otp ∈ w.bot.db.otps.rows ∧ otp.purpose = .registrationPhone ∧ otp.consumed = false ∧
    { otp with consumed := true } ∈ w'.bot.db.otps.rows

/-- What a step verifies: a row that becomes a verified one goes with a code that is used up, and the
number in it is the one that the code was generated for. -/
structure Verified (w w' : OtpLog) : Prop where
  accepted : ∀ o ∈ w'.bot.db.owners.rows, o.phoneVerified = true → o ∉ w.bot.db.owners.rows →
    ∃ otp, Accepted w w' otp ∧ otp.shopOwnerId = o.id
  number : ∀ otp, Accepted w w' otp → ∀ o ∈ w'.bot.db.owners.rows, o.id = otp.shopOwnerId →
    o.phoneVerified = true ∧ o.phoneNumber ≠ none ∧ w.sentTo otp.id = o.phoneNumber

end OtpLog

namespace MainBot

open MainDb MainResult

variable {env : MainEnv} {s s' : MainBot} {user : ℤ} {text : MainText}

/-! ## One text -/

/-- The new context of a user. -/
def FsmUpdated (s s' : MainBot) (user : ℤ) (P : FsmContext → Prop) : Prop :=
  (∀ u, u ≠ user → s'.fsm u = s.fsm u) ∧ P (s'.fsm user)

theorem close_fsmUpdated {r : MainResult} {P : FsmContext → Prop} (h : P r.ctx) :
    FsmUpdated s (s.close user r) user P := by
  refine ⟨fun u hu => Function.update_of_ne hu _ _, ?_⟩
  unfold close
  dsimp only
  rw [Function.update_self]
  exact h

theorem gated_fsmUpdated {ctx : FsmContext} {r : MainResult} {P : FsmContext → Prop} (h : P r.ctx)
    (hctx : P ctx) : FsmUpdated s (s.gated env user ctx r) user P := by
  unfold gated
  refine close_fsmUpdated ?_
  split_ifs
  · exact h
  · exact hctx

theorem saveShopBotToken_fsmUpdated {rawToken : String} {P : FsmContext → Prop} (hclear : P {})
    (h : P (s.fsm user)) : FsmUpdated s (s.saveShopBotToken env user rawToken) user P := by
  have hsame : FsmUpdated s s user P := ⟨fun _ _ => rfl, h⟩
  have hcleared : ∀ db manager,
      FsmUpdated s ⟨db, manager, Function.update s.fsm user {}⟩ user P := by
    intro db manager
    refine ⟨fun u hu => Function.update_of_ne hu _ _, ?_⟩
    dsimp only
    rw [Function.update_self]
    exact hclear
  unfold saveShopBotToken
  split
  · exact hsame
  split
  · exact hsame
  · unfold registerShopBot
    dsimp only
    split_ifs
    · exact hcleared _ _
    · exact hcleared _ _
    · exact hcleared _ _

theorem registrationState_fsmUpdated {ctx : FsmContext} {raw : String} {rest : MainResult} {sent : Bool}
    (hsent : ctx.state = some .waitingEmail → isValidEmail (strip raw) = true → env.authMode = .SMS →
      sent = true) (hrest : Waiting sent ctx rest.ctx) :
    FsmUpdated s (s.registrationState env user ctx raw rest ctx.state) user (Waiting sent ctx) := by
  unfold registrationState
  split
  · exact close_fsmUpdated (.of_ne nofun)
  · exact close_fsmUpdated (.of_ne nofun)
  · exact close_fsmUpdated (handlePhoneInput_waiting sent raw)
  · rename_i hstate
    exact close_fsmUpdated (regEmail_waiting (hsent hstate))
  · exact close_fsmUpdated (regOtp_waiting sent .registrationPhone true false raw)
  · exact close_fsmUpdated (regOtp_waiting sent .registrationEmail false true raw)
  · exact close_fsmUpdated hrest

/-- The context with which a text is routed, when a dialog takes it. -/
theorem contextOf_eq {state : FsmState} (h : (s.contextOf user text).state = some state) :
    s.contextOf user text = s.fsm user := by
  unfold contextOf escape at h ⊢
  split_ifs at h ⊢
  · rfl

/-- **What a text does to the FSM contexts.** -/
theorem text_fsmUpdated (h : s.step (env, .text user text) = some s') :
    FsmUpdated s s' user (Waiting (s.sendsPhoneOtp (env, .text user text)).isSome
      (s.contextOf user text)) := by
  have hpanel : ∀ raw rest, s.panelState env user raw rest (s.contextOf user text).state = some s' →
      (rest = some s' → FsmUpdated s s' user (Waiting (s.sendsPhoneOtp (env, .text user text)).isSome
        (s.contextOf user text))) →
      FsmUpdated s s' user (Waiting (s.sendsPhoneOtp (env, .text user text)).isSome
        (s.contextOf user text)) := by
    intro raw rest hs hrest
    obtain ⟨hstate, rfl⟩ | ⟨-, hs⟩ := panelState_cases hs
    · have hsame := contextOf_eq hstate
      rw [hsame]
      split_ifs
      · exact saveShopBotToken_fsmUpdated (.clear _ _) (.refl _ _)
      · exact ⟨fun _ _ => rfl, .refl _ _⟩
    · exact hrest hs
  have hsent : ∀ raw, text.answered = some raw → (s.contextOf user text).state = some .waitingEmail →
      isValidEmail (strip raw) = true → env.authMode = .SMS →
      (s.sendsPhoneOtp (env, .text user text)).isSome = true := by
    intro raw htext hstate hvalid hsms
    unfold sendsPhoneOtp
    dsimp only
    rw [if_pos ⟨hstate, by rw [htext, Option.any_some]; exact hvalid, hsms⟩]
    rfl
  change s.route env user (s.contextOf user text) text = some s' at h
  cases text with
  | tokenButton =>
    cases h
    exact gated_fsmUpdated (.of_ne nofun) (.refl _ _)
  | menuButton =>
    cases h
    exact close_fsmUpdated (.refl _ _)
  | cancel raw =>
    cases h
    exact gated_fsmUpdated (.clear _ _) (.refl _ _)
  | start args raw =>
    refine hpanel raw _ h fun hs => ?_
    cases hs
    exact close_fsmUpdated (cmdStart_waiting _ args)
  | panel raw =>
    refine hpanel raw _ h fun hs => ?_
    cases hs
    refine registrationState_fsmUpdated (hsent raw rfl) ?_
    unfold cmdPanel
    split_ifs
    · exact .clear _ _
    · exact .clear _ _
  | plain raw =>
    refine hpanel raw _ h fun hs => ?_
    cases hs
    exact registrationState_fsmUpdated (hsent raw rfl) (.refl _ _)

theorem sendsPhoneOtp_text {x : ℤ × Option String}
    (h : s.sendsPhoneOtp (env, .text user text) = some x) :
    x = (user, (s.contextOf user text).data.phoneNumber) := by
  unfold sendsPhoneOtp at h
  dsimp only at h
  split_ifs at h
  exact (Option.some.inj h).symm

/-! ## The other updates -/

theorem FsmUpdated.waiting (h : FsmUpdated s s' user (Waiting false (s.fsm user))) (u : ℤ) :
    Waiting false (s.fsm u) (s'.fsm u) := by
  by_cases hu : u = user
  · subst hu
    exact h.2
  · rw [h.1 u hu]
    exact .refl _ _

/-- **What another update does to the FSM contexts.** -/
theorem other_waiting {update : MainUpdate} (htext : ∀ user text, update ≠ .text user text)
    (h : s.step (env, update) = some s') (u : ℤ) : Waiting false (s.fsm u) (s'.fsm u) := by
  have hsame : s'.fsm = s.fsm → Waiting false (s.fsm u) (s'.fsm u) := by
    intro hfsm
    rw [hfsm]
    exact .refl _ _
  have hactive : ∀ manager shopBotId isActive reason raised,
      (setActive { s with manager := manager } shopBotId isActive reason raised).fsm = s.fsm :=
    fun manager _ _ _ _ => setActive_fsm (s := { s with manager := manager }) ..
  cases step_effect h with
  | token => exact absurd rfl (htext _ _)
  | handled => exact absurd rfl (htext _ _)
  | same => exact .refl _ _
  | contact user phone =>
    exact FsmUpdated.waiting (close_fsmUpdated (handlePhoneInput_waiting false phone)) u
  | checkChannels user =>
    exact FsmUpdated.waiting (close_fsmUpdated (cbCheckChannelsMembership_waiting false)) u
  | suspend i => exact hsame (cbOwnerSuspend_stays (f := MainBot.fsm) hactive i)
  | unsuspend _ i => exact hsame (cbOwnerUnsuspend_stays (f := MainBot.fsm) hactive i)
  | settings => exact .refl _ _
  | dialog hctx =>
    refine FsmUpdated.waiting ⟨fun v hv => Function.update_of_ne hv _ _, ?_⟩ u
    dsimp only
    rw [Function.update_self]
    refine .of_ne fun hstate => ?_
    rw [hstate] at hctx
    rcases hctx with hctx | hctx | hctx <;> cases hctx
  | shop => exact .refl _ _
  | markDisabled => exact hsame (hactive s.manager ..)
  | restart => exact .clear _ _

/-- The other updates verify nothing. -/
theorem other_unverified {update : MainUpdate} (htext : ∀ user text, update ≠ .text user text)
    (h : s.step (env, update) = some s') : Unverified s.db s'.db := by
  have hclose : ∀ user r, Unverified s.db r.db → Unverified s.db (s.close user r).db := by
    intro user r hr
    obtain hback | ⟨hcommit, -⟩ := committed_cases r s.db
    · exact .of_eq (congrArg (fun db => db.owners) hback) (congrArg (fun db => db.otps) hback)
    · unfold close
      dsimp only
      rw [hcommit]
      exact hr
  have howners : ∀ manager shopBotId isActive reason raised,
      (setActive { s with manager := manager } shopBotId isActive reason raised).db.owners = s.db.owners :=
    fun manager _ _ _ _ => setActive_owners (s := { s with manager := manager }) ..
  have hotps : ∀ manager shopBotId isActive reason raised,
      (setActive { s with manager := manager } shopBotId isActive reason raised).db.otps = s.db.otps :=
    fun manager _ _ _ _ => setActive_otps (s := { s with manager := manager }) ..
  cases step_effect h with
  | token => exact absurd rfl (htext _ _)
  | handled => exact absurd rfl (htext _ _)
  | same => exact .refl _
  | contact user phone =>
    refine hclose user _ (.of_eq ?_ ?_)
    · exact handlePhoneInput_stays (f := fun db => db.owners) env _ phone
    · exact handlePhoneInput_stays (f := fun db => db.otps) env _ phone
  | checkChannels user => exact hclose user _ cbCheckChannelsMembership_unverified
  | suspend i =>
    exact .of_eq (cbOwnerSuspend_stays (f := fun s => s.db.owners) howners i)
      (cbOwnerSuspend_stays (f := fun s => s.db.otps) hotps i)
  | unsuspend _ i =>
    exact .of_eq (cbOwnerUnsuspend_stays (f := fun s => s.db.owners) howners i)
      (cbOwnerUnsuspend_stays (f := fun s => s.db.otps) hotps i)
  | settings => exact .of_eq rfl rfl
  | dialog => exact .refl _
  | shop hd => exact .of_eq (ShopDb.handle_aside s.db.toShopDb hd).owners rfl
  | markDisabled => exact .of_eq (howners s.manager ..) (hotps s.manager ..)
  | restart => exact .refl _

end MainBot

namespace OtpLog

open MainDb MainBot MainResult

/-- Who waits for a code waits for the one of the latest call. -/
def Waits (w : OtpLog) : Prop :=
  ∀ u, (w.bot.fsm u).state = some .waitingPhoneOtp → (w.bot.fsm u).data.phoneNumber = w.latest u

variable {w w' : OtpLog}

theorem bot_step {a : MainEnv × MainUpdate} (h : w.step a = some w') : w.bot.step a = some w'.bot := by
  obtain ⟨bot, hbot, rfl⟩ := Option.map_eq_some_iff.1 h
  rw [hbot]
  split
  · rfl
  · rfl

/-- The update makes no call of `_send_phone_otp`. -/
theorem latest_step {a : MainEnv × MainUpdate} (h : w.step a = some w')
    (hsends : w.bot.sendsPhoneOtp a = none) : w'.latest = w.latest := by
  obtain ⟨bot, -, rfl⟩ := Option.map_eq_some_iff.1 h
  rw [hsends]

theorem latest_sends {a : MainEnv × MainUpdate} {user : ℤ} {phone : Option String}
    (h : w.step a = some w') (hsends : w.bot.sendsPhoneOtp a = some (user, phone)) :
    w'.latest = Function.update w.latest user phone := by
  obtain ⟨bot, -, rfl⟩ := Option.map_eq_some_iff.1 h
  rw [hsends]

theorem Waits.text {env : MainEnv} {user : ℤ} {text : MainText} (hI : Waits w)
    (h : w.step (env, .text user text) = some w') : Waits w' := by
  obtain ⟨hothers, huser⟩ := text_fsmUpdated (bot_step h)
  intro u hu
  by_cases hne : u = user
  · subst hne
    obtain ⟨hnumber, hwhy⟩ := huser hu
    rw [hnumber]
    cases hsends : w.bot.sendsPhoneOtp (env, .text u text) with
    | none =>
      rw [hsends] at hwhy
      have hwas := hwhy.resolve_left Bool.false_ne_true
      rw [latest_step h hsends, contextOf_eq hwas]
      exact hI u (contextOf_eq hwas ▸ hwas)
    | some x =>
      rw [sendsPhoneOtp_text hsends] at hsends
      rw [latest_sends h hsends, Function.update_self]
  · rw [hothers u hne] at hu ⊢
    rw [hI u hu]
    cases hsends : w.bot.sendsPhoneOtp (env, .text user text) with
    | none => rw [latest_step h hsends]
    | some x =>
      rw [sendsPhoneOtp_text hsends] at hsends
      rw [latest_sends h hsends, Function.update_of_ne hne]

theorem Waits.other {env : MainEnv} {update : MainUpdate}
    (htext : ∀ user text, update ≠ .text user text) (hI : Waits w)
    (h : w.step (env, update) = some w') : Waits w' := by
  have hlatest : w'.latest = w.latest := by
    refine latest_step h ?_
    cases update with
    | text user text => exact absurd rfl (htext user text)
    | _ => rfl
  intro u hu
  obtain ⟨hnumber, hwas⟩ := other_waiting htext (bot_step h) u hu
  rw [hnumber, hlatest]
  exact hI u (hwas.resolve_left Bool.false_ne_true)

/-- **The state `waiting_phone_otp` goes with the number of the latest call**, whatever the update. -/
theorem Waits.step {a : MainEnv × MainUpdate} (hI : Waits w) (h : w.step a = some w') : Waits w' := by
  obtain ⟨env, update⟩ := a
  by_cases htext : ∃ user text, update = .text user text
  · obtain ⟨user, text, rfl⟩ := htext
    exact hI.text h
  · exact hI.other (fun user text hu => htext ⟨user, text, hu⟩) h

/-! ## What a step verifies -/

/-- A code that is used up was not so before. -/
theorem not_accepted {otp : OtpCode} (h : Accepted w w' otp) :
    { otp with consumed := true } ∉ w.bot.db.otps.rows := by
  intro hrow
  have hsame := Table.eq_of_id_eq hrow h.1 rfl
  have hconsumed := h.2.2.1
  rw [← hsame] at hconsumed
  cases hconsumed

theorem verified_of_unverified (h : Unverified w.bot.db w'.bot.db) : Verified w w' := by
  refine ⟨fun o ho hv hnew => absurd (h.owners o ho hv) hnew, fun otp hotp => ?_⟩
  exact absurd (h.otps _ hotp.2.2.2 hotp.2.1 rfl) (not_accepted hotp)

/-- A code for the number in the FSM data is used up. -/
theorem verified_of_verifies {ownerId : ℕ} {otp : OtpCode} {phone : Option String}
    (h : Verifies w.bot.db w'.bot.db ownerId otp phone) (hsent : w.sentTo otp.id = phone) :
    Verified w w' := by
  have hotp : Accepted w w' otp := ⟨h.found.1, h.found.2.2.1, h.found.2.2.2, h.used⟩
  refine ⟨fun o ho hv hnew => ⟨otp, hotp, ?_⟩, fun x hx o ho hid => ?_⟩
  · rw [h.found.2.1]
    by_contra hne
    exact hnew (h.others o ho hv fun hid => hne hid.symm)
  · -- no other code is used up
    have hxid : x.id = otp.id := by
      rcases h.otps _ hx.2.2.2 with hrow | heq
      · exact absurd hrow (not_accepted hx)
      · exact (OtpCode.mk.inj heq).1
    have hxotp : x = otp := Table.eq_of_id_eq hx.1 hotp.1 hxid
    rw [hxotp, h.found.2.1] at hid
    obtain ⟨hv, hnumber⟩ := h.owner o ho hid
    rw [hxotp, hsent, hnumber]
    exact ⟨hv, h.known, rfl⟩

theorem text_verified {env : MainEnv} {user : ℤ} {text : MainText} (hsms : env.authMode = .SMS)
    (hI : Waits w) (hold : w.typesOldCode (env, .text user text) = false)
    (h : w.step (env, .text user text) = some w') : Verified w w' := by
  have hclose : ∀ r, w'.bot = w.bot.close user r → Unverified w.bot.db (r.committed w.bot.db) →
      Verified w w' := by
    intro r hw hr
    refine verified_of_unverified ?_
    rw [hw]
    exact hr
  have hcommitted : ∀ r : MainResult, Unverified w.bot.db r.db →
      Unverified w.bot.db (r.committed w.bot.db) := by
    intro r hr
    obtain hback | ⟨hcommit, -⟩ := committed_cases r w.bot.db
    · rw [hback]
      exact .refl _
    · rw [hcommit]
      exact hr
  obtain ⟨raw, -, hw⟩ | ⟨-, r, hw, hr⟩ := route_cases (bot_step h)
  · refine verified_of_unverified ?_
    rw [hw]
    split_ifs
    · obtain ⟨shop, howners, hdb⟩ := @saveShopBotToken_db env w.bot user raw
      rw [hdb]
      exact .of_eq howners rfl
    · exact .refl _
  · cases hr with
    | idle ctx raised => exact hclose _ hw (hcommitted _ (.refl _))
    | start args => exact hclose _ hw (hcommitted _ (cmdStart_unverified args))
    | email => exact hclose _ hw (hcommitted _ (regEmail_unverified hsms _))
    | emailOtp => exact hclose _ hw (regEmailOtp_unverified _)
    | phoneOtp htext hstate =>
      rename_i raw
      obtain hnone | ⟨shop, owner, otp, hcreate, hotp, hverifies⟩ :=
        @regPhoneOtp_cases env w.bot.db (w.bot.contextOf user text) user raw
      · exact hclose _ hw hnone
      · have htyped : w.bot.typedOtp (env, .text user text) = some (user, otp) := by
          unfold typedOtp
          dsimp only
          rw [htext, hcreate]
          dsimp only
          rw [hotp]
          exact if_pos hstate
        unfold typesOldCode at hold
        rw [htyped, Option.any_some, bne_eq_false_iff_eq] at hold
        have hbot : Verifies w.bot.db w'.bot.db owner.id otp
            (w.bot.contextOf user text).data.phoneNumber := by
          rw [hw]
          exact hverifies
        refine verified_of_verifies hbot ?_
        rw [hold, contextOf_eq hstate]
        exact (hI user (contextOf_eq hstate ▸ hstate)).symm

/-- **A step verifies a number with a code for this number**, unless an old code is typed. -/
theorem step_verified {a : MainEnv × MainUpdate} (hsms : a.1.authMode = .SMS) (hI : Waits w)
    (hold : w.typesOldCode a = false) (h : w.step a = some w') : Verified w w' := by
  obtain ⟨env, update⟩ := a
  by_cases htext : ∃ user text, update = .text user text
  · obtain ⟨user, text, rfl⟩ := htext
    exact text_verified hsms hI hold h
  · exact verified_of_unverified
      (other_unverified (fun user text hu => htext ⟨user, text, hu⟩) (bot_step h))

/-- **Verified numbers.** In the mode `sms`, in every run from an empty FSM storage in which no code
is typed that was generated for another number than that of the user's latest call of
`_send_phone_otp`: whatever is verified in a step is verified with a code for its own number. -/
theorem phone_verified (w : OtpLog) (as : List (MainEnv × MainUpdate))
    (hfsm : ∀ u, w.bot.fsm u = {}) (hsms : ∀ a ∈ as, a.1.authMode = .SMS)
    (hold : Runs.Along step (fun w a => w.typesOldCode a = false) w as) :
    Runs.Along step (fun w a => ∀ w', w.step a = some w' → Verified w w') w as := by
  have hwaits : Waits w := by
    intro u hu
    rw [hfsm u] at hu
    cases hu
  refine (hold.and_mem hsms).mono_of_inv (I := Waits) (fun _ _ _ hI hs => hI.step hs)
    (fun w a hI hC w' hs => ?_) hwaits
  exact step_verified hC.2 hI hC.1 hs

/-- An update in the mode `sms`; a code that is drawn in it. -/
def sms (code : String) : MainEnv := { authMode := .SMS, otpCode := code }

/-- The dialog from `/start` to a code that is sent to a number. -/
def dialogFor (phone code : String) : List (MainEnv × MainUpdate) :=
  [(sms "", .text 100 (.start none "/start")), (sms "", .text 100 (.plain "Sara")),
    (sms "", .text 100 (.plain "Ahmadi")), (sms "", .text 100 (.plain phone)),
    (sms code, .text 100 (.plain "sara@mail.ir"))]

/-- The dialog with one number, and again with another one. -/
def twoNumbers : List (MainEnv × MainUpdate) :=
  dialogFor "09120000001" "111111" ++ dialogFor "09120000002" "222222"

def newLog : OtpLog := ⟨newPlatform, fun _ => none, fun _ => none⟩

theorem phone_verified_twoNumbers :
    Runs.Along step (fun w a => ∀ w', w.step a = some w' → Verified w w') newLog
      (twoNumbers ++ [(sms "", .text 100 (.plain "222222"))]) :=
  phone_verified newLog _ (fun _ => rfl) (by decide) (by decide +kernel)

theorem twoNumbers_isSome : (Runs.exec step newLog twoNumbers).isSome = true := by decide +kernel

/-- The first code, and the row that it verifies. -/
def firstCode : OtpCode :=
  { id := 1, shopOwnerId := 1, code := "111111", purpose := .registrationPhone, expiresAt := minutes 5 }

def secondNumber : ShopOwner :=
  { id := 1, telegramId := 100, firstName := some "Sara", lastName := some "Ahmadi",
    phoneNumber := some "09120000002", email := some "sara@mail.ir", phoneVerified := true,
    registrationCompleted := true, referralCode := "AAAAAAAA" }

/-- The code for the first number verifies the second one. -/
theorem verified_with_old_code :
    ∃ w w', Runs.exec step newLog twoNumbers = some w ∧
      w.step (sms "", .text 100 (.plain "111111")) = some w' ∧ Accepted w w' firstCode ∧
      w.sentTo firstCode.id = some "09120000001" ∧ secondNumber ∈ w'.bot.db.owners.rows ∧
      secondNumber ∉ w.bot.db.owners.rows := by
  refine ⟨_, _, (Option.some_get twoNumbers_isSome).symm, rfl, ⟨?_, rfl, rfl, ?_⟩, ?_, ?_, ?_⟩
  · decide +kernel
  · decide +kernel
  · decide +kernel
  · decide +kernel
  · decide +kernel

end OtpLog

end KasbOKar
