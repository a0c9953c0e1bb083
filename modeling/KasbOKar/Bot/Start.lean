import KasbOKar.Order.Detection
import KasbOKar.Shop.Tables

/-!
# Registration

`main_bot/handlers/start.py`: the gate of the mandatory channels, `/start`, and the dialog that a new
owner goes through.  Its steps are kept in an FSM context in memory, while the rows are written in the
session of the update: a handler that raises leaves its tables as they were, and its FSM context as it
has written it.

`get_or_create_shop_owner` is called by six of the handlers; only `/start` looks at
`allow_new_registrations` first.
-/

namespace KasbOKar

/-- `settings.auth_mode`. -/
inductive AuthMode where
  | TEST
  | SMS
  | EMAIL
  deriving DecidableEq, Repr

/-- The states of `states.py` that matter here. -/
inductive FsmState where
  | waitingFirstName
  | waitingLastName
  | waitingPhone
  | waitingPhoneOtp
  | waitingEmail
  | waitingEmailOtp
  | waitingToken
  /-- `PreviewStates.active` -/
  | preview
  /-- A state of another dialog. -/
  | other
  deriving DecidableEq, Repr

/-- The entries of the FSM data that the registration uses. -/
structure FsmData where
  referredByCode : Option String := none
  firstName : Option String := none
  lastName : Option String := none
  phoneNumber : Option String := none
  email : Option String := none
  deriving DecidableEq, Repr

/-- `FSMContext`, of one user; without arguments it is the one that `state.clear()` leaves. -/
structure FsmContext where
  state : Option FsmState := none
  data : FsmData := {}
  deriving DecidableEq, Repr

structure MainDb extends ShopDb where
  otps : Table OtpCode
  channels : Table MandatoryChannel

/-- `ChatMember.status`. -/
inductive MemberStatus where
  | creator
  | administrator
  | member
  | restricted
  | left
  | kicked
  deriving DecidableEq, Repr

/-- A text of the main bot, by its name in `texts.py`, or another call to Telegram. -/
inductive MainNotice where
  | channelsGateIntro
  | channelsGateStillNotMember
  | channelsGatePassed
  | deleteMessage
  | registrationClosed
  | askFirstName
  | askLastName
  | askPhone
  | invalidPhone
  | askEmail
  | invalidEmail
  | otpSent
  | testModeOtp
  | otpInvalidOrExpired
  | registrationComplete
  /-- `_offer_trial_or_panel` -/
  | trialOrPanel
  | askToUsePanelButtons
  | askShopBotToken
  | operationCancelled
  | invalidBotToken
  | botTokenAlreadyUsed
  | tokenSaved
  | askTenantMode
  | noShopBot
  /-- `callback.answer()` -/
  | callbackAnswer
  | ownerSuspended
  | ownerUnsuspended
  | ownerDetail
  | toggled
  deriving DecidableEq, Repr

/-- The outside world in one update. -/
structure MainEnv where
  now : Datetime := 0
  authMode : AuthMode := .TEST
  /-- The exception of a call to Telegram. -/
  send : MainNotice → Option PyError := fun _ => none
  /-- `get_chat_member`. -/
  member : MandatoryChannel → Except PyError MemberStatus := fun _ => .ok .member
  /-- The code that the loop of `get_or_create_shop_owner` ends with. -/
  referralCode : String := "AAAAAAAA"
  /-- The code that `generate_otp` draws. -/
  otpCode : String := "000000"
  /-- The exception of `send_otp` or `send_otp_email`. -/
  deliver : Option PyError := none
  /-- A character that `\d` matches. -/
  isDecimal : Char → Bool := Char.isDigit
  /-- The verdict of `ChannelGateMiddleware`. -/
  admitted : Bool := true
  /-- The verdict of `IsAdmin`, or of `IsSuperAdmin` where a handler asks for it. -/
  isAdmin : Bool := false
  /-- `get_me` with a token: the bot's id and name, if the token is good. -/
  getMe : String → Option (ℤ × String) := fun _ => none
  /-- `encrypt_token`. -/
  encrypt : String → String := fun token => token
  /-- `secrets.token_urlsafe(32)`. -/
  secret : String := "secret"
  /-- The exception of `set_webhook`. -/
  setWebhook : Option PyError := none

/-- How a handler ends. -/
structure MainResult where
  db : MainDb
  ctx : FsmContext
  raised : Option PyError

namespace MainResult

def raise (db : MainDb) (ctx : FsmContext) (e : PyError) : MainResult := ⟨db, ctx, some e⟩

/-- One line after the other; nothing runs after an exception. -/
def andThen (r : MainResult) (f : MainDb → FsmContext → MainResult) : MainResult :=
  match r.raised with
  | some _ => r
  | none => f r.db r.ctx

/-- `DbSessionMiddleware`. -/
def committed (r : MainResult) (before : MainDb) : MainDb :=
  if r.raised.isSome then before else r.db

end MainResult

/-! ## Validators -/

/-- `is_valid_email`: one `@`, no white space, and a dot inside of the domain. -/
def isValidEmail (email : String) : Bool :=
  match (strip email).toList.splitOn '@' with
  | [name, domain] => !name.isEmpty && !(name ++ domain).any isSpace && domain.tail.dropLast.contains '.'
  | _ => false

/-- `normalize_iran_phone`. -/
def normalizeIranPhone (isDecimal : Char → Bool) (rawPhone : String) : Option String :=
  let digits := rawPhone.toList.filter isDecimal
  let digits :=
    if "0098".toList <+: digits then digits.drop 4
    else if "98".toList <+: digits then digits.drop 2
    else digits
  let digits := if "9".toList <+: digits ∧ digits.length = 10 then '0' :: digits else digits
  if "09".toList <+: digits ∧ digits.length = 11 then some (.ofList digits) else none

namespace MainDb

open MainResult

/-- The tables after a change of the shop's part. -/
def withShop (db : MainDb) (shop : ShopDb) : MainDb := { db with toShopDb := shop }

/-! ## Mandatory channels -/

/-- `get_mandatory_channels`: the primary one first. -/
def getMandatoryChannels (db : MainDb) : List MandatoryChannel :=
  let channels := orderBy (fun c => (c.id : ℤ)) db.channels.rows
  channels.filter MandatoryChannel.isPrimary ++ channels.filter fun c => !c.isPrimary

/-- The body of the loop in `get_missing_channels`. -/
def isMissing (env : MainEnv) (channel : MandatoryChannel) : Except PyError Bool :=
  match env.member channel with
  | .ok status => .ok (status == .left || status == .kicked)
  | .error .TelegramAPIError => .ok true
  | .error e => .error e

/-- `get_missing_channels`. -/
def getMissingChannels (env : MainEnv) (channels : List MandatoryChannel) :
    Except PyError (List MandatoryChannel) :=
  channels.filterM (isMissing env)

variable (env : MainEnv)

/-- `message.answer(…)` and the like, not guarded. -/
def answer (db : MainDb) (ctx : FsmContext) (notice : MainNotice) : MainResult :=
  ⟨db, ctx, env.send notice⟩

/-- `_show_gate_or_continue`, with the lines that follow. -/
def showGateOrContinue (db : MainDb) (ctx : FsmContext) (next : MainDb → FsmContext → MainResult) :
    MainResult :=
  match getMissingChannels env db.getMandatoryChannels with
  | .error e => raise db ctx e
  | .ok [] => next db ctx
  | .ok _ => answer env db ctx .channelsGateIntro

/-! ## The dialog -/

/-- `_start_registration`. -/
def startRegistration (db : MainDb) (ctx : FsmContext) : MainResult :=
  answer env db { ctx with state := some .waitingFirstName } .askFirstName

/-- `get_or_create_shop_owner` of the user, with the lines that follow. -/
def withOwner (db : MainDb) (ctx : FsmContext) (user : ℤ)
    (next : MainDb → ShopOwner → MainResult) : MainResult :=
  match db.getOrCreateShopOwner user ctx.data.referredByCode env.referralCode with
  | .error e => raise db ctx e
  | .ok (shop, owner) => next (db.withShop shop) owner

/-- The end of `cmd_start` and of `cb_check_channels_membership`. -/
def enter (db : MainDb) (ctx : FsmContext) (user : ℤ) : MainResult :=
  withOwner env db ctx user fun db owner =>
    if !owner.registrationCompleted then startRegistration env db ctx
    else answer env db {} .trialOrPanel

/-- `cmd_start`. -/
def cmdStart (db : MainDb) (ctx : FsmContext) (user : ℤ) (args : Option String) : MainResult :=
  let ctx :=
    match args with
    | none => ctx
    | some "" => ctx
    | some code => { ctx with data.referredByCode := some (strip code) }
  showGateOrContinue env db ctx fun db ctx =>
    if (db.ownerByTelegramId user).isNone && !db.settings.allowNewRegistrations then
      answer env db ctx .registrationClosed
    else enter env db ctx user

/-- `cb_check_channels_membership`. -/
def cbCheckChannelsMembership (db : MainDb) (ctx : FsmContext) (user : ℤ) : MainResult :=
  match getMissingChannels env db.getMandatoryChannels with
  | .error e => raise db ctx e
  | .ok [] =>
    (answer env db ctx .channelsGatePassed).andThen fun db ctx =>
      (answer env db ctx .deleteMessage).andThen fun db ctx => enter env db ctx user
  | .ok _ => answer env db ctx .channelsGateStillNotMember

/-- `reg_first_name`. -/
def regFirstName (db : MainDb) (ctx : FsmContext) (text : String) : MainResult :=
  answer env db { state := some .waitingLastName, data := { ctx.data with firstName := some (strip text) } }
    .askLastName

/-- `reg_last_name`. -/
def regLastName (db : MainDb) (ctx : FsmContext) (text : String) : MainResult :=
  answer env db { state := some .waitingPhone, data := { ctx.data with lastName := some (strip text) } }
    .askPhone

/-- `_handle_phone_input`. -/
def handlePhoneInput (db : MainDb) (ctx : FsmContext) (rawPhone : String) : MainResult :=
  match normalizeIranPhone env.isDecimal rawPhone with
  | none => answer env db ctx .invalidPhone
  | some phone => answer env db
      { state := some .waitingEmail, data := { ctx.data with phoneNumber := some phone } } .askEmail

/-- `complete_registration`, with the entries of the FSM data. -/
def completeRegistration (db : MainDb) (owner : ShopOwner) (data : FsmData)
    (phoneVerified emailVerified : Bool) : Except PyError MainDb :=
  match data.firstName, data.lastName, data.phoneNumber, data.email with
  | some firstName, some lastName, some phoneNumber, some email =>
    if 255 < firstName.length ∨ 255 < lastName.length ∨ 20 < phoneNumber.length ∨ 255 < email.length then
      .error .DataError
    else
      let complete := fun o : ShopOwner =>
        { o with firstName := some firstName, lastName := some lastName,
                 phoneNumber := some phoneNumber, email := some email, phoneVerified := phoneVerified,
                 emailVerified := emailVerified, registrationCompleted := true }
      .ok { db with owners := db.owners.modify owner.id complete }
  | _, _, _, _ => .error .KeyError

/-- The last lines of the dialog. -/
def finishRegistration (db : MainDb) (ctx : FsmContext) (owner : ShopOwner)
    (phoneVerified emailVerified : Bool) : MainResult :=
  match db.completeRegistration owner ctx.data phoneVerified emailVerified with
  | .error e => raise db ctx e
  | .ok db => (answer env db {} .registrationComplete).andThen fun db ctx =>
      answer env db ctx .trialOrPanel

/-- `generate_otp`. -/
def generateOtp (db : MainDb) (ownerId : ℕ) (purpose : OtpPurpose) : Except PyError MainDb := do
  let expiresAt ← datetimeAdd env.now (minutes 5)
  let otp : OtpCode :=
    { id := db.otps.nextId, shopOwnerId := ownerId, code := env.otpCode, purpose := purpose,
      expiresAt := expiresAt }
  return { db with otps := db.otps.insert otp }

/-- The `WHERE` clause of `verify_otp`. -/
def otpMatches (ownerId : ℕ) (purpose : OtpPurpose) (code : String) (otp : OtpCode) : Bool :=
  otp.shopOwnerId == ownerId && otp.purpose == purpose && otp.code == code && !otp.consumed &&
    decide (env.now < otp.expiresAt)

/-- `verify_otp`. -/
def verifyOtp (db : MainDb) (ownerId : ℕ) (purpose : OtpPurpose) (code : String) :
    Except PyError (MainDb × Bool) :=
  match db.otps.rows.filter (otpMatches env ownerId purpose code) with
  | [] => .ok (db, false)
  | [otp] => .ok ({ db with otps := db.otps.modify otp.id fun o => { o with consumed := true } }, true)
  | _ => .error .MultipleResultsFound

/-- `_complete_registration_test_mode`. -/
def completeRegistrationTestMode (db : MainDb) (ctx : FsmContext) (user : ℤ) : MainResult :=
  withOwner env db ctx user fun db owner => finishRegistration env db ctx owner true true

/-- The sending of a code, under `except`, and its notice in any case. -/
def sendOtp (db : MainDb) (ctx : FsmContext) (caught : PyError) : MainResult :=
  match env.deliver with
  | none => answer env db ctx .otpSent
  | some e => if e = caught then answer env db ctx .testModeOtp else raise db ctx e

/-- `_send_phone_otp`. -/
def sendPhoneOtp (db : MainDb) (ctx : FsmContext) (user : ℤ) : MainResult :=
  withOwner env db ctx user fun db owner =>
    match db.generateOtp env owner.id .registrationPhone with
    | .error e => raise db ctx e
    | .ok db =>
      MainResult.andThen
        (if db.settings.smsApiKey.any fun key => key != "" then
          if ctx.data.phoneNumber.isNone then raise db ctx .KeyError
          else sendOtp env db ctx .SmsServiceError
        else answer env db ctx .testModeOtp)
        fun db ctx => ⟨db, { ctx with state := some .waitingPhoneOtp }, none⟩

/-- `_send_email_otp`. -/
def sendEmailOtp (db : MainDb) (ctx : FsmContext) (user : ℤ) : MainResult :=
  withOwner env db ctx user fun db owner =>
    match db.generateOtp env owner.id .registrationEmail with
    | .error e => raise db ctx e
    | .ok db => (sendOtp env db ctx .EmailServiceError).andThen fun db ctx =>
        ⟨db, { ctx with state := some .waitingEmailOtp }, none⟩

/-- `reg_email`. -/
def regEmail (db : MainDb) (ctx : FsmContext) (user : ℤ) (text : String) : MainResult :=
  let email := strip text
  if !isValidEmail email then answer env db ctx .invalidEmail
  else
    let ctx := { ctx with data.email := some email }
    match env.authMode with
    | .TEST => completeRegistrationTestMode env db ctx user
    | .SMS => sendPhoneOtp env db ctx user
    | .EMAIL => sendEmailOtp env db ctx user

/-- The handler of a code, for both purposes. -/
def regOtp (purpose : OtpPurpose) (phoneVerified emailVerified : Bool) (db : MainDb) (ctx : FsmContext)
    (user : ℤ) (text : String) : MainResult :=
  withOwner env db ctx user fun db owner =>
    match db.verifyOtp env owner.id purpose (strip text) with
    | .error e => raise db ctx e
    | .ok (db, false) => answer env db ctx .otpInvalidOrExpired
    | .ok (db, true) => finishRegistration env db ctx owner phoneVerified emailVerified

/-- `reg_phone_otp`. -/
def regPhoneOtp : MainDb → FsmContext → ℤ → String → MainResult := regOtp env .registrationPhone true false

/-- `reg_email_otp`. -/
def regEmailOtp : MainDb → FsmContext → ℤ → String → MainResult := regOtp env .registrationEmail false true

/-- `cmd_panel`. -/
def cmdPanel (db : MainDb) (user : ℤ) : MainResult :=
  if (db.ownerByTelegramId user).any ShopOwner.registrationCompleted then answer env db {} .trialOrPanel
  else answer env db {} .askToUsePanelButtons

/-! ## What the handlers leave alone

`f` is a part of the tables that neither codes nor the columns of an owner belong to. -/

section Stays

variable {β : Type}

structure Blind (f : MainDb → β) : Prop where
  otps : ∀ db otps, f { db with otps := otps } = f db
  complete : ∀ db i g hg, f { db with owners := db.owners.modify i g hg } = f db

/-- A call of `get_or_create_shop_owner` for the user leaves it alone as well. -/
def Unseen (f : MainDb → β) (db : MainDb) (user : ℤ) : Prop :=
  ∀ referredByCode code shop owner,
    db.getOrCreateShopOwner user referredByCode code = .ok (shop, owner) → f (db.withShop shop) = f db

variable {f : MainDb → β} {db : MainDb} {user : ℤ}

theorem andThen_stays {r : MainResult} {next : MainDb → FsmContext → MainResult} {x : β}
    (h : f r.db = x) (hnext : ∀ db ctx, f db = x → f (next db ctx).db = x) :
    f (r.andThen next).db = x := by
  unfold MainResult.andThen
  split
  · exact h
  · exact hnext r.db r.ctx h

theorem answer_stays {ctx : FsmContext} {notice : MainNotice}
    {next : MainDb → FsmContext → MainResult} (h : f (next db ctx).db = f db) :
    f ((answer env db ctx notice).andThen next).db = f db := by
  unfold answer MainResult.andThen
  split
  · rfl
  · exact h

theorem withOwner_stays (hf : Unseen f db user) {ctx : FsmContext}
    {next : MainDb → ShopOwner → MainResult}
    (hnext : ∀ db' owner, f db' = f db → f (next db' owner).db = f db) :
    f (withOwner env db ctx user next).db = f db := by
  unfold withOwner
  split
  · rfl
  · rename_i shop owner h
    exact hnext _ owner (hf _ _ shop owner h)

theorem enter_stays (hf : Unseen f db user) (ctx : FsmContext) :
    f (enter env db ctx user).db = f db := by
  refine withOwner_stays env hf fun db' owner h => ?_
  split_ifs <;> exact h

theorem showGateOrContinue_stays {ctx : FsmContext} {next : MainDb → FsmContext → MainResult}
    (hnext : ∀ ctx, f (next db ctx).db = f db) :
    f (showGateOrContinue env db ctx next).db = f db := by
  unfold showGateOrContinue
  split
  · rfl
  · exact hnext ctx
  · rfl

theorem cmdStart_stays
    (hf : ((db.ownerByTelegramId user).isNone && !db.settings.allowNewRegistrations) = false →
      Unseen f db user) (ctx : FsmContext) (args : Option String) :
    f (cmdStart env db ctx user args).db = f db := by
  refine showGateOrContinue_stays env fun ctx => ?_
  split_ifs with hclosed
  · rfl
  · exact enter_stays env (hf (Bool.eq_false_of_not_eq_true hclosed)) ctx

/-- The button passes the gate of the channels. -/
def passesGate (db : MainDb) : Bool :=
  match getMissingChannels env db.getMandatoryChannels with
  | .ok [] => true
  | _ => false

theorem cbCheckChannelsMembership_stays (hf : db.passesGate env = true → Unseen f db user)
    (ctx : FsmContext) : f (cbCheckChannelsMembership env db ctx user).db = f db := by
  unfold cbCheckChannelsMembership
  unfold passesGate at hf
  split
  · rfl
  · rename_i hmissing
    rw [hmissing] at hf
    exact answer_stays env (answer_stays env (enter_stays env (hf rfl) ctx))
  · rfl

theorem handlePhoneInput_stays (ctx : FsmContext) (rawPhone : String) :
    f (handlePhoneInput env db ctx rawPhone).db = f db := by
  unfold handlePhoneInput
  split <;> rfl

theorem finishRegistration_stays (hblind : Blind f) (ctx : FsmContext) (owner : ShopOwner)
    (phoneVerified emailVerified : Bool) :
    f (finishRegistration env db ctx owner phoneVerified emailVerified).db = f db := by
  unfold finishRegistration completeRegistration
  split
  · rfl
  · rename_i db' h
    have hdb : f db' = f db := by
      split at h
      · split_ifs at h
        cases h
        exact hblind.complete ..
      · cases h
    exact andThen_stays hdb fun db ctx h => h

theorem generateOtp_stays (hblind : Blind f) {db' : MainDb} {ownerId : ℕ} {purpose : OtpPurpose}
    (h : db.generateOtp env ownerId purpose = .ok db') : f db' = f db := by
  unfold generateOtp at h
  obtain ⟨expiresAt, -, h⟩ := bind_ok h
  cases h
  exact hblind.otps ..

theorem verifyOtp_stays (hblind : Blind f) {db' : MainDb} {ownerId : ℕ} {purpose : OtpPurpose}
    {code : String} {ok : Bool} (h : db.verifyOtp env ownerId purpose code = .ok (db', ok)) :
    f db' = f db := by
  unfold verifyOtp at h
  split at h
  · cases h
    rfl
  · cases h
    exact hblind.otps ..
  · cases h

theorem sendOtp_stays (ctx : FsmContext) (caught : PyError) :
    f (sendOtp env db ctx caught).db = f db := by
  unfold sendOtp
  split
  · rfl
  · split_ifs <;> rfl

theorem sendPhoneOtp_stays (hblind : Blind f) (hf : Unseen f db user) (ctx : FsmContext) :
    f (sendPhoneOtp env db ctx user).db = f db := by
  refine withOwner_stays env hf fun db₁ owner h => ?_
  split
  · exact h
  · rename_i db₂ hotp
    have hdb : f db₂ = f db := (generateOtp_stays env hblind hotp).trans h
    refine andThen_stays ?_ fun db ctx h => h
    split_ifs
    · exact hdb
    · exact (sendOtp_stays env ctx _).trans hdb
    · exact hdb

theorem sendEmailOtp_stays (hblind : Blind f) (hf : Unseen f db user) (ctx : FsmContext) :
    f (sendEmailOtp env db ctx user).db = f db := by
  refine withOwner_stays env hf fun db₁ owner h => ?_
  split
  · exact h
  · rename_i db₂ hotp
    have hdb : f db₂ = f db := (generateOtp_stays env hblind hotp).trans h
    exact andThen_stays ((sendOtp_stays env ctx _).trans hdb) fun db ctx h => h

theorem regEmail_stays (hblind : Blind f) {text : String}
    (hf : isValidEmail (strip text) = true → Unseen f db user) (ctx : FsmContext) :
    f (regEmail env db ctx user text).db = f db := by
  unfold regEmail
  dsimp only
  by_cases hvalid : isValidEmail (strip text) = true
  · rw [hvalid, Bool.not_true, if_neg Bool.false_ne_true]
    split
    · exact withOwner_stays env (hf hvalid) fun db' owner h =>
        (finishRegistration_stays env hblind ..).trans h
    · exact sendPhoneOtp_stays env hblind (hf hvalid) _
    · exact sendEmailOtp_stays env hblind (hf hvalid) _
  · rw [Bool.eq_false_of_not_eq_true hvalid, Bool.not_false, if_pos rfl]
    rfl

theorem regOtp_stays (hblind : Blind f) (hf : Unseen f db user) (purpose : OtpPurpose)
    (phoneVerified emailVerified : Bool) (ctx : FsmContext) (text : String) :
    f (regOtp env purpose phoneVerified emailVerified db ctx user text).db = f db := by
  refine withOwner_stays env hf fun db₁ owner h => ?_
  split
  · exact h
  · rename_i db₂ hotp
    exact (verifyOtp_stays env hblind hotp).trans h
  · rename_i db₂ hotp
    exact (finishRegistration_stays env hblind ..).trans ((verifyOtp_stays env hblind hotp).trans h)

end Stays

end MainDb

end KasbOKar
