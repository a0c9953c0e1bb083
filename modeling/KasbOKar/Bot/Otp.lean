import KasbOKar.Bot.Start

/-!
# What the registration verifies

The handlers of the dialog once more, with a view to the codes: which of them verify a number, with
which code and which number (`regPhoneOtp_cases`), and how they leave the number and the state
`waiting_phone_otp` in the FSM context (`Waiting`).
-/

namespace KasbOKar

namespace MainDb

/-! ## The tables -/

/-- Nothing is verified: no owner and no phone code. -/
structure Unverified (db db' : MainDb) : Prop where
  owners : ∀ o ∈ db'.owners.rows, o.phoneVerified = true → o ∈ db.owners.rows
  otps : ∀ x ∈ db'.otps.rows, x.purpose = .registrationPhone → x.consumed = true → x ∈ db.otps.rows

theorem Unverified.refl (db : MainDb) : Unverified db db := ⟨fun _ h _ => h, fun _ h _ _ => h⟩

theorem Unverified.of_eq {db db' : MainDb} (howners : db'.owners = db.owners) (hotps : db'.otps = db.otps) :
    Unverified db db' := by
  refine ⟨fun o ho _ => ?_, fun x hx _ _ => ?_⟩
  · rwa [howners] at ho
  · rwa [hotps] at hx

theorem Unverified.trans {db db' db'' : MainDb} (h : Unverified db db') (h' : Unverified db' db'') :
    Unverified db db'' :=
  ⟨fun o ho hv => h.owners o (h'.owners o ho hv) hv,
    fun x hx hp hc => h.otps x (h'.otps x hx hp hc) hp hc⟩

/-- A new owner is not verified yet. -/
theorem getOrCreateShopOwner_unverified {db : MainDb} {user : ℤ} {referredByCode : Option String}
    {code : String} {shop : ShopDb} {owner : ShopOwner}
    (h : db.getOrCreateShopOwner user referredByCode code = .ok (shop, owner)) :
    Unverified db (db.withShop shop) := by
  unfold ShopDb.getOrCreateShopOwner at h
  split at h
  · cases h
    exact .refl db
  · dsimp only at h
    split_ifs at h
    cases h
    refine ⟨fun o ho hv => ?_, fun x hx _ _ => hx⟩
    rcases (Table.mem_insert (Table.nextId_notMem db.owners)).1 ho with ho | rfl
    · exact ho
    · cases hv

section Handlers

variable {env : MainEnv} {db : MainDb} {ctx : FsmContext} {user : ℤ}

theorem withOwner_unverified {next : MainDb → ShopOwner → MainResult}
    (hnext : ∀ db' owner, Unverified db db' → Unverified db (next db' owner).db) :
    Unverified db (withOwner env db ctx user next).db := by
  unfold withOwner
  split
  · exact .refl db
  · rename_i shop owner h
    exact hnext _ owner (getOrCreateShopOwner_unverified h)

theorem andThen_unverified {r : MainResult} {next : MainDb → FsmContext → MainResult}
    (h : Unverified db r.db) (hnext : ∀ ctx, (next r.db ctx).db = r.db) :
    Unverified db (r.andThen next).db := by
  unfold MainResult.andThen
  split
  · exact h
  · rw [hnext]
    exact h

theorem enter_unverified : Unverified db (enter env db ctx user).db := by
  refine withOwner_unverified fun db' owner h => ?_
  split_ifs
  · exact h
  · exact h

theorem cmdStart_unverified (args : Option String) :
    Unverified db (cmdStart env db ctx user args).db := by
  unfold cmdStart showGateOrContinue
  dsimp only
  split
  · exact .refl db
  · split_ifs
    · exact .refl db
    · exact enter_unverified
  · exact .refl db

theorem cbCheckChannelsMembership_unverified :
    Unverified db (cbCheckChannelsMembership env db ctx user).db := by
  unfold cbCheckChannelsMembership MainResult.andThen
  split
  · exact .refl db
  · split
    · exact .refl db
    · dsimp only
      split
      · exact .refl db
      · exact enter_unverified
  · exact .refl db

/-- A code is not used up when it is generated. -/
theorem generateOtp_unverified {db' : MainDb} {ownerId : ℕ} {purpose : OtpPurpose}
    (h : db.generateOtp env ownerId purpose = .ok db') : Unverified db db' := by
  unfold generateOtp at h
  obtain ⟨expiresAt, -, h⟩ := bind_ok h
  cases h
  refine ⟨fun o ho _ => ho, fun x hx _ hc => ?_⟩
  rcases (Table.mem_insert (Table.nextId_notMem db.otps)).1 hx with hx | rfl
  · exact hx
  · cases hc

theorem sendOtp_db (caught : PyError) : (sendOtp env db ctx caught).db = db := by
  unfold sendOtp
  split
  · rfl
  · split_ifs
    · rfl
    · rfl

theorem regEmail_unverified (hsms : env.authMode = .SMS) (text : String) :
    Unverified db (regEmail env db ctx user text).db := by
  unfold regEmail
  dsimp only
  split_ifs
  · exact .refl db
  · rw [hsms]
    refine withOwner_unverified fun db₁ owner h => ?_
    split
    · exact h
    · rename_i db₂ hotp
      have hdb : Unverified db db₂ := h.trans (generateOtp_unverified hotp)
      refine andThen_unverified ?_ fun _ => rfl
      split_ifs
      · exact hdb
      · rw [sendOtp_db]
        exact hdb
      · exact hdb

/-- A code that is found is one of the rows, and it is marked as used up. -/
theorem verifyOtp_true {db' : MainDb} {ownerId : ℕ} {purpose : OtpPurpose} {code : String}
    (h : db.verifyOtp env ownerId purpose code = .ok (db', true)) :
    ∃ otp, db.otps.rows.filter (otpMatches env ownerId purpose code) = [otp] ∧
      db' = { db with otps := db.otps.modify otp.id fun o => { o with consumed := true } } := by
  unfold verifyOtp at h
  split at h
  · cases h
  · rename_i otp hotp
    cases h
    exact ⟨otp, hotp, rfl⟩
  · cases h

theorem verifyOtp_false {db' : MainDb} {ownerId : ℕ} {purpose : OtpPurpose} {code : String}
    (h : db.verifyOtp env ownerId purpose code = .ok (db', false)) : db' = db := by
  unfold verifyOtp at h
  split at h
  · cases h
    rfl
  · cases h
  · cases h

theorem otpMatches_spec {ownerId : ℕ} {purpose : OtpPurpose} {code : String} {otp : OtpCode}
    (h : db.otps.rows.filter (otpMatches env ownerId purpose code) = [otp]) :
    otp ∈ db.otps.rows ∧ otp.shopOwnerId = ownerId ∧ otp.purpose = purpose ∧ otp.consumed = false := by
  have hmem : otp ∈ db.otps.rows.filter (otpMatches env ownerId purpose code) := by
    rw [h]
    exact List.mem_singleton_self otp
  obtain ⟨hrow, hmatch⟩ := List.mem_filter.1 hmem
  unfold otpMatches at hmatch
  simp only [Bool.and_eq_true, beq_iff_eq, Bool.not_eq_true'] at hmatch
  exact ⟨hrow, hmatch.1.1.1.1, hmatch.1.1.1.2, hmatch.1.2⟩

/-- The row that `complete_registration` writes. -/
theorem completeRegistration_ok {db' : MainDb} {owner : ShopOwner} {data : FsmData}
    {phoneVerified emailVerified : Bool}
    (h : db.completeRegistration owner data phoneVerified emailVerified = .ok db') :
    db'.otps = db.otps ∧ data.phoneNumber ≠ none ∧ ∀ o ∈ db'.owners.rows,
      (o ∈ db.owners.rows ∧ o.id ≠ owner.id) ∨
        (o.id = owner.id ∧ o.phoneNumber = data.phoneNumber ∧ o.phoneVerified = phoneVerified) := by
  unfold completeRegistration at h
  split at h
  · rename_i phone email _ _ hphone _
    dsimp only at h
    split_ifs at h
    cases h
    refine ⟨rfl, by rw [hphone]; exact Option.some_ne_none phone, fun o ho => ?_⟩
    rcases Table.mem_modify_cases (by intro; rfl) ho with ⟨ho, hne⟩ | ⟨o', ho', hid, rfl⟩
    · exact Or.inl ⟨ho, hne⟩
    · exact Or.inr ⟨hid, hphone.symm, rfl⟩
  · cases h

/-- A phone code is used up for an owner and a number. -/
structure Verifies (db db' : MainDb) (ownerId : ℕ) (otp : OtpCode) (phone : Option String) : Prop where
  found : otp ∈ db.otps.rows ∧ otp.shopOwnerId = ownerId ∧ otp.purpose = .registrationPhone ∧
    otp.consumed = false
  used : { otp with consumed := true } ∈ db'.otps.rows
  otps : ∀ x ∈ db'.otps.rows, x ∈ db.otps.rows ∨ x = { otp with consumed := true }
  known : phone ≠ none
  others : ∀ o ∈ db'.owners.rows, o.phoneVerified = true → o.id ≠ ownerId → o ∈ db.owners.rows
  owner : ∀ o ∈ db'.owners.rows, o.id = ownerId → o.phoneVerified = true ∧ o.phoneNumber = phone

/-- What is left of a handler that has raised. -/
theorem committed_cases (r : MainResult) (db : MainDb) :
    r.committed db = db ∨ (r.committed db = r.db ∧ r.raised = none) := by
  unfold MainResult.committed
  cases r.raised with
  | none => exact Or.inr ⟨rfl, rfl⟩
  | some e => exact Or.inl rfl

/-- The last lines of the dialog, when they do not raise. -/
theorem finishRegistration_ok {owner : ShopOwner} {phoneVerified emailVerified : Bool}
    (h : (finishRegistration env db ctx owner phoneVerified emailVerified).raised = none) :
    ∃ db', db.completeRegistration owner ctx.data phoneVerified emailVerified = .ok db' ∧
      (finishRegistration env db ctx owner phoneVerified emailVerified).db = db' := by
  unfold finishRegistration at h ⊢
  split
  · rename_i e he
    rw [he] at h
    cases h
  · rename_i db' he
    refine ⟨db', he, ?_⟩
    unfold MainResult.andThen
    split
    · rfl
    · rfl

/-- The handler of a code, when it does not raise: the code is wrong, or it is used up and the
registration is completed. -/
theorem regOtp_ok {purpose : OtpPurpose} {phoneVerified emailVerified : Bool} {text : String}
    (h : (regOtp env purpose phoneVerified emailVerified db ctx user text).raised = none) :
    ∃ shop owner,
      db.getOrCreateShopOwner user ctx.data.referredByCode env.referralCode = .ok (shop, owner) ∧
      ((regOtp env purpose phoneVerified emailVerified db ctx user text).db = db.withShop shop ∨
      ∃ otp db', db.otps.rows.filter (otpMatches env owner.id purpose (strip text)) = [otp] ∧
        MainDb.completeRegistration
          { db.withShop shop with otps := db.otps.modify otp.id fun o => { o with consumed := true } }
          owner ctx.data phoneVerified emailVerified = .ok db' ∧
        (regOtp env purpose phoneVerified emailVerified db ctx user text).db = db') := by
  unfold regOtp withOwner at h ⊢
  cases hcreate : db.getOrCreateShopOwner user ctx.data.referredByCode env.referralCode with
  | error e =>
    rw [hcreate] at h
    cases h
  | ok x =>
    obtain ⟨shop, owner⟩ := x
    refine ⟨shop, owner, rfl, ?_⟩
    rw [hcreate] at h
    dsimp only at h ⊢
    cases hverify : (db.withShop shop).verifyOtp env owner.id purpose (strip text) with
    | error e =>
      rw [hverify] at h
      cases h
    | ok y =>
      obtain ⟨db₁, ok⟩ := y
      rw [hverify] at h
      cases ok with
      | false =>
        rw [verifyOtp_false hverify]
        exact Or.inl rfl
      | true =>
        obtain ⟨otp, hotp, rfl⟩ := verifyOtp_true hverify
        obtain ⟨db', hcomplete, hdb⟩ := finishRegistration_ok h
        exact Or.inr ⟨otp, db', hotp, hcomplete, hdb⟩

/-- `reg_phone_otp` verifies nothing, or the number in the FSM data with the code that it finds. -/
theorem regPhoneOtp_cases (text : String) :
    Unverified db ((regPhoneOtp env db ctx user text).committed db) ∨
    ∃ shop owner otp,
      db.getOrCreateShopOwner user ctx.data.referredByCode env.referralCode = .ok (shop, owner) ∧
      db.otps.rows.filter (otpMatches env owner.id .registrationPhone (strip text)) = [otp] ∧
      Verifies db ((regPhoneOtp env db ctx user text).committed db) owner.id otp ctx.data.phoneNumber := by
  obtain hback | ⟨hcommit, hraised⟩ := committed_cases (regPhoneOtp env db ctx user text) db
  · rw [hback]
    exact Or.inl (.refl db)
  rw [hcommit]
  obtain ⟨shop, owner, hcreate, hdb | ⟨otp, db', hotp, hcomplete, hdb⟩⟩ := regOtp_ok hraised
  · left
    unfold regPhoneOtp
    rw [hdb]
    exact getOrCreateShopOwner_unverified hcreate
  · have hnew := getOrCreateShopOwner_unverified hcreate
    obtain ⟨hotps, hphone, howners⟩ := completeRegistration_ok hcomplete
    have hfound := otpMatches_spec hotp
    refine Or.inr ⟨shop, owner, otp, hcreate, hotp, ?_⟩
    unfold regPhoneOtp
    rw [hdb]
    refine ⟨hfound, ?_, fun x hx => ?_, hphone, fun o ho hv hne => ?_, fun o ho hid => ?_⟩
    · rw [hotps]
      exact Table.mem_modify_self (by intro; rfl) hfound.1 rfl
    · rw [hotps] at hx
      rcases Table.mem_modify_cases (by intro; rfl) hx with ⟨hx, -⟩ | ⟨x', hx', hid, rfl⟩
      · exact Or.inl hx
      · rw [Table.eq_of_id_eq hx' hfound.1 hid]
        exact Or.inr rfl
    · rcases howners o ho with ⟨ho, -⟩ | ⟨hid, -, -⟩
      · exact hnew.owners o ho hv
      · exact absurd hid hne
    · rcases howners o ho with ⟨-, hne⟩ | ⟨-, hnumber, hv⟩
      · exact absurd hid hne
      · exact ⟨hv, hnumber⟩

/-- `reg_email_otp` verifies no number. -/
theorem regEmailOtp_unverified (text : String) :
    Unverified db ((regEmailOtp env db ctx user text).committed db) := by
  obtain hback | ⟨hcommit, hraised⟩ := committed_cases (regEmailOtp env db ctx user text) db
  · rw [hback]
    exact .refl db
  rw [hcommit]
  obtain ⟨shop, owner, hcreate, hdb | ⟨otp, db', hotp, hcomplete, hdb⟩⟩ := regOtp_ok hraised
  · unfold regEmailOtp
    rw [hdb]
    exact getOrCreateShopOwner_unverified hcreate
  · have hnew := getOrCreateShopOwner_unverified hcreate
    obtain ⟨hotps, -, howners⟩ := completeRegistration_ok hcomplete
    obtain ⟨hrow, -, hpurpose, -⟩ := otpMatches_spec hotp
    unfold regEmailOtp
    rw [hdb]
    refine ⟨fun o ho hv => ?_, fun x hx hp hc => ?_⟩
    · rcases howners o ho with ⟨ho, -⟩ | ⟨-, -, hv'⟩
      · exact hnew.owners o ho hv
      · rw [hv] at hv'
        cases hv'
    · rw [hotps] at hx
      rcases Table.mem_modify_cases (by intro; rfl) hx with ⟨hx, -⟩ | ⟨x', hx', hid, rfl⟩
      · exact hx
      · rw [Table.eq_of_id_eq hx' hrow hid] at hp
        rw [hpurpose] at hp
        cases hp

/-! ## The FSM context -/

/-- A context in the state `waiting_phone_otp` has the number of `ctx`, and either `_send_phone_otp`
was called or `ctx` was in this state. -/
def Waiting (sent : Bool) (ctx ctx' : FsmContext) : Prop :=
  ctx'.state = some .waitingPhoneOtp →
    ctx'.data.phoneNumber = ctx.data.phoneNumber ∧ (sent = true ∨ ctx.state = some .waitingPhoneOtp)

theorem Waiting.refl (sent : Bool) (ctx : FsmContext) : Waiting sent ctx ctx :=
  fun h => ⟨rfl, Or.inr h⟩

theorem Waiting.clear (sent : Bool) (ctx : FsmContext) : Waiting sent ctx {} := nofun

theorem Waiting.of_ne {sent : Bool} {ctx' : FsmContext} (h : ctx'.state ≠ some .waitingPhoneOtp) :
    Waiting sent ctx ctx' := fun hstate => absurd hstate h

section Context

variable {P : FsmContext → Prop}

theorem withOwner_ctx {next : MainDb → ShopOwner → MainResult} (h : P ctx)
    (hnext : ∀ db owner, P (next db owner).ctx) : P (withOwner env db ctx user next).ctx := by
  unfold withOwner
  split
  · exact h
  · exact hnext _ _

theorem andThen_ctx {r : MainResult} {next : MainDb → FsmContext → MainResult} (h : P r.ctx)
    (hnext : ∀ db ctx, P ctx → P (next db ctx).ctx) : P (r.andThen next).ctx := by
  unfold MainResult.andThen
  split
  · exact h
  · exact hnext _ _ h

theorem sendOtp_ctx (caught : PyError) : (sendOtp env db ctx caught).ctx = ctx := by
  unfold sendOtp
  split
  · rfl
  · split_ifs
    · rfl
    · rfl

theorem finishRegistration_ctx {owner : ShopOwner} {phoneVerified emailVerified : Bool} (h : P ctx)
    (hclear : P {}) : P (finishRegistration env db ctx owner phoneVerified emailVerified).ctx := by
  unfold finishRegistration
  split
  · exact h
  · exact andThen_ctx (r := answer env _ {} .registrationComplete) hclear fun _ _ h => h

end Context

theorem enter_waiting {sent : Bool} {base : FsmContext} (h : Waiting sent base ctx) :
    Waiting sent base (enter env db ctx user).ctx := by
  refine withOwner_ctx h fun db owner => ?_
  split_ifs
  · exact .of_ne nofun
  · exact .clear sent base

theorem cmdStart_waiting (sent : Bool) (args : Option String) :
    Waiting sent ctx (cmdStart env db ctx user args).ctx := by
  -- the argument of `/start` changes the data, neither the state nor the number
  have hgate : ∀ ctx', Waiting sent ctx ctx' → Waiting sent ctx
      (showGateOrContinue env db ctx' fun db ctx =>
        if (db.ownerByTelegramId user).isNone && !db.settings.allowNewRegistrations then
          answer env db ctx .registrationClosed
        else enter env db ctx user).ctx := by
    intro ctx' h
    unfold showGateOrContinue
    split
    · exact h
    · dsimp only
      split_ifs
      · exact h
      · exact enter_waiting h
    · exact h
  unfold cmdStart
  dsimp only
  split
  · exact hgate ctx (.refl sent ctx)
  · exact hgate ctx (.refl sent ctx)
  · exact hgate _ fun hstate => ⟨rfl, Or.inr hstate⟩

theorem cbCheckChannelsMembership_waiting (sent : Bool) :
    Waiting sent ctx (cbCheckChannelsMembership env db ctx user).ctx := by
  unfold cbCheckChannelsMembership
  split
  · exact .refl sent ctx
  · refine andThen_ctx (r := answer env db ctx .channelsGatePassed) (.refl sent ctx) fun db ctx' h => ?_
    exact andThen_ctx (r := answer env db ctx' .deleteMessage) h fun db ctx' h => enter_waiting h
  · exact .refl sent ctx

theorem handlePhoneInput_waiting (sent : Bool) (rawPhone : String) :
    Waiting sent ctx (handlePhoneInput env db ctx rawPhone).ctx := by
  unfold handlePhoneInput
  split
  · exact .refl sent ctx
  · exact .of_ne nofun

theorem regOtp_waiting (sent : Bool) (purpose : OtpPurpose) (phoneVerified emailVerified : Bool)
    (text : String) :
    Waiting sent ctx (regOtp env purpose phoneVerified emailVerified db ctx user text).ctx := by
  refine withOwner_ctx (.refl sent ctx) fun db owner => ?_
  split
  · exact .refl sent ctx
  · exact .refl sent ctx
  · exact finishRegistration_ctx (.refl sent ctx) (.clear sent ctx)

/-- Only `_send_phone_otp` leads to the state. -/
theorem regEmail_waiting {sent : Bool} {text : String}
    (hsent : isValidEmail (strip text) = true → env.authMode = .SMS → sent = true) :
    Waiting sent ctx (regEmail env db ctx user text).ctx := by
  unfold regEmail
  dsimp only
  split_ifs with hvalid
  · exact .refl sent ctx
  have hvalid : isValidEmail (strip text) = true := by simpa using hvalid
  have hbase : Waiting sent ctx { ctx with data.email := some (strip text) } :=
    fun hstate => ⟨rfl, Or.inr hstate⟩
  split
  · exact withOwner_ctx hbase fun db owner => finishRegistration_ctx hbase (.clear sent ctx)
  · rename_i hsms
    -- none of its lines touches the number
    have hnumber : (sendPhoneOtp env db { ctx with data.email := some (strip text) } user).ctx.data.phoneNumber =
        ctx.data.phoneNumber := by
      refine withOwner_ctx (P := fun ctx' => ctx'.data.phoneNumber = ctx.data.phoneNumber) rfl
        fun db owner => ?_
      split
      · rfl
      · refine andThen_ctx (P := fun ctx' => ctx'.data.phoneNumber = ctx.data.phoneNumber) ?_
          fun db ctx' h => h
        split_ifs
        · rfl
        · rw [sendOtp_ctx]
        · rfl
    exact fun _ => ⟨hnumber, Or.inl (hsent hvalid hsms)⟩
  · refine withOwner_ctx hbase fun db owner => ?_
    split
    · exact hbase
    · refine andThen_ctx ?_ fun db ctx' _ => .of_ne nofun
      rw [sendOtp_ctx]
      exact hbase

end Handlers

end MainDb

end KasbOKar
