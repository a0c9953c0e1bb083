import KasbOKar.Bot.Main

/-!
# The kill switch of the registration

While `allow_new_registrations` is off, nobody who is not an owner yet should become one.  `/start`
looks at the switch.  The button below the list of the channels does not, and neither do the last steps
of the dialog: their states are in memory, and may be those of a user whose row was rolled back
(`registered_while_closed`).  `closed_registrations` says that there is no other way.
-/

namespace KasbOKar

namespace MainDb

/-- The columns of an owner are not his key. -/
theorem blind_owners : Blind (fun db : MainDb => db.owners.ids) :=
  ⟨fun _ _ => rfl, fun _ _ _ hg => Table.ids_modify hg⟩

/-- An owner gets no second row. -/
theorem unseen_owners {db : MainDb} {user : ℤ} (h : db.ownerByTelegramId user ≠ none) :
    Unseen (fun db : MainDb => db.owners.ids) db user := by
  intro referredByCode code shop owner hcreate
  unfold ShopDb.getOrCreateShopOwner at hcreate
  split at hcreate
  · cases hcreate
    rfl
  · rename_i hnone
    exact absurd hnone h

end MainDb

namespace MainBot

open MainDb MainResult

/-- A text with which the dialog calls `get_or_create_shop_owner`: a valid email address, or a code. -/
def lateText : Option FsmState → String → Bool
  | some .waitingEmail, raw => isValidEmail (strip raw)
  | some .waitingPhoneOtp, _ => true
  | some .waitingEmailOtp, _ => true
  | _, _ => false

/-- The user for whom a step calls `get_or_create_shop_owner` without a look at the switch. -/
def unguarded (s : MainBot) : MainEnv × MainUpdate → Option ℤ
  | (env, .checkChannels user) => if s.db.passesGate env then some user else none
  | (_, .text user text) =>
    if text.answered.any (lateText (s.contextOf user text).state) then some user else none
  | _ => none

/-- Such a step, for a user without a row. -/
def opens (s : MainBot) (a : MainEnv × MainUpdate) : Bool :=
  (s.unguarded a).any fun user => (s.db.ownerByTelegramId user).isNone

section Step

variable {env : MainEnv} {s : MainBot}

/-- A user for whom no step opens the registration has a row. -/
theorem registered_of_opens {a : MainEnv × MainUpdate} {user : ℤ} (h : s.opens a = false)
    (huser : s.unguarded a = some user) : s.db.ownerByTelegramId user ≠ none := by
  intro hnone
  unfold opens at h
  rw [huser, Option.any_some, hnone] at h
  cases h

theorem close_owners {user : ℤ} {r : MainResult} (hr : r.db.owners.ids = s.db.owners.ids) :
    (s.close user r).db.owners.ids = s.db.owners.ids := by
  unfold close committed
  dsimp only
  split_ifs
  · rfl
  · exact hr

/-- The handlers of the registration, while the switch is off. -/
theorem routed_owners {ctx : FsmContext} {user : ℤ} {text : MainText} {r : MainResult}
    (hoff : s.db.settings.allowNewRegistrations = false)
    (hlate : text.answered.any (lateText ctx.state) = true → s.db.ownerByTelegramId user ≠ none)
    (h : Routed env s.db ctx user text r) : r.db.owners.ids = s.db.owners.ids := by
  cases h with
  | idle => rfl
  | start args =>
    refine cmdStart_stays (f := fun db => db.owners.ids) env
      (fun hopen => unseen_owners fun hnone => ?_) ctx args
    rw [hnone, hoff] at hopen
    cases hopen
  | email htext hstate =>
    refine regEmail_stays (f := fun db => db.owners.ids) env blind_owners
      (fun hvalid => unseen_owners (hlate ?_)) ctx
    rw [htext, hstate, Option.any_some]
    exact hvalid
  | phoneOtp htext hstate =>
    refine regOtp_stays (f := fun db => db.owners.ids) env blind_owners (unseen_owners (hlate ?_)) ..
    rw [htext, hstate]
    rfl
  | emailOtp htext hstate =>
    refine regOtp_stays (f := fun db => db.owners.ids) env blind_owners (unseen_owners (hlate ?_)) ..
    rw [htext, hstate]
    rfl

/-- **A step creates no owner** while the switch is off, unless it is one of those. -/
theorem step_owners {s' : MainBot} {a : MainEnv × MainUpdate}
    (hoff : s.db.settings.allowNewRegistrations = false) (hopens : s.opens a = false)
    (hs : s.step a = some s') : s'.db.owners.ids = s.db.owners.ids := by
  obtain ⟨env, update⟩ := a
  have hactive : ∀ manager shopBotId isActive reason raised,
      (setActive { s with manager := manager } shopBotId isActive reason raised).db.owners.ids =
        s.db.owners.ids :=
    fun manager _ _ _ _ => congrArg Table.ids (setActive_owners (s := { s with manager := manager }) ..)
  cases step_effect hs with
  | @token user text raw _ =>
    split_ifs
    · obtain ⟨shop, howners, hdb⟩ := @saveShopBotToken_db env s user raw
      rw [hdb]
      exact congrArg Table.ids howners
    · rfl
  | handled _ hr =>
    exact close_owners (routed_owners hoff (fun hlate => registered_of_opens hopens (if_pos hlate)) hr)
  | same => rfl
  | contact user phone =>
    exact close_owners (handlePhoneInput_stays (f := fun db => db.owners.ids) env _ phone)
  | checkChannels user =>
    exact close_owners (cbCheckChannelsMembership_stays (f := fun db => db.owners.ids) env
      (fun hgate => unseen_owners (registered_of_opens hopens (if_pos hgate))) _)
  | suspend j => exact cbOwnerSuspend_stays (f := fun s => s.db.owners.ids) hactive j
  | unsuspend _ j => exact cbOwnerUnsuspend_stays (f := fun s => s.db.owners.ids) hactive j
  | settings => rfl
  | dialog => rfl
  | shop hd => exact congrArg Table.ids (ShopDb.handle_aside _ hd).owners
  | markDisabled => exact hactive s.manager ..
  | restart => rfl

end Step

/-- **The registration stays closed.** In every run in which no step opens it while the switch is off,
no step that is taken while the switch is off creates an owner. -/
theorem closed_registrations (s : MainBot) (as : List (MainEnv × MainUpdate))
    (hopens : Runs.Along step
      (fun s a => s.db.settings.allowNewRegistrations = false → s.opens a = false) s as) :
    Runs.Along step (fun s a => s.db.settings.allowNewRegistrations = false →
      ∀ s', s.step a = some s' → s'.db.owners.ids = s.db.owners.ids) s as :=
  hopens.mono fun _ _ h hoff _ hs => step_owners hoff (h hoff) hs

/-- A user registers in time, another one comes too late, and the first one comes back. -/
def lastCustomer : List (MainEnv × MainUpdate) :=
  [({}, .text 100 (.start none "/start")), ({ isAdmin := true }, .toggleRegistrations),
    ({}, .text 200 (.start none "/start")), ({}, .text 200 (.plain "Sara")), ({}, .checkChannels 100)]

theorem closed_registrations_lastCustomer :
    Runs.Along step (fun s a => s.db.settings.allowNewRegistrations = false →
      ∀ s', s.step a = some s' → s'.db.owners.ids = s.db.owners.ids) newPlatform lastCustomer :=
  closed_registrations newPlatform lastCustomer (by decide +kernel)

/-- A user who presses the button below an old list of channels becomes an owner. -/
theorem registered_while_closed :
    ∃ s₁ s, newPlatform.step ({ isAdmin := true }, .toggleRegistrations) = some s₁ ∧
      s₁.db.settings.allowNewRegistrations = false ∧ s₁.db.owners.ids = [] ∧
      s₁.step ({}, .checkChannels 200) = some s ∧ s.db.owners.ids = [1] :=
  ⟨_, _, rfl, rfl, rfl, rfl, by decide +kernel⟩

end MainBot

end KasbOKar
