import KasbOKar.Admin.Validity
import KasbOKar.Lib.Purge

/-!
# Who has an influence on the panel

Without an update of an admin of the configuration, the operators, the settings, the plans and the keys stay
as they are, in every state and after every run (`only_super_admins`).  And whoever is no such admin and has
never been made an operator, which the log shows, has no influence on any table: the run without their
updates leads to the same tables (`outsiders_without_influence`).
-/

namespace KasbOKar

open AdminPanel

namespace AdminPanel

section Effects

variable {cfg : PanelConfig} {env : PanelEnv} {user : ℤ} {db db' : PanelDb}

/-- What only an admin of the configuration changes. -/
structure SameControls (db db' : PanelDb) : Prop where
  roles : db'.roles = db.roles
  more : db'.more = db.more
  settings : db'.books.settings = db.books.settings
  pool : db'.pool = db.pool
  plans : db'.plans = db.plans

theorem SameControls.refl (db : PanelDb) : SameControls db db := ⟨rfl, rfl, rfl, rfl, rfl⟩

theorem SameControls.trans {db'' : PanelDb} (h : SameControls db db') (h' : SameControls db' db'') :
    SameControls db db'' :=
  ⟨h'.roles.trans h.roles, h'.more.trans h.more, h'.settings.trans h.settings, h'.pool.trans h.pool,
    h'.plans.trans h.plans⟩

theorem PanelEffect.sameControls (heffect : PanelEffect cfg env user db db') (huser : user ∉ cfg.adminIds) :
    SameControls db db' := by
  cases heffect with
  | same => exact .refl db
  | granted h _ _ => exact absurd h huser
  | revoked h _ => exact absurd h huser
  | toggled _ h => exact absurd h huser
  | assigned h _ => exact absurd h huser
  | planned h _ => exact absurd h huser
  | pooled h _ => exact absurd h huser
  | channelled _ => exact ⟨rfl, rfl, rfl, rfl, rfl⟩
  | ruled _ => exact ⟨rfl, rfl, rfl, rfl, rfl⟩
  | activated _ => exact ⟨rfl, rfl, rfl, rfl, rfl⟩
  | gifted _ hadd =>
    obtain ⟨wallet, -, rfl⟩ := PaymentDb.addCharge_ok hadd
    exact ⟨rfl, rfl, rfl, rfl, rfl⟩
  | corrected _ _ _ _ happly =>
    obtain ⟨wallet, rfl⟩ := applyCorrection_wallet happly
    exact ⟨rfl, rfl, rfl, rfl, rfl⟩

/-- The log only grows. -/
theorem PanelEffect.log_grows (heffect : PanelEffect cfg env user db db') :
    db.audit.rows <+: db'.audit.rows := by
  have hlog : ∀ {x : PanelDb} {event : AuditEventType} {shopBotId : Option ℕ} {details : Option String},
      x.audit = db.audit → db.audit.rows <+: (x.log event shopBotId (some user) details).audit.rows := by
    intro x event shopBotId details hx
    rw [rows_log, hx]
    exact List.prefix_append _ _
  cases heffect with
  | same => exact List.prefix_rfl
  | granted _ _ _ => exact hlog rfl
  | revoked _ _ => exact hlog rfl
  | toggled switch _ => exact hlog (by cases switch <;> rfl)
  | assigned _ hassigned => rw [hassigned.frame.2.1]
  | planned _ _ => exact List.prefix_rfl
  | pooled _ _ => exact List.prefix_rfl
  | channelled _ => exact List.prefix_rfl
  | ruled _ => exact List.prefix_rfl
  | activated _ => exact hlog rfl
  | gifted _ _ => exact hlog rfl
  | corrected _ _ _ _ happly =>
    obtain ⟨wallet, rfl⟩ := applyCorrection_wallet happly
    exact hlog rfl

/-- A row makes no operator but the one that it grants. -/
theorem mem_operators_apply {r : Rights} {e : AuditLogEntry} {telegramId : ℤ}
    (h : telegramId ∈ (r.apply e).operators) : telegramId ∈ r.operators ∨
      e.eventType = .OPERATOR_ADMIN_GRANTED ∧ e.details.bind Rights.operatorOf = some telegramId := by
  unfold Rights.apply at h
  split at h
  · rename_i hevent
    split at h
    · rename_i hdetails
      rcases Finset.mem_insert.1 h with rfl | h
      · exact .inr ⟨hevent, hdetails⟩
      · exact .inl h
    · exact .inl h
  · split at h
    · exact .inl (Finset.mem_of_mem_erase h)
    · exact .inl h
  · split at h <;> exact .inl h
  · exact .inl h

/-- An operator by the log has been granted there. -/
theorem granted_of_mem_replay {j : List AuditLogEntry} {telegramId : ℤ}
    (h : telegramId ∈ (Journal.replay Rights.apply Rights.initial j).operators) :
    ∃ e ∈ j, e.eventType = .OPERATOR_ADMIN_GRANTED ∧ e.details.bind Rights.operatorOf = some telegramId := by
  induction j using List.reverseRecOn with
  | nil => cases h
  | append_singleton j e ih =>
    rw [Journal.replay_append] at h
    rcases mem_operators_apply h with h | h
    · obtain ⟨e', he', hgranted⟩ := ih h
      exact ⟨e', List.mem_append_left _ he', hgranted⟩
    · exact ⟨e, List.mem_append_right _ (List.mem_singleton_self e), h⟩

/-- A log that may be as it is names the operators that it grants. -/
theorem details_of_granted {j : List AuditLogEntry}
    (hsound : Journal.Sound Rights.apply (Rights.may cfg) Rights.initial j) {e : AuditLogEntry}
    (he : e ∈ j) (hevent : e.eventType = .OPERATOR_ADMIN_GRANTED) {telegramId : ℤ}
    (hdetails : e.details.bind Rights.operatorOf = some telegramId) :
    e.details = some (roleDetails telegramId) := by
  obtain ⟨before, after, hsplit⟩ := List.append_of_mem he
  have hmay := hsound before e after hsplit
  unfold Rights.may at hmay
  rw [hevent] at hmay
  obtain ⟨-, telegramId', -, -, heq⟩ := hmay
  rw [heq, Option.bind_some, Rights.operatorOf_roleDetails] at hdetails
  rw [heq, Option.some.inj hdetails]

end Effects

end AdminPanel

namespace PanelSystem

variable {cfg : PanelConfig} {W : World}

/-- The user of an act of the main bot. -/
def userOf : AdminAct → Option ℤ
  | .update _ user _ => some user
  | .dialog user _ => some user
  | _ => none

theorem sameControls_step {s s' : PanelSystem} {a : AdminAct} (hc : s.Complete)
    (hno : ∀ env user u, a = .update env user u → user ∉ cfg.adminIds) (hs : s.step cfg W a = some s') :
    SameControls s.db s'.db := by
  cases a with
  | update env user u =>
    cases hs
    obtain ⟨-, hdb, -⟩ := handle_spec hc env user u
    rcases hdb with hsame | ⟨heffect, -⟩
    · rw [hsame]
      exact .refl s.db
    · exact heffect.sameControls (hno env user u rfl)
  | dialog user next =>
    cases next with
    | none =>
      cases hs
      exact .refl s.db
    | some next =>
      obtain ⟨-, hs⟩ := Option.ite_none_right_eq_some.1 hs
      cases hs
      exact .refl s.db
  | moderationMatch shopBotId actor details =>
    cases hs
    exact ⟨rfl, rfl, rfl, rfl, rfl⟩
  | book now committed act =>
    obtain ⟨hact, hs⟩ := Option.ite_none_right_eq_some.1 hs
    obtain ⟨books, hbook, rfl⟩ := Option.map_eq_some_iff.1 hs
    exact ⟨rfl, rfl, (PaymentDb.book_leaves hact hbook).settings, rfl, rfl⟩
  | shops shops =>
    cases hs
    exact ⟨rfl, rfl, rfl, rfl, rfl⟩
  | restart =>
    cases hs
    exact .refl s.db

/-- **Only admins of the configuration change the controls.**  From any state that a new installation
reaches, a run without their updates leaves the operators, the settings, the keys and the plans alone. -/
theorem only_super_admins {books : PaymentDb} {before after : List AdminAct} {s s' : PanelSystem}
    (hrun : Runs.exec (step cfg W) (new books) before = some s)
    (hno : ∀ env user u, .update env user u ∈ after → user ∉ cfg.adminIds)
    (hrest : Runs.exec (step cfg W) s after = some s') : SameControls s.db s'.db := by
  have halong : Runs.Along (step cfg W)
      (fun _ a => ∀ env user u, a = .update env user u → user ∉ cfg.adminIds) s after := by
    refine Runs.along_of_mem (fun a ha _ env user u heq => ?_) s
    rw [heq] at ha
    exact hno env user u ha
  have hfinal := Runs.exec_inv (I := fun x => x.InOrder cfg ∧ SameControls s.db x.db)
    (fun x a x' h hC hs => ⟨h.1.step hs, h.2.trans (sameControls_step h.1.complete hC hs)⟩) after s s'
    ⟨inOrder_of_run hrun, .refl s.db⟩ halong hrest
  exact hfinal.2

theorem operatorMorning_isSome :
    (Runs.exec (step oneAdmin .noMonths) (new .newBooks) (operatorDay.take 3)).isSome = true := by
  decide +kernel

theorem operatorNoon_isSome : (Runs.exec (step oneAdmin .noMonths) (Option.get _ operatorMorning_isSome)
    ((operatorDay.drop 3).take 3)).isSome = true := by
  decide +kernel

theorem only_super_admins_operatorNoon :
    ∃ s s', Runs.exec (step oneAdmin .noMonths) (new .newBooks) (operatorDay.take 3) = some s ∧
      Runs.exec (step oneAdmin .noMonths) s ((operatorDay.drop 3).take 3) = some s' ∧
      s'.db.books.wallet.transactions.rows.map WalletTransaction.amountToman = [5000] ∧
      SameControls s.db s'.db := by
  have hrun := (Option.some_get operatorMorning_isSome).symm
  have hrest := (Option.some_get operatorNoon_isSome).symm
  refine ⟨_, _, hrun, hrest, by decide +kernel, only_super_admins hrun (fun env user u hmem => ?_) hrest⟩
  have huser : ∀ a ∈ (operatorDay.drop 3).take 3, userOf a = some 42 := by
    intro a ha
    fin_cases ha <;> rfl
  obtain rfl := Option.some.inj (huser _ hmem)
  decide

/-! ## Outsiders -/

section Outsiders

variable (X : ℤ → Bool)

/-- An act of one of these users. -/
def ofOutsider (a : AdminAct) : Bool := (userOf a).any X

/-- What can be seen without the contexts of these users. -/
def insideView (s : PanelSystem) : PanelDb × (ℤ → DialogContext) :=
  (s.db, fun user => if X user then {} else s.fsm user)

variable {X}

theorem insideView_eq_iff {s t : PanelSystem} :
    insideView X s = insideView X t ↔ s.db = t.db ∧ ∀ user, X user = false → s.fsm user = t.fsm user := by
  unfold insideView
  rw [Prod.mk.injEq]
  refine and_congr_right fun _ => ⟨fun h user huser => ?_, fun h => funext fun user => ?_⟩
  · have huserView := congrFun h user
    rw [huser] at huserView
    exact huserView
  · cases huser : X user with
    | true => rfl
    | false => exact h user huser

/-- One context changes in the same way. -/
theorem insideView_update {s t : PanelSystem} (h : insideView X s = insideView X t) (user : ℤ)
    (ctx : DialogContext) (db : PanelDb) :
    insideView X { db := db, fsm := Function.update s.fsm user ctx } =
      insideView X { db := db, fsm := Function.update t.fsm user ctx } := by
  refine insideView_eq_iff.2 ⟨rfl, fun user' huser' => ?_⟩
  show Function.update s.fsm user ctx user' = Function.update t.fsm user ctx user'
  rcases eq_or_ne user' user with rfl | hne
  · rw [Function.update_self, Function.update_self]
  · rw [Function.update_of_ne hne, Function.update_of_ne hne]
    exact (insideView_eq_iff.1 h).2 user' huser'

theorem respects_outsiders : Runs.Respects (step cfg W) (ofOutsider X) (insideView X) := by
  intro s t a s' hsilent hview hs
  obtain ⟨hdb, hfsm⟩ := insideView_eq_iff.1 hview
  cases a with
  | update env user u =>
    cases hs
    refine ⟨t.handle cfg env user u, rfl, ?_⟩
    unfold handle
    dsimp only
    rw [hdb, hfsm user hsilent]
    split
    · exact insideView_update hview _ _ _
    · exact insideView_update hview _ _ _
  | dialog user next =>
    cases next with
    | none =>
      cases hs
      refine ⟨_, rfl, ?_⟩
      rw [hdb]
      exact insideView_update hview user _ _
    | some next =>
      obtain ⟨hnext, hs⟩ := Option.ite_none_right_eq_some.1 hs
      cases hs
      refine ⟨_, if_pos hnext, ?_⟩
      rw [hdb, hfsm user hsilent]
      exact insideView_update hview user _ _
  | moderationMatch shopBotId actor details =>
    cases hs
    exact ⟨_, rfl, insideView_eq_iff.2 ⟨by rw [hdb], hfsm⟩⟩
  | book now committed act =>
    obtain ⟨hact, hs⟩ := Option.ite_none_right_eq_some.1 hs
    obtain ⟨books, hbook, rfl⟩ := Option.map_eq_some_iff.1 hs
    rw [hdb] at hbook
    refine ⟨_, (if_pos hact).trans (Option.map_eq_some_iff.2 ⟨books, hbook, rfl⟩), ?_⟩
    exact insideView_eq_iff.2 ⟨by rw [hdb], hfsm⟩
  | shops shops =>
    cases hs
    exact ⟨_, rfl, insideView_eq_iff.2 ⟨by rw [hdb], hfsm⟩⟩
  | restart =>
    cases hs
    exact ⟨_, rfl, insideView_eq_iff.2 ⟨hdb, fun _ _ => rfl⟩⟩

/-- An update of somebody who is no admin changes no table. -/
theorem handle_outsider {s : PanelSystem} (hc : s.Complete) {env : PanelEnv} {user : ℤ} {u : PanelUpdate}
    (hadmin : isAdmin cfg s.db user ≠ .ok true) : (s.handle cfg env user u).db = s.db := by
  rcases (handle_spec hc env user u).2.1 with hsame | ⟨-, h⟩
  · exact hsame
  · exact absurd h hadmin

theorem fsm_handle_of_ne (s : PanelSystem) (env : PanelEnv) {user user' : ℤ} (u : PanelUpdate)
    (h : user' ≠ user) : (s.handle cfg env user u).fsm user' = s.fsm user' := by
  unfold handle
  dsimp only
  split <;> exact Function.update_of_ne h ..

theorem log_grows_step {s s' : PanelSystem} {a : AdminAct} (hc : s.Complete)
    (hs : s.step cfg W a = some s') : s.db.audit.rows <+: s'.db.audit.rows := by
  cases a with
  | update env user u =>
    cases hs
    rcases (handle_spec hc env user u).2.1 with hsame | ⟨heffect, -⟩
    · rw [hsame]
    · exact heffect.log_grows
  | dialog user next =>
    cases next with
    | none =>
      cases hs
      exact List.prefix_rfl
    | some next =>
      obtain ⟨-, hs⟩ := Option.ite_none_right_eq_some.1 hs
      cases hs
      exact List.prefix_rfl
  | moderationMatch shopBotId actor details =>
    cases hs
    show _ <+: (s.db.log _ _ (some actor) _).audit.rows
    rw [rows_log]
    exact List.prefix_append _ _
  | book now committed act =>
    obtain ⟨-, hs⟩ := Option.ite_none_right_eq_some.1 hs
    obtain ⟨books, -, rfl⟩ := Option.map_eq_some_iff.1 hs
    exact List.prefix_rfl
  | shops shops =>
    cases hs
    exact List.prefix_rfl
  | restart =>
    cases hs
    exact List.prefix_rfl

theorem log_grows_run {s s' : PanelSystem} (h : s.InOrder cfg) {acts : List AdminAct}
    (hrun : Runs.exec (step cfg W) s acts = some s') : s.db.audit.rows <+: s'.db.audit.rows := by
  have hfinal := Runs.exec_inv_of_step
    (I := fun x : PanelSystem => x.InOrder cfg ∧ s.db.audit.rows <+: x.db.audit.rows)
    (fun x a x' hx hs => ⟨hx.1.step hs, hx.2.trans (log_grows_step hx.1.complete hs)⟩) acts s s'
    ⟨h, List.prefix_rfl⟩ hrun
  exact hfinal.2

/-- **Outsiders have no influence.**  Users who are no admins of the configuration, and whom no row of the
log has made an operator, could as well have sent nothing: the run without their updates leads to the same
tables, and to the same dialogs of all others. -/
theorem outsiders_without_influence {books : PaymentDb} {acts : List AdminAct} {s : PanelSystem}
    (hrun : Runs.exec (step cfg W) (new books) acts = some s)
    (hadmin : ∀ user, X user = true → user ∉ cfg.adminIds)
    (hgranted : ∀ user, X user = true → ∀ e ∈ s.db.audit.rows,
      e.eventType = .OPERATOR_ADMIN_GRANTED → e.details ≠ some (roleDetails user)) :
    ∃ t, Runs.exec (step cfg W) (new books) (acts.filter fun a => !ofOutsider X a) = some t ∧
      t.db = s.db ∧ ∀ user, X user = false → t.fsm user = s.fsm user := by
  have halong : Runs.Along (step cfg W) (Runs.Unseen (step cfg W) (ofOutsider X) (insideView X))
      (new books) acts := by
    refine Runs.along_iff.2 fun before a after s₁ hsplit hbefore hsilent s₂ hs₂ => ?_
    have horder := inOrder_of_run hbefore
    have hlog : s₁.db.audit.rows <+: s.db.audit.rows := by
      rw [hsplit, Runs.exec_append, hbefore] at hrun
      exact log_grows_run horder hrun
    have hno : ∀ user, X user = true → isAdmin cfg s₁.db user ≠ .ok true := by
      intro user huser h
      rcases byAdmin_of_isAdmin h with h | h
      · exact hadmin user huser h
      · have hkept := horder.audited.kept
        rw [← hkept.replay_eq] at h
        obtain ⟨e, he, hevent, hdetails⟩ := granted_of_mem_replay h
        exact hgranted user huser e (hlog.subset he) hevent
          (details_of_granted hkept.sound he hevent hdetails)
    have hother : ∀ {user user' : ℤ}, X user = true → X user' = false → user' ≠ user := by
      rintro user user' huser huser' rfl
      exact Bool.false_ne_true (huser'.symm.trans huser)
    cases a with
    | update env user u =>
      cases hs₂
      exact insideView_eq_iff.2 ⟨handle_outsider horder.complete (hno user hsilent),
        fun user' huser' => fsm_handle_of_ne s₁ env u (hother hsilent huser')⟩
    | dialog user next =>
      have hfsm : ∃ ctx, s₂ = { s₁ with fsm := Function.update s₁.fsm user ctx } := by
        cases next with
        | none =>
          cases hs₂
          exact ⟨_, rfl⟩
        | some next =>
          obtain ⟨-, hs₂⟩ := Option.ite_none_right_eq_some.1 hs₂
          cases hs₂
          exact ⟨_, rfl⟩
      obtain ⟨ctx, rfl⟩ := hfsm
      exact insideView_eq_iff.2
        ⟨rfl, fun user' huser' => Function.update_of_ne (hother hsilent huser') ..⟩
    | moderationMatch => cases hsilent
    | book => cases hsilent
    | shops => cases hsilent
    | restart => cases hsilent
  obtain ⟨t, ht, hview⟩ := Runs.exec_purge respects_outsiders rfl halong hrun
  obtain ⟨hdb, hfsm⟩ := insideView_eq_iff.1 hview
  exact ⟨t, ht, hdb.symm, fun user huser => (hfsm user huser).symm⟩

/-- The users beside the admin and the operator of that day. -/
def strangers (user : ℤ) : Bool := decide (user ≠ 1 ∧ user ≠ 42)

/-- Somebody taps on the buttons of the panel between the others. -/
def strangerDay : List AdminAct :=
  operatorDay.flatMap fun a =>
    [.update quietEnv 99 (.button .toggleMaintenance), a, .update quietEnv 99 (.button (.ownerGift 1)),
      .update quietEnv 99 (.message { text := some "7000" })]

theorem strangerDay_isSome :
    (Runs.exec (step oneAdmin .noMonths) (new .newBooks) strangerDay).isSome = true := by
  decide +kernel

theorem outsiders_without_influence_strangerDay :
    ∃ s t, Runs.exec (step oneAdmin .noMonths) (new .newBooks) strangerDay = some s ∧
      Runs.exec (step oneAdmin .noMonths) (new .newBooks)
        (strangerDay.filter fun a => !ofOutsider strangers a) = some t ∧
      s.db.books.wallet.transactions.rows.map WalletTransaction.amountToman = [5000] ∧ t.db = s.db := by
  have hrun := (Option.some_get strangerDay_isSome).symm
  have hadmin : ∀ user, strangers user = true → user ∉ oneAdmin.adminIds := fun user huser hmem =>
    (of_decide_eq_true huser).1 (List.mem_singleton.1 hmem)
  have hgranted : ∀ e ∈ (Option.get _ strangerDay_isSome).db.audit.rows,
      e.eventType = .OPERATOR_ADMIN_GRANTED → e.details = some (roleDetails 42) := by
    decide +kernel
  obtain ⟨t, ht, hdb, -⟩ := outsiders_without_influence hrun hadmin fun user huser e he hevent heq => by
    have htext : roleDetails user = roleDetails 42 :=
      Option.some.inj (heq.symm.trans (hgranted e he hevent))
    have hid := congrArg Rights.operatorOf htext
    rw [Rights.operatorOf_roleDetails, Rights.operatorOf_roleDetails] at hid
    exact (of_decide_eq_true huser).2 (Option.some.inj hid)
  exact ⟨_, t, hrun, ht, by decide +kernel, hdb⟩

end Outsiders

end PanelSystem

end KasbOKar
