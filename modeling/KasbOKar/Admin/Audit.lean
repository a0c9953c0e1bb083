import Mathlib
import KasbOKar.Admin.Elsewhere
import KasbOKar.Lib.Journal
import KasbOKar.Payment.Reconcile

/-!
# The audit log

`Rights` is what the log of the panel decides: who is an operator, and how the three kill switches stand.
In every state that the program reaches, both can be read off from the rows of the log, and every row was
written by somebody whom the configuration, or the rows before it, allow to do what it reports
(`audit_log_decides`).

The rows are read as they are stored: `operatorOf` and `switchOf` undo the texts of the details.
-/

namespace KasbOKar

open AdminPanel

/-- What the log decides. -/
structure Rights where
  operators : Finset ℤ
  switches : KillSwitch → Bool

namespace Rights

/-- A new installation has no operator, and is open. -/
def initial : Rights where
  operators := ∅
  switches := fun switch => switch != .maintenanceMode

/-- The id in the details of a row about an operator. -/
def operatorOf (details : String) : Option ℤ := (String.ofList (details.toList.drop 12)).toInt?

/-- The switch in the details of a row, and the value it got. -/
def switchOf (details : String) : Option (KillSwitch × Bool) :=
  [(.allowNewRegistrations, true), (.allowNewRegistrations, false), (.allowWalletTopups, true),
    (.allowWalletTopups, false), (.maintenanceMode, true), (.maintenanceMode, false)].find?
      fun x : KillSwitch × Bool => x.1.details x.2 == details

theorem operatorOf_roleDetails (telegramId : ℤ) : operatorOf (roleDetails telegramId) = some telegramId := by
  have hdrop : String.ofList ((roleDetails telegramId).toList.drop 12) = telegramId.repr := by
    unfold roleDetails
    rw [String.toList_append]
    exact String.ofList_toList
  unfold operatorOf
  rw [hdrop]
  exact Int.toInt?_repr telegramId

theorem switchOf_details (switch : KillSwitch) (value : Bool) :
    switchOf (switch.details value) = some (switch, value) := by
  cases switch <;> cases value <;> decide

/-- The rights after one more row. -/
def apply (r : Rights) (e : AuditLogEntry) : Rights :=
  match e.eventType with
  | .OPERATOR_ADMIN_GRANTED =>
    match e.details.bind operatorOf with
    | some telegramId => { r with operators := insert telegramId r.operators }
    | none => r
  | .OPERATOR_ADMIN_REVOKED =>
    match e.details.bind operatorOf with
    | some telegramId => { r with operators := r.operators.erase telegramId }
    | none => r
  | .KILL_SWITCH_TOGGLED =>
    match e.details.bind switchOf with
    | some (switch, value) => { r with switches := Function.update r.switches switch value }
    | none => r
  | _ => r

/-- The actor is an admin of the configuration. -/
def BySuperAdmin (cfg : PanelConfig) (e : AuditLogEntry) : Prop :=
  ∃ actor ∈ cfg.adminIds, e.actorTelegramId = some actor

/-- The actor is an admin of the configuration, or an operator. -/
def ByAdmin (cfg : PanelConfig) (r : Rights) (e : AuditLogEntry) : Prop :=
  ∃ actor, (actor ∈ cfg.adminIds ∨ actor ∈ r.operators) ∧ e.actorTelegramId = some actor

/-- What a row may report, and who may do that. -/
def may (cfg : PanelConfig) (r : Rights) (e : AuditLogEntry) : Prop :=
  match e.eventType with
  | .MODERATION_MATCH => e.shopBotId.isSome
  | .KILL_SWITCH_TOGGLED =>
    BySuperAdmin cfg e ∧ ∃ switch : KillSwitch, e.details = some (switch.details !r.switches switch)
  | .OPERATOR_ADMIN_GRANTED => BySuperAdmin cfg e ∧ ∃ telegramId,
    telegramId ∉ cfg.adminIds ∧ telegramId ∉ r.operators ∧ e.details = some (roleDetails telegramId)
  | .OPERATOR_ADMIN_REVOKED =>
    BySuperAdmin cfg e ∧ ∃ telegramId ∈ r.operators, e.details = some (roleDetails telegramId)
  | .SHOP_SUSPENDED => ByAdmin cfg r e ∧ e.shopBotId.isSome
  | .SHOP_UNSUSPENDED => ByAdmin cfg r e ∧ e.shopBotId.isSome
  | .OWNER_GIFT_GRANTED => ByAdmin cfg r e ∧ ∃ ownerId amountToman,
    0 < amountToman ∧ e.details = some (giftDetails ownerId amountToman)
  | .OWNER_WALLET_CORRECTED => ByAdmin cfg r e ∧ ∃ ownerId amountToman note,
    amountToman ≠ 0 ∧ note ≠ "" ∧ note.length ≤ 255 ∧
      e.details = some (correctionDetails ownerId amountToman note)
  -- no code writes these
  | .ADMIN_SETTING_CHANGED => False
  | .PAYMENT_APPROVED => False
  | .PAYMENT_REJECTED => False

end Rights

/-- The rights that the tables grant. -/
def PanelDb.rights (db : PanelDb) : Rights where
  operators := (db.roles.rows.map AdminRole.telegramId).toFinset
  switches := fun switch => switch.read db

namespace AdminPanel

/-- Nobody is an operator twice. -/
def UniqueOperators (db : PanelDb) : Prop := (db.roles.rows.map AdminRole.telegramId).Nodup

/-- The log of the tables decides their rights. -/
structure Audited (cfg : PanelConfig) (db : PanelDb) : Prop where
  unique : UniqueOperators db
  kept : Journal.Kept Rights.apply (Rights.may cfg) Rights.initial db.rights db.audit.rows

section Effects

variable {cfg : PanelConfig} {env : PanelEnv} {user : ℤ} {db db' : PanelDb}

/-- The row that is logged next. -/
def nextEntry (db : PanelDb) (event : AuditEventType) (shopBotId : Option ℕ) (actor : ℤ)
    (details : Option String) : AuditLogEntry :=
  { id := db.audit.last + 1, eventType := event, shopBotId := shopBotId, actorTelegramId := some actor,
    details := details }

theorem rows_log (event : AuditEventType) (shopBotId : Option ℕ) (actor : ℤ) (details : Option String) :
    (db.log event shopBotId (some actor) details).audit.rows =
      db.audit.rows ++ [nextEntry db event shopBotId actor details] := Serial.rows_add ..

theorem rights_congr (hroles : db'.roles = db.roles)
    (hswitches : ∀ switch : KillSwitch, switch.read db' = switch.read db) : db'.rights = db.rights := by
  unfold PanelDb.rights
  rw [hroles, funext hswitches]

/-- A change that is not logged leaves the rights alone. -/
theorem Audited.of_eq (h : Audited cfg db) (hroles : db'.roles = db.roles)
    (hswitches : ∀ switch : KillSwitch, switch.read db' = switch.read db)
    (haudit : db'.audit = db.audit) : Audited cfg db' := by
  refine ⟨?_, ?_⟩
  · unfold UniqueOperators
    rw [hroles]
    exact h.unique
  · rw [rights_congr hroles hswitches, haudit]
    exact h.kept

/-- A change that is logged, with a row that reports it and may be written. -/
theorem Audited.log (h : Audited cfg db) {event : AuditEventType} {shopBotId : Option ℕ} {actor : ℤ}
    {details : Option String} (hunique : UniqueOperators db') (haudit : db'.audit = db.audit)
    (happly : Rights.apply db.rights (nextEntry db event shopBotId actor details) = db'.rights)
    (hmay : Rights.may cfg db.rights (nextEntry db event shopBotId actor details)) :
    Audited cfg (db'.log event shopBotId (some actor) details) := by
  have hentry : nextEntry db' event shopBotId actor details = nextEntry db event shopBotId actor details := by
    unfold nextEntry
    rw [haudit]
  refine ⟨hunique, ?_⟩
  rw [rows_log, hentry, haudit]
  have hkept := h.kept.snoc hmay
  rw [happly] at hkept
  exact hkept

theorem Assigned.frame (h : Assigned db db') : db'.roles = db.roles ∧ db'.audit = db.audit ∧
    (∀ switch : KillSwitch, switch.read db' = switch.read db) ∧ db'.books.wallet = db.books.wallet := by
  cases h with
  | zarinpal => exact ⟨rfl, rfl, fun switch => by cases switch <;> rfl, rfl⟩
  | balePay _ => exact ⟨rfl, rfl, fun switch => by cases switch <;> rfl, rfl⟩
  | int _ =>
    rename_i field value _
    cases field <;> exact ⟨rfl, rfl, fun switch => by cases switch <;> rfl, rfl⟩
  | text =>
    rename_i field value
    cases field <;> exact ⟨rfl, rfl, fun switch => by cases switch <;> rfl, rfl⟩
  | nullableText =>
    rename_i field value
    cases field <;> exact ⟨rfl, rfl, fun switch => by cases switch <;> rfl, rfl⟩
  | decimal _ =>
    rename_i field value _
    cases field <;> exact ⟨rfl, rfl, fun switch => by cases switch <;> rfl, rfl⟩
  | rateLimit _ _ => exact ⟨rfl, rfl, fun switch => by cases switch <;> rfl, rfl⟩

theorem mem_operators {telegramId : ℤ} :
    telegramId ∈ db.rights.operators ↔ ∃ r ∈ db.roles.rows, r.telegramId = telegramId := by
  unfold PanelDb.rights
  rw [List.mem_toFinset, List.mem_map]

/-- What `IsAdmin` lets pass. -/
theorem byAdmin_of_isAdmin (h : isAdmin cfg db user = .ok true) :
    user ∈ cfg.adminIds ∨ user ∈ db.rights.operators := by
  unfold isAdmin isSuperAdmin at h
  split_ifs at h with hsuper
  · exact .inl (of_decide_eq_true hsuper)
  · unfold PanelDb.isOperator PanelDb.getByTelegramId at h
    obtain ⟨found, hfound, hsome⟩ := map_ok h
    obtain ⟨role, rfl⟩ := Option.isSome_iff_exists.1 hsome
    split_ifs at hfound
    have hmem : role ∈ db.roles.rows.filter fun r => r.telegramId == user :=
      scalarOneOrNone_some hfound ▸ List.mem_singleton_self role
    rw [List.mem_filter] at hmem
    exact .inr (mem_operators.2 ⟨role, hmem.1, beq_iff_eq.1 hmem.2⟩)

theorem operators_revoke (hunique : UniqueOperators db) {role : AdminRole} (hrole : role ∈ db.roles.rows) :
    (db.revoke role).rights.operators = db.rights.operators.erase role.telegramId := by
  ext telegramId
  rw [Finset.mem_erase, mem_operators, mem_operators]
  constructor
  · rintro ⟨r, hr, rfl⟩
    obtain ⟨hr, hne⟩ := Serial.mem_delete.1 hr
    refine ⟨fun heq => hne ?_, r, hr, rfl⟩
    exact congrArg AdminRole.id (List.inj_on_of_nodup_map hunique hr hrole heq)
  · rintro ⟨hne, r, hr, rfl⟩
    refine ⟨r, Serial.mem_delete.2 ⟨hr, fun heq => hne ?_⟩, rfl⟩
    rw [db.roles.table.eq_of_id_eq hr hrole heq]

theorem uniqueOperators_revoke (hunique : UniqueOperators db) (role : AdminRole) :
    UniqueOperators (db.revoke role) :=
  hunique.sublist (List.filter_sublist.map _)

theorem apply_granted {r : Rights} {e : AuditLogEntry} {telegramId : ℤ}
    (hevent : e.eventType = .OPERATOR_ADMIN_GRANTED) (hdetails : e.details = some (roleDetails telegramId)) :
    r.apply e = { r with operators := insert telegramId r.operators } := by
  unfold Rights.apply
  rw [hevent, hdetails, Option.bind_some, Rights.operatorOf_roleDetails]

theorem apply_revoked {r : Rights} {e : AuditLogEntry} {telegramId : ℤ}
    (hevent : e.eventType = .OPERATOR_ADMIN_REVOKED) (hdetails : e.details = some (roleDetails telegramId)) :
    r.apply e = { r with operators := r.operators.erase telegramId } := by
  unfold Rights.apply
  rw [hevent, hdetails, Option.bind_some, Rights.operatorOf_roleDetails]

theorem apply_toggled {r : Rights} {e : AuditLogEntry} {switch : KillSwitch} {value : Bool}
    (hevent : e.eventType = .KILL_SWITCH_TOGGLED) (hdetails : e.details = some (switch.details value)) :
    r.apply e = { r with switches := Function.update r.switches switch value } := by
  unfold Rights.apply
  rw [hevent, hdetails]
  dsimp only
  rw [Option.bind_some, Rights.switchOf_details]

theorem switches_write (switch : KillSwitch) (value : Bool) :
    (fun k : KillSwitch => k.read (switch.write db value)) =
      Function.update (fun k : KillSwitch => k.read db) switch value := by
  funext k
  cases switch <;> cases k <;> rfl

/-- What an update does is logged, as far as the log is to decide about it. -/
theorem PanelEffect.audited (heffect : PanelEffect cfg env user db db')
    (hadmin : isAdmin cfg db user = .ok true) (h : Audited cfg db) : Audited cfg db' := by
  have hby : ∀ e : AuditLogEntry, e.actorTelegramId = some user → Rights.ByAdmin cfg db.rights e :=
    fun e he => ⟨user, byAdmin_of_isAdmin hadmin, he⟩
  cases heffect with
  | same => exact h
  | granted huser hother hnew =>
    rename_i telegramId
    have hfresh : telegramId ∉ db.roles.rows.map AdminRole.telegramId := by
      intro hmem
      obtain ⟨r, hr, heq⟩ := List.mem_map.1 hmem
      exact hnew r hr heq
    refine h.log ?_ rfl ?_ ⟨⟨user, huser, rfl⟩, telegramId, hother, ?_, rfl⟩
    · unfold UniqueOperators
      rw [Serial.rows_add, List.map_append]
      exact h.unique.append (List.nodup_singleton _) (List.disjoint_singleton.2 hfresh)
    · rw [apply_granted rfl rfl]
      unfold PanelDb.rights
      rw [Serial.rows_add, List.map_append, List.toFinset_append, Finset.union_comm]
      rfl
    · exact fun hmem => hfresh (List.mem_toFinset.1 hmem)
  | revoked huser hrole =>
    rename_i role
    refine h.log (uniqueOperators_revoke h.unique role) rfl ?_
      ⟨⟨user, huser, rfl⟩, role.telegramId, mem_operators.2 ⟨role, hrole, rfl⟩, rfl⟩
    rw [apply_revoked rfl rfl, ← operators_revoke h.unique hrole]
    rfl
  | toggled switch huser =>
    have hroles : (switch.write db !switch.read db).roles = db.roles := by cases switch <;> rfl
    refine h.log ?_ (by cases switch <;> rfl) ?_ ⟨⟨user, huser, rfl⟩, switch, rfl⟩
    · unfold UniqueOperators
      rw [hroles]
      exact h.unique
    · rw [apply_toggled rfl rfl]
      unfold PanelDb.rights
      rw [hroles, switches_write]
  | assigned _ hassigned =>
    obtain ⟨hroles, haudit, hswitches, -⟩ := hassigned.frame
    exact h.of_eq hroles hswitches haudit
  | planned _ _ => exact h.of_eq rfl (fun switch => by cases switch <;> rfl) rfl
  | pooled _ _ => exact h.of_eq rfl (fun switch => by cases switch <;> rfl) rfl
  | channelled _ => exact h.of_eq rfl (fun switch => by cases switch <;> rfl) rfl
  | ruled _ => exact h.of_eq rfl (fun switch => by cases switch <;> rfl) rfl
  | activated hevent =>
    rename_i shopBotId isActive reason event
    cases isActive with
    | false =>
      obtain rfl : event = .SHOP_SUSPENDED := hevent
      refine h.log h.unique rfl (rights_congr rfl fun switch => ?_).symm ⟨hby _ rfl, rfl⟩
      cases switch <;> rfl
    | true =>
      obtain rfl : event = .SHOP_UNSUSPENDED := hevent
      refine h.log h.unique rfl (rights_congr rfl fun switch => ?_).symm ⟨hby _ rfl, rfl⟩
      cases switch <;> rfl
  | gifted hpos hadd =>
    obtain ⟨wallet, -, rfl⟩ := PaymentDb.addCharge_ok hadd
    refine h.log h.unique rfl (rights_congr rfl fun switch => ?_).symm ⟨hby _ rfl, _, _, hpos, rfl⟩
    cases switch <;> rfl
  | corrected _ hamount hne hlength happly =>
    obtain ⟨wallet, rfl⟩ := applyCorrection_wallet happly
    refine h.log h.unique rfl (rights_congr rfl fun switch => ?_).symm
      ⟨hby _ rfl, _, _, _, hamount, hne, hlength, rfl⟩
    cases switch <;> rfl

end Effects

end AdminPanel

namespace PanelSystem

variable {cfg : PanelConfig} {W : World}

/-- The invariant of the panel: no dialog lacks an answer, and the log decides the rights. -/
structure InOrder (cfg : PanelConfig) (s : PanelSystem) : Prop where
  complete : s.Complete
  audited : Audited cfg s.db

theorem complete_update {s : PanelSystem} (hc : s.Complete) {user : ℤ} {ctx : DialogContext}
    (h : AdminPanel.Complete ctx) (db : PanelDb) :
    PanelSystem.Complete { db := db, fsm := Function.update s.fsm user ctx } := by
  intro user'
  show AdminPanel.Complete (Function.update s.fsm user ctx user')
  rcases eq_or_ne user' user with rfl | hne
  · rw [Function.update_self]
    exact h
  · rw [Function.update_of_ne hne]
    exact hc user'

theorem InOrder.step {s s' : PanelSystem} {a : AdminAct} (h : s.InOrder cfg)
    (hs : s.step cfg W a = some s') : s'.InOrder cfg := by
  cases a with
  | update env user u =>
    cases hs
    obtain ⟨hcomplete, hdb, -⟩ := handle_spec h.complete env user u
    refine ⟨hcomplete, ?_⟩
    rcases hdb with hsame | ⟨heffect, hadmin⟩
    · rw [hsame]
      exact h.audited
    · exact heffect.audited hadmin h.audited
  | dialog user next =>
    cases next with
    | none =>
      cases hs
      exact ⟨complete_update h.complete complete_empty s.db, h.audited⟩
    | some next =>
      obtain ⟨hnext, hs⟩ := Option.ite_none_right_eq_some.1 hs
      cases hs
      refine ⟨complete_update h.complete ?_ s.db, h.audited⟩
      exact .state (h.complete user).accepted (by rcases hnext with rfl | rfl <;> trivial)
  | moderationMatch shopBotId actor details =>
    cases hs
    refine ⟨h.complete, h.audited.log h.audited.unique rfl ?_ rfl⟩
    exact (rights_congr rfl fun switch => by cases switch <;> rfl).symm
  | book now committed act =>
    obtain ⟨hact, hs⟩ := Option.ite_none_right_eq_some.1 hs
    obtain ⟨books, hbook, rfl⟩ := Option.map_eq_some_iff.1 hs
    have hsettings := (PaymentDb.book_leaves hact hbook).settings
    refine ⟨h.complete, h.audited.of_eq rfl (fun switch => ?_) rfl⟩
    cases switch <;> unfold KillSwitch.read <;> rw [hsettings]
  | shops shops =>
    cases hs
    exact ⟨h.complete, h.audited.of_eq rfl (fun switch => by cases switch <;> rfl) rfl⟩
  | restart =>
    cases hs
    exact ⟨fun _ => complete_empty, h.audited⟩

theorem inOrder_new (books : PaymentDb) : (new books).InOrder cfg := by
  refine ⟨fun _ => complete_empty, List.nodup_nil, ?_⟩
  have hrights : (new books).db.rights = Rights.initial := by
    unfold PanelDb.rights Rights.initial
    refine congrArg (Rights.mk ∅) (funext fun switch => ?_)
    cases switch <;> rfl
  rw [hrights]
  exact Journal.kept_nil

theorem inOrder_of_run {books : PaymentDb} {acts : List AdminAct} {s : PanelSystem}
    (hrun : Runs.exec (step cfg W) (new books) acts = some s) : s.InOrder cfg :=
  Runs.exec_inv_of_step (fun _ _ _ h hs => InOrder.step h hs) acts _ _ (inOrder_new books) hrun

/-- **The audit log decides the rights.**  After every run of a new installation, the operators and the
switches are those that the rows of the log lead to, and every row was written by somebody whom the
rows before it allowed to do what it reports. -/
theorem audit_log_decides {books : PaymentDb} {acts : List AdminAct} {s : PanelSystem}
    (hrun : Runs.exec (step cfg W) (new books) acts = some s) :
    Journal.replay Rights.apply Rights.initial s.db.audit.rows = s.db.rights ∧
      Journal.Sound Rights.apply (Rights.may cfg) Rights.initial s.db.audit.rows :=
  have hkept := (inOrder_of_run hrun).audited.kept
  ⟨hkept.replay_eq, hkept.sound⟩

/-- All calls succeed, and no channel is found. -/
def quietEnv : PanelEnv where
  now := 0
  scan := .plain
  send := fun _ => none
  decimal := fun _ => none
  getChat := fun _ => .error .TelegramAPIError
  isAdministrator := fun _ => .ok false
  createChatInviteLink := fun _ => .error .TelegramAPIError
  send_ne_keyError := fun _ => nofun
  getChat_ne_keyError := fun _ => nofun
  isAdministrator_ne_keyError := fun _ => nofun
  createChatInviteLink_ne_keyError := fun _ => nofun

def oneAdmin : PanelConfig := { adminIds := [1], botUsername := "kasb" }

/-- An operator is added, gives a gift, and is removed, after which a second gift is not given. -/
def operatorDay : List AdminAct :=
  [.book 0 true (.register 11 none "AAAA"),
    .update quietEnv 1 (.button .adminRoleAdd),
    .update quietEnv 1 (.message { text := some " 42 " }),
    .update quietEnv 42 (.button (.ownerGift 1)),
    .update quietEnv 42 (.message { text := some "5000" }),
    .update quietEnv 42 (.button .toggleMaintenance),
    .update quietEnv 1 (.button .toggleMaintenance),
    .update quietEnv 42 (.button (.ownerGift 1)),
    .update quietEnv 1 (.button (.adminRoleRevoke 1)),
    .update quietEnv 42 (.message { text := some "6000" })]

theorem operatorDay_isSome :
    (Runs.exec (step oneAdmin .noMonths) (new .newBooks) operatorDay).isSome = true := by
  decide +kernel

theorem audit_log_decides_operatorDay :
    ∃ s, Runs.exec (step oneAdmin .noMonths) (new .newBooks) operatorDay = some s ∧
      s.db.audit.rows.map AuditLogEntry.eventType =
        [.OPERATOR_ADMIN_GRANTED, .OWNER_GIFT_GRANTED, .KILL_SWITCH_TOGGLED, .OPERATOR_ADMIN_REVOKED] ∧
      s.db.roles.rows = [] ∧
      Journal.replay Rights.apply Rights.initial s.db.audit.rows = s.db.rights ∧
      Journal.Sound Rights.apply (Rights.may oneAdmin) Rights.initial s.db.audit.rows := by
  refine ⟨_, (Option.some_get operatorDay_isSome).symm, by decide +kernel, by decide +kernel, ?_⟩
  exact audit_log_decides (Option.some_get operatorDay_isSome).symm

end PanelSystem

end KasbOKar
