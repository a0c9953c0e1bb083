import KasbOKar.Admin.Audit

/-!
# The panel works on the books

What the panel does to the tables of payments and wallets is one act of the books, or none
(`PanelEffect.book`).  So a run of the panel is a run of the books (`panel_refines_books`), and what holds
after every run of the books holds after every run of the panel; the reconciliation is such a property
(`panel_reconciles`).
-/

namespace KasbOKar

open AdminPanel

namespace AdminPanel

section Effects

variable {cfg : PanelConfig} {env : PanelEnv} {user : ℤ} {db db' : PanelDb} (W : World)

/-- These acts lead from the books of one state to those of another. -/
def BookedBy (db db' : PanelDb) (acts : List (Datetime × Bool × BookAct)) : Prop :=
  acts.length ≤ 1 ∧ Runs.exec (PaymentDb.book W) db.books acts = some db'.books

theorem bookedBy_nothing (h : db'.books = db.books) : BookedBy W db db' [] :=
  ⟨Nat.zero_le 1, congrArg some h.symm⟩

/-- An act that does not raise, committed. -/
theorem bookedBy_act (now : Datetime) (act : BookAct)
    (h : db.books.perform W now act = .ok db'.books) : BookedBy W db db' [(now, true, act)] := by
  refine ⟨le_rfl, ?_⟩
  have hbook : db.books.book W (now, true, act) = some db'.books := by
    unfold PaymentDb.book
    dsimp only
    rw [h]
    rfl
  unfold Runs.exec
  rw [hbook]
  rfl

theorem Assigned.books (h : Assigned db db') : db'.books = { db.books with settings := db'.books.settings } := by
  cases h with
  | zarinpal => rfl
  | balePay _ => rfl
  | int _ =>
    rename_i field value _
    cases field <;> rfl
  | text =>
    rename_i field value
    cases field <;> rfl
  | nullableText =>
    rename_i field value
    cases field <;> rfl
  | decimal _ =>
    rename_i field value _
    cases field <;> rfl
  | rateLimit _ _ => rfl

/-- **What the panel does to the books.** -/
theorem PanelEffect.book (heffect : PanelEffect cfg env user db db') : ∃ acts, BookedBy W db db' acts := by
  have hsettings : ∀ settings, db'.books = { db.books with settings := settings } →
      ∃ acts, BookedBy W db db' acts := by
    intro settings h
    refine ⟨_, bookedBy_act W env.now (.setSettings settings) ?_⟩
    rw [h]
    rfl
  cases heffect with
  | same => exact ⟨[], bookedBy_nothing W rfl⟩
  | granted _ _ _ => exact ⟨[], bookedBy_nothing W rfl⟩
  | revoked _ _ => exact ⟨[], bookedBy_nothing W rfl⟩
  | toggled switch _ => cases switch <;> exact hsettings _ rfl
  | assigned _ hassigned => exact hsettings _ hassigned.books
  | planned _ _ => exact ⟨[], bookedBy_nothing W rfl⟩
  | pooled _ _ => exact ⟨[], bookedBy_nothing W rfl⟩
  | channelled _ => exact ⟨[], bookedBy_nothing W rfl⟩
  | ruled _ => exact ⟨[], bookedBy_nothing W rfl⟩
  | activated _ => exact ⟨[], bookedBy_nothing W rfl⟩
  | gifted hpos hadd =>
    rename_i ownerId amountToman books c shopBotId
    have howner := (PaymentDb.addCharge_same hadd).2.1
    refine ⟨_, bookedBy_act W env.now (.ownerGift ownerId amountToman) ?_⟩
    show db.books.ownerGiftAmountEntered env.now ownerId amountToman = .ok books
    unfold PaymentDb.ownerGiftAmountEntered
    rw [if_neg (not_or.2 ⟨not_le.2 hpos, not_not.2 howner⟩), hadd]
    rfl
  | corrected howner hamount hne hlength happly =>
    rename_i ownerId amountToman note db₁ shopBotId
    refine ⟨_, bookedBy_act W env.now (.ownerWalletCorrection env.scan ownerId amountToman note) ?_⟩
    show db.books.ownerWalletCorrectionReasonEntered env.now env.scan ownerId amountToman note =
      .ok db₁.books
    unfold PaymentDb.ownerWalletCorrectionReasonEntered
    rw [if_neg (not_or.2 ⟨hne, not_or.2 ⟨not_lt.2 hlength, not_not.2 howner⟩⟩)]
    unfold applyCorrection at happly
    split_ifs at happly ⊢
    · obtain ⟨⟨wallet, c⟩, hadd, happly⟩ := bind_ok happly
      cases happly
      rw [hadd]
      rfl
    · obtain ⟨⟨wallet, applied⟩, hdeduct, happly⟩ := bind_ok happly
      cases happly
      rw [hdeduct]
      rfl

end Effects

end AdminPanel

namespace PanelSystem

variable {cfg : PanelConfig} {W : World}

theorem book_of_step {s s' : PanelSystem} {a : AdminAct} (hc : s.Complete)
    (hs : s.step cfg W a = some s') : ∃ acts, BookedBy W s.db s'.db acts := by
  cases a with
  | update env user u =>
    cases hs
    rcases (handle_spec hc env user u).2.1 with hsame | ⟨heffect, -⟩
    · exact ⟨[], bookedBy_nothing W (congrArg PanelDb.books hsame)⟩
    · exact heffect.book W
  | dialog user next =>
    cases next with
    | none =>
      cases hs
      exact ⟨[], bookedBy_nothing W rfl⟩
    | some next =>
      obtain ⟨-, hs⟩ := Option.ite_none_right_eq_some.1 hs
      cases hs
      exact ⟨[], bookedBy_nothing W rfl⟩
  | moderationMatch shopBotId actor details =>
    cases hs
    exact ⟨[], bookedBy_nothing W rfl⟩
  | book now committed act =>
    obtain ⟨-, hs⟩ := Option.ite_none_right_eq_some.1 hs
    obtain ⟨books, hbook, rfl⟩ := Option.map_eq_some_iff.1 hs
    refine ⟨[(now, committed, act)], le_rfl, ?_⟩
    unfold Runs.exec
    rw [hbook]
    rfl
  | shops shops =>
    cases hs
    exact ⟨[], bookedBy_nothing W rfl⟩
  | restart =>
    cases hs
    exact ⟨[], bookedBy_nothing W rfl⟩

/-- The books of a new installation. -/
def booksOf (books : PaymentDb) : PaymentDb := { books with settings := {} }

/-- A run of the panel is a run of the books, of no more acts. -/
theorem panel_refines_books {books : PaymentDb} {acts : List AdminAct} {s : PanelSystem}
    (hrun : Runs.exec (step cfg W) (new books) acts = some s) :
    ∃ bookActs : List (Datetime × Bool × BookAct), bookActs.length ≤ acts.length ∧
      Runs.exec (PaymentDb.book W) (booksOf books) bookActs = some s.db.books := by
  have halong : Runs.Along (step cfg W) (fun _ _ => True) (new books) acts :=
    Runs.along_of_forall (fun _ _ => trivial) acts _
  refine (Runs.exec_history (I := fun (acts : List AdminAct) (s : PanelSystem) => s.InOrder cfg ∧
    ∃ bookActs : List (Datetime × Bool × BookAct), bookActs.length ≤ acts.length ∧
      Runs.exec (PaymentDb.book W) (booksOf books) bookActs = some s.db.books)
    ⟨inOrder_new books, [], le_rfl, rfl⟩ ?_ acts s halong hrun).2
  rintro acts s a s' - ⟨horder, bookActs, hlength, hbooks⟩ - hs
  obtain ⟨more, hone, hmore⟩ := book_of_step horder.complete hs
  refine ⟨horder.step hs, bookActs ++ more, ?_, ?_⟩
  · rw [List.length_append, List.length_append]
    exact add_le_add hlength hone
  · rw [Runs.exec_append, hbooks]
    exact hmore

/-- **The books reconcile beside the panel.**  From a platform without any booking on, a run of the panel,
with its gifts, corrections and settings between payments, messages and sweeps, is a run of the books, and
at its end the charges and the ledger agree with the payments. -/
theorem panel_reconciles {books : PaymentDb} (hnone : PaymentDb.NoBooks books) {acts : List AdminAct}
    {s : PanelSystem} (hrun : Runs.exec (step cfg W) (new books) acts = some s) :
    (∃ bookActs : List (Datetime × Bool × BookAct), bookActs.length ≤ acts.length ∧
      Runs.exec (PaymentDb.book W) (booksOf books) bookActs = some s.db.books) ∧
      PaymentDb.Reconciled s.db.books := by
  obtain ⟨bookActs, hlength, hbooks⟩ := panel_refines_books hrun
  have hstart : PaymentDb.NoBooks (booksOf books) := ⟨hnone.payments, hnone.charges, hnone.transactions⟩
  have hkeys := Runs.exec_inv_of_step (I := PaymentDb.KeysReconciled) (fun _ _ _ h hs => h.step hs)
    bookActs _ _ hstart.keysReconciled hbooks
  exact ⟨⟨bookActs, hlength, hbooks⟩, hkeys.reconciled⟩

/-- A top-up is requested, the cost of a message is raised, a gift is given, and the top-up approved. -/
def topupDay : List AdminAct :=
  let typed (text : String) : AdminAct := .update quietEnv 1 (.message { text := some text })
  [.book 0 true (.register 11 none "AAAA"),
    .book 1 true (.createCard (fun _ => Panel.draw₁) 1 100000 none none .WALLET_TOPUP),
    .update quietEnv 1 (.button (.settingEdit "wallet_cost_per_1k_tokens_toman")), typed "70",
    .update quietEnv 1 (.button (.ownerGift 1)), typed "5000",
    .book 2 true (.adminApprove (fun _ => true) 1 1)]

theorem topupDay_isSome :
    (Runs.exec (step oneAdmin .noMonths) (new .newBooks) topupDay).isSome = true := by
  decide +kernel

theorem panel_reconciles_topupDay :
    ∃ s, Runs.exec (step oneAdmin .noMonths) (new .newBooks) topupDay = some s ∧
      s.db.books.settings.walletCostPer1kTokensToman = 70 ∧
      s.db.books.wallet.charges.rows.map WalletCharge.amountToman = [5000, 100010] ∧
      PaymentDb.Reconciled s.db.books := by
  refine ⟨_, (Option.some_get topupDay_isSome).symm, by decide +kernel, by decide +kernel, ?_⟩
  exact (panel_reconciles PaymentDb.noBooks_newBooks (Option.some_get topupDay_isSome).symm).2

end PanelSystem

end KasbOKar
