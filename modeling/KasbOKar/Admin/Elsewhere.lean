import KasbOKar.Admin.Effects
import KasbOKar.Payment.Trace

/-!
# What the rest of the program leaves to the panel

The settings row, and the ledger rows with one of the two reasons of the panel, are written by no other act
on the books: `book_leaves`.
-/

namespace KasbOKar

namespace PaymentDb

/-- A reason for which only the panel books. -/
def ByPanel (q : WalletTransactionReason) : Prop := q = .ADMIN_GRANT ∨ q = .ADMIN_CORRECTION

/-- The settings, and the ledger rows for the panel's reasons, are as before. -/
structure Leaves (db db' : PaymentDb) : Prop where
  settings : db'.settings = db.settings
  ledger : ∀ q, ByPanel q → db'.wallet.ledgerOf q = db.wallet.ledgerOf q

/-- An act that is not the panel's has other reasons. -/
theorem notMem_reasons {act : BookAct} (hact : act.elsewhere = true) {q : WalletTransactionReason}
    (hq : ByPanel q) : q ∉ act.reasons := by
  intro hmem
  cases act with
  | ownerGift ownerId amountToman => cases hact
  | ownerWalletCorrection scan ownerId amountToman note => cases hact
  | deduct scan ownerId amountToman usage =>
    rcases hq with rfl | rfl <;> cases usage <;> simp [BookAct.reasons, Usage.reason] at hmem
  | _ => rcases hq with rfl | rfl <;> simp [BookAct.reasons] at hmem

theorem book_leaves {W : World} {db db' : PaymentDb} {now : Datetime} {committed : Bool} {act : BookAct}
    (hact : act.elsewhere = true) (h : db.book W (now, committed, act) = some db') : Leaves db db' := by
  have hmoved : Moved act.reasons db db' := by
    refine book_moved ?_ h
    rintro settings rfl
    cases hact
  exact ⟨hmoved.settings, fun q hq => hmoved.wallet.ledger (notMem_reasons hact hq)⟩

end PaymentDb

end KasbOKar
