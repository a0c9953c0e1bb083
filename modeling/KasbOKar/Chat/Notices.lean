import KasbOKar.Chat.Transactions

/-!
# The notices about the credit

`try_claim_empty_notification` and `try_claim_low_balance_notification` decide in the database who may
send a notice: an `UPDATE` whose `WHERE` clause looks at the time of the last one.  `add_charge` clears
both times.

Each time is a small state machine (`NoticeKind.after`), and two notices in one of its runs are apart as
long as nothing clears it (`renotified`).  `exec_noticeLog` says that the committed transactions, in the
order of their commits, are such a run, however they are interleaved; `notices_apart` follows.
-/

namespace KasbOKar

open ReadCommitted

inductive NoticeKind where
  | empty
  | lowBalance
  deriving DecidableEq

/-- What a committed call has done: a claim, granted or not, or a charge. -/
inductive NoticeEvent where
  | claimed (kind : NoticeKind) (now : Datetime) (granted : Bool)
  | charged
  deriving DecidableEq

namespace NoticeKind

/-- The column with the time of the last notice. -/
def notifiedAt : NoticeKind → ShopOwner → Option Datetime
  | empty => ShopOwner.walletEmptyNotifiedAt
  | lowBalance => ShopOwner.walletLowBalanceNotifiedAt

def renotifyHours : NoticeKind → ℤ
  | empty => ChatDb.emptyRenotifyHours
  | lowBalance => ChatDb.lowBalanceRenotifyHours

/-- The row change of a claim. -/
def edit (ownerId : ℕ) (now : Datetime) : NoticeKind → ChatEdit
  | empty => .notifiedEmpty ownerId now
  | lowBalance => .notifiedLow ownerId now

/-- What the row change writes. -/
def write (now : Datetime) (o : ShopOwner) : NoticeKind → ShopOwner
  | empty => { o with walletEmptyNotifiedAt := some now }
  | lowBalance => { o with walletLowBalanceNotifiedAt := some now }

@[simp] theorem write_id (now : Datetime) (o : ShopOwner) (kind : NoticeKind) :
    (kind.write now o).id = o.id := by
  cases kind <;> rfl

theorem notifiedAt_write (now : Datetime) (o : ShopOwner) (k kind : NoticeKind) :
    kind.notifiedAt (k.write now o) = if k = kind then some now else kind.notifiedAt o := by
  cases k <;> cases kind <;> rfl

/-! ## The time of the last notice -/

/-- The column after an event; a claim is granted only when the last notice is long enough ago. -/
def after (kind : NoticeKind) (v : Option Datetime) : NoticeEvent → Option (Option Datetime)
  | .claimed k now true =>
    if k = kind then
      if ChatDb.claimable v now kind.renotifyHours then some (some now) else none
    else some v
  | .claimed _ _ false => some v
  | .charged => some none

/-- A claim of the same kind that was granted. -/
theorem after_granted {kind : NoticeKind} {v v' : Option Datetime} {now : Datetime}
    (h : kind.after v (.claimed kind now true) = some v') :
    ChatDb.claimable v now kind.renotifyHours = true ∧ v' = some now := by
  unfold after at h
  dsimp only at h
  rw [if_pos rfl] at h
  split_ifs at h with hclaim
  exact ⟨hclaim, (Option.some.inj h).symm⟩

theorem renotifyHours_nonneg (kind : NoticeKind) : 0 ≤ hours kind.renotifyHours := by
  cases kind <;> decide

/-- Without a charge the time of the last notice only grows. -/
theorem after_of_ne_charged {kind : NoticeKind} {t : Datetime} {v : Option Datetime} {e : NoticeEvent}
    (he : e ≠ .charged) (h : kind.after (some t) e = some v) : ∃ t', v = some t' ∧ t ≤ t' := by
  cases e with
  | charged => exact absurd rfl he
  | claimed k now granted =>
    cases granted with
    | false => exact ⟨t, (Option.some.inj h).symm, le_refl t⟩
    | true =>
      unfold after at h
      dsimp only at h
      split_ifs at h with hk hclaim
      · have hle : t ≤ now - hours kind.renotifyHours := of_decide_eq_true hclaim
        have hpos := kind.renotifyHours_nonneg
        exact ⟨now, (Option.some.inj h).symm, hle.trans (sub_le_self now hpos)⟩
      · exact ⟨t, (Option.some.inj h).symm, le_refl t⟩

theorem exec_after_le {kind : NoticeKind} {v : Option Datetime} (log : List NoticeEvent) :
    ∀ t, .charged ∉ log → Runs.exec kind.after (some t) log = some v → ∃ t', v = some t' ∧ t ≤ t' := by
  induction log with
  | nil =>
    intro t _ h
    exact ⟨t, (Option.some.inj h).symm, le_refl t⟩
  | cons e log ih =>
    intro t hno h
    rw [List.mem_cons, not_or] at hno
    obtain ⟨v₁, h₁, h₂⟩ := Runs.exec_cons h
    obtain ⟨t₁, rfl, hle⟩ := after_of_ne_charged (Ne.symm hno.1) h₁
    obtain ⟨t₂, rfl, hle'⟩ := ih t₁ hno.2 h₂
    exact ⟨t₂, rfl, hle.trans hle'⟩

/-- **Two notices of a run are apart**, as long as no charge comes between them. -/
theorem renotified {kind : NoticeKind} {v v' : Option Datetime} {t t' : Datetime}
    {first between last : List NoticeEvent} (hno : .charged ∉ between)
    (h : Runs.exec kind.after v
      (first ++ .claimed kind t true :: (between ++ .claimed kind t' true :: last)) = some v') :
    t + hours kind.renotifyHours ≤ t' := by
  rw [Runs.exec_append] at h
  obtain ⟨v₁, -, h⟩ := Option.bind_eq_some_iff.1 h
  obtain ⟨v₂, h₂, h⟩ := Runs.exec_cons h
  rw [Runs.exec_append] at h
  obtain ⟨v₃, h₃, h⟩ := Option.bind_eq_some_iff.1 h
  obtain ⟨v₄, h₄, -⟩ := Runs.exec_cons h
  obtain ⟨-, rfl⟩ := after_granted h₂
  obtain ⟨hclaim, -⟩ := after_granted h₄
  obtain ⟨t₁, rfl, hle⟩ := exec_after_le between t hno h₃
  have hlast : t₁ ≤ t' - hours kind.renotifyHours := of_decide_eq_true hclaim
  exact le_sub_iff_add_le.1 (hle.trans hlast)

end NoticeKind

namespace ChatDb

/-! ## The calls -/

/-- The time of the last notice in the row of the owner. -/
def notifiedAt (db : ChatDb) (ownerId : ℕ) (kind : NoticeKind) : Option Datetime :=
  (db.owners.find? ownerId).bind kind.notifiedAt

/-- The `WHERE` clause of a claim. -/
def claims (db : ChatDb) (ownerId : ℕ) (kind : NoticeKind) (now : Datetime) : Bool :=
  (db.owners.find? ownerId).any fun o => claimable (kind.notifiedAt o) now kind.renotifyHours

/-- The body that the two claims share. -/
def tryClaim (db : ChatDb) (ownerId : ℕ) (kind : NoticeKind) (now : Datetime) : ChatDb × Bool :=
  if db.claims ownerId kind now then (db.apply (kind.edit ownerId now), true) else (db, false)

/-- `try_claim_empty_notification`. -/
def tryClaimEmptyNotification (db : ChatDb) (ownerId : ℕ) (now : Datetime) : ChatDb × Bool :=
  db.tryClaim ownerId .empty now

/-- `try_claim_low_balance_notification`. -/
def tryClaimLowBalanceNotification (db : ChatDb) (ownerId : ℕ) (now : Datetime) : ChatDb × Bool :=
  db.tryClaim ownerId .lowBalance now

end ChatDb

/-- A call for the owner.  A claim that has `missed` waited for a row that no longer met the `WHERE`
clause when it was free, so that its `UPDATE` has left nothing locked. -/
inductive NoticeCall where
  | tryClaim (kind : NoticeKind) (now : Datetime) (missed : Bool)
  | addCharge (settings : AdminSettings) (now : Datetime) (amountToman : ℤ)
      (reason : WalletTransactionReason) (paymentId : Option ℕ) (validityMonths : Option ℤ)
      (reference : Option String)

abbrev NoticeProg := Prog ChatDb ChatEdit ChatRow (List NoticeEvent)

namespace ChatDb

/-- A claim: the `UPDATE` waits for a row that meets its `WHERE` clause and looks at its newest version;
the assignment to the owner that was loaded is flushed after it. -/
def tryClaimTx (ownerId : ℕ) (kind : NoticeKind) (now : Datetime) (missed : Bool)
    (k : Bool → NoticeProg) : NoticeProg :=
  .read fun db =>
    if missed || !db.claims ownerId kind now then k false
    else
      .lock (.wallet (.owner ownerId)) fun db =>
        if db.claims ownerId kind now then
          .exec (kind.edit ownerId now) (.exec (kind.edit ownerId now) (k true))
        else k false

/-- A transaction that makes some calls; it commits what they have done. -/
def callsTx (ownerId : ℕ) : List NoticeCall → List NoticeEvent → NoticeProg
  | [], done => .commit done
  | .tryClaim kind now missed :: calls, done =>
    tryClaimTx ownerId kind now missed fun granted =>
      callsTx ownerId calls (done ++ [.claimed kind now granted])
  | .addCharge settings now amountToman reason paymentId validityMonths reference :: calls, done =>
    (WalletDb.addChargeTx settings now ownerId amountToman reason paymentId validityMonths
      reference).embed walletDb .wallet .wallet fun _ => callsTx ownerId calls (done ++ [.charged])

/-- The calls one after the other. -/
def runCalls (db : ChatDb) (ownerId : ℕ) : List NoticeCall → List NoticeEvent →
    Except PyError (ChatDb × List NoticeEvent)
  | [], done => .ok (db, done)
  | .tryClaim kind now _ :: calls, done =>
    let (db, granted) := db.tryClaim ownerId kind now
    db.runCalls ownerId calls (done ++ [.claimed kind now granted])
  | .addCharge settings now amountToman reason paymentId validityMonths reference :: calls, done => do
    let (wallet, _) ← db.walletDb.addCharge settings now ownerId amountToman reason paymentId
      validityMonths reference
    (db.withWallet wallet).runCalls ownerId calls (done ++ [.charged])

theorem apply_edit (db : ChatDb) (ownerId : ℕ) (now : Datetime) (kind : NoticeKind) :
    db.apply (kind.edit ownerId now) =
      db.setOwner ownerId (fun o => kind.write now o) fun o => kind.write_id now o := by
  cases kind <;> rfl

/-- The flush of a value that the `UPDATE` has stored already. -/
theorem apply_edit_twice (db : ChatDb) (ownerId : ℕ) (now : Datetime) (kind : NoticeKind) :
    (db.apply (kind.edit ownerId now)).apply (kind.edit ownerId now) =
      db.apply (kind.edit ownerId now) := by
  have htwice : ∀ o : ShopOwner, kind.write now (kind.write now o) = kind.write now o := by
    cases kind <;> exact fun _ => rfl
  rw [apply_edit, apply_edit]
  unfold setOwner
  dsimp only
  rw [Table.modify_modify (fun o => kind.write_id now o) htwice]

theorem solo_tryClaimTx {ownerId : ℕ} {kind : NoticeKind} {now : Datetime} {k : Bool → NoticeProg}
    {db : ChatDb} :
    solo serial (tryClaimTx ownerId kind now false k) db =
      solo serial (k (db.tryClaim ownerId kind now).2) (db.tryClaim ownerId kind now).1 := by
  unfold tryClaimTx tryClaim
  rw [solo, Bool.false_or]
  by_cases hclaim : db.claims ownerId kind now = true
  · rw [if_neg (by rw [hclaim]; simp), solo, if_pos hclaim, if_pos hclaim, solo, solo]
    exact congrArg (solo serial (k true)) (apply_edit_twice db ownerId now kind)
  · rw [if_pos (by simpa using hclaim), if_neg hclaim]

/-- Alone, a transaction whose claims wait for nobody makes the calls one after the other. -/
theorem solo_callsTx {ownerId : ℕ} (calls : List NoticeCall)
    (hmissed : ∀ kind now, .tryClaim kind now true ∉ calls) :
    ∀ (db : ChatDb) (done : List NoticeEvent),
      solo serial (callsTx ownerId calls done) db = (db.runCalls ownerId calls done).toOption := by
  induction calls with
  | nil => intro db done; rfl
  | cons call calls ih =>
    intro db done
    have hrest := ih fun kind now hmem => hmissed kind now (List.mem_cons_of_mem _ hmem)
    cases call with
    | tryClaim kind now missed =>
      cases missed with
      | true => exact absurd List.mem_cons_self (hmissed kind now)
      | false =>
        unfold callsTx runCalls
        rw [solo_tryClaimTx, hrest]
    | addCharge settings now amount reason paymentId validityMonths reference =>
      unfold callsTx runCalls
      rw [solo_embed withWallet WalletDb.serial (fun _ _ => rfl) (fun _ _ _ => rfl) (fun _ => rfl)
        (fun _ _ => rfl) (fun _ _ => rfl), WalletDb.solo_addChargeTx]
      cases db.walletDb.addCharge settings now ownerId amount reason paymentId validityMonths
        reference with
      | error e => rfl
      | ok x => exact hrest _ _

/-! ## What the calls do to the column -/

theorem notifiedAt_of_get {d d' : ChatDb} {ownerId : ℕ} (kind : NoticeKind)
    (h : d'.get (.wallet (.owner ownerId)) = d.get (.wallet (.owner ownerId))) :
    d'.notifiedAt ownerId kind = d.notifiedAt ownerId kind := by
  have hfind : d'.owners.find? ownerId = d.owners.find? ownerId :=
    WalletDb.get_owner_eq (get_wallet_eq h)
  unfold notifiedAt
  rw [hfind]

/-- A write to another row. -/
theorem notifiedAt_apply_of_ne {d : ChatDb} {ownerId : ℕ} {e : ChatEdit} (kind : NoticeKind)
    (h : e.row ≠ .wallet (.owner ownerId)) :
    (d.apply e).notifiedAt ownerId kind = d.notifiedAt ownerId kind :=
  notifiedAt_of_get kind (get_apply_of_ne d e _ h.symm)

theorem notifiedAt_addBalance (d : ChatDb) (ownerId : ℕ) (delta : ℤ) (kind : NoticeKind) :
    (d.apply (.wallet (.addBalance ownerId delta))).notifiedAt ownerId kind =
      d.notifiedAt ownerId kind := by
  show ((d.owners.modify ownerId (fun o => { o with walletBalanceToman := o.walletBalanceToman + delta })
    fun _ => rfl).find? ownerId).bind kind.notifiedAt = _
  unfold notifiedAt
  rw [Table.find?_modify, if_pos rfl]
  cases d.owners.find? ownerId with
  | none => rfl
  | some o => cases kind <;> rfl

theorem notifiedAt_clearNotified (d : ChatDb) (ownerId : ℕ) (kind : NoticeKind) :
    (d.apply (.wallet (.clearNotified ownerId))).notifiedAt ownerId kind = none := by
  show ((d.owners.modify ownerId (fun o =>
    { o with walletEmptyNotifiedAt := none, walletLowBalanceNotifiedAt := none })
    fun _ => rfl).find? ownerId).bind kind.notifiedAt = _
  rw [Table.find?_modify, if_pos rfl]
  cases d.owners.find? ownerId with
  | none => rfl
  | some o => cases kind <;> rfl

theorem notifiedAt_edit {d : ChatDb} {ownerId : ℕ} {now : Datetime} {k : NoticeKind}
    (h : d.claims ownerId k now = true) (kind : NoticeKind) :
    (d.apply (k.edit ownerId now)).notifiedAt ownerId kind =
      if k = kind then some now else d.notifiedAt ownerId kind := by
  obtain ⟨o, ho, -⟩ := (Option.any_eq_true _ _).1 h
  have hfind : (d.apply (k.edit ownerId now)).owners.find? ownerId = some (k.write now o) := by
    rw [apply_edit]
    exact Table.find?_modify_self (f := fun o => k.write now o) (fun o => k.write_id now o) ho
  unfold notifiedAt
  rw [hfind, ho]
  exact NoticeKind.notifiedAt_write now o k kind

/-- A granted claim is an event of the column, for which the `WHERE` clause has asked. -/
theorem after_edit {d : ChatDb} {ownerId : ℕ} {now : Datetime} {k : NoticeKind}
    (h : d.claims ownerId k now = true) (kind : NoticeKind) :
    kind.after (d.notifiedAt ownerId kind) (.claimed k now true) =
      some ((d.apply (k.edit ownerId now)).notifiedAt ownerId kind) := by
  rw [notifiedAt_edit h]
  unfold NoticeKind.after
  dsimp only
  by_cases hk : k = kind
  · subst hk
    obtain ⟨o, ho, hclaim⟩ := (Option.any_eq_true _ _).1 h
    have hcolumn : d.notifiedAt ownerId k = k.notifiedAt o := by
      unfold notifiedAt
      rw [ho]
      rfl
    rw [if_pos rfl, if_pos rfl, hcolumn, if_pos hclaim]
  · rw [if_neg hk, if_neg hk]

/-! ## What a transaction has sent -/

/-- The events of a transaction lead the columns from the committed rows to what it sees. -/
def Moved (ownerId : ℕ) (d : ChatDb) (es : List ChatEdit) (done : List NoticeEvent) : Prop :=
  ∀ kind : NoticeKind, Runs.exec kind.after (d.notifiedAt ownerId kind) done =
    some ((applyAll d es).notifiedAt ownerId kind)

/-- Either nothing was written to the row of the owner, and no event has moved a column; or the row is
locked. -/
def Sent (ownerId : ℕ) (L : List ChatRow) (d : ChatDb) (es : List ChatEdit) (done : List NoticeEvent) :
    Prop :=
  ((∀ e ∈ es, e.row ≠ .wallet (.owner ownerId)) ∧
      ∀ (kind : NoticeKind) v, Runs.exec kind.after v done = some v) ∨
    (.wallet (.owner ownerId) ∈ L ∧ Moved ownerId d es done)

variable {ownerId : ℕ} {L L' : List ChatRow} {d d' : ChatDb} {es : List ChatEdit}
  {done : List NoticeEvent}

theorem Sent.moved (h : Sent ownerId L d es done) : Moved ownerId d es done := by
  rcases h with ⟨hes, hdone⟩ | ⟨-, h⟩
  · intro kind
    rw [hdone kind, notifiedAt_of_get kind (get_applyAll_of_notMem d hes)]
  · exact h

/-- Other transactions do not touch what is locked. -/
theorem Sent.same (h : Sent ownerId L d es done) (hL : ∀ k ∈ L, k ∈ L') (hs : Same L d d') :
    Sent ownerId L' d' es done := by
  rcases h with h | ⟨hlock, h⟩
  · exact Or.inl h
  · refine Or.inr ⟨hL _ hlock, fun kind => ?_⟩
    have happ : Same L (applyAll d es) (applyAll d' es) := hs.applyAll
    rw [notifiedAt_of_get kind (hs _ hlock), h kind, notifiedAt_of_get kind (happ _ hlock)]

theorem Sent.lock (h : Sent ownerId L d es done) (hs : Same L d d') : Moved ownerId d' es done :=
  (h.same (fun _ hk => hk) hs).moved

/-- A write to another row. -/
theorem Sent.other (h : Sent ownerId L d es done) {e : ChatEdit}
    (he : e.row ≠ .wallet (.owner ownerId)) : Sent ownerId L d (es ++ [e]) done := by
  rcases h with ⟨hes, hdone⟩ | ⟨hlock, h⟩
  · refine Or.inl ⟨fun e' he' => ?_, hdone⟩
    rcases List.mem_append.1 he' with he' | he'
    · exact hes e' he'
    · rw [List.mem_singleton.1 he']
      exact he
  · refine Or.inr ⟨hlock, fun kind => ?_⟩
    rw [h kind, applyAll_append]
    exact congrArg some (notifiedAt_apply_of_ne kind he).symm

/-- A claim that was not granted. -/
theorem Sent.refused (h : Sent ownerId L d es done) (kind : NoticeKind) (now : Datetime) :
    Sent ownerId L d es (done ++ [.claimed kind now false]) := by
  have hsnoc : ∀ (k : NoticeKind) v w, Runs.exec k.after v done = some w →
      Runs.exec k.after v (done ++ [.claimed kind now false]) = some w := by
    intro k v w hw
    rw [Runs.exec_append, hw]
    rfl
  rcases h with ⟨hes, hdone⟩ | ⟨hlock, h⟩
  · exact Or.inl ⟨hes, fun k v => hsnoc k v v (hdone k v)⟩
  · exact Or.inr ⟨hlock, fun k => hsnoc k _ _ (h k)⟩

/-- A write to the row of the owner that leaves the columns. -/
theorem Moved.keeps (h : Moved ownerId d es done) {e : ChatEdit}
    (he : ∀ kind : NoticeKind, ((applyAll d es).apply e).notifiedAt ownerId kind =
      (applyAll d es).notifiedAt ownerId kind) : Moved ownerId d (es ++ [e]) done := by
  intro kind
  rw [h kind, applyAll_append]
  exact congrArg some (he kind).symm

/-- A write to the row of the owner, with the event that it belongs to. -/
theorem Moved.event (h : Moved ownerId d es done) {e : ChatEdit} {event : NoticeEvent}
    (he : ∀ kind : NoticeKind, kind.after ((applyAll d es).notifiedAt ownerId kind) event =
      some (((applyAll d es).apply e).notifiedAt ownerId kind)) :
    Moved ownerId d (es ++ [e]) (done ++ [event]) := by
  intro kind
  rw [Runs.exec_append, h kind, applyAll_append]
  show (kind.after _ event).bind some = _
  rw [he kind]
  rfl

section Wp

variable {Q : ChatDb → List ChatDb → List ChatEdit → List NoticeEvent → Prop} {rs : List ChatDb}

theorem claims_of_get {now : Datetime} {kind : NoticeKind}
    (h : d'.get (.wallet (.owner ownerId)) = d.get (.wallet (.owner ownerId))) :
    d'.claims ownerId kind now = d.claims ownerId kind now := by
  have hfind : d'.owners.find? ownerId = d.owners.find? ownerId :=
    WalletDb.get_owner_eq (get_wallet_eq h)
  unfold claims
  rw [hfind]

theorem wp_tryClaimTx {kind : NoticeKind} {now : Datetime} {missed : Bool} {k : Bool → NoticeProg}
    (hk : ∀ granted L rs es d, Sent ownerId L d es (done ++ [.claimed kind now granted]) →
      wp (fun _ => True) Q (k granted) L rs es d)
    (h : Sent ownerId L d es done) :
    wp (fun _ => True) Q (tryClaimTx ownerId kind now missed k) L rs es d := by
  intro d₁ _ hs₁
  dsimp only
  split_ifs with hmissed
  · exact hk false _ _ _ _ ((h.same (fun _ hk => hk) hs₁).refused kind now)
  intro d₂ _ hs₂
  have h₂ : Sent ownerId (.wallet (.owner ownerId) :: L) d₂ es done :=
    h.same (fun _ hk => List.mem_cons_of_mem _ hk) (hs₁.trans hs₂)
  dsimp only
  split_ifs with hclaim
  · intro d₃ _ hs₃ d₄ _ hs₄
    have hs : Same (.wallet (.owner ownerId) :: L) d₂ d₄ :=
      hs₃.trans (hs₄.mono fun _ hk => List.mem_cons_of_mem _ hk)
    have happ : Same (.wallet (.owner ownerId) :: L) (applyAll d₂ es) (applyAll d₄ es) := hs.applyAll
    have hclaim₄ : (applyAll d₄ es).claims ownerId kind now = true := by
      rw [claims_of_get (happ _ List.mem_cons_self)]
      exact hclaim
    have hmoved : Moved ownerId d₄ (es ++ [kind.edit ownerId now])
        (done ++ [.claimed kind now true]) := (h₂.lock hs).event fun k' => after_edit hclaim₄ k'
    have htwice : applyAll d₄ (es ++ [kind.edit ownerId now] ++ [kind.edit ownerId now]) =
        applyAll d₄ (es ++ [kind.edit ownerId now]) := by
      rw [applyAll_append, applyAll_append]
      exact apply_edit_twice (applyAll d₄ es) ownerId now kind
    refine hk true _ _ _ _ (Or.inr ⟨?_, fun k' => ?_⟩)
    · exact List.mem_cons_of_mem _ (List.mem_cons_of_mem _ List.mem_cons_self)
    · rw [hmoved k', htwice]
  · exact hk false _ _ _ _ (h₂.refused kind now)

theorem wp_applyBalanceDeltaTx {delta : ℤ} {p : WalletProg} {k : WalletReply → NoticeProg}
    (hk : ∀ L d, .wallet (.owner ownerId) ∈ L →
      Sent ownerId L d (es ++ [.wallet (.addBalance ownerId delta)]) done →
        wp (fun _ => True) Q (p.embed walletDb .wallet .wallet k) L rs
          (es ++ [.wallet (.addBalance ownerId delta)]) d)
    (h : Sent ownerId L d es done) :
    wp (fun _ => True) Q ((WalletDb.applyBalanceDeltaTx ownerId delta p).embed walletDb .wallet .wallet k)
      L rs es d := by
  intro d₁ _ hs₁
  dsimp only
  split
  · trivial
  · intro d₂ _ hs₂
    have h₂ : Sent ownerId (.wallet (.owner ownerId) :: L) d₂ es done :=
      (h.same (fun _ hk => List.mem_cons_of_mem _ hk) hs₁).same (fun _ hk => hk) hs₂
    have hlock : ChatRow.wallet (.owner ownerId) ∈ .wallet (.owner ownerId) ::
        ChatRow.wallet (.owner ownerId) :: L := List.mem_cons_self
    refine hk _ _ hlock (Or.inr ⟨hlock, h₂.moved.keeps fun kind => ?_⟩)
    exact notifiedAt_addBalance (applyAll d₂ es) ownerId delta kind

theorem wp_addChargeTx {settings : AdminSettings} {now : Datetime} {amount : ℤ}
    {reason : WalletTransactionReason} {paymentId : Option ℕ} {validityMonths : Option ℤ}
    {reference : Option String} {k : WalletReply → NoticeProg}
    (hk : ∀ r L rs es d, Sent ownerId L d es (done ++ [.charged]) →
      wp (fun _ => True) Q (k r) L rs es d)
    (h : Sent ownerId L d es done) :
    wp (fun _ => True) Q ((WalletDb.addChargeTx settings now ownerId amount reason paymentId
      validityMonths reference).embed walletDb .wallet .wallet k) L rs es d := by
  unfold WalletDb.addChargeTx
  split_ifs
  · trivial
  split
  · trivial
  intro d₁ _ hs₁
  dsimp only
  split
  · trivial
  intro d₂ _ hs₂ n
  refine wp_applyBalanceDeltaTx (fun L' d₃ hlock h₃ => ?_)
    (((h.same (fun _ hk => hk) (hs₁.trans hs₂)).other ?_).same (fun _ hk => List.mem_cons_of_mem _ hk)
      (Same.refl _ _))
  · intro d₄ _ hs₄ d₅ _ hs₅ m
    have h₅ := h₃.lock (hs₄.trans (hs₅.mono fun _ hk => List.mem_cons_of_mem _ hk))
    have hcharged : Sent ownerId L' d₅ _ (done ++ [.charged]) :=
      Or.inr ⟨hlock, h₅.event (e := .wallet (.clearNotified ownerId)) fun kind =>
        congrArg some (notifiedAt_clearNotified _ ownerId kind).symm⟩
    refine hk _ _ _ _ _ ((hcharged.other ?_).same (fun _ hk => ?_) (Same.refl _ _))
    · rintro ⟨⟩
    · exact List.mem_cons_of_mem _ (List.mem_cons_of_mem _ hk)
  · rintro ⟨⟩

/-- **What a transaction has sent when it commits**: its events lead the columns from the committed rows
to what it publishes. -/
theorem wp_callsTx (kind : NoticeKind) (calls : List NoticeCall) :
    ∀ {L : List ChatRow} {rs : List ChatDb} {es : List ChatEdit} {done : List NoticeEvent} {d : ChatDb},
      Sent ownerId L d es done →
        wp (fun _ => True) (fun d _ es done => Runs.exec kind.after (d.notifiedAt ownerId kind) done =
          some ((applyAll d es).notifiedAt ownerId kind)) (callsTx ownerId calls done) L rs es d := by
  induction calls with
  | nil => exact fun h d' _ hs _ => h.lock hs kind
  | cons call calls ih =>
    intro L rs es done d h
    cases call with
    | tryClaim k now missed => exact wp_tryClaimTx (fun granted L rs es d h => ih h) h
    | addCharge settings now amount reason paymentId validityMonths reference =>
      exact wp_addChargeTx (fun r L rs es d h => ih h) h

end Wp

/-! ## Every interleaving -/

section Interleaving

variable {ι : Type} [Fintype ι] [DecidableEq ι]

/-- The committed events, in the order of the commits, are a run of each column. -/
theorem exec_noticeLog {ownerId : ℕ} {calls : ι → List NoticeCall} {db : ChatDb} {as : List (Act ι)}
    {x : Config ι ChatDb ChatEdit ChatRow (List NoticeEvent) × List (List NoticeEvent)}
    (hrun : Runs.exec Config.stepLogged (start db fun i => callsTx ownerId (calls i) [], []) as = some x)
    (kind : NoticeKind) :
    Runs.exec kind.after (db.notifiedAt ownerId kind) x.2.flatten =
      some (x.1.db.notifiedAt ownerId kind) := by
  rw [← Runs.exec_flatten]
  have hwp : ∀ i, wp (fun _ => True)
      (fun d _ es r => Runs.exec kind.after (d.notifiedAt ownerId kind) r =
        some ((applyAll d es).notifiedAt ownerId kind)) (callsTx ownerId (calls i) []) [] [] [] db :=
    fun i => wp_callsTx kind (calls i)
      (Or.inl ⟨fun _ he => absurd he List.not_mem_nil, fun _ _ => rfl⟩)
  exact exec_log hwp hrun

/-- **Notices are not repeated too soon.** In every interleaving of any number of transactions that claim
notices for an owner and charge the wallet, with any of them rolled back and any readings of the clock:
of two granted claims of one kind in the order of the commits, with no charge in between, the later one
has read the clock at least as many hours later as the kind demands. -/
theorem notices_apart (ownerId : ℕ) (calls : ι → List NoticeCall) (db : ChatDb) (as : List (Act ι))
    (c : Config ι ChatDb ChatEdit ChatRow (List NoticeEvent)) (log : List (List NoticeEvent))
    (hrun : Runs.exec Config.stepLogged (start db fun i => callsTx ownerId (calls i) [], []) as =
      some (c, log))
    (kind : NoticeKind) (first between last : List NoticeEvent) (t t' : Datetime)
    (hlog : log.flatten =
      first ++ .claimed kind t true :: (between ++ .claimed kind t' true :: last))
    (hno : .charged ∉ between) : t + hours kind.renotifyHours ≤ t' := by
  have h := exec_noticeLog hrun kind
  rw [hlog] at h
  exact NoticeKind.renotified hno h

end Interleaving

/-- An owner with little credit left. -/
def lowShop : ChatDb :=
  { owners := ⟨[{ id := 1, telegramId := 130, walletBalanceToman := 500 }], List.nodup_singleton _⟩
    referrals := .empty
    shops := .empty
    customers := .empty
    products := .empty
    orders := .empty
    settings := {}
    charges := .empty
    transactions := .empty
    rules := .empty
    messages := .empty
    keyPool := .empty
    auditLog := []
    botErrors := [] }

/-- One transaction claims a notice; the other one does so an hour later, and again a day later. -/
def lowClaims : Bool → List NoticeCall
  | false => [.tryClaim .lowBalance 0 false]
  | true => [.tryClaim .lowBalance (hours 1) false, .tryClaim .lowBalance (hours 24) false]

/-- Both find the notice unclaimed before the first one claims it; the second one then has to wait. -/
def claimsAtOnce : List (Act Bool) :=
  [.next false 0, .next true 0] ++ List.replicate 4 (.next false 0) ++ List.replicate 6 (.next true 0)

/-- What the two transactions have committed. -/
def lowLog : List (List NoticeEvent) :=
  [[.claimed .lowBalance 0 true],
    [.claimed .lowBalance (hours 1) false, .claimed .lowBalance (hours 24) true]]

theorem claimsAtOnce_log :
    (Runs.exec Config.stepLogged (start lowShop fun i => callsTx 1 (lowClaims i) [], [])
      claimsAtOnce).map Prod.snd = some lowLog := by
  decide +kernel

theorem notices_apart_atOnce :
    ∃ c, Runs.exec Config.stepLogged (start lowShop fun i => callsTx 1 (lowClaims i) [], [])
        claimsAtOnce = some (c, lowLog) ∧
      (0 : Datetime) + hours NoticeKind.lowBalance.renotifyHours ≤ hours 24 := by
  obtain ⟨⟨c, log⟩, hrun, hlog⟩ := Option.map_eq_some_iff.1 claimsAtOnce_log
  obtain rfl : log = lowLog := hlog
  exact ⟨c, hrun, notices_apart 1 lowClaims lowShop claimsAtOnce c lowLog hrun .lowBalance []
    [.claimed .lowBalance (hours 1) false] [] 0 (hours 24) rfl (by decide)⟩

end ChatDb

end KasbOKar
