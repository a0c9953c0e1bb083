import KasbOKar.Chat.Transactions
import KasbOKar.Shop.Correction

/-!
# Detection tasks at the same time

Every reply leaves a task behind that asks the classifier whether the chat has come to an order, so two
messages in a row have two tasks under way, and each looks for a recent order like its own before it
creates one.  This is a plain `SELECT`, and no unique index stands behind it.

`detected_once_iff`: in an interleaving of tasks, none creates an order that another one has just
created if and only if the answer of this `SELECT` is still right whenever a task commits.  Tasks that
are charged for wait for each other at the charges of the owner; where the provider reports no usage
nothing is charged and nothing waits (`detected_twice`).
-/

namespace KasbOKar

open ReadCommitted

/-- The edits that write an order. -/
def ChatEdit.isOrder : ChatEdit → Bool
  | order _ => true
  | _ => false

/-- A task `_detect_and_notify_order`: for whom, when its transaction begins, and what it meets outside
of the database. -/
structure DetectionTask where
  shopBotId : ℕ
  customerId : ℕ
  startedAt : Datetime
  env : ChatEnv

namespace ChatDb

/-- The order was created in the ten minutes before the time. -/
def createdWithin (now : Datetime) (o : OrderConsultation) : Bool :=
  decide (now + -minutes 10 < o.createdAt) && decide (o.createdAt ≤ now)

/-- The orders for a key that were created in the ten minutes before the time. -/
def recentOrders (db : ChatDb) (now : Datetime) (key : ℕ × OrderType × Option ℕ) :
    List OrderConsultation :=
  db.orders.rows.filter fun o => o.key == key && createdWithin now o

theorem recentOrders_eq_nil {db : ChatDb} {now : Datetime} {key : ℕ × OrderType × Option ℕ} :
    db.recentOrders now key = [] ↔ ∀ o ∈ db.orders.rows, o.key = key → createdWithin now o = false := by
  unfold recentOrders
  rw [List.filter_eq_nil_iff]
  refine forall_congr' fun o => forall_congr' fun _ => ?_
  rw [Bool.and_eq_true, beq_iff_eq, not_and, Bool.not_eq_true]

/-- A check that finds nothing leaves nothing recent. -/
theorem recentOrders_of_elapsed {db : ChatDb} {now : Datetime} {key : ℕ × OrderType × Option ℕ}
    (h : db.orderDb.Elapsed now key) : db.recentOrders now key = [] := by
  rw [recentOrders_eq_nil]
  intro o ho hkey
  unfold createdWithin
  rw [decide_eq_false (not_lt.2 (h.2 o ho hkey)), Bool.false_and]

/-! ## What a task has sent when it commits -/

/-- The orders of `db` are all there. -/
def Keeps (db d : ChatDb) : Prop := ∀ o ∈ db.orders.rows, o ∈ d.orders.rows

/-- The task has created an order after a check that found none like it. -/
structure Created (db : ChatDb) (now : Datetime) (rs : List ChatDb) (es : List ChatEdit)
    (o : OrderConsultation) : Prop where
  checked : ∃ keys selected rest, rs = keys :: selected :: rest ∧
    selected.orderDb.Elapsed now o.key ∧ Keeps db selected
  edits : ∃ before, (∀ e ∈ before, e.isOrder = false) ∧ es = before ++ [.order (.insertOrder o)]

/-- What a task has sent, by what it returns. -/
def TaskSent (db : ChatDb) (now : Datetime) (rs : List ChatDb) (es : List ChatEdit) :
    Option OrderConsultation → Prop
  | none => ∀ e ∈ es, e.isOrder = false
  | some o => Created db now rs es o

theorem orders_applyAll {es : List ChatEdit} (h : ∀ e ∈ es, e.isOrder = false) :
    ∀ d : ChatDb, (applyAll d es).orders = d.orders := by
  induction es with
  | nil => intro d; rfl
  | cons e es ih =>
    intro d
    rw [applyAll_cons, ih fun e' he' => h e' (List.mem_cons_of_mem _ he')]
    have he := h e List.mem_cons_self
    cases e with
    | order e => cases he
    | _ => rfl

section Wp

variable {db : ChatDb} {env : ChatEnv} {k : ChatProg}

/-- The program may follow on any statements that write no order. -/
def Follows (db : ChatDb) (now : Datetime) (k : ChatProg) : Prop :=
  ∀ L rs es d, (∀ e ∈ es, e.isOrder = false) →
    wp (Keeps db) (fun _ rs es r => TaskSent db now rs es r) k L rs es d

theorem follows_commit (now : Datetime) : Follows db now (.commit none) :=
  fun _ _ _ _ hes _ _ _ _ => hes

theorem wp_sendLoggedTx {Q : ChatDb → List ChatDb → List ChatEdit → Option OrderConsultation → Prop}
    {J : ChatDb → Prop} {notice : ChatNotice} {L : List ChatRow} {rs : List ChatDb} {es : List ChatEdit}
    {d : ChatDb} (hk : wp J Q k L rs es d) : wp J Q (sendLoggedTx env notice k) L rs es d := by
  unfold sendLoggedTx
  split
  · exact hk
  · exact hk
  · trivial

theorem isOrder_snoc {es : List ChatEdit} {e : ChatEdit} (h : ∀ e ∈ es, e.isOrder = false)
    (he : e.isOrder = false) : ∀ e' ∈ es ++ [e], e'.isOrder = false := by
  intro e' he'
  rcases List.mem_append.1 he' with he' | he'
  · exact h e' he'
  · rw [List.mem_singleton.1 he']
    exact he

theorem Follows.claimTx (hk : Follows db env.now k) {ownerId : ℕ}
    {notifiedAt : ShopOwner → Option Datetime} {n : ℤ} {edit : ChatEdit} (hedit : edit.isOrder = false)
    {notice : ChatNotice} : Follows db env.now (claimTx env ownerId notifiedAt n edit notice k) := by
  intro L rs es d hes d₁ _ _
  dsimp only
  split_ifs
  · intro d₂ _ _
    dsimp only
    split_ifs
    · intro d₃ _ _
      exact wp_sendLoggedTx (hk _ _ _ _ (isOrder_snoc hes hedit))
    · exact hk _ _ _ _ hes
  · exact hk _ _ _ _ hes

theorem Follows.notifyBalanceTx (hk : Follows db env.now k) (settings : AdminSettings) (ownerId : ℕ)
    (balance : ℤ) : Follows db env.now (notifyBalanceTx env settings ownerId balance k) := by
  unfold ChatDb.notifyBalanceTx
  split_ifs
  · exact hk.claimTx rfl
  · exact hk.claimTx rfl
  · exact hk

theorem Follows.deductAndNotifyTx (hk : Follows db env.now k) (settings : AdminSettings)
    (owner : ShopOwner) (amount : ℤ) (reason : WalletTransactionReason) :
    Follows db env.now (deductAndNotifyTx env settings owner amount reason k) := by
  have hafter : ∀ r, Follows db env.now (afterDeduct env settings owner amount k r) := by
    intro r
    unfold afterDeduct
    split
    · split_ifs
      · exact hk.notifyBalanceTx settings owner.id owner.walletBalanceToman
      · intro L rs es d hes d₁ _ _
        dsimp only
        split
        · exact hk _ _ _ _ hes
        · exact hk.notifyBalanceTx settings _ _ _ _ _ _ hes
    · exact hk.notifyBalanceTx settings owner.id owner.walletBalanceToman
  intro L rs es d hes
  exact wp_embed (A := fun (_ : List ChatDb) (es : List ChatEdit) => ∀ e ∈ es, e.isOrder = false)
    (fun _ _ _ h => h) (fun _ _ _ h => isOrder_snoc h rfl) (fun r L rs es d h => hafter r L rs es d h) _
    hes

theorem Follows.chargeDetectionTx (hk : Follows db env.now k) (settings : AdminSettings)
    (owner : ShopOwner) (totalTokens : Option ℤ) :
    Follows db env.now (chargeDetectionTx env settings owner totalTokens k) := by
  unfold ChatDb.chargeDetectionTx
  split
  · exact hk
  · split
    · exact fun _ _ _ _ _ => trivial
    · exact hk.deductAndNotifyTx settings owner _ _

theorem Follows.saveTurnTx {now : Datetime} (hk : Follows db now k) {customerId : ℕ}
    {userMessage : String} {reply : PyJson} :
    Follows db now (saveTurnTx customerId userMessage reply k) := by
  unfold ChatDb.saveTurnTx
  split
  · intro L rs es d hes d₁ _ _ n d₂ _ _ m
    exact hk _ _ _ _ (isOrder_snoc (isOrder_snoc hes rfl) rfl)
  · exact fun _ _ _ _ _ => trivial

/-- The candidate is created after a check that found nothing. -/
theorem follows_createCandidateTx {startedAt : Datetime} {shopBotId customerId : ℕ}
    {orderType : OrderType} {summary : String} {value : Option ℤ} {productId : Option ℕ}
    {quantity : Option ℤ} {phone address : Option String} :
    Follows db env.now (createCandidateTx env startedAt shopBotId customerId orderType summary value
      productId quantity phone address) := by
  intro L rs es d hes d₁ hkeeps _
  dsimp only
  split
  · trivial
  · exact fun _ _ _ _ => hes
  · rename_i hcheck
    intro d₂ _ _
    dsimp only
    split
    · trivial
    · intro d₃ _ _ n
      refine wp_sendLoggedTx fun d₄ _ _ _ => ⟨⟨_, _, _, rfl, ?_, fun o ho => ?_⟩, es, hes, rfl⟩
      · exact OrderDb.getRecentDuplicate_eq_none.1 hcheck
      · rw [orders_applyAll hes]
        exact hkeeps o ho

theorem follows_actOnDetectionTx {startedAt : Datetime} {shopBotId customerId : ℕ}
    {result : Option Detection} :
    Follows db env.now (actOnDetectionTx env startedAt shopBotId customerId result) := by
  unfold actOnDetectionTx
  split
  · exact follows_commit env.now
  · intro L rs es d hes d₁ _ _
    dsimp only
    split
    · exact follows_commit env.now _ _ _ _ hes
    · split
      · split
        · exact follows_commit env.now _ _ _ _ hes
        · trivial
        · exact (follows_commit env.now).saveTurnTx _ _ _ _ hes
      · exact follows_createCandidateTx _ _ _ _ hes

theorem follows_afterClassifierTx {fmt : PyJson → String} {extractJson : PyJson → Option PyJson}
    {startedAt : Datetime} {shopBotId customerId : ℕ} {isConsultation : Bool} {owner : ShopOwner}
    {settings : AdminSettings} {products : List Product} :
    Follows db env.now (afterClassifierTx env fmt extractJson startedAt shopBotId customerId
      isConsultation owner settings products) := by
  unfold afterClassifierTx
  split
  · exact follows_commit env.now
  · exact fun _ _ _ _ _ => trivial
  · split
    · exact fun _ _ _ _ _ => trivial
    · exact follows_actOnDetectionTx.chargeDetectionTx settings owner _

/-- **What a task has sent when it commits.** -/
theorem wp_detectAndNotifyTx {fmt : PyJson → String} {extractJson : PyJson → Option PyJson}
    {startedAt : Datetime} {shopBotId customerId : ℕ} (d : ChatDb) :
    wp (Keeps db) (fun _ rs es r => TaskSent db env.now rs es r)
      (detectAndNotifyTx env fmt extractJson startedAt shopBotId customerId) [] [] [] d := by
  have hnil : ∀ e ∈ ([] : List ChatEdit), e.isOrder = false := fun _ he => absurd he List.not_mem_nil
  intro d₁ _ _
  dsimp only
  split
  · exact follows_commit env.now _ _ _ _ hnil
  · intro d₂ _ _
    dsimp only
    split
    · exact follows_commit env.now _ _ _ _ hnil
    · split_ifs
      · exact follows_commit env.now _ _ _ _ hnil
      · intro d₃ _ _ d₄ _ _ d₅ _ _
        dsimp only
        split_ifs
        · exact follows_commit env.now _ _ _ _ hnil
        · exact follows_afterClassifierTx _ _ _ _ hnil

end Wp

/-! ## Every interleaving -/

section Interleaving

variable {ι : Type}

/-- The order that a committed task has created. -/
def created (c : Config ι ChatDb ChatEdit ChatRow (Option OrderConsultation)) (i : ι) :
    Option OrderConsultation := (c.outcome i).bind Prod.fst

/-- The orders are those of the beginning and those that the committed tasks have created. -/
structure Recorded (db d : ChatDb) (out : ι → Option (Option OrderConsultation × List ChatEdit)) :
    Prop where
  keeps : Keeps db d
  origin : ∀ o ∈ d.orders.rows, o ∈ db.orders.rows ∨ ∃ i, (out i).bind Prod.fst = some o
  stored : ∀ i o, (out i).bind Prod.fst = some o → o ∈ d.orders.rows

/-- A commit records what the task returns. -/
theorem Recorded.commit [DecidableEq ι] {db d : ChatDb} {now : Datetime} {rs : List ChatDb}
    {es : List ChatEdit} {r : Option OrderConsultation}
    {out : ι → Option (Option OrderConsultation × List ChatEdit)} {i : ι} (h : Recorded db d out)
    (hi : out i = none) (hfresh : FreshIn d es) (hsent : TaskSent db now rs es r) :
    Recorded db (applyAll d es) (Function.update out i (some (r, es))) := by
  have hrows : (applyAll d es).orders.rows = d.orders.rows ++ r.toList := by
    cases r with
    | none =>
      rw [orders_applyAll hsent]
      exact (List.append_nil _).symm
    | some o =>
      obtain ⟨before, hbefore, rfl⟩ := hsent.edits
      obtain ⟨hnew, -⟩ := (freshIn_append.1 hfresh).2
      have hid : Keyed.id o ∉ (applyAll d before).orders.ids := by
        have hnone := hnew rfl
        rw [← Table.find?_eq_none_iff]
        exact Option.map_eq_none_iff.1 (Option.map_eq_none_iff.1 hnone)
      rw [applyAll_append, ← orders_applyAll hbefore d]
      exact Table.insert_rows hid
  refine ⟨fun o ho => ?_, fun o ho => ?_, fun j o hj => ?_⟩
  · rw [hrows]
    exact List.mem_append_left _ (h.keeps o ho)
  · rw [hrows] at ho
    rcases List.mem_append.1 ho with ho | ho
    · rcases h.origin o ho with ho | ⟨j, hj⟩
      · exact Or.inl ho
      · refine Or.inr ⟨j, ?_⟩
        rw [Function.update_of_ne]
        · exact hj
        · rintro rfl
          rw [hi] at hj
          cases hj
    · refine Or.inr ⟨i, ?_⟩
      rw [Function.update_self]
      exact Option.mem_toList.1 ho
  · rw [hrows]
    by_cases hij : j = i
    · subst hij
      rw [Function.update_self] at hj
      exact List.mem_append_right _ (Option.mem_toList.2 hj)
    · rw [Function.update_of_ne hij] at hj
      exact List.mem_append_left _ (h.stored j o hj)

variable [Fintype ι] [DecidableEq ι]

/-- When a task commits an order, no other task has committed one for the same customer, type and
product that was created in the ten minutes before the check of this one. -/
def detectedOnce (task : ι → DetectionTask)
    (c : Config ι ChatDb ChatEdit ChatRow (Option OrderConsultation)) : Act ι → Bool
  | .next i _ =>
    match (c.tx i).status with
    | .running (.commit (some o)) =>
      decide (∀ j, j ≠ i → ∀ o' ∈ created c j, o'.key = o.key →
        createdWithin (task i).env.now o' = false)
    | _ => true
  | .abort _ => true

/-- When a task commits an order, the orders that its check has looked for are still those that it has
seen. -/
def checkCurrent (task : ι → DetectionTask)
    (c : Config ι ChatDb ChatEdit ChatRow (Option OrderConsultation)) : Act ι → Bool
  | .next i _ =>
    match (c.tx i).status, (c.tx i).reads with
    | .running (.commit (some o)), _ :: selected :: _ =>
      c.db.recentOrders (task i).env.now o.key == selected.recentOrders (task i).env.now o.key
    | _, _ => true
  | .abort _ => true

/-- The tasks at their first statement. -/
def startTasks (fmt : PyJson → String) (extractJson : PyJson → Option PyJson) (task : ι → DetectionTask)
    (db : ChatDb) : Config ι ChatDb ChatEdit ChatRow (Option OrderConsultation) :=
  start db fun i => detectAndNotifyTx (task i).env fmt extractJson (task i).startedAt
    (task i).shopBotId (task i).customerId

theorem recorded_exec {fmt : PyJson → String} {extractJson : PyJson → Option PyJson}
    {task : ι → DetectionTask} {db : ChatDb} {as : List (Act ι)}
    {c : Config ι ChatDb ChatEdit ChatRow (Option OrderConsultation)}
    (hrun : Runs.exec Config.step (startTasks fmt extractJson task db) as = some c) :
    Inv (Keeps db) (fun i d rs es r => FreshIn d es ∧ TaskSent db (task i).env.now rs es r)
      (Recorded db) c := by
  refine inv_exec (C := fun _ _ => True) (fun _ _ h => h.keeps) (fun c i n r _ hi hG hQ => ?_)
    ⟨fun _ h => h, fun _ h => Or.inl h, fun _ _ h => by cases h⟩
    (fun i => wp_fresh _ (wp_detectAndNotifyTx db))
    (Runs.along_of_forall (fun _ _ => trivial) as _) hrun
  exact hG.commit (outcome_running hi) hQ.1 hQ.2

section Commit

variable {task : ι → DetectionTask} {db : ChatDb} {i : ι} {n : ℕ}
  {c : Config ι ChatDb ChatEdit ChatRow (Option OrderConsultation)}

theorem detectedOnce_of_not_commit (hi : ¬ ∃ o, (c.tx i).status = .running (.commit (some o))) :
    detectedOnce task c (.next i n) = true := by
  unfold detectedOnce
  dsimp only
  split
  · rename_i o ho
    exact absurd ⟨o, ho⟩ hi
  · rfl

omit [Fintype ι] [DecidableEq ι] in
theorem checkCurrent_of_not_commit (hi : ¬ ∃ o, (c.tx i).status = .running (.commit (some o))) :
    checkCurrent task c (.next i n) = true := by
  unfold checkCurrent
  dsimp only
  split
  · rename_i o _ _ _ ho _
    exact absurd ⟨o, ho⟩ hi
  · rfl

/-- The committed orders that the check could find come from other tasks, since it has found none. -/
theorem detectedOnce_iff_of_commit {o : OrderConsultation}
    (h : Inv (Keeps db) (fun i d rs es r => FreshIn d es ∧ TaskSent db (task i).env.now rs es r)
      (Recorded db) c)
    (hi : (c.tx i).status = .running (.commit (some o))) (n : ℕ) :
    detectedOnce task c (.next i n) = true ↔ checkCurrent task c (.next i n) = true := by
  have hsent : Created db (task i).env.now (c.tx i).reads (c.tx i).edits o :=
    (h.local_ i _ hi c.db h.global.keeps (Same.refl _ _) (h.locked.fresh i _ hi)).2
  obtain ⟨keys, selected, rest, hreads, helapsed, hkeeps⟩ := hsent.checked
  have hnone := recentOrders_of_elapsed helapsed
  unfold detectedOnce checkCurrent
  dsimp only
  rw [hi, hreads]
  dsimp only
  rw [hnone, beq_iff_eq, recentOrders_eq_nil, decide_eq_true_iff]
  constructor
  · intro honce o' ho' hkey
    rcases h.global.origin o' ho' with hold | ⟨j, hj⟩
    · exact recentOrders_eq_nil.1 hnone o' (hkeeps o' hold) hkey
    · refine honce j ?_ o' hj hkey
      rintro rfl
      rw [outcome_running hi] at hj
      cases hj
  · intro hcurrent j _ o' hj hkey
    exact hcurrent o' (h.global.stored j o' hj) hkey

end Commit

/-- **The same order is not detected twice** in an interleaving of tasks, any of them rolled back, if
and only if the orders that a task's check has looked for are the same when the task commits. -/
theorem detected_once_iff (fmt : PyJson → String) (extractJson : PyJson → Option PyJson)
    (task : ι → DetectionTask) (db : ChatDb) (as : List (Act ι)) :
    Runs.Along Config.step (fun c a => detectedOnce task c a = true)
        (startTasks fmt extractJson task db) as ↔
      Runs.Along Config.step (fun c a => checkCurrent task c a = true)
        (startTasks fmt extractJson task db) as := by
  have hstep : ∀ before a c, Runs.exec Config.step (startTasks fmt extractJson task db) before = some c →
      (detectedOnce task c a = true ↔ checkCurrent task c a = true) := by
    intro before a c hrun
    have hinv := recorded_exec hrun
    cases a with
    | abort i => exact Iff.rfl
    | next i n =>
      by_cases hi : ∃ o, (c.tx i).status = .running (.commit (some o))
      · obtain ⟨o, hi⟩ := hi
        exact detectedOnce_iff_of_commit hinv hi n
      · rw [detectedOnce_of_not_commit hi, checkCurrent_of_not_commit hi]
  rw [Runs.along_iff, Runs.along_iff]
  refine forall_congr' fun before => forall_congr' fun a => forall_congr' fun after =>
    forall_congr' fun c => forall_congr' fun _ => forall_congr' fun hrun => ?_
  exact hstep before a c hrun

end Interleaving

/-- A shop with one product and one customer. -/
def teaChat : ChatDb :=
  { owners := ⟨[{ id := 1, telegramId := 110, walletBalanceToman := 1000 }], by decide⟩
    referrals := .empty
    shops := ⟨[{ id := 1, shopOwnerId := 1, encryptedToken := "c", botTelegramId := 510,
                 botUsername := "tea_bot", webhookSecretToken := "x" }], by decide⟩
    customers := ⟨[{ id := 1, shopBotId := 1, telegramId := 900, lastMessageAt := some 0 }], by decide⟩
    products := ⟨[{ id := 1, shopBotId := 1, name := "tea", priceToman := 10 }], by decide⟩
    orders := .empty
    settings := { aiApiKey := some "key" }
    charges := ⟨[{ id := 1, shopOwnerId := 1, amountToman := 1000, remainingToman := 1000,
                   expiresAt := 20 }], by decide⟩
    transactions := .empty
    rules := .empty
    messages := .empty
    keyPool := .empty
    auditLog := []
    botErrors := [] }

/-- The classifier finds an order of tea, and the provider does not say how many tokens that took. -/
def findsTea : ChatEnv :=
  { now := minutes 1, text := ⟨id, fun _ _ => false⟩
    ai := .ok { text := .dict [("status", .str "completed"), ("type", .str "order"),
      ("summary", .str "tea"), ("product_id", .int 1), ("quantity", .int 2)] } }

/-- The tasks of two messages of the customer. -/
def twoMessages : Bool → DetectionTask := fun _ => ⟨1, 1, 0, findsTea⟩

/-- The statements of a task up to the duplicate check, and those after it. -/
def taskLooks (i : Bool) : List (Act Bool) := List.replicate 7 (.next i 0)

def taskCreates (i : Bool) (n : ℕ) : List (Act Bool) := [.next i 0, .next i n, .next i 0]

/-- Both tasks look before either has committed. -/
def tasksAtOnce : List (Act Bool) :=
  taskLooks false ++ taskLooks true ++ taskCreates false 1 ++ taskCreates true 2

theorem tasksAtOnce_isSome :
    (Runs.exec Config.step (startTasks (fun _ => "") some twoMessages teaChat) tasksAtOnce).isSome =
      true := by
  decide +kernel

/-- The customer has two candidates of the same order to confirm. -/
theorem detected_twice :
    ∃ c, Runs.exec Config.step (startTasks (fun _ => "") some twoMessages teaChat) tasksAtOnce = some c ∧
      c.db.orders.rows.map OrderConsultation.key = [(1, .ORDER, some 1), (1, .ORDER, some 1)] ∧
      c.db.orders.rows.map OrderConsultation.status =
        [.AWAITING_CUSTOMER_CONFIRMATION, .AWAITING_CUSTOMER_CONFIRMATION] ∧
      ¬ Runs.Along Config.step (fun c a => detectedOnce twoMessages c a = true)
        (startTasks (fun _ => "") some twoMessages teaChat) tasksAtOnce :=
  ⟨_, (Option.some_get tasksAtOnce_isSome).symm, by decide +kernel, by decide +kernel,
    by decide +kernel⟩

end ChatDb

end KasbOKar
