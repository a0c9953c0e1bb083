import KasbOKar.Bot.Manager
import KasbOKar.Lib.Runs

/-!
# Overlapping registrations

`ShopBotManager` in polling mode, with its three dictionaries and the tasks that it has created.
`register` and `unregister` run without a break, except at the two awaits of `unregister`: there other
calls may run.  By then the entries of the shop are gone, so a second `register` takes the shop for a
new one, and the first one overwrites the second one's task (`leaked_task`).

`registry_iff` says that nothing else can go wrong, and `register_alone` that a call without company
does what `ShopBotManager.register` says.
-/

namespace KasbOKar

/-- A `Bot` object: its identity, and the bot that its token belongs to. -/
structure BotObject where
  serial : ℕ
  botId : ℤ
  deriving DecidableEq

/-- An `asyncio.Task` that runs `_poll`. -/
structure PollTask where
  shopBotId : ℕ
  bot : BotObject
  cancelled : Bool := false
  /-- `_poll` has returned. -/
  ended : Bool := false
  deriving DecidableEq

namespace PollTask

/-- The task polls. -/
def running (t : PollTask) : Bool := !t.cancelled && !t.ended

/-- `task.cancel()`. -/
def cancel (t : PollTask) : PollTask := { t with cancelled := true }

/-- The token was refused, and `_poll` returns. -/
def finish (t : PollTask) : PollTask := { t with ended := true }

end PollTask

/-- The awaits of `unregister`. -/
inductive ManagerAwait where
  | deleteWebhook
  | sessionClose
  deriving DecidableEq

/-- A call that waits; `next` is what `register` goes on with. -/
structure ManagerCall where
  await : ManagerAwait
  next : Option (ShopBot × BotObject)
  deriving DecidableEq

/-- The attributes of the manager, all tasks ever created, and the calls in progress. -/
structure PollingManager where
  bots : ℕ → Option BotObject
  secrets : ℕ → Option String
  pollingTasks : ℕ → Option ℕ
  tasks : List PollTask
  /-- The number of `Bot` objects so far. -/
  serial : ℕ
  calls : List ManagerCall

/-- What can happen next. -/
inductive ManagerAct where
  /-- A call of `register`; `tokenOk` says that `decrypt_token` and `Bot(token=…)` do not raise. -/
  | register (shopBot : ShopBot) (tokenOk : Bool)
  | unregister (shopBotId : ℕ)
  /-- The await of a call in progress ends, with an exception or without. -/
  | resume (call : ℕ) (raised : Option PyError)
  /-- A polling task ends by itself. -/
  | taskEnds (task : ℕ)

namespace PollingManager

/-- A manager without bots. -/
def empty : PollingManager := ⟨fun _ => none, fun _ => none, fun _ => none, [], 0, []⟩

/-- The first lines of `unregister`, up to its first await. -/
def popEntries (m : PollingManager) (shopBotId : ℕ) : PollingManager :=
  { m with
    bots := Function.update m.bots shopBotId none
    secrets := Function.update m.secrets shopBotId none
    pollingTasks := Function.update m.pollingTasks shopBotId none
    tasks :=
      match m.pollingTasks shopBotId with
      | none => m.tasks
      | some task => m.tasks.modify task PollTask.cancel }

/-- The last lines of `register`. -/
def enterBot (m : PollingManager) (shopBot : ShopBot) (bot : BotObject) : PollingManager :=
  { m with
    bots := Function.update m.bots shopBot.id (some bot)
    secrets := Function.update m.secrets shopBot.id (some shopBot.webhookSecretToken)
    pollingTasks := Function.update m.pollingTasks shopBot.id (some m.tasks.length)
    tasks := m.tasks ++ [{ shopBotId := shopBot.id, bot := bot }] }

/-- `unregister` up to its first await, or to its end if there is none; `next` is what follows. -/
def unregister (m : PollingManager) (shopBotId : ℕ) (next : Option (ShopBot × BotObject)) :
    PollingManager :=
  if (m.bots shopBotId).isSome then
    { m.popEntries shopBotId with calls := m.calls ++ [⟨.deleteWebhook, next⟩] }
  else m.popEntries shopBotId

/-- `register` up to its first await, or to its end. -/
def register (m : PollingManager) (shopBot : ShopBot) : PollingManager :=
  let bot : BotObject := ⟨m.serial, shopBot.botTelegramId⟩
  let m := { m with serial := m.serial + 1 }
  if (m.bots shopBot.id).isSome then m.unregister shopBot.id (some (shopBot, bot))
  else m.enterBot shopBot bot

/-- The lines after `await bot.session.close()`. -/
def afterClose (m : PollingManager) : Option (ShopBot × BotObject) → PollingManager
  | none => m
  | some (shopBot, bot) => m.enterBot shopBot bot

/-- A call goes on; only a `TelegramAPIError` of `delete_webhook` is caught. -/
def resume (m : PollingManager) (i : ℕ) (call : ManagerCall) (raised : Option PyError) :
    PollingManager :=
  let ended := { m with calls := m.calls.eraseIdx i }
  match call.await, raised with
  | .deleteWebhook, none => { m with calls := m.calls.set i ⟨.sessionClose, call.next⟩ }
  | .deleteWebhook, some .TelegramAPIError => { m with calls := m.calls.set i ⟨.sessionClose, call.next⟩ }
  | .deleteWebhook, some _ => ended
  | .sessionClose, none => ended.afterClose call.next
  | .sessionClose, some _ => ended

/-- One step. -/
def step (m : PollingManager) : ManagerAct → Option PollingManager
  | .register shopBot tokenOk => some (if tokenOk then m.register shopBot else m)
  | .unregister shopBotId => some (m.unregister shopBotId none)
  | .resume i raised => (m.calls[i]?).map fun call => m.resume i call raised
  | .taskEnds task => some { m with tasks := m.tasks.modify task PollTask.finish }

/-! ## Consistency -/

/-- The dictionaries agree with each other and with the tasks that poll. -/
structure Consistent (m : PollingManager) : Prop where
  keys : ∀ i, (m.bots i).isSome = (m.secrets i).isSome
  stored : ∀ (k : ℕ) (t : PollTask), m.tasks[k]? = some t → t.running = true →
    m.pollingTasks t.shopBotId = some k ∧ m.bots t.shopBotId = some t.bot

/-- A task of the shop polls. -/
def polls (m : PollingManager) (shopBotId : ℕ) : Bool :=
  m.tasks.any fun t => t.shopBotId == shopBotId && t.running

/-- The shop that a call of `register` enters when it goes on. -/
def entersLate (m : PollingManager) : ManagerAct → Option ℕ
  | .resume i none =>
    match m.calls[i]? with
    | some ⟨.sessionClose, some (shopBot, _)⟩ => some shopBot.id
    | _ => none
  | _ => none

/-- A call of `register` goes on while a task of its shop polls. -/
def overwrites (m : PollingManager) (a : ManagerAct) : Bool := (m.entersLate a).any m.polls

variable {m m' : PollingManager}

theorem consistent_empty : Consistent empty :=
  ⟨fun _ => rfl, fun _ _ h => by cases h⟩

/-- A shop without an entry has no task that polls. -/
theorem Consistent.polls_of_none (h : Consistent m) {i : ℕ} (hi : m.bots i = none) :
    m.polls i = false := by
  rw [polls, List.any_eq_false]
  intro t ht hrun
  simp only [Bool.and_eq_true, beq_iff_eq] at hrun
  obtain ⟨k, hk⟩ := List.mem_iff_getElem?.1 ht
  have hbot := (h.stored k t hk hrun.2).2
  rw [hrun.1, hi] at hbot
  cases hbot

/-- Only the calls and the counter differ. -/
theorem Consistent.congr (h : Consistent m) (hbots : m'.bots = m.bots) (hsecrets : m'.secrets = m.secrets)
    (hstored : m'.pollingTasks = m.pollingTasks) (htasks : m'.tasks = m.tasks) : Consistent m' := by
  refine ⟨fun i => ?_, fun k t hk hrun => ?_⟩
  · rw [hbots, hsecrets]
    exact h.keys i
  · rw [hbots, hstored]
    rw [htasks] at hk
    exact h.stored k t hk hrun

/-- A task that is changed does not poll. -/
theorem running_of_modify {tasks : List PollTask} {j k : ℕ} {f : PollTask → PollTask} {t : PollTask}
    (hf : ∀ t, (f t).running = false) (hk : (tasks.modify j f)[k]? = some t) (hrun : t.running = true) :
    j ≠ k ∧ tasks[k]? = some t := by
  by_cases hjk : j = k
  · subst hjk
    rw [List.getElem?_modify_eq] at hk
    obtain ⟨t', -, rfl⟩ := Option.map_eq_some_iff.1 hk
    rw [hf t'] at hrun
    cases hrun
  · rw [List.getElem?_modify_ne _ _ hjk] at hk
    exact ⟨hjk, hk⟩

theorem running_cancel (t : PollTask) : t.cancel.running = false := rfl

theorem running_finish (t : PollTask) : t.finish.running = false := by
  unfold PollTask.finish PollTask.running
  dsimp only
  rw [Bool.not_true, Bool.and_false]

theorem Consistent.popEntries (h : Consistent m) (i : ℕ) : Consistent (m.popEntries i) := by
  refine ⟨fun j => ?_, fun k t hk hrun => ?_⟩
  · unfold PollingManager.popEntries
    dsimp only
    by_cases hj : j = i
    · rw [hj, Function.update_self, Function.update_self]
      rfl
    · rw [Function.update_of_ne hj, Function.update_of_ne hj]
      exact h.keys j
  · unfold PollingManager.popEntries at hk ⊢
    dsimp only at hk ⊢
    -- the task was there before, and it is not the one that is cancelled
    have hold : m.tasks[k]? = some t ∧ m.pollingTasks i ≠ some k := by
      cases htask : m.pollingTasks i with
      | none =>
        rw [htask] at hk
        exact ⟨hk, nofun⟩
      | some j =>
        rw [htask] at hk
        obtain ⟨hjk, hk⟩ := running_of_modify running_cancel hk hrun
        exact ⟨hk, fun he => hjk (Option.some.inj he)⟩
    obtain ⟨hstored, hbot⟩ := h.stored k t hold.1 hrun
    have hne : t.shopBotId ≠ i := fun he => hold.2 (he ▸ hstored)
    rw [Function.update_of_ne hne, Function.update_of_ne hne]
    exact ⟨hstored, hbot⟩

theorem Consistent.unregister (h : Consistent m) (i : ℕ) (next : Option (ShopBot × BotObject)) :
    Consistent (m.unregister i next) := by
  unfold PollingManager.unregister
  split_ifs
  · exact (h.popEntries i).congr rfl rfl rfl rfl
  · exact h.popEntries i

/-- A bot is entered: this is fine just when no task of the shop polls. -/
theorem Consistent.enterBot_iff (h : Consistent m) (shopBot : ShopBot) (bot : BotObject) :
    Consistent (m.enterBot shopBot bot) ↔ m.polls shopBot.id = false := by
  constructor
  · intro h'
    rw [polls, List.any_eq_false]
    intro t ht hrun
    simp only [Bool.and_eq_true, beq_iff_eq] at hrun
    obtain ⟨k, hk⟩ := List.mem_iff_getElem?.1 ht
    have hlt : k < m.tasks.length := (List.getElem?_eq_some_iff.1 hk).1
    have hk' : (m.enterBot shopBot bot).tasks[k]? = some t := by
      unfold PollingManager.enterBot
      dsimp only
      rw [List.getElem?_append_left hlt]
      exact hk
    have hstored := (h'.stored k t hk' hrun.2).1
    unfold PollingManager.enterBot at hstored
    dsimp only at hstored
    rw [hrun.1, Function.update_self] at hstored
    exact absurd (Option.some.inj hstored) (by omega)
  · intro hpolls
    rw [polls, List.any_eq_false] at hpolls
    refine ⟨fun j => ?_, fun k t hk hrun => ?_⟩
    · unfold PollingManager.enterBot
      dsimp only
      by_cases hj : j = shopBot.id
      · rw [hj, Function.update_self, Function.update_self]
        rfl
      · rw [Function.update_of_ne hj, Function.update_of_ne hj]
        exact h.keys j
    · unfold PollingManager.enterBot at hk ⊢
      dsimp only at hk ⊢
      by_cases hlt : k < m.tasks.length
      · rw [List.getElem?_append_left hlt] at hk
        have hne : t.shopBotId ≠ shopBot.id := by
          intro he
          refine hpolls t (List.mem_of_getElem? hk) ?_
          rw [he, beq_self_eq_true, hrun]
          rfl
        rw [Function.update_of_ne hne, Function.update_of_ne hne]
        exact h.stored k t hk hrun
      · rw [List.getElem?_append_right (by omega), List.getElem?_singleton] at hk
        split_ifs at hk with hzero
        cases hk
        rw [Function.update_self, Function.update_self, show m.tasks.length = k by omega]
        exact ⟨rfl, rfl⟩

theorem Consistent.register (h : Consistent m) (shopBot : ShopBot) : Consistent (m.register shopBot) := by
  have hserial : Consistent { m with serial := m.serial + 1 } := h.congr rfl rfl rfl rfl
  unfold PollingManager.register
  dsimp only
  split_ifs with hbot
  · exact hserial.unregister _ _
  · refine (hserial.enterBot_iff shopBot _).2 (hserial.polls_of_none ?_)
    exact Option.not_isSome_iff_eq_none.1 hbot

/-- A call goes on. -/
theorem Consistent.resume_iff (h : Consistent m) {i : ℕ} {call : ManagerCall}
    (hcall : m.calls[i]? = some call) (raised : Option PyError) :
    Consistent (m.resume i call raised) ↔ m.overwrites (.resume i raised) = false := by
  have hended : Consistent { m with calls := m.calls.eraseIdx i } := h.congr rfl rfl rfl rfl
  have hnext : ∀ c, Consistent { m with calls := m.calls.set i c } := fun c => h.congr rfl rfl rfl rfl
  obtain ⟨await, next⟩ := call
  unfold PollingManager.resume overwrites entersLate
  cases await with
  | deleteWebhook =>
    cases raised with
    | none =>
      dsimp only
      rw [hcall]
      exact iff_of_true (hnext _) rfl
    | some error =>
      refine iff_of_true ?_ rfl
      cases error
      case TelegramAPIError => exact hnext _
      all_goals exact hended
  | sessionClose =>
    cases raised with
    | some error => exact iff_of_true hended rfl
    | none =>
      dsimp only
      rw [hcall]
      cases next with
      | none => exact iff_of_true hended rfl
      | some entry => exact hended.enterBot_iff entry.1 entry.2

theorem Consistent.taskEnds (h : Consistent m) (task : ℕ) :
    Consistent { m with tasks := m.tasks.modify task PollTask.finish } :=
  ⟨h.keys, fun k t hk hrun => h.stored k t (running_of_modify running_finish hk hrun).2 hrun⟩

/-- A step keeps the manager consistent just when no call of `register` goes on over a task that polls. -/
theorem Consistent.step_iff (h : Consistent m) {a : ManagerAct} (hs : m.step a = some m') :
    Consistent m' ↔ m.overwrites a = false := by
  cases a with
  | register shopBot tokenOk =>
    cases hs
    refine iff_of_true ?_ rfl
    split_ifs
    · exact h.register shopBot
    · exact h
  | unregister shopBotId =>
    cases hs
    exact iff_of_true (h.unregister shopBotId none) rfl
  | taskEnds task =>
    cases hs
    exact iff_of_true (h.taskEnds task) rfl
  | resume i raised =>
    obtain ⟨call, hcall, rfl⟩ := Option.map_eq_some_iff.1 hs
    exact h.resume_iff hcall raised

/-- Two tasks of one shop do not poll at the same time. -/
theorem Consistent.unique (h : Consistent m) {j k : ℕ} {t u : PollTask} (hj : m.tasks[j]? = some t)
    (hk : m.tasks[k]? = some u) (ht : t.running = true) (hu : u.running = true)
    (hshop : t.shopBotId = u.shopBotId) : j = k := by
  have htask := (h.stored j t hj ht).1
  rw [hshop, (h.stored k u hk hu).1] at htask
  exact (Option.some.inj htask).symm

/-- The registry is in order once no call is in progress: the two dictionaries have the same keys, a
task that polls is the stored one of its shop and polls with the stored bot, it is the only one of the
shop, and a shop without an entry has none. -/
def InOrder (m : PollingManager) : Prop :=
  m.calls = [] →
    (∀ i, (m.bots i).isSome = (m.secrets i).isSome) ∧
    (∀ k t, m.tasks[k]? = some t → t.running = true →
      m.pollingTasks t.shopBotId = some k ∧ m.bots t.shopBotId = some t.bot) ∧
    (∀ (j k : ℕ) (t u : PollTask), m.tasks[j]? = some t → m.tasks[k]? = some u → t.running = true →
      u.running = true → t.shopBotId = u.shopBotId → j = k) ∧
    ∀ i, m.bots i = none → m.polls i = false

theorem Consistent.inOrder (h : Consistent m) : InOrder m := fun _ =>
  ⟨h.keys, h.stored, fun _ _ _ _ hj hk ht hu => h.unique hj hk ht hu, fun _ => h.polls_of_none⟩

/-- In every run of calls that overlap in any way, the manager is consistent all the time if and only if
no call of `register` goes on while a task of its shop polls; and then the registry is in order whenever
no call is in progress. -/
theorem registry_iff (acts : List ManagerAct) (m : PollingManager)
    (hrun : Runs.exec step empty acts = some m) :
    (Runs.Always step Consistent empty acts ↔
      Runs.Along step (fun m a => m.overwrites a = false) empty acts) ∧
    (Runs.Along step (fun m a => m.overwrites a = false) empty acts → Runs.Always step InOrder empty acts) := by
  have hiff : Runs.Always step Consistent empty acts ↔
      Runs.Along step (fun m a => m.overwrites a = false) empty acts :=
    Runs.always_iff (D := fun _ => True) (fun _ _ _ h _ hs => h.step_iff hs) acts empty m
      consistent_empty (fun _ _ => trivial) hrun
  refine ⟨hiff, fun halong before after m' hsplit hm' => ?_⟩
  exact (hiff.2 halong before after m' hsplit hm').inOrder

/-- A token of shop 1. -/
def shopOne (secret : String) : ShopBot :=
  { id := 1, shopOwnerId := 1, encryptedToken := "", botTelegramId := 7, botUsername := "shop",
    webhookSecretToken := secret }

/-- The token of shop 1 is sent twice, and the shop is suspended while the second call waits. -/
def suspendedMeanwhile : List ManagerAct :=
  [.register (shopOne "a") true, .register (shopOne "b") true, .unregister 1, .resume 0 none,
    .resume 0 none]

theorem registry_iff_suspendedMeanwhile :
    ∃ m, Runs.exec step empty suspendedMeanwhile = some m ∧ m.calls = [] ∧ m.polls 1 = true ∧
      InOrder m := by
  refine ⟨_, rfl, by decide +kernel, by decide +kernel, ?_⟩
  exact (registry_iff suspendedMeanwhile _ rfl).2 (by decide +kernel) suspendedMeanwhile [] _ rfl rfl

/-- The token of shop 1 is sent three times, the third time while the second call waits. -/
def thriceSent : List ManagerAct :=
  [.register (shopOne "a") true, .register (shopOne "b") true, .register (shopOne "c") true,
    .resume 0 none, .resume 0 none]

/-- No call is in progress, and two tasks of shop 1 poll: one of them is not stored. -/
theorem leaked_task :
    ∃ m, Runs.exec step empty thriceSent = some m ∧ m.calls = [] ∧
      (m.tasks.filter fun t => t.shopBotId == 1 && t.running).length = 2 ∧ ¬ InOrder m := by
  refine ⟨_, rfl, by decide +kernel, by decide +kernel, fun h => ?_⟩
  have hsecond := ((h (by decide +kernel)).2.1 1 ⟨1, ⟨2, 7⟩, false, false⟩ (by decide +kernel) rfl).1
  exact absurd hsecond (by decide +kernel)

/-! ## A call alone -/

/-- The entries as the rest of the program sees them. -/
def toManager (m : PollingManager) : ShopBotManager :=
  ⟨fun i => (m.bots i).bind fun bot => (m.secrets i).map fun secret => ⟨bot.botId, secret⟩⟩

/-- `register` with nothing in between. -/
def registerAlone (m : PollingManager) (shopBot : ShopBot) : List ManagerAct :=
  if (m.bots shopBot.id).isSome then
    [.register shopBot true, .resume m.calls.length none, .resume m.calls.length none]
  else [.register shopBot true]

theorem toManager_enterBot (m : PollingManager) (shopBot : ShopBot) (serial : ℕ) :
    (m.enterBot shopBot ⟨serial, shopBot.botTelegramId⟩).toManager = m.toManager.register shopBot := by
  unfold toManager enterBot ShopBotManager.register
  refine congrArg ShopBotManager.mk (funext fun i => ?_)
  dsimp only
  by_cases hi : i = shopBot.id
  · rw [hi, Function.update_self, Function.update_self, Function.update_self]
    rfl
  · rw [Function.update_of_ne hi, Function.update_of_ne hi, Function.update_of_ne hi]

theorem toManager_popEntries (m : PollingManager) (i : ℕ) :
    (m.popEntries i).toManager = m.toManager.unregister i := by
  unfold toManager popEntries ShopBotManager.unregister
  refine congrArg ShopBotManager.mk (funext fun j => ?_)
  dsimp only
  by_cases hj : j = i
  · rw [hj, Function.update_self, Function.update_self, Function.update_self]
    rfl
  · rw [Function.update_of_ne hj, Function.update_of_ne hj, Function.update_of_ne hj]

end PollingManager

namespace ShopBotManager

theorem register_unregister (m : ShopBotManager) (shopBot : ShopBot) :
    (m.unregister shopBot.id).register shopBot = m.register shopBot :=
  congrArg ShopBotManager.mk (Function.update_idem _ _ _)

end ShopBotManager

namespace PollingManager

/-- A call that no other one interrupts does what `ShopBotManager.register` does. -/
theorem register_alone (m : PollingManager) (shopBot : ShopBot) :
    ∃ m', Runs.exec step m (m.registerAlone shopBot) = some m' ∧
      m'.toManager = m.toManager.register shopBot ∧ m'.calls = m.calls := by
  unfold registerAlone
  split_ifs with hbot
  · let bot : BotObject := ⟨m.serial, shopBot.botTelegramId⟩
    let popped : PollingManager := { m with serial := m.serial + 1 }.popEntries shopBot.id
    let waits (await : ManagerAwait) : PollingManager :=
      { popped with calls := m.calls ++ [⟨await, some (shopBot, bot)⟩] }
    have hstart : step m (.register shopBot true) = some (waits .deleteWebhook) := by
      unfold step register unregister
      dsimp only
      rw [if_pos rfl, if_pos hbot, if_pos hbot]
    have hdelete : step (waits .deleteWebhook) (.resume m.calls.length none) =
        some (waits .sessionClose) := by
      unfold step resume
      simp [waits]
    have hclose : step (waits .sessionClose) (.resume m.calls.length none) =
        some ({ popped with calls := m.calls }.enterBot shopBot bot) := by
      unfold step resume
      simp [waits, afterClose, List.eraseIdx_append_of_length_le]
    refine ⟨{ popped with calls := m.calls }.enterBot shopBot bot, ?_, ?_, rfl⟩
    · unfold Runs.exec
      rw [hstart, Option.bind_some]
      unfold Runs.exec
      rw [hdelete, Option.bind_some]
      unfold Runs.exec
      rw [hclose, Option.bind_some]
      rfl
    · rw [toManager_enterBot]
      change popped.toManager.register shopBot = _
      rw [toManager_popEntries, ShopBotManager.register_unregister]
      rfl
  · refine ⟨{ m with serial := m.serial + 1 }.enterBot shopBot ⟨m.serial, shopBot.botTelegramId⟩, ?_,
      toManager_enterBot _ _ _, rfl⟩
    unfold Runs.exec step register
    dsimp only
    rw [if_pos rfl, if_neg hbot]
    rfl

end PollingManager

end KasbOKar
