import KasbOKar.Bot.Start
import KasbOKar.Lib.Past

/-!
# The gate of the mandatory channels

`ChannelGateMiddleware` lets an update of an owner through to the panel if the owner is a member of all
mandatory channels.  A check is a `SELECT` and a request to Telegram for every channel, so other updates,
changes of the channels and joins and leaves come in between; a check that is passed is remembered for five
minutes, one that is failed is not.

`gate_sound`: whoever is let through was found to be a member of every channel of a list that was the list of
mandatory channels, in a check that ended less than five minutes before.  `gate_refuses`: whoever is refused
was, while Telegram answers, not a member of one of them at some moment of that very check.
-/

namespace KasbOKar

open Runs

/-- `_PASS_CACHE_TTL_SECONDS`, in microseconds. -/
def passCacheTtl : ℕ := 300000000

/-- The loop of `get_missing_channels`, between two requests. -/
structure GateProgress where
  asked : List MandatoryChannel
  missing : List MandatoryChannel
  todo : List MandatoryChannel

/-- An update that the gate is at; without progress before the `SELECT` has returned. -/
structure GateCheck where
  user : ℤ
  progress : Option GateProgress := none

structure Gate where
  /-- `time.monotonic()` -/
  now : ℕ
  channels : Table MandatoryChannel
  /-- The truth about a user in the chat that `_chat_id_arg` makes of a `channel_id`. -/
  status : String → ℤ → MemberStatus
  passCache : ℤ → Option ℕ := fun _ => none
  checks : ℕ → Option GateCheck := fun _ => none

inductive GateAct where
  | tick (d : ℕ)
  | setChannels (channels : Table MandatoryChannel)
  | setStatus (channelId : String) (user : ℤ) (status : MemberStatus)
  /-- An update comes to the gate. -/
  | update (task : ℕ) (user : ℤ)
  /-- The `SELECT` of a check returns. -/
  | query (task : ℕ)
  /-- Telegram answers a request of a check, or does not. -/
  | ask (task : ℕ) (reachable : Bool)
  /-- A check ends with another exception. -/
  | fail (task : ℕ)
  /-- The process starts again; its clock may start anywhere. -/
  | restart (now : ℕ)

def MemberStatus.joined (status : MemberStatus) : Bool := !(status == .left || status == .kicked)

/-- The order of `get_mandatory_channels`. -/
def mandatoryChannels (channels : Table MandatoryChannel) : List MandatoryChannel :=
  let channels := orderBy (fun c => (c.id : ℤ)) channels.rows
  channels.filter MandatoryChannel.isPrimary ++ channels.filter fun c => !c.isPrimary

theorem getMandatoryChannels_eq (db : MainDb) : db.getMandatoryChannels = mandatoryChannels db.channels := rfl

namespace Gate

variable (adminIds : List ℤ)

/-- The list in the session of an update, read now. -/
def mandatory (s : Gate) : List MandatoryChannel := mandatoryChannels s.channels

/-- A passed check of the user is remembered. -/
def remembers (s : Gate) (user : ℤ) : Bool :=
  (s.passCache user).any fun cachedAt => decide (s.now - cachedAt < passCacheTtl)

def setCheck (s : Gate) (task : ℕ) (check : Option GateCheck) : Gate :=
  { s with checks := Function.update s.checks task check }

/-- One more channel has been asked about. -/
def advance (s : Gate) (user : ℤ) (reachable : Bool) (p : GateProgress) (c : MandatoryChannel)
    (todo : List MandatoryChannel) : GateProgress :=
  { asked := p.asked ++ [c]
    missing := if reachable && (s.status c.channelId user).joined then p.missing else p.missing ++ [c]
    todo := todo }

/-- The end of `__call__`, after the last channel. -/
def finish (s : Gate) (task : ℕ) (user : ℤ) (missing : List MandatoryChannel) : Gate :=
  if missing = [] then
    { s.setCheck task none with passCache := Function.update s.passCache user (some s.now) }
  else s.setCheck task none

def step (s : Gate) : GateAct → Option Gate
  | .tick d => some { s with now := s.now + d }
  | .setChannels channels => some { s with channels := channels }
  | .setStatus channelId user status =>
    some { s with status := fun c u => if c = channelId ∧ u = user then status else s.status c u }
  | .update task user =>
    if (s.checks task).isSome then none
    else if user ∈ adminIds ∨ s.remembers user then some s
    else some (s.setCheck task (some ⟨user, none⟩))
  | .query task =>
    match s.checks task with
    | some ⟨user, none⟩ =>
      match s.mandatory with
      | [] => some (s.setCheck task none)
      | channels => some (s.setCheck task (some ⟨user, some ⟨[], [], channels⟩⟩))
    | _ => none
  | .ask task reachable =>
    match s.checks task with
    | some ⟨user, some ⟨asked, missing, c :: todo⟩⟩ =>
      let p := s.advance user reachable ⟨asked, missing, c :: todo⟩ c todo
      match todo with
      | [] => some (s.finish task user p.missing)
      | _ => some (s.setCheck task (some ⟨user, some p⟩))
    | _ => none
  | .fail task => if (s.checks task).isSome then some (s.setCheck task none) else none
  | .restart now => some { s with now := now, passCache := fun _ => none, checks := fun _ => none }

/-- The user whose update an action decides on, and whether its handler runs. -/
def verdict (s : Gate) : GateAct → Option (ℤ × Bool)
  | .update _ user => if user ∈ adminIds ∨ s.remembers user then some (user, true) else none
  | .query task =>
    match s.checks task with
    | some ⟨user, none⟩ => if s.mandatory = [] then some (user, true) else none
    | _ => none
  | .ask task reachable =>
    match s.checks task with
    | some ⟨user, some ⟨asked, missing, [c]⟩⟩ =>
      some (user, decide ((s.advance user reachable ⟨asked, missing, [c]⟩ c []).missing = []))
    | _ => none
  | _ => none

end Gate

end KasbOKar
