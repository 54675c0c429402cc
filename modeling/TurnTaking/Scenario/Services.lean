import TurnTaking.Scenario.Scene

/-!
# Scripted services

The services outside as a scenario plays them. Each call is noted before anything else happens, and
fails if it is switched to fail. A generator lets the next list of hooks of its avatar happen, takes
its time, and then does what its script says. Affinities are those of the store in use.
-/

namespace TurnTaking.Scenario

def failIf (call : String) (f : Fault) : Try Scene Unit := do
  if (← get).outside.cast.failing.contains call then throw f

/-- Makes a text as the script says. -/
def generate (inner : List Step → Act Scene Unit) (a : Avatar) (channel : String)
    (m : Option Message) (o : ResponseOptions) : Try Scene (Option Generated) := do
  log (.generate a.id channel (m.map Message.id) o)
  match Cast.takeHook a.id (← cast).script.hooks with
  | none => pure ()
  | some (steps, rest) =>
    updateCast fun c => { c with script := { c.script with hooks := rest } }
    inner steps
  modify fun w => { w with clock := w.clock + (w.outside.cast.script.duration.getD 0) }
  updateCast fun c =>
    { c with calls := c.calls ++ [(a.id, channel, m.map Message.id, o.triggerKey)] }
  let script := (← cast).script
  if script.failing.contains a.id then throw (.generation s!"{a.id} failed to generate")
  if script.silent.contains a.id then return none
  let text := (Cast.latest a.id script.replies).getD s!"{a.name} here"
  return some ⟨Cast.latest a.id script.sent, text⟩

/-- The latest messages of a channel's history. -/
def fetchRecent (channel : String) (limit : Nat) : Try Scene (List Message) := do
  updateCast fun c => { c with fetches := c.fetches + 1 }
  failIf "fetch" (.transport "fetch unavailable")
  return ((← cast).messagesOf channel).take limit

/-- Sends a text under the next number, and puts it in front of the channel's history. -/
def send (channel : String) (a : Avatar) (text : String) : Try Scene String := do
  log (.send channel a.id text)
  failIf "send" (.transport "send unavailable")
  failIf s!"send:{a.id}" (.transport "send unavailable")
  let id := s!"sent-{(← cast).sent.length + 1}"
  let m := Message.fromAvatar id channel a.id text (← clockNow)
  updateCast fun c => { c.seed m with sent := c.sent ++ [(id, channel, a.id, text)] }
  return id

def decide (channel : String) (a : Avatar) (m : Option Message) : Try Scene Bool := do
  log (.decide channel a.id (m.map Message.id))
  failIf "decide" (.generation "decision unavailable")
  updateCast fun c => { c with asked := c.asked ++ [a.id] }
  match (← cast).verdict with
  | .everybody => return true
  | .only avatars => return avatars.contains a.id

/-- The scripted services, where `inner` lets hooks happen. -/
def services (inner : List Step → Act Scene Unit) : Collaborators Scene where
  generate := generate inner
  fetchRecent channel limit := do
    log (.fetch channel limit)
    fetchRecent channel limit
  send := send
  relocate a channel := do
    log (.relocate a.id channel)
    failIf "relocate" (.transport "relocation unavailable")
    updateCast fun c => { c with relocations := c.relocations ++ [(a.id, channel)] }
  getAvatar id := do
    log (.getAvatar id)
    failIf "get_avatar" (.identity "get unavailable")
    return (← cast).avatars.find? (·.id = id)
  listAvatars channel := do
    log (.list channel)
    failIf "list" (.identity "identity store unavailable")
    return (← cast).avatars.filter (·.isIn channel)
  touch id time := do
    log (.touch id time)
    failIf "touch" (.identity "touch unavailable")
    updateCast fun c => { c with touches := c.touches ++ [(id, time)] }
  shouldRespond := decide
  preferred channel user := do
    log (.preferred channel user)
    failIf "affinity_get" (.storage "affinity unavailable")
    Affinity.storedPreferred channel user
  prefer channel user avatar ttl := do
    log (.prefer channel user avatar ttl)
    failIf "affinity_set" (.storage "affinity unavailable")
    Affinity.storedPrefer channel user avatar ttl

end TurnTaking.Scenario
