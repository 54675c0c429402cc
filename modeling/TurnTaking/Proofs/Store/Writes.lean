import TurnTaking.Engine
import TurnTaking.Proofs.Store.Frame

/-!
# Writes — which tables each access may change

For every access that an engine makes, the tables that it writes: a view that shows none of them is
left as it was (`Frames`). An access that only reads frames every view.
-/

namespace TurnTaking

open Store Store.Access

variable {β : Type} {view : Tables → β}

/-! ## Presence -/

namespace Presence

theorem ensure_frames (h : Relation.presence.Hidden view) (channel avatar : String) (now : Int) :
    Frames view (ensure channel avatar now) :=
  (Frames.change h _).bind fun _ => .query _ _

theorem recordMention_frames (h : Relation.presence.Hidden view) (channel avatar : String)
    (now : Int) : Frames view (recordMention channel avatar now) :=
  .change h _

theorem recordTurn_frames (h : Relation.presence.Hidden view) (channel avatar : String)
    (now cooldown : Int) : Frames view (recordTurn channel avatar now cooldown) :=
  .change h _

theorem consumeSummon_frames (h : Relation.presence.Hidden view) (channel avatar : String) :
    Frames view (consumeSummon channel avatar) :=
  (Frames.change h _).bind fun _ => .pure _

end Presence

/-! ## Activity -/

namespace Activity

/-- A person's message is recorded in two tables. -/
theorem recordHuman_frames (h : Relation.activity.Hidden view) (h' : Relation.humans.Hidden view)
    (channel user : String) (now : Int) : Frames view (recordHuman channel user now) :=
  .atomically ((Frames.change h _).bind fun _ => .change h' _)

theorem recordBot_frames (h : Relation.activity.Hidden view) (channel key : String) (now : Int) :
    Frames view (recordBot channel key now) :=
  .change h _

theorem recordSent_frames (h : Relation.sent.Hidden view) (message channel avatar : String)
    (now : Int) : Frames view (recordSent message channel avatar now) :=
  .change h _

theorem find?_frames (channel : String) : Frames view (find? channel) := .query _ _

theorem recentChannels_frames (limit : Nat) : Frames view (recentChannels limit) := .query _ _

theorem activeHumans_frames (channel : String) (since : Int) :
    Frames view (activeHumans channel since) :=
  .query _ _

theorem sender?_frames (message : String) : Frames view (sender? message) := .query _ _

theorem topics_frames (channel : String) : Frames view (topics channel) := by
  refine (Frames.query _ _).bind fun stored => ?_
  cases stored with
  | none => exact .pure _
  | some s =>
    dsimp only
    split
    · exact .pure _
    · exact .throw _

end Activity

/-! ## Ticks and leases -/

theorem Tick.peek_frames (h : Relation.ticks.Hidden view) (channel : String) (now : Int) :
    Frames view (Tick.peek channel now) :=
  (Frames.change h _).bind fun _ => .query _ _

theorem Tick.advance_frames (h : Relation.ticks.Hidden view) (channel : String) (now : Int) :
    Frames view (Tick.advance channel now) :=
  (Frames.change h _).bind fun _ => .ofReading _

namespace Lease

theorem tryTake_frames (h : Relation.leases.Hidden view) (ttl : Int) (channel avatar : String)
    (tick : Nat) (origin : Origin) (now : Int) :
    Frames view (tryTake ttl channel avatar tick origin now) :=
  .change h _

theorem acquire?_frames (h : Relation.leases.Hidden view) (ttl : Int) (channel avatar : String)
    (tick : Nat) (origin : Origin) (now : Int) :
    Frames view (acquire? ttl channel avatar tick origin now) := by
  refine (tryTake_frames h ttl channel avatar tick origin now).bind fun taken => ?_
  cases taken with
  | true => exact .pure _
  | false => exact .pure _

theorem find?_frames (channel avatar : String) (tick : Nat) :
    Frames view (find? channel avatar tick) :=
  .query _ _

theorem settle_frames (h : Relation.leases.Hidden view) (channel avatar : String) (tick : Nat)
    (status : Status) (error : Option String) (clock : Int) :
    Frames view (settle channel avatar tick status error clock) :=
  (Frames.change h _).bind fun _ => .pure _

theorem Guard.complete_frames (h : Relation.leases.Hidden view) (g : Guard) (clock : Int) :
    Frames view (g.complete clock) :=
  (settle_frames h _ _ _ _ _ _).bind fun _ => .pure _

theorem Guard.fail_frames (h : Relation.leases.Hidden view) (g : Guard) (reason : String)
    (clock : Int) : Frames view (g.fail reason clock) :=
  (settle_frames h _ _ _ _ _ _).bind fun _ => .pure _

end Lease

/-! ## Locks and the gate -/

namespace Lock

theorem tryGuard_frames (h : Relation.locks.Hidden view) (ttl : Int) (channel avatar : String)
    (now : Int) : Frames view (tryGuard ttl channel avatar now) := by
  refine (Frames.change h _).bind fun free => ?_
  cases free with
  | true => exact .pure _
  | false => exact .pure _

theorem Guard.drop_frames (h : Relation.locks.Hidden view) (g : Guard) : Frames view g.drop :=
  (Frames.change h _).bind fun _ => .pure _

end Lock

namespace Gate

theorem admitResponder_frames (h : Relation.responders.Hidden view) (c : Config.Gate) (r : Request)
    (now : Int) : Frames view (admitResponder c r now) := by
  refine (Frames.query _ _).bind fun responders => ?_
  split
  · exact .pure _
  · split
    · exact .pure _
    · exact (Frames.statement h _).bind fun _ => .pure _

/-- The gate reads the activity and writes the responders. -/
theorem enter_frames (h : Relation.responders.Hidden view) (c : Config.Gate) (r : Request)
    (now : Int) : Frames view (enter c r now) := by
  refine .atomically ?_
  show Frames view (if _ then _ else _)
  split
  · refine (Frames.query _ _).bind fun last => ?_
    split
    · exact .pure _
    · exact admitResponder_frames h c r now
  · exact admitResponder_frames h c r now

theorem revoke_frames (h : Relation.responders.Hidden view) (key avatar : String) :
    Frames view (revoke key avatar) :=
  (Frames.change h _).bind fun _ => .pure _

end Gate

/-! ## Threads and sessions -/

namespace Thread

theorem start_frames (h : Relation.threads.Hidden view) (terms : Terms) (id channel : String)
    (participants : List String) (lastSpeaker : Option String) (now : Int) :
    Frames view (start terms id channel participants lastSpeaker now) :=
  (Frames.atomically ((Frames.change h _).bind fun _ => .statement h _)).bind fun _ => .pure _

theorem active?_frames (channel : String) (now : Int) : Frames view (active? channel now) :=
  .query _ _

theorem recordTurn_frames (h : Relation.threads.Hidden view) (ttl : Int) (id speaker : String)
    (now : Int) : Frames view (recordTurn ttl id speaker now) :=
  (Frames.change h _).bind fun _ => .pure _

end Thread

theorem Session.recordResponse_frames (h : Relation.sessions.Hidden view)
    (channel user avatar : String) (now : Int) :
    Frames view (recordResponse channel user avatar now) :=
  .change h _

end TurnTaking
