import TurnTaking.Exchange
import TurnTaking.Main
import TurnTaking.Proofs.Budget
import TurnTaking.Proofs.Cascade
import TurnTaking.Proofs.Commutation
import TurnTaking.Proofs.Delay
import TurnTaking.Proofs.Diversity
import TurnTaking.Proofs.Eagerness
import TurnTaking.Proofs.Environment
import TurnTaking.Proofs.Epochs
import TurnTaking.Proofs.Exchange
import TurnTaking.Proofs.Fairness
import TurnTaking.Proofs.FirstTier
import TurnTaking.Proofs.Floor
import TurnTaking.Proofs.Grants
import TurnTaking.Proofs.History
import TurnTaking.Proofs.InFlight
import TurnTaking.Proofs.Isolation
import TurnTaking.Proofs.Janitor
import TurnTaking.Proofs.Json.RoundTrip
import TurnTaking.Proofs.Json.Structure
import TurnTaking.Proofs.Json.Typed
import TurnTaking.Proofs.LifeCycle
import TurnTaking.Proofs.Lock
import TurnTaking.Proofs.Memory
import TurnTaking.Proofs.Mention
import TurnTaking.Proofs.Mentioned
import TurnTaking.Proofs.Pacing
import TurnTaking.Proofs.PassedOver
import TurnTaking.Proofs.Preliminaries
import TurnTaking.Proofs.ReadBack
import TurnTaking.Proofs.Redelivery
import TurnTaking.Proofs.Replies
import TurnTaking.Proofs.Responders
import TurnTaking.Proofs.Retraction
import TurnTaking.Proofs.Rotation
import TurnTaking.Proofs.Selected
import TurnTaking.Proofs.Session
import TurnTaking.Proofs.Settlement
import TurnTaking.Proofs.SpeakerCache
import TurnTaking.Proofs.Summons
import TurnTaking.Proofs.SweepCount
import TurnTaking.Proofs.Thread
import TurnTaking.Proofs.Transactions
import TurnTaking.Proofs.TriggerKeys
import TurnTaking.Proofs.Unprompted
import TurnTaking.Scenario.Run
