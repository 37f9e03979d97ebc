import Tether.Main
import Tether.Scenario.Play
import Tether.Trial
import Tether.Proofs.Record
import Tether.Proofs.Scan
import Tether.Proofs.Turn
import Tether.Proofs.Change
import Tether.Proofs.Run
import Tether.Proofs.Gates
import Tether.Proofs.Registry
import Tether.Proofs.SingleFlight
import Tether.Proofs.Sharing
import Tether.Proofs.Waiting
import Tether.Proofs.SharedOutcome
import Tether.Proofs.Replacement
import Tether.Proofs.Granted
import Tether.Proofs.Borrows
import Tether.Proofs.Statistics
import Tether.Proofs.Closing
import Tether.Proofs.Schedule
import Tether.Proofs.Reports
import Tether.Proofs.Leaving
import Tether.Proofs.Probing
import Tether.Proofs.Likeness
import Tether.Proofs.Unison
import Tether.Proofs.Blindness
import Tether.Proofs.Pace
import Tether.Proofs.Notes
import Tether.Proofs.Frame
import Tether.Proofs.Upkeep
import Tether.Proofs.Idleness
import Tether.Proofs.Vigil
import Tether.Proofs.Encounter
import Tether.Proofs.Contact
import Tether.Proofs.Isolation
import Tether.Proofs.Audit
import Tether.Proofs.Retrying
import Tether.Proofs.Commuting
import Tether.Proofs.Eviction
import Tether.Proofs.Debts
import Tether.Proofs.Waking
import Tether.Proofs.Survey
import Tether.Proofs.Progress
import Tether.Proofs.Findings
import Tether.Proofs.Endpoints
import Tether.Proofs.Orders
import Tether.Proofs.Overlay
import Tether.Proofs.Reload
import Tether.Proofs.Origins
import Tether.Proofs.Objections
import Tether.Proofs.Acceptance
import Tether.Proofs.Deadline
import Tether.Proofs.Brackets
