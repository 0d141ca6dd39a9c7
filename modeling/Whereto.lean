import Whereto.Main
import Whereto.Proofs.Picker.Debouncing
import Whereto.Proofs.Picker.Latest
import Whereto.Proofs.Picker.Offers
import Whereto.Proofs.Picker.Once
import Whereto.Proofs.Picker.Shown
import Whereto.Proofs.Session.Convergence
import Whereto.Proofs.Session.Ended
import Whereto.Proofs.Telemetry.Account
import Whereto.Proofs.Telemetry.Bound
import Whereto.Proofs.Telemetry.Log
import Whereto.Proofs.Telemetry.Unseen
import Whereto.Telemetry.Tree
import Whereto.Proofs.Picker.Accepted
import Whereto.Proofs.Telemetry.Outage
import Whereto.Proofs.Json.Record
import Whereto.Proofs.Json.Restated
import Whereto.Proofs.Plan.Spellings
import Whereto.Proofs.Json.Restored
import Whereto.Proofs.RoundTrip
import Whereto.Proofs.Place.Grammar
import Whereto.Proofs.Picker.BlankParts
import Whereto.Proofs.Url.Segment
import Whereto.Proofs.Plan.Address
import Whereto.Proofs.Place.Named
import Whereto.Proofs.Picker.Progress
import Whereto.Proofs.Picker.Policy
import Whereto.Proofs.Place.Region
import Whereto.Proofs.Picker.Described
import Whereto.Proofs.Plan.Query
import Whereto.Proofs.Settings.Profile
import Whereto.Proofs.Place.Canonical
import Whereto.Proofs.Telemetry.QueryHash
