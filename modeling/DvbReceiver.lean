import DvbReceiver.Report
import DvbReceiver.LocalTime
import DvbReceiver.LocalTime.Resolved
import DvbReceiver.Registry.Handles
import DvbReceiver.Channel
import DvbReceiver.Text.Duration
import DvbReceiver.Simulation.Scenario
import DvbReceiver.Simulation.Folder
import DvbReceiver.Main
import DvbReceiver.Proofs.Registry.Stores
import DvbReceiver.Proofs.Registry.Histories
import DvbReceiver.Proofs.Session.Calls
import DvbReceiver.Proofs.Session.Accounts
import DvbReceiver.Proofs.Session.Attending
import DvbReceiver.Proofs.Session.Overwriting
import DvbReceiver.Proofs.Session.Resources
import DvbReceiver.Proofs.Session.Selection
import DvbReceiver.Proofs.Session.Supersession
import DvbReceiver.Proofs.Calendar.Gregorian
import DvbReceiver.Proofs.Calendar.ModifiedJulian
import DvbReceiver.Proofs.Table.Decoding
import DvbReceiver.Proofs.Table.Pat
import DvbReceiver.Proofs.Table.Pmt
import DvbReceiver.Proofs.Table.Tot
import DvbReceiver.Proofs.LocalTime
import DvbReceiver.Proofs.LocalTime.Resolved
import DvbReceiver.Proofs.Session.Playing
import DvbReceiver.Proofs.Session.Course
import DvbReceiver.Proofs.Session.Turns
import DvbReceiver.Proofs.Session.Requests
import DvbReceiver.Proofs.Session.TimeOnce
import DvbReceiver.Proofs.Session.Actions
import DvbReceiver.Proofs.Session.Situation
import DvbReceiver.Proofs.Session.Continuing
import DvbReceiver.Proofs.Session.Outcomes
import DvbReceiver.Proofs.Session.Display
import DvbReceiver.Proofs.Session.Freshness
import DvbReceiver.Proofs.Session.Noise
import DvbReceiver.Proofs.Simulation.Settling
import DvbReceiver.Proofs.Simulation.Broadcast
import DvbReceiver.Proofs.Simulation.Resting
import DvbReceiver.Proofs.Simulation.Noise
import DvbReceiver.Proofs.Table.Stability
import DvbReceiver.Proofs.Table.Extent
import DvbReceiver.Proofs.CommandLine.Decode
import DvbReceiver.Proofs.Machine.Receiving
import DvbReceiver.Proofs.Bits.Slices
import DvbReceiver.Proofs.BoundedList
import DvbReceiver.Proofs.Text.Hex
import DvbReceiver.Bits.Address
import DvbReceiver.Proofs.Bits.Address
