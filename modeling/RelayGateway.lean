import RelayGateway.Gateway.Flight
import RelayGateway.Gateway.Relay
import RelayGateway.Health.Notifier
import RelayGateway.Log
import RelayGateway.Main
import RelayGateway.Proofs.Program.Transcript
import RelayGateway.Proofs.Routing.Selection
import RelayGateway.Relay.Job
import RelayGateway.Store.Schema
import RelayGateway.Upkeep.Routine
import RelayGateway.Proofs.Relay.Turn
import RelayGateway.Proofs.Relay.Attempts
import RelayGateway.Proofs.Relay.Books
import RelayGateway.Proofs.Routing.Table
import RelayGateway.Proofs.Routing.History
import RelayGateway.Proofs.Health.Interleaving
import RelayGateway.Proofs.Store.StoredStatus
import RelayGateway.Proofs.Health.Account
import RelayGateway.Proofs.Health.Effect
import RelayGateway.Proofs.Health.AtRest
import RelayGateway.Proofs.Routing.Availability
import RelayGateway.Proofs.Relay.Retrying
import RelayGateway.Proofs.Program.Watch
import RelayGateway.Proofs.Routing.Resolution
import RelayGateway.Proofs.Relay.Conduct
import RelayGateway.Proofs.Relay.Failover
import RelayGateway.Proofs.Balance.Cooling
import RelayGateway.Proofs.Gateway.Traffic
import RelayGateway.Proofs.Gateway.Suppression
import RelayGateway.Proofs.Gateway.Failover
import RelayGateway.Proofs.Access.Enrolment
import RelayGateway.Proofs.Relay.Confinement
import RelayGateway.Proofs.Health.Faults
import RelayGateway.Proofs.Health.Flights
import RelayGateway.Proofs.Health.Disabling
import RelayGateway.Proofs.Health.JointDisabling
import RelayGateway.Proofs.Health.DisabledOnce
import RelayGateway.Proofs.Relay.Penalties
import RelayGateway.Proofs.Health.Examination
import RelayGateway.Proofs.Gateway.Solitude
import RelayGateway.Proofs.Gateway.Penalties
import RelayGateway.Proofs.Routing.Isolation
import RelayGateway.Proofs.Routing.LastLoad
import RelayGateway.Proofs.Routing.Listings
import RelayGateway.Proofs.Health.FlightLog
import RelayGateway.Proofs.Health.FlightAccounts
import RelayGateway.Proofs.Health.Overruling
import RelayGateway.Proofs.Relay.Streaming
import RelayGateway.Proofs.Balance.Fairness
import RelayGateway.Proofs.Settings.Reloading
import RelayGateway.Proofs.Http.Secrecy
import RelayGateway.Proofs.Http.Orders
import RelayGateway.Proofs.Text.ByteOrder
import RelayGateway.Proofs.Routing.Preference
import RelayGateway.Proofs.Routing.Specificity
import RelayGateway.Proofs.Routing.OneShot
import RelayGateway.Proofs.Balance.CooldownHistory
import RelayGateway.Proofs.Upstream.RequestIds
import RelayGateway.Proofs.Upstream.Concealment
import RelayGateway.Proofs.Text.Trimming
import RelayGateway.Proofs.Upstream.Judgement
import RelayGateway.Proofs.Relay.Endings
import RelayGateway.Proofs.Relay.Billing
import RelayGateway.Proofs.Relay.Estimates
import RelayGateway.Proofs.Program.Handling
import RelayGateway.Relay.JobRun
import RelayGateway.Proofs.Relay.Jobs
import RelayGateway.Proofs.Gateway.LocalFailures
import RelayGateway.Proofs.Store.Fetches
import RelayGateway.Proofs.Settings.AnyOrder
import RelayGateway.Proofs.Text.Lists
import RelayGateway.Proofs.Routing.StoredLists
import RelayGateway.Proofs.Balance.AnyClock
import RelayGateway.Proofs.Channel.RoundTrip
import RelayGateway.Proofs.Upkeep.TaskList
import RelayGateway.Proofs.Upkeep.Ticking
import RelayGateway.Proofs.Upkeep.Restarts
