import ServiceRegistry.Main
import ServiceRegistry.Session.Dump
import ServiceRegistry.Session.Script
import ServiceRegistry.Description
import ServiceRegistry.Json.Value
import ServiceRegistry.Proofs.Runs
import ServiceRegistry.Proofs.Stage
import ServiceRegistry.Proofs.Contributions
import ServiceRegistry.Proofs.Tables
import ServiceRegistry.Proofs.HostCalls
import ServiceRegistry.Proofs.CallByCall
import ServiceRegistry.Proofs.Correspondence
import ServiceRegistry.Proofs.Ledger
import ServiceRegistry.Proofs.Locating
import ServiceRegistry.Proofs.Reports
import ServiceRegistry.Proofs.SharedCatalog
import ServiceRegistry.Proofs.StoppedFollowers
import ServiceRegistry.Proofs.Stopping
import ServiceRegistry.Proofs.Holdings
import ServiceRegistry.Proofs.Departures
import ServiceRegistry.Proofs.Announcements
import ServiceRegistry.Proofs.Broadcast
import ServiceRegistry.Proofs.Interchange
import ServiceRegistry.Proofs.CommandAnswers
import ServiceRegistry.Proofs.LayeredSettings
import ServiceRegistry.Proofs.FirstLines
import ServiceRegistry.Proofs.OwnDescriptors
import ServiceRegistry.Proofs.Retraction
import ServiceRegistry.Proofs.StandingAnswers
import ServiceRegistry.Proofs.BuiltListings
import ServiceRegistry.Proofs.Refusals
import ServiceRegistry.Proofs.Confinement
import ServiceRegistry.Proofs.Locations
import ServiceRegistry.Proofs.Documents
import ServiceRegistry.Proofs.DumpedSettings
import ServiceRegistry.Proofs.BlankPins
import ServiceRegistry.Proofs.StrayDescriptors
import ServiceRegistry.Proofs.Subscriptions
import ServiceRegistry.Proofs.FreshNumbers
