import Dataspace.CommandLine.Basic
import Dataspace.Connector
import Dataspace.Decimal
import Dataspace.Json.Basic
import Dataspace.Json.Printer
import Dataspace.Json.Reader
import Dataspace.Main
import Dataspace.Members
import Dataspace.Part.Fixture
import Dataspace.Part.Identity
import Dataspace.Plan.Basic
import Dataspace.Plan.Call
import Dataspace.Plan.Run
import Dataspace.Proofs.Backoff
import Dataspace.Proofs.CommandLine.Rendering
import Dataspace.Proofs.CommandLine.Spelling
import Dataspace.Proofs.Decimal
import Dataspace.Proofs.Document
import Dataspace.Proofs.Json.Settled
import Dataspace.Proofs.Json.Steps
import Dataspace.Proofs.Members
import Dataspace.Proofs.Part.Certification
import Dataspace.Proofs.Part.Decoding
import Dataspace.Proofs.Part.Identity
import Dataspace.Proofs.Plan.Alongside
import Dataspace.Proofs.Plan.Balance
import Dataspace.Proofs.Plan.InStep
import Dataspace.Proofs.Plan.Stopping
import Dataspace.Proofs.Plan.Supply
import Dataspace.Proofs.Plan.Trace
import Dataspace.Proofs.Provisioning.Ensure
import Dataspace.Proofs.Provisioning.Grammar
import Dataspace.Proofs.Provisioning.Idempotence
import Dataspace.Proofs.Provisioning.Settling
import Dataspace.Proofs.Provisioning.Store
import Dataspace.Proofs.Seeding.Addresses
import Dataspace.Proofs.Seeding.AssetAddress
import Dataspace.Proofs.Seeding.Correspondence
import Dataspace.Proofs.Seeding.CrossReference
import Dataspace.Proofs.Seeding.DefaultPolicy
import Dataspace.Proofs.Seeding.Delivery
import Dataspace.Proofs.Seeding.Faults
import Dataspace.Proofs.Seeding.Filtering
import Dataspace.Proofs.Seeding.Grammar
import Dataspace.Proofs.Seeding.Identifiers
import Dataspace.Proofs.Seeding.InStep
import Dataspace.Proofs.Seeding.Picking
import Dataspace.Proofs.Seeding.Placement
import Dataspace.Proofs.Seeding.Position
import Dataspace.Proofs.Seeding.Records
import Dataspace.Proofs.Seeding.Reports
import Dataspace.Proofs.Seeding.Run
import Dataspace.Proofs.Seeding.Selection
import Dataspace.Proofs.Seeding.Services
import Dataspace.Proofs.Seeding.Summary
import Dataspace.Proofs.Seeding.Tally
import Dataspace.Proofs.Seeding.Unsteered
import Dataspace.Proofs.Seeding.Upload
import Dataspace.Proofs.Seeding.Warnings
import Dataspace.Proofs.Settings.Arrival
import Dataspace.Proofs.Settings.Layered
import Dataspace.Proofs.Settings.Lists
import Dataspace.Proofs.Settings.Merging
import Dataspace.Proofs.Settings.Parallel
import Dataspace.Proofs.Settings.Setting
import Dataspace.Proofs.Settings.Validation
import Dataspace.Registry
import Dataspace.Retry
import Dataspace.Seeding.Provision
import Dataspace.Seeding.Session
import Dataspace.Seeding.Upload
import Dataspace.Settings.Basic
import Dataspace.Settings.Config
import Dataspace.Settings.Layers
import Dataspace.Settings.Toml.Document
import Dataspace.Settings.Toml.Scalar
import Dataspace.Settings.Toml.Token
import Dataspace.Settings.Value
import Dataspace.Text.Basic
import Dataspace.Text.Quoted
