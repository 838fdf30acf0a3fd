import Blueprint.Artifact
import Blueprint.Assembly
import Blueprint.Assembly.Overview
import Blueprint.Bounds
import Blueprint.Clock
import Blueprint.Command.Completion
import Blueprint.Command.Error
import Blueprint.Command.Init
import Blueprint.Command.Invocation
import Blueprint.Command.Outputs
import Blueprint.Command.Run
import Blueprint.Command.Synth
import Blueprint.Command.Validate
import Blueprint.Command.Workplace
import Blueprint.CommandLine
import Blueprint.CommandLine.Help
import Blueprint.Console
import Blueprint.Csv
import Blueprint.Csv.Reader
import Blueprint.Deployment
import Blueprint.Dict
import Blueprint.Engine
import Blueprint.Environment
import Blueprint.Environment.Assignment
import Blueprint.Environment.File
import Blueprint.Error
import Blueprint.Error.Record
import Blueprint.Handle
import Blueprint.Identifier
import Blueprint.Json
import Blueprint.Json.Printer
import Blueprint.Json.Reader
import Blueprint.Json.Typed
import Blueprint.Machine.Fault
import Blueprint.Machine.Script
import Blueprint.Machine.Session
import Blueprint.Machine.Store
import Blueprint.Machine.Trial
import Blueprint.Machine.Workspace
import Blueprint.Main
import Blueprint.Naming
import Blueprint.Network.Address
import Blueprint.Network.Form
import Blueprint.Network.Peer
import Blueprint.Path
import Blueprint.Preferences
import Blueprint.Proofs.Assembly.Crossing
import Blueprint.Proofs.Assembly.Marks
import Blueprint.Proofs.Assembly.NameClash
import Blueprint.Proofs.Assembly.Order
import Blueprint.Proofs.Assembly.Rendering
import Blueprint.Proofs.Assembly.Replacement
import Blueprint.Proofs.Assembly.Wiring
import Blueprint.Proofs.Check
import Blueprint.Proofs.Csv
import Blueprint.Proofs.Deployment.Change
import Blueprint.Proofs.Deployment.Composition
import Blueprint.Proofs.Deployment.Grants
import Blueprint.Proofs.Deployment.HostNames
import Blueprint.Proofs.Deployment.Kinds
import Blueprint.Proofs.Deployment.MachineNames
import Blueprint.Proofs.Deployment.PublicNames
import Blueprint.Proofs.Deployment.Regions
import Blueprint.Proofs.Deployment.Tiers
import Blueprint.Proofs.Deployment.Wiring
import Blueprint.Proofs.Dict
import Blueprint.Proofs.Json
import Blueprint.Proofs.Json.Reader
import Blueprint.Proofs.Machine.Ensures
import Blueprint.Proofs.Machine.Store
import Blueprint.Proofs.Machine.Tree
import Blueprint.Proofs.Network.Address
import Blueprint.Proofs.Network.Peer
import Blueprint.Proofs.Path.Containment
import Blueprint.Proofs.Path.Directory
import Blueprint.Proofs.Path.Parts
import Blueprint.Proofs.Resource.Kinds
import Blueprint.Proofs.Resource.Scan
import Blueprint.Proofs.Resource.Shape
import Blueprint.Proofs.Resource.Values
import Blueprint.Proofs.Sample
import Blueprint.Proofs.Settings.Bounds
import Blueprint.Proofs.Settings.Change
import Blueprint.Proofs.Settings.Judgement
import Blueprint.Proofs.Settings.Language
import Blueprint.Proofs.Settings.Normal
import Blueprint.Proofs.Settings.Rules
import Blueprint.Proofs.Synthesis.AllOrNothing
import Blueprint.Proofs.Synthesis.Delivery
import Blueprint.Proofs.Synthesis.Preparation
import Blueprint.Proofs.Synthesis.Safekeeping
import Blueprint.Proofs.Synthesis.Writing
import Blueprint.Proofs.Template.Content
import Blueprint.Proofs.Template.Declaration
import Blueprint.Proofs.Template.Entries
import Blueprint.Proofs.Template.Names
import Blueprint.Proofs.Template.Placeholders
import Blueprint.Proofs.Template.Plan
import Blueprint.Proofs.Template.Sections
import Blueprint.Proofs.Text
import Blueprint.Proofs.Text.Decimal
import Blueprint.Proofs.Tier.Base
import Blueprint.Proofs.Tier.Cert
import Blueprint.Proofs.Tier.Cluster
import Blueprint.Proofs.Tier.Data
import Blueprint.Proofs.Tier.Declaration
import Blueprint.Proofs.Tier.Email
import Blueprint.Proofs.Tier.Kinds
import Blueprint.Proofs.Tier.Numbered
import Blueprint.Proofs.Tier.Web
import Blueprint.Proofs.Topology.Calls
import Blueprint.Proofs.Topology.Construction
import Blueprint.Proofs.Topology.Finalization
import Blueprint.Proofs.Topology.Imports
import Blueprint.Proofs.Topology.References
import Blueprint.Proofs.Topology.Validity
import Blueprint.Proofs.Value.Read
import Blueprint.Proofs.Value.Scan
import Blueprint.Reference
import Blueprint.Region
import Blueprint.Resource
import Blueprint.Resource.Property
import Blueprint.Sample
import Blueprint.Settings
import Blueprint.Settings.Document
import Blueprint.Settings.Format
import Blueprint.Settings.Validation
import Blueprint.Source
import Blueprint.Synthesis
import Blueprint.TaskSize
import Blueprint.Template
import Blueprint.Template.ExportPlan
import Blueprint.Template.Intrinsic
import Blueprint.Text.Ascii
import Blueprint.Text.Blank
import Blueprint.Text.Decimal
import Blueprint.Text.Hidden
import Blueprint.Text.Quoted
import Blueprint.Text.Real
import Blueprint.Text.Split
import Blueprint.Text.Style
import Blueprint.Text.Utf8
import Blueprint.Tier
import Blueprint.Tier.Base
import Blueprint.Tier.Cert
import Blueprint.Tier.Dashboard
import Blueprint.Tier.Data
import Blueprint.Tier.Email
import Blueprint.Tier.Web
import Blueprint.Toml.Printer
import Blueprint.Toml.Reader
import Blueprint.Toml.Scalar
import Blueprint.Toml.Table
import Blueprint.Toml.Text
import Blueprint.Topology
import Blueprint.Trace
import Blueprint.Trace.Filter
import Blueprint.Value
