import AccessBaseline.Access.Assignment
import AccessBaseline.Access.Capability
import AccessBaseline.Access.Group
import AccessBaseline.Access.Permission
import AccessBaseline.Access.Role
import AccessBaseline.Access.RoleIndex
import AccessBaseline.Access.RoleName
import AccessBaseline.Access.Scope
import AccessBaseline.Baseline
import AccessBaseline.Call
import AccessBaseline.Config
import AccessBaseline.Console.Arguments
import AccessBaseline.Console.EnvFile
import AccessBaseline.Console.FileTree
import AccessBaseline.Console.Log
import AccessBaseline.Console.Program
import AccessBaseline.Console.Similar
import AccessBaseline.Console.Summary
import AccessBaseline.Console.Table
import AccessBaseline.Csv
import AccessBaseline.Difference
import AccessBaseline.Event
import AccessBaseline.Failure
import AccessBaseline.Http.Client
import AccessBaseline.Http.Exchange
import AccessBaseline.Http.Library
import AccessBaseline.Http.Message
import AccessBaseline.Identifier
import AccessBaseline.Interaction
import AccessBaseline.IoFault
import AccessBaseline.Json.Container
import AccessBaseline.Json.Document
import AccessBaseline.Json.Fault
import AccessBaseline.Json.NumberReader
import AccessBaseline.Json.Printer
import AccessBaseline.Json.Reader
import AccessBaseline.Json.Shape
import AccessBaseline.Json.Value
import AccessBaseline.KeyTable
import AccessBaseline.Main
import AccessBaseline.Memory
import AccessBaseline.Metadata
import AccessBaseline.Moment
import AccessBaseline.Number.Binary64
import AccessBaseline.Number.Shortest
import AccessBaseline.Ownership
import AccessBaseline.Proofs.Audit
import AccessBaseline.Proofs.Baseline
import AccessBaseline.Proofs.CallOrder
import AccessBaseline.Proofs.Config
import AccessBaseline.Proofs.Confinement
import AccessBaseline.Proofs.Convergence
import AccessBaseline.Proofs.Frugality
import AccessBaseline.Proofs.Goal
import AccessBaseline.Proofs.Lookup
import AccessBaseline.Proofs.Origin
import AccessBaseline.Proofs.Outcome
import AccessBaseline.Proofs.Ownership
import AccessBaseline.Proofs.OwnershipPlan
import AccessBaseline.Proofs.Persistence
import AccessBaseline.Proofs.Pursuit
import AccessBaseline.Proofs.Reconcile.Logic
import AccessBaseline.Proofs.Reconcile.Phases
import AccessBaseline.Proofs.Resumption
import AccessBaseline.Proofs.Stage
import AccessBaseline.Proofs.Unfailing
import AccessBaseline.Reconcile.Basic
import AccessBaseline.Reconcile.Groups
import AccessBaseline.Reconcile.Report
import AccessBaseline.Reconcile.Roles
import AccessBaseline.Seed
import AccessBaseline.Text.CaseTable
import AccessBaseline.Text.Fields
import AccessBaseline.Text.Lowercase
import AccessBaseline.Text.PrintTable
import AccessBaseline.Text.Quoted
import AccessBaseline.Url.Address
import AccessBaseline.Url.Basic
import AccessBaseline.Url.Domain
import AccessBaseline.Url.Endpoint
import AccessBaseline.Url.Fault
import AccessBaseline.Url.Parser
import AccessBaseline.Url.Percent
import AccessBaseline.Url.Punycode
import AccessBaseline.Proofs.Reordering
import AccessBaseline.Proofs.SeedAgreement
import AccessBaseline.Proofs.Json.Reading
import AccessBaseline.Proofs.Wire
import AccessBaseline.Proofs.Http.Replay
import AccessBaseline.Proofs.Reconcile.Script
import AccessBaseline.Proofs.Reconcile.Grants
import AccessBaseline.Proofs.Reconcile.Bindings
import AccessBaseline.Proofs.Url.Percent
import AccessBaseline.Proofs.Url.Segments
import AccessBaseline.Proofs.Http.Addressing
import AccessBaseline.Proofs.Startup
import AccessBaseline.Proofs.Console.Requests
import AccessBaseline.Proofs.Console.Redirects
import AccessBaseline.Proofs.Console.Gate
import AccessBaseline.Proofs.OwnershipStart
import AccessBaseline.Proofs.Json.Grammar
import AccessBaseline.Proofs.Json.Scanning
import AccessBaseline.Proofs.Json.Container
import AccessBaseline.Proofs.Json.Skipping
import AccessBaseline.Proofs.Json.Printing
import AccessBaseline.Proofs.Json.Value
import AccessBaseline.Proofs.Metadata
import AccessBaseline.Proofs.Json.Refusing
import AccessBaseline.Proofs.Json.Records
import AccessBaseline.Proofs.Json.TextFields
import AccessBaseline.Proofs.ConfigText
import AccessBaseline.Proofs.Csv
import AccessBaseline.Proofs.Echo
import AccessBaseline.Proofs.Http.Boundary
import AccessBaseline.Proofs.Http.Attempts
import AccessBaseline.Proofs.Http.Listings
import AccessBaseline.Proofs.Text.ByteOrder
import AccessBaseline.Proofs.RoleIndex
import AccessBaseline.Proofs.Difference
import AccessBaseline.Proofs.Scope
