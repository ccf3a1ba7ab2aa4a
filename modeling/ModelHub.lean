import ModelHub.Foundations.Transition
import ModelHub.Foundations.Interleaving
import ModelHub.Foundations.Binary64
import ModelHub.Foundations.Table
import ModelHub.Foundations.JavaScript
import ModelHub.Foundations.Replay
import ModelHub.Foundations.Base64
import ModelHub.Core.Memory
import ModelHub.Agent.Identity
import ModelHub.Agent.KeyStability
import ModelHub.Agent.Commands
import ModelHub.Agent.Uninstall
import ModelHub.Agent.EnrolledKey
import ModelHub.Db.Schema
import ModelHub.ControlPlane.Pairing
import ModelHub.ControlPlane.Enrollment
import ModelHub.ControlPlane.PairingSafety
import ModelHub.ControlPlane.EnrollmentAtomicity
import ModelHub.ControlPlane.Wire
import ModelHub.ControlPlane.Nodes
import ModelHub.ControlPlane.Sweeper
import ModelHub.ControlPlane.Service
import ModelHub.ControlPlane.StreamReplay
import ModelHub.ControlPlane.NodeAuth
import ModelHub.ControlPlane.NodeAuthReplay
import ModelHub.Db.Auth
import ModelHub.ControlPlane.Sessions
import ModelHub.ControlPlane.TenantIsolation
import ModelHub.ControlPlane.StreamFrame
import ModelHub.Foundations.OrderBy
import ModelHub.ControlPlane.Fleet
import ModelHub.ControlPlane.FleetSafety
import ModelHub.ControlPlane.FleetReads
import ModelHub.Foundations.Base64Url
import ModelHub.Agent.AuthHeader
import ModelHub.ControlPlane.HeaderAgreement
import ModelHub.Agent.Inventory
import ModelHub.Agent.Session
import ModelHub.ControlPlane.SampleInterval
import ModelHub.ControlPlane.Heartbeat
import ModelHub.ControlPlane.ProbesToRows
import ModelHub.Foundations.ReadCommitted
import ModelHub.Foundations.Reconcile
import ModelHub.ControlPlane.InventoryRace
import ModelHub.ControlPlane.SelfHeal
import ModelHub.ControlPlane.SampleBatch
import ModelHub.Core.BudgetOrder
import ModelHub.Core.BudgetParts
import ModelHub.Web.DeviceMemoryBar
import ModelHub.Web.Format
import ModelHub.Agent.Backoff
import ModelHub.ControlPlane.PairingRefusals
import ModelHub.ControlPlane.CodeSpelling
import ModelHub.ControlPlane.EnrolledNode
import ModelHub.Agent.NodeName
import ModelHub.ControlPlane.FleetSpec
import ModelHub.ControlPlane.FleetRefinement
import ModelHub.Db.RowSecurity
import ModelHub.Db.WithOrg
import ModelHub.ControlPlane.AgentLinks
import ModelHub.ControlPlane.RowProvenance
import ModelHub.ControlPlane.UuidText
import ModelHub.Agent.RunCommand
import ModelHub.ControlPlane.EnrolledDial
import ModelHub.Foundations.FileSystem
import ModelHub.Agent.WriteFile
import ModelHub.Foundations.Json
import ModelHub.Agent.ConfigFiles
import ModelHub.Agent.Probes
import ModelHub.ControlPlane.DeviceIdentity
import ModelHub.Foundations.Utf8
