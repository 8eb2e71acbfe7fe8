import Rapport.Advice
import Rapport.Listing
import Rapport.Mail.Delivery
import Rapport.Query.Arguments
import Rapport.Settings.Load
import Rapport.Upkeep.Basic
import Rapport.Proofs.List
import Rapport.Proofs.Keyed
import Rapport.Proofs.Contact
import Rapport.Proofs.Store
import Rapport.Proofs.Action
import Rapport.Proofs.Tie
import Rapport.Proofs.Ledger
import Rapport.Proofs.Mail.Errand
import Rapport.Proofs.Mail.Gain
import Rapport.Proofs.Mail.Received
import Rapport.Proofs.Mail.Loop
import Rapport.Proofs.Mail.SelfExclusion
import Rapport.Proofs.Mail.Event
import Rapport.Proofs.Schedule
import Rapport.Proofs.Ranking
import Rapport.Proofs.Sql.Rows
import Rapport.Proofs.Sql.Naming
import Rapport.Proofs.Sql.Creation
import Rapport.Proofs.Graph.Mirror
import Rapport.Proofs.Graph.Step
import Rapport.Proofs.Graph.Alike
import Rapport.Proofs.Graph.Divergence
import Rapport.Proofs.Confluence
import Rapport.Proofs.Consistency
import Rapport.Proofs.Mail.Containment
import Rapport.Proofs.Mail.Escape
import Rapport.Proofs.Keyed.Part
import Rapport.Proofs.Isolation
import Rapport.Proofs.Sql.Share
import Rapport.Proofs.Sql.Transaction
import Rapport.Proofs.Sql.Like
import Rapport.Proofs.Graph.Isolation
import Rapport.Proofs.Graph.Disturbance
import Rapport.Proofs.Graph.Orderly
import Rapport.Proofs.Graph.Source
import Rapport.Proofs.Graph.Stock
import Rapport.Proofs.Graph.Stale
import Rapport.Proofs.Graph.Combined
import Rapport.Proofs.Registry.Backend
import Rapport.Proofs.Registry.Phase
import Rapport.Proofs.Registry.LifeCycle
import Rapport.Proofs.Mail.Sent
import Rapport.Proofs.Pruning
import Rapport.Proofs.Symmetry
import Rapport.Proofs.Graph.Symmetry
import Rapport.Proofs.Graph.Clique
import Rapport.Proofs.Numeral.Rounding
import Rapport.Proofs.Sql.Amount
import Rapport.Proofs.Graph.Tally
import Rapport.Proofs.Suggestion
import Rapport.Proofs.Snapshot
import Rapport.Proofs.Sql.Suggestion
import Rapport.Proofs.Graph.Growth
import Rapport.Proofs.Graph.Suggestion
import Rapport.Proofs.Graph.Seed
import Rapport.Proofs.Sql.Session
import Rapport.Proofs.Graph.Rollback
import Rapport.Proofs.Numeral.Thousandth
import Rapport.Proofs.Upkeep.Cutoff
import Rapport.Proofs.Upkeep.Idle
import Rapport.Proofs.Sql.Clash
import Rapport.Proofs.Sql.Coexistence
import Rapport.Proofs.Text.Lower
import Rapport.Proofs.Registration
import Rapport.Proofs.Sweep
