import Construe.Workspace
import Construe.Proofs.Building
import Construe.Proofs.Outcome
import Construe.Proofs.Draft
import Construe.Proofs.Fuel
import Construe.Proofs.Guidance
import Construe.Proofs.Assembly
import Construe.Proofs.History
import Construe.Proofs.Transparency
import Construe.Proofs.Termination
import Construe.Proofs.Cycles
import Construe.Proofs.Registration
import Construe.Proofs.Currency
import Construe.Proofs.Direct
import Construe.Proofs.Typing
import Construe.Proofs.Groups
import Construe.Proofs.Refusal
import Construe.Proofs.Aftermath
import Construe.Proofs.Stability
import Construe.Proofs.Sums
import Construe.Proofs.Chains
import Construe.Proofs.Filling
import Construe.Proofs.Order
import Construe.Proofs.Keywords
import Construe.Proofs.Barren
import Construe.Proofs.Override
import Construe.Proofs.Anchoring
import Construe.Proofs.Arguments
import Construe.Proofs.Items
import Construe.Proofs.Lists
import Construe.Proofs.Readings
import Construe.Proofs.Points
import Construe.Proofs.Creatures
