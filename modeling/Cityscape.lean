import Cityscape.Main
import Cityscape.Quadtree.Items
import Cityscape.Proofs.RoadNetwork.Changes
import Cityscape.Proofs.RoadNetwork.Paths
import Cityscape.Proofs.RoadNetwork.Simple
import Cityscape.Proofs.RoadNetwork.Histories
import Cityscape.Proofs.Growth.Siting
import Cityscape.Proofs.Growth.Surroundings
import Cityscape.Proofs.RoadMap.Changes
import Cityscape.Proofs.RoadNetwork.Extension
import Cityscape.Proofs.RoadMap.Build
import Cityscape.Proofs.Growth.Accounting
import Cityscape.Proofs.Growth.Building
import Cityscape.Proofs.Scalar.Packing
import Cityscape.Proofs.Crossing
import Cityscape.Proofs.Growth.Doubling
import Cityscape.Proofs.Quadtree.Routing
import Cityscape.Proofs.RoadMap.Index
import Cityscape.Proofs.Growth.Calls
import Cityscape.Proofs.Growth.Conservation
import Cityscape.Proofs.Scalar.Order
import Cityscape.Proofs.Scalar.Extremes
import Cityscape.Proofs.Quadtree.Refinement
import Cityscape.Proofs.Lots.Obstacles
import Cityscape.Proofs.Lots.Blocking
import Cityscape.Proofs.Grammar.Spawning
import Cityscape.Proofs.Grammar.Rewriting
import Cityscape.Proofs.Grammar.History
import Cityscape.Proofs.Grammar.Termination
import Cityscape.Proofs.Lots.Placement
import Cityscape.Proofs.Growth.Overlap
import Cityscape.Proofs.Growth.Crossings
import Cityscape.Proofs.Growth.Indexing
import Cityscape.Proofs.Growth.Dryness
import Cityscape.Proofs.Grammar.CurrentScope
import Cityscape.Proofs.Grammar.AppendOnly
import Cityscape.Proofs.Grammar.Format
import Cityscape.Proofs.Building.Generation
import Cityscape.Proofs.Construction
import Cityscape.Proofs.Growth.Snapping
import Cityscape.Proofs.Growth.Faults
import Cityscape.Proofs.Grammar.Refusals
import Cityscape.Proofs.Lots.Walks
import Cityscape.Proofs.Grammar.Selection
import Cityscape.Proofs.Growth.Candidates
import Cityscape.Proofs.Growth.Rounds
import Cityscape.Proofs.Growth.Coincidence
import Cityscape.Proofs.Lots.Cache
import Cityscape.Proofs.Grammar.Slots
import Cityscape.Proofs.Grammar.Spacings
import Cityscape.Proofs.Grammar.Components
import Cityscape.Proofs.Grammar.Edges
import Cityscape.Proofs.Grammar.Corners
import Cityscape.Proofs.Grammar.CoverQueries
import Cityscape.Proofs.RoadMap.Directions
import Cityscape.Proofs.Grammar.Values
import Cityscape.Proofs.Grammar.SavedScopes
import Cityscape.Proofs.Crossing.Exact
import Cityscape.Proofs.Grid.Cells
import Cityscape.Proofs.Terrain.Centre
import Cityscape.Proofs.Growth.Mirror
import Cityscape.Proofs.Lots.Bands
import Cityscape.Proofs.Quadtree.Canonical
import Cityscape.Proofs.Quadtree.Arrangement
import Cityscape.Proofs.Building.Models
