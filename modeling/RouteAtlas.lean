import RouteAtlas.Main
import RouteAtlas.Proofs.Expr.Stack
import RouteAtlas.Proofs.Tree.Edit
import RouteAtlas.Proofs.Assembly.Combinations
import RouteAtlas.Proofs.Assembly.FullPath
import RouteAtlas.Proofs.Assembly.ReadAlike
import RouteAtlas.Proofs.Folding.Completeness
import RouteAtlas.Proofs.Folding.Grouping
import RouteAtlas.Proofs.Folding.Mentions
import RouteAtlas.Proofs.Folding.Steps
import RouteAtlas.Proofs.Folding.Substitution
import RouteAtlas.Proofs.Format.RoundTrip
import RouteAtlas.Proofs.Path.Associativity
import RouteAtlas.Proofs.Path.Construction
import RouteAtlas.Proofs.Path.Retyping
import RouteAtlas.Proofs.Scan.Distinct
import RouteAtlas.Proofs.Scan.Growth
import RouteAtlas.Proofs.Scan.Misplaced
import RouteAtlas.Proofs.Scan.Order
import RouteAtlas.Proofs.Scan.Prefolding
import RouteAtlas.Proofs.Scan.Unvalued
import RouteAtlas.Proofs.Mapping.Verb
import RouteAtlas.Proofs.Assembly.Verbs
import RouteAtlas.Proofs.Assembly.Bindings
import RouteAtlas.Proofs.Mapping.Recognition
import RouteAtlas.Proofs.Format.Config
import RouteAtlas.Proofs.Scan.Sources
import RouteAtlas.Proofs.Command
import RouteAtlas.Proofs.Listing.ReadBack
