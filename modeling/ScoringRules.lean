import ScoringRules.Proofs.Matching.Isolation
import ScoringRules.Proofs.Matching.Outcome
import ScoringRules.Proofs.Matching.Targets
import ScoringRules.Proofs.Reference.Detection
import ScoringRules.Proofs.Reference.Resolution
import ScoringRules.Proofs.Reference.Substitution
import ScoringRules.Proofs.Resource.Grammar
import ScoringRules.Proofs.Validation.Cards
import ScoringRules.Proofs.Config.Loading
import ScoringRules.Proofs.Document.ReadBack
import ScoringRules.Proofs.Threshold.Holes
import ScoringRules.Proofs.Reference.Truncation
import ScoringRules.Proofs.Resource.Composition
import ScoringRules.Proofs.Resource.Ancestry
import ScoringRules.Proofs.Matching.Literal
import ScoringRules.Proofs.Validation.Parts
import ScoringRules.Proofs.Config.Preference
import ScoringRules.Proofs.Matching.Selection
