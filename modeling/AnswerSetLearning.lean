import AnswerSetLearning.Main
import AnswerSetLearning.Proofs.Registry
import AnswerSetLearning.Proofs.Induction.Candidates
import AnswerSetLearning.Proofs.Induction.TrainingExamples
import AnswerSetLearning.Proofs.Induction.SpuriousModels
import AnswerSetLearning.Proofs.Reader.Spelling
import AnswerSetLearning.Proofs.Reader.Document
import AnswerSetLearning.Proofs.Solver.Words
import AnswerSetLearning.Proofs.Solver.Facts
import AnswerSetLearning.Proofs.Solver.Models
import AnswerSetLearning.Proofs.Induction.Universe
import AnswerSetLearning.Proofs.Compatibility
import AnswerSetLearning.Proofs.Induction.Pipeline
import AnswerSetLearning.Proofs.Induction.Agreement
import AnswerSetLearning.Proofs.Induction.Context
import AnswerSetLearning.Proofs.Induction.Scenarios
import AnswerSetLearning.Proofs.Reader.Recognition
import AnswerSetLearning.Proofs.Reader.Faults
import AnswerSetLearning.Proofs.Solver.Comparisons
import AnswerSetLearning.Proofs.Solver.Matching
import AnswerSetLearning.Proofs.Solver.LeastModels
import AnswerSetLearning.Proofs.Solver.DefinitePrograms
import AnswerSetLearning.Proofs.Solver.GroundedModels
import AnswerSetLearning.Proofs.ThirdCondition
import AnswerSetLearning.Proofs.Simulation
import AnswerSetLearning.Proofs.Growth
import AnswerSetLearning.Proofs.Induction.Resolution
import AnswerSetLearning.Proofs.Renumbering
import AnswerSetLearning.Proofs.Reader.Printing
import AnswerSetLearning.Proofs.Induction.Pushes
import AnswerSetLearning.Proofs.Induction.SetSemantics
import AnswerSetLearning.Proofs.Solver.Strata
import AnswerSetLearning.Proofs.CompatiblePairs
import AnswerSetLearning.Proofs.Solver.RuleSets
import AnswerSetLearning.Proofs.Induction.Renumbered
import AnswerSetLearning.Proofs.RuleOrder
import AnswerSetLearning.Proofs.SetAlgebra
import AnswerSetLearning.Proofs.Registration
import AnswerSetLearning.Proofs.CheckVerdict
import AnswerSetLearning.Proofs.Template.Decoding
import AnswerSetLearning.Proofs.Induction.LeaderWalk
import AnswerSetLearning.Proofs.Induction.InvalidNumbers
import AnswerSetLearning.Proofs.Induction.Coherence
import AnswerSetLearning.Proofs.Reader.Rejection
import AnswerSetLearning.Proofs.Alignment
import AnswerSetLearning.Proofs.Reader.Numbering
import AnswerSetLearning.Proofs.Solver.ModelLists
import AnswerSetLearning.Proofs.Command.Endings
import AnswerSetLearning.Proofs.Command.TotalTime
import AnswerSetLearning.Proofs.Command.Outputs
import AnswerSetLearning.Proofs.Reader.Tokenization
