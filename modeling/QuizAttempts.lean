import QuizAttempts.Console
import QuizAttempts.Settings
import QuizAttempts.Proofs.Orderly
import QuizAttempts.Proofs.History
import QuizAttempts.Proofs.Uniqueness
import QuizAttempts.Proofs.Sight
import QuizAttempts.Proofs.Looks
import QuizAttempts.Proofs.Moves
import QuizAttempts.Proofs.Decisions
import QuizAttempts.Proofs.Endings
import QuizAttempts.Proofs.Numbering
import QuizAttempts.Proofs.Accepted
import QuizAttempts.Proofs.Records
import QuizAttempts.Proofs.Failing
import QuizAttempts.Proofs.Timeliness
import QuizAttempts.Proofs.Notices
import QuizAttempts.Proofs.Conduct
import QuizAttempts.Proofs.Ahead
import QuizAttempts.Proofs.Simulation
import QuizAttempts.Proofs.Serializability
import QuizAttempts.Proofs.Careful
import QuizAttempts.Proofs.Overwriting
import QuizAttempts.Proofs.Guarding
import QuizAttempts.Proofs.Operations
import QuizAttempts.Proofs.Isolation
import QuizAttempts.Proofs.Publication
import QuizAttempts.Proofs.Staleness
import QuizAttempts.Proofs.Veils
import QuizAttempts.Proofs.Keys
import QuizAttempts.Proofs.Breakages
import QuizAttempts.Proofs.Arrangement
import QuizAttempts.Proofs.Succession
import QuizAttempts.Proofs.Retelling
import QuizAttempts.Proofs.Completion
import QuizAttempts.Proofs.Objections
import QuizAttempts.Proofs.Grades
import QuizAttempts.Proofs.Afterimages
import QuizAttempts.Proofs.Indexing
import QuizAttempts.Proofs.Reordering
import QuizAttempts.Proofs.Marking
import QuizAttempts.Proofs.Solutions
import QuizAttempts.Proofs.NothingRight
import QuizAttempts.Proofs.Collisions
import QuizAttempts.Proofs.FullMarks
import QuizAttempts.Proofs.Touching
import QuizAttempts.Proofs.Undisturbed
import QuizAttempts.Proofs.Padding
import QuizAttempts.Proofs.Shapes
import QuizAttempts.Proofs.Folding
import QuizAttempts.Proofs.Retouching
import QuizAttempts.Proofs.Presentation
import QuizAttempts.Proofs.Spellings
import QuizAttempts.Proofs.Transcripts
import QuizAttempts.Proofs.Columns
import QuizAttempts.Proofs.Credentials
import QuizAttempts.Proofs.Freshness
