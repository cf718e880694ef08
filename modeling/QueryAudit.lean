import QueryAudit.Command.World
import QueryAudit.Main
import QueryAudit.Proofs.Run.RepeatedSelect
import QueryAudit.Proofs.Statement.Idempotence
import QueryAudit.Proofs.Run.Log
import QueryAudit.Proofs.Statement.Ordinary
import QueryAudit.Proofs.Statement.MainVerb
import QueryAudit.Proofs.Sql.Seam
import QueryAudit.Proofs.Statement.TableExpressions
import QueryAudit.Proofs.Run.Reordering
import QueryAudit.Proofs.Run.ReportReading
import QueryAudit.Proofs.Run.RepeatedValues
import QueryAudit.Proofs.Run.Insertion
import QueryAudit.Proofs.Run.Kinds
import QueryAudit.Proofs.Template.Substitution
import QueryAudit.Proofs.Template.Frame
import QueryAudit.Proofs.Sql.Places
import QueryAudit.Proofs.Statement.LikeText
import QueryAudit.Proofs.Command.AllOrNothing
import QueryAudit.Proofs.Statement.Layout
import QueryAudit.Proofs.Statement.Subtraction
import QueryAudit.Proofs.Statement.FirstWord
import QueryAudit.Proofs.Statement.ShapeKind
