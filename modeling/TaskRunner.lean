import TaskRunner.Action.Script
import TaskRunner.Main
import TaskRunner.Proofs.Dependency
import TaskRunner.Proofs.Graph.Closure
import TaskRunner.Proofs.Graph.Edges
import TaskRunner.Proofs.Graph.Acyclicity
import TaskRunner.Proofs.Execution.Procedure
import TaskRunner.Proofs.Execution.Simulation
import TaskRunner.Proofs.Source.Reader
import TaskRunner.Proofs.Source.Tasks
import TaskRunner.Proofs.Source.Passes
import TaskRunner.Proofs.Graph.Locality
import TaskRunner.Proofs.Build.Stages
import TaskRunner.Proofs.Build.Locality
import TaskRunner.Proofs.Build.Order
import TaskRunner.Proofs.Graph.Worklist
import TaskRunner.Proofs.Source.Attachment
import TaskRunner.Proofs.Source.Defects
import TaskRunner.Proofs.Declaration.Writing
import TaskRunner.Proofs.Source.Encoding
import TaskRunner.Proofs.Source.Writing
import TaskRunner.Proofs.Graph.Rechecks
import TaskRunner.Proofs.Execution.Walk
import TaskRunner.Proofs.Execution.Performance
import TaskRunner.Proofs.Execution.FailFast
import TaskRunner.Proofs.Execution.Retry
import TaskRunner.Proofs.Build.Precedence
import TaskRunner.Proofs.Declaration.Grammar
import TaskRunner.Proofs.Declaration.Offences
import TaskRunner.Proofs.Source.Lookahead
import TaskRunner.Proofs.Execution.Session
import TaskRunner.Proofs.Action.Words
import TaskRunner.Proofs.Action.Quoting
import TaskRunner.Proofs.Source.Rereading
import TaskRunner.Proofs.BreadthFirst
import TaskRunner.Proofs.Graph.Discovery
import TaskRunner.Proofs.Graph.Marks
import TaskRunner.Proofs.Source.BlankLines
import TaskRunner.Proofs.Source.Decoding
import TaskRunner.Proofs.Source.Runnable
import TaskRunner.Proofs.Graph.Turns
import TaskRunner.Proofs.Roster
import TaskRunner.Proofs.Execution.Processes
import TaskRunner.Proofs.Invocation
