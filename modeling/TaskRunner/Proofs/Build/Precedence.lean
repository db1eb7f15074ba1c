import TaskRunner.Proofs.Build.Stages
import TaskRunner.Proofs.Execution.Performance
import TaskRunner.Proofs.Source.Defects

/-! Which of several defects a run reports. The whole file comes first, then the names that the root
reaches, then the loops among them, and only a run without any of these does something. What follows
the scan can be told from the dependencies in the file and from what the runner says. -/

namespace TaskRunner
open Source Build Move

variable {σ : Type} {store : Store} {root : String} {runner : Runner σ} {state : σ}

end TaskRunner
