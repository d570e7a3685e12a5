import SwitchSession.HandOver

namespace SwitchSession

inductive ReceptionTask
  | success (features : FeatureSet) (version : Version)
  | failure
  | underWay (stage : HandOver)

def ReceptionTask.isFinished : ReceptionTask → Bool
  | .underWay stage => stage.isFinished
  | _ => false

/-- Several outcomes reported for one connection, each worked on by a task of its own. A task runs
until it has to wait; a ready task waits for its turn in the order in which tasks became ready. -/
structure Reception where
  site : Site
  handler : Handler
  sink : ErrorSink := .errors
  tasks : List ReceptionTask := []
  ready : List Nat := []

namespace Reception

def start (r : Reception) (task : ReceptionTask) : Reception :=
  { r with tasks := r.tasks ++ [task], ready := r.ready ++ [r.tasks.length] }

def isWoken (s : Site) : ReceptionTask → Bool
  | .underWay stage => (HandOver.resume? stage s).isSome
  | _ => false

def wake (r : Reception) : Reception :=
  let woken := r.tasks.zipIdx.filterMap fun (task, i) =>
    if isWoken r.site task && !r.ready.contains i then some i else none
  { r with ready := r.ready ++ woken }

def update (r : Reception) (site : Site) : Reception := wake { r with site }

def runTask (r : Reception) : ReceptionTask → ReceptionTask × Site
  | .success features version =>
    let (stage, site) := HandOver.start features version r.site
    let (stage, site) := stage.advance r.handler r.sink site
    (.underWay stage, site)
  | .failure => (.underWay .finished, HandOver.abandon r.site)
  | .underWay stage =>
    let (stage, site) := stage.advance r.handler r.sink r.site
    (.underWay stage, site)

def runFor : Nat → Reception → Reception
  | 0, r => r
  | turns + 1, r =>
    match r.ready with
    | [] => r
    | i :: ready =>
      match r.tasks[i]? with
      | none => runFor turns { r with ready }
      | some task =>
        let (task, site) := r.runTask task
        runFor turns (wake { r with site, tasks := r.tasks.set i task, ready })

/-- Runs until every task waits or has finished; a task has at most two turns. -/
def run (r : Reception) : Reception := r.runFor (2 * r.tasks.length + r.ready.length)

end Reception

end SwitchSession
