import ServiceSocket.Session.Basic
import ServiceSocket.Virtual.Calls

/-!
# Scripts

A script drives a session on the virtual system: it lets time pass, lets peers do things,
intervenes in calls, and acts on the session's items.  Every step reports what came
of it, which calls were made, and the time.
-/

namespace ServiceSocket
namespace Session

inductive Step where
  | nextSocket (plan : Virtual.Plan)
  /-- Intervene in the next calls of a name, if there are calls of that name. -/
  | intervene (name : Option Virtual.CallName) (interventions : List Virtual.Intervention)
  | sleep (nanoseconds : Nat)
  | happen (socket : Nat) (delay : Option Nat) (happening : Virtual.Happening)
  | sent (socket : Nat)
  | inspect (socket : Nat)
  | adoptNew (name : String) (plan : Virtual.Plan)
  /-- Take over the descriptor of that name.  If there is none, take over a new socket, and
  then let go of whatever else has the name. -/
  | adoptHeld (name held : String) (plan : Virtual.Plan)
  | tcpConnection (name : String) (plan : Virtual.Plan)
  | tcpListener (name : String) (plan : Virtual.Plan)
  | act (action : Action)

structure Stage where
  system : Virtual.System := {}
  session : Session := {}

structure Report where
  answer : Answer
  calls : List Virtual.Entry
  now : Nat

/-- How often the loops of one step may go round. -/
def patience : Nat := 1000000

namespace Stage

def run (stage : Stage) (program : Program (Answer × Session)) : Answer × Stage :=
  match program.run Virtual.System.answer stage.system with
  | (.returned (answer, session), system) => (answer, ⟨system, session⟩)
  | (.halted reason, system) => (.halted reason, { stage with system })

def act (stage : Stage) (action : Action) : Answer × Stage :=
  stage.run (stage.session.act action patience)

def withSocket (stage : Stage) (stack : Virtual.Stack) (plan : Virtual.Plan)
    (name : String) (recipe : Descriptor -> Recipe) : Answer × Stage :=
  let (d, system) := stage.system.make stack plan
  { stage with system }.act (.make name (recipe d))

/-- The number of an open socket stands for its descriptor, and -1 for none. -/
def showDescriptor (stage : Stage) : Answer -> Answer
  | .descriptor d => .number (((d.bind stage.system.socketOf).map Int.ofNat).getD (-1))
  | answer => answer

def inspect (socket : Virtual.Socket) : SocketState where
  descriptors := socket.descriptors
  nonblocking := socket.nonblocking
  waiting := socket.inbox.length
  untaken := socket.untaken
  readShut := socket.readShut
  writeShut := socket.writeShut

def onSocket (stage : Stage) (number : Nat)
    (body : Virtual.Socket -> Answer × Virtual.System) : Answer × Stage :=
  match stage.system.socket? number with
  | none => (.missing, stage)
  | some socket =>
      let (answer, system) := body socket
      (answer, { stage with system })

def perform (stage : Stage) (step : Step) : Answer × Stage :=
  let system := stage.system
  match step with
  | .nextSocket plan =>
      (.done, { stage with system := { system with plans := system.plans ++ [plan] } })
  | .intervene none _ => (.done, stage)
  | .intervene (some name) interventions =>
      let added := interventions.map fun intervention => (name, intervention)
      let interventions := system.interventions ++ added
      (.done, { stage with system := { system with interventions } })
  | .sleep nanoseconds =>
      (.done, { stage with system := system.advanceTo (system.now + nanoseconds) })
  | .happen number none happening =>
      stage.onSocket number fun _ =>
        (.done, system.update number fun socket => happening.apply socket)
  | .happen number (some delay) happening =>
      stage.onSocket number fun _ =>
        (.done, system.plan ⟨system.now + delay, number, happening⟩)
  | .sent number =>
      stage.onSocket number fun socket =>
        (.bytes socket.sent, system.update number fun socket => { socket with sent := [] })
  | .inspect number =>
      stage.onSocket number fun socket => (.socket (inspect socket), system)
  | .adoptNew name plan => stage.withSocket .tipc plan name .adopt
  | .adoptHeld name held plan =>
      match stage.session.find? held with
      | some (.descriptor _) => stage.act (.make name (.adoptHeld held))
      | _ => stage.withSocket .tipc plan name fun d => .adoptInstead d held
  | .tcpConnection name plan => stage.withSocket .tcp plan name .tcpConnection
  | .tcpListener name plan => stage.withSocket .tcp plan name .tcpListener
  | .act action => stage.act action

def step (stage : Stage) (step : Step) : Report × Stage :=
  let (answer, after) := stage.perform step
  let (calls, system) := after.system.takeLog
  (⟨after.showDescriptor answer, calls, system.now⟩, { after with system })

def steps (stage : Stage) : List Step -> List Report × Stage
  | [] => ([], stage)
  | first :: rest =>
      let (report, stage) := stage.step first
      let (reports, stage) := stage.steps rest
      (report :: reports, stage)

def finish (stage : Stage) : List Virtual.Entry :=
  (stage.session.finish.run Virtual.System.answer stage.system).2.takeLog.1

end Stage

/-- Perform a script from the start, and release everything at its end. -/
def perform (script : List Step) : List Report × List Virtual.Entry :=
  let (reports, stage) := ({} : Stage).steps script
  (reports, stage.finish)

end Session
end ServiceSocket
