import ServiceSocket.Kernel.Call
import ServiceSocket.Failure.Basic

/-!
# Programs over system calls

An operation is a tree: it ends with a value, or it makes a call and goes on with the
answer, whatever that is.  So a statement about every branch of the tree is a statement
about every operating system.  Loops that wait for the system take a number, their
patience; a branch on which it is used up ends without a value.
-/

namespace ServiceSocket

/-- Why a program ends without a value. -/
inductive Halt where
  /-- A loop went round more often than it was given patience for. -/
  | outOfPatience
  /-- A deadline lies beyond the last instant of the clock. -/
  | beyondClock
deriving DecidableEq

inductive Program (α : Type) where
  | done (value : α)
  | halt (reason : Halt)
  | call (c : Call) (next : c.Answer -> Program α)

namespace Program

def bind (p : Program α) (f : α -> Program β) : Program β :=
  match p with
  | .done value => f value
  | .halt reason => .halt reason
  | .call c next => .call c fun answer => (next answer).bind f

instance : Monad Program where
  pure := .done
  bind := bind

@[simp] theorem pure_bind (value : α) (f : α -> Program β) :
    (Program.done value).bind f = f value := rfl

@[simp] theorem halt_bind (reason : Halt) (f : α -> Program β) :
    (Program.halt reason).bind f = .halt reason := rfl

@[simp] theorem call_bind (c : Call) (next : c.Answer -> Program α) (f : α -> Program β) :
    (Program.call c next).bind f = .call c fun answer => (next answer).bind f := rfl

@[simp] theorem bind_done (p : Program α) : p.bind .done = p := by
  induction p with
  | done value => rfl
  | halt reason => rfl
  | call c next ih => simp [ih]

theorem bind_assoc (p : Program α) (f : α -> Program β) (g : β -> Program γ) :
    (p.bind f).bind g = p.bind fun value => (f value).bind g := by
  induction p with
  | done value => rfl
  | halt reason => rfl
  | call c next ih => simp [ih]

instance : LawfulMonad Program :=
  LawfulMonad.mk' Program bind_done (fun _ _ => rfl) bind_assoc

def ask (c : Call) : Program c.Answer :=
  .call c .done

/-!
# Running
-/

inductive Outcome (α : Type) where
  | returned (value : α)
  | halted (reason : Halt)

def run (answer : (c : Call) -> σ -> c.Answer × σ) : Program α -> σ -> Outcome α × σ
  | .done value, s => (.returned value, s)
  | .halt reason, s => (.halted reason, s)
  | .call c next, s => run answer (next (answer c s).1) (answer c s).2

end Program

/-!
# Attempts
-/

abbrev Attempt := ExceptT Error Program

namespace Attempt

def ofCall (p : Program (Except Errno α)) : Attempt α :=
  ExceptT.mk (Except.mapError Error.ofErrno <$> p)

def inContext (operation : String) (address : Option Address) (body : Attempt α) :
    Attempt α :=
  ExceptT.mk (Except.mapError (Error.inContext operation Network.tipc address) <$> body.run)

end Attempt

/-!
# Calls on a descriptor
-/

namespace Descriptor

def openStream (family : Family) : Program (Except Errno Descriptor) :=
  .ask (.openStream family)

def bind (d : Descriptor) (record : Record) : Program (Except Errno Unit) :=
  .ask (.bind d record)

def connect (d : Descriptor) (record : Record) : Program (Except Errno Unit) :=
  .ask (.connect d record)

def listen (d : Descriptor) (backlog : Int32) : Program (Except Errno Unit) :=
  .ask (.listen d backlog)

def accept (d : Descriptor) : Program (Except Errno (Descriptor × Record)) :=
  .ask (.accept d)

def localRecord (d : Descriptor) : Program (Except Errno Record) :=
  .ask (.localRecord d)

def peerRecord (d : Descriptor) : Program (Except Errno Record) :=
  .ask (.peerRecord d)

def receive (d : Descriptor) (limit : Nat) : Program (Except Errno (List UInt8)) :=
  .ask (.receive d limit)

/-- Send without a signal when the peer is gone. -/
def send (d : Descriptor) (bytes : List UInt8) (dontWait : Bool) :
    Program (Except Errno Nat) :=
  .ask (.send d bytes true dontWait)

def shutdown (d : Descriptor) (half : Half) : Program (Except Errno Unit) :=
  .ask (.shutdown d half)

def configure (d : Descriptor) (setting : Setting) : Program (Except Errno Unit) :=
  .ask (.configure d setting)

def linger (d : Descriptor) : Program (Except Errno Linger) :=
  .ask (.linger d)

def waitLimit (d : Descriptor) (direction : Direction) : Program (Except Errno WaitLimit) :=
  .ask (.waitLimit d direction)

def takeFailure (d : Descriptor) : Program (Except Errno Errno) :=
  .ask (.takeFailure d)

def poll (d : Descriptor) (direction : Direction) (milliseconds : Nat) :
    Program (Except Errno Nat) :=
  .ask (.poll d direction milliseconds)

def duplicate (d : Descriptor) : Program (Except Errno Descriptor) :=
  .ask (.duplicate d)

def close (d : Descriptor) : Program (Except Errno Unit) :=
  .ask (.close d)

/-- Close and pay no attention to the answer. -/
def release (d : Descriptor) : Program Unit := do
  let _ ← d.close

def tryConfigure (d : Descriptor) (setting : Setting) : Program Unit := do
  let _ ← d.configure setting

/-- Switch between waiting and failing when a call is not ready.  The system is told only
when that is a change. -/
def setNonblocking (d : Descriptor) (enabled : Bool) : Program (Except Errno Unit) := do
  match ← Program.ask (.isNonblocking d) with
  | .error errno => return .error errno
  | .ok current =>
      if current = enabled then return .ok ()
      else Program.ask (.setNonblocking d enabled)

/-- The service address of this end; none when the system reports no such address. -/
def localAddress? (d : Descriptor) : Program (Option Address) := do
  match ← d.localRecord with
  | .ok record => return record.toAddress?
  | .error _ => return none

def peerAddress? (d : Descriptor) : Program (Option Address) := do
  match ← d.peerRecord with
  | .ok record => return record.toAddress?
  | .error _ => return none

/-- Close the descriptor if the attempt to make something of it fails. -/
def guarding (d : Descriptor) (body : Attempt α) : Attempt α :=
  ExceptT.mk do
    match ← body.run with
    | .ok value => return .ok value
    | .error error =>
        d.release
        return .error error

end Descriptor

def Program.now : Program Instant :=
  .ask .now

/-!
# Branches

A branch is one way through a program: the calls it makes, what each is answered with,
and how it ends.  Nothing restricts the answers; what a system promises is a hypothesis on
the branch.
-/

structure Event where
  call : Call
  answer : call.Answer

namespace Program

inductive Branch : Program α -> List Event -> Outcome α -> Prop where
  | done (value : α) : Branch (.done value) [] (.returned value)
  | halt (reason : Halt) : Branch (.halt reason) [] (.halted reason)
  | call (c : Call) (next : c.Answer -> Program α) (answer : c.Answer)
      {events : List Event} {outcome : Outcome α}
      (rest : Branch (next answer) events outcome) :
      Branch (.call c next) (⟨c, answer⟩ :: events) outcome

theorem branch_bind_returned {p : Program α} {f : α -> Program β} {events : List Event}
    {value : β} :
    Branch (p.bind f) events (.returned value) <->
      exists first second middle, events = first ++ second ∧
        Branch p first (.returned middle) ∧ Branch (f middle) second (.returned value) := by
  constructor
  · intro h
    induction p generalizing events with
    | done middle => exact ⟨[], events, middle, rfl, .done middle, h⟩
    | halt reason => cases h
    | call c next ih =>
        cases h with
        | call _ _ answer rest =>
            obtain ⟨first, second, middle, hevents, hfirst, hsecond⟩ := ih answer rest
            exact ⟨_ :: first, second, middle, by rw [hevents, List.cons_append],
              .call c next answer hfirst, hsecond⟩
  · intro ⟨first, second, middle, hevents, hfirst, hsecond⟩
    subst hevents
    induction p generalizing first with
    | done _ =>
        cases hfirst
        exact hsecond
    | halt reason => cases hfirst
    | call c next ih =>
        cases hfirst with
        | call _ _ answer rest => exact .call c _ answer (ih answer _ rest)

theorem branch_run (answer : (c : Call) -> σ -> c.Answer × σ) (p : Program α) (s : σ) :
    exists events, Branch p events (p.run answer s).1 := by
  induction p generalizing s with
  | done value => exact ⟨[], .done value⟩
  | halt reason => exact ⟨[], .halt reason⟩
  | call c next ih =>
      obtain ⟨events, h⟩ := ih (answer c s).1 (answer c s).2
      exact ⟨_, .call c next _ h⟩

end Program
end ServiceSocket
