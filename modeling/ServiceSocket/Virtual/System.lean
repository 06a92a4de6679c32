import ServiceSocket.Virtual.Log
import ServiceSocket.Virtual.Socket

/-!
# The virtual system

A deterministic operating system with a clock of its own.  Time passes only while a call
waits, when a step says so, or when an intervention in a call says so.  What peers will do
is scheduled, and happens as soon as the clock comes to it: nothing that is due is ever
left in the schedule.
-/

namespace ServiceSocket
namespace Virtual

/-!
# Interventions
-/

structure Intervention where
  failure : Option Errno := none
  /-- The answer of a poll, or the most that is received or sent. -/
  bound : Option Nat := none
  delay : Nat := 0

/-!
# State
-/

structure Scheduled where
  moment : Nat
  socket : Nat
  happening : Happening

structure System where
  now : Nat := 0
  /-- Sockets are numbered from one in the order they are made. -/
  sockets : List Socket := []
  /-- The socket of each descriptor, and none for one that was closed. -/
  descriptors : List (Option Nat) := []
  plans : List Plan := []
  interventions : List (CallName × Intervention) := []
  schedule : List Scheduled := []
  log : List Entry := []

namespace System

def socket? (s : System) (number : Nat) : Option Socket :=
  match number with
  | 0 => none
  | index + 1 => s.sockets[index]?

def update (s : System) (number : Nat) (f : Socket -> Socket) : System :=
  match number with
  | 0 => s
  | index + 1 => { s with sockets := s.sockets.modify index f }

def socketOf (s : System) (d : Descriptor) : Option Nat :=
  (s.descriptors[d.number]?).join

/-!
# Making sockets
-/

def addDescriptor (s : System) (number : Nat) : Descriptor × System :=
  (⟨s.descriptors.length⟩, { s with descriptors := s.descriptors ++ [some number] })

def make (s : System) (stack : Stack) (plan : Plan) : Descriptor × System :=
  { s with sockets := s.sockets ++ [Socket.ofPlan stack plan] }.addDescriptor
    (s.sockets.length + 1)

/-!
# The schedule
-/

def settle (s : System) : System :=
  let (due, later) := s.schedule.span fun item => item.moment ≤ s.now
  due.foldl (fun s item => s.update item.socket fun socket => item.happening.apply socket)
    { s with schedule := later }

def plan (s : System) (item : Scheduled) : System :=
  let (before, behind) := s.schedule.span fun other => other.moment ≤ item.moment
  { s with schedule := before ++ item :: behind }.settle

def advanceTo (s : System) (moment : Nat) : System :=
  { s with now := moment }.settle

/-- The moment at which a started connection completes, if it is still to come. -/
def completion? (s : System) (number : Nat) : Option Nat :=
  match (s.socket? number).map Socket.connecting with
  | some (.till moment) => if s.now < moment then some moment else none
  | _ => none

def nextMoment? (s : System) (number : Nat) : Option Nat :=
  match s.schedule.head?, s.completion? number with
  | some item, some moment => some (min item.moment moment)
  | some item, none => some item.moment
  | none, completion => completion

/-!
# Waiting
-/

/-- Let time pass until the socket is ready or the limit is reached, going from moment to
moment for at most so many rounds.  Without a limit the clock stops at the last moment at
which something happens. -/
def waitRounds (number : Nat) (ready : Nat -> Socket -> Bool) (limit : Option Nat) :
    Nat -> System -> Bool × System
  | 0, s => (false, s)
  | rounds + 1, s =>
      if (s.socket? number).any (ready s.now) then (true, s)
      else
        match s.nextMoment? number, limit with
        | some moment, none => waitRounds number ready limit rounds (s.advanceTo moment)
        | some moment, some last =>
            if moment ≤ last then
              waitRounds number ready limit rounds (s.advanceTo moment)
            else (false, s.advanceTo last)
        | none, some last => (false, s.advanceTo last)
        | none, none => (false, s)

/-- Every round but the last passes something scheduled or the completion of a connection,
so the rounds suffice. -/
def wait (s : System) (number : Nat) (ready : Nat -> Socket -> Bool) (limit : Option Nat) :
    Bool × System :=
  waitRounds number ready limit (s.schedule.length + 2) s

def limitOf (limit : WaitLimit) : Option Nat :=
  if limit.seconds = 0 ∧ limit.microseconds = 0 then none
  else some (limit.seconds * 1_000_000_000 + limit.microseconds * 1_000)

/-- Wait as a call does: not at all, up to the socket's limit, or for ever.  A wait that
could never end fails. -/
def block (s : System) (number : Nat) (ready : Nat -> Socket -> Bool) (dontWait : Bool)
    (limit : WaitLimit) : Except Errno Unit × System :=
  if dontWait then
    if (s.socket? number).any (ready s.now) then (.ok (), s) else (.error .wouldBlock, s)
  else
    match limitOf limit with
    | none =>
        let (ready, s) := s.wait number ready none
        (if ready then .ok () else .error .deadlock, s)
    | some time =>
        let (ready, s) := s.wait number ready (some (s.now + time))
        (if ready then .ok () else .error .wouldBlock, s)

/-!
# Beginning and recording a call
-/

def takeIntervention (name : CallName) :
    List (CallName × Intervention) -> Intervention × List (CallName × Intervention)
  | [] => ({}, [])
  | (other, intervention) :: rest =>
      if other = name then (intervention, rest)
      else
        let (found, left) := takeIntervention name rest
        (found, (other, intervention) :: left)

def draw (s : System) (name : CallName) : Intervention × System :=
  let (intervention, interventions) := takeIntervention name s.interventions
  (intervention, { s with interventions }.advanceTo (s.now + intervention.delay))

def record (s : System) (entry : Entry) : System :=
  { s with log := entry :: s.log }

def takeLog (s : System) : List Entry × System :=
  (s.log.reverse, { s with log := [] })

end System
end Virtual
end ServiceSocket
