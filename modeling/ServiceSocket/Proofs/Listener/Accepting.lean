import Mathlib.Data.List.Forall2
import ServiceSocket.Proofs.Closing
import ServiceSocket.Proofs.Kernel.Queue
import ServiceSocket.Proofs.Readiness.Taking

/-!
# The callers that a listener accepts

Those who call a listener's address wait with the system until they are accepted.  Accepting
takes one of them at most, as the last thing that may fail, so nobody who has been taken is
lost: there is a connection for each of them, in the order in which they have called.
-/

namespace ServiceSocket

open Program

/-!
# Callers
-/

abbrev Caller := Descriptor × Record

def Call.isAccept : Call -> Bool
  | .accept _ => true
  | _ => false

def Event.callers : Event -> List Caller
  | ⟨.accept _, .ok caller⟩ => [caller]
  | _ => []

def callers (events : List Event) : List Caller :=
  events.flatMap Event.callers

theorem Event.callers_of_not_isAccept {event : Event}
    (h : event.call.isAccept = false) : event.callers = [] := by
  rcases event with ⟨c, answer⟩
  cases c <;> first | rfl | cases h

theorem callers_append (first second : List Event) :
    callers (first ++ second) = callers first ++ callers second :=
  List.flatMap_append

theorem Readiness.IsWaiting.not_isAccept {d : Descriptor} {direction : Direction} {event : Event}
    (h : IsWaiting d direction event) : event.call.isAccept = false := by
  cases h <;> rfl

/-- An open connection to the caller, with no deadlines of its own. -/
structure Connection.IsFor (c : Connection) (caller : Caller) : Prop where
  descriptor_eq : c.descriptor = some caller.1
  remoteAddress_eq : c.remoteAddress = caller.2.toAddress?
  readDeadline_eq : c.readDeadline = none
  writeDeadline_eq : c.writeDeadline = none

def connections : Except Error Reply -> List Connection
  | .ok (.connection c) => [c]
  | _ => []

namespace Listener

variable {l : Listener} {patience : Nat} {events : List Event}

/-!
# One acceptance
-/

def TakesCaller (l : Listener) (patience : Nat) :
    List Event -> Outcome (Except Error Caller) -> Prop :=
  Readiness.Takes l.descriptor .input l.deadline patience fun d answer => ⟨.accept d, answer⟩

def welcome (caller : Caller) (near : Except Errno Record) (told : Except Errno Unit) :
    List Event :=
  [⟨.localRecord caller.1, near⟩, ⟨.configure caller.1 (.noDelay true), told⟩]

inductive Accepts (l : Listener) (patience : Nat) :
    List Event -> Outcome (Except Error Connection) -> Prop where
  | failed {events : List Event} {error : Error}
      (htakes : l.TakesCaller patience events (.returned (.error error))) :
      Accepts l patience events (.returned (.error error))
  | waiting {events : List Event} {reason : Halt}
      (htakes : l.TakesCaller patience events (.halted reason)) :
      Accepts l patience events (.halted reason)
  | accepted {d : Descriptor} {waited : List Event} {caller : Caller} {c : Connection}
      (hopen : l.descriptor = some d)
      (hwaits : Readiness.Waits d .input patience l.deadline waited (.returned (.ok ())))
      (near : Except Errno Record) (told : Except Errno Unit) (hc : c.IsFor caller) :
      Accepts l patience (waited ++ ⟨.accept d, .ok caller⟩ :: welcome caller near told)
        (.returned (.ok c))

theorem takesCaller_of_branch {outcome : Outcome (Except Error Caller)}
    (branch : Branch (l.inContext "accept" do
      let d ← l.held
      Readiness.wait d .input l.deadline patience
      Attempt.ofCall d.accept).run events outcome) :
    l.TakesCaller patience events outcome := by
  refine Readiness.takes_of_branch ?_ (fun d => asks_ask (.accept d)) branch
  rw [held]
  cases l.descriptor <;> rfl

theorem accepts_of_branch {outcome : Outcome (Except Error Connection)}
    (branch : Branch (l.accept patience).run events outcome) :
    l.Accepts patience events outcome := by
  refine (Attempt.meets_recorder_iff (P := l.Accepts patience) (s := [])).mp ?_ events outcome
    branch
  rw [accept, Attempt.meets_bind]
  apply (Attempt.recorded fun _ _ => takesCaller_of_branch).weaken
  · intro reason after hend
    rcases hend with ⟨events, hafter, htakes⟩
    rw [hafter]
    exact .waiting htakes
  · intro error after hend
    rcases hend with ⟨events, hafter, htakes⟩
    rw [hafter]
    exact .failed htakes
  · rintro ⟨d, record⟩ after ⟨events, hafter, htakes⟩
    rw [hafter]
    simp only [Attempt.meets_bind, Attempt.meets_lift, Descriptor.meets_localAddress?,
      Connection.establish, meets_bind, Descriptor.meets_tryConfigure, meets_pure,
      Monitor.allowed_and_iff]
    rintro near named ⟨⟩
    rintro told configured ⟨⟩
    cases htakes with
    | taken hopen hwaits =>
        simp only [List.nil_append, List.append_assoc, List.cons_append]
        exact .accepted hopen hwaits near told ⟨rfl, rfl, rfl, rfl⟩

theorem callers_of_makes {p : Program α}
    (h : p.Makes fun c => c.isAccept = false) :
    p.Meets recorder (fun _ events => callers events = []) (fun _ events => callers events = [])
      [] :=
  h.flatMap_eq_nil fun _ => Event.callers_of_not_isAccept

theorem duplicate_makes : l.duplicate.run.Makes fun c => c.isAccept = false := by
  apply Attempt.makes_bind (by trivial)
  intro d
  apply Attempt.makes_inContext.mpr
  have hcopy : (Attempt.ofCall d.duplicate).run.Makes fun c => c.isAccept = false :=
    Attempt.makes_ofCall.mpr ⟨rfl, fun _ _ _ => trivial⟩
  apply Attempt.makes_bind hcopy
  intro copy
  have hwaits : (Attempt.ofCall (copy.setNonblocking false)).run.Makes
      fun c => c.isAccept = false :=
    Attempt.makes_ofCall.mpr (Descriptor.setNonblocking_makes rfl rfl)
  apply Attempt.makes_bind (Descriptor.guarding_makes hwaits rfl)
  intro _
  trivial

theorem close_makes : l.close.Makes fun c => c.isAccept = false := by
  unfold close
  cases l.descriptor with
  | none => trivial
  | some d => exact ⟨rfl, fun _ _ _ => trivial⟩

theorem TakesCaller.callers_eq {outcome : Outcome (Except Error Caller)}
    (h : l.TakesCaller patience events outcome) :
    callers events = outcome.value?.toList := by
  have htaken : events.flatMap Event.callers = outcome.value?.elim [] ([·]) :=
    Readiness.Takes.flatMap_eq
      (fun _ _ hplace => Event.callers_of_not_isAccept hplace.not_isAccept) (fun _ _ => rfl)
      (fun _ _ => rfl) h
  rw [callers, htaken]
  cases outcome.value? <;> rfl

/-!
# Many acceptances
-/

/-- Accepting asks for a caller at most once, when there is no deadline or the socket has been
found ready.  A caller who is taken gets a connection, whatever the calls after that are
answered with. -/
structure AcceptsOnce (l : Listener) (patience : Nat) (events : List Event)
    (answer : Except Error Reply) : Prop where
  accepts : forall before event after, events = before ++ event :: after ->
    event.call.isAccept = true -> (exists d, l.descriptor = some d ∧ event.call = .accept d ∧
      Readiness.Waits d .input patience l.deadline before (.returned (.ok ()))) ∧
      forall other, other ∈ after -> other.call.isAccept = false
  returns : forall before d caller after, events = before ++ ⟨.accept d, .ok caller⟩ :: after ->
    exists near told c, answer = .ok (.connection c) ∧ c.IsFor caller ∧
      after = welcome caller near told
  fails : forall error, answer = .error error -> callers events = []

theorem TakesCaller.places {outcome : Outcome (Except Error Caller)}
    (h : l.TakesCaller patience events outcome)
    {before : List Event} {event : Event} {after : List Event}
    (hevents : events = before ++ event :: after)
    (haccept : event.call.isAccept = true) :
    after = [] ∧ exists d answer, l.descriptor = some d ∧ event = ⟨.accept d, answer⟩ ∧
      Readiness.Waits d .input patience l.deadline before (.returned (.ok ())) ∧
      forall caller, answer = .ok caller -> outcome = .returned (.ok caller) := by
  apply Readiness.Takes.places h hevents
  intro d hwaiting
  rw [hwaiting.not_isAccept] at haccept
  cases haccept

theorem acceptsOnce_of_failed {error : Error}
    (h : l.TakesCaller patience events (.returned (.error error))) :
    AcceptsOnce l patience events (.error error) where
  accepts := by
    intro before event after hevents haccept
    rcases h.places hevents haccept with ⟨hafter, d, answer, hopen, hevent, hwaits, _⟩
    rw [hafter, hevent]
    exact ⟨⟨d, hopen, rfl, hwaits⟩, List.forall_mem_nil _⟩
  returns := by
    intro before d caller after hevents
    rcases h.places hevents rfl with ⟨_, _, _, _, hevent, _, hcaller⟩
    cases hevent
    cases hcaller caller rfl
  fails := fun _ _ => h.callers_eq

theorem eq_of_accepted {d other : Descriptor} {waited before after : List Event} {caller : Caller}
    {event : Event} {near : Except Errno Record} {told : Except Errno Unit}
    (hwaits : Readiness.Waits other .input patience l.deadline waited (.returned (.ok ())))
    (hevents : waited ++ ⟨.accept d, .ok caller⟩ :: welcome caller near told =
      before ++ event :: after)
    (haccept : event.call.isAccept = true) :
    waited = before ∧ ⟨.accept d, .ok caller⟩ = event ∧ welcome caller near told = after := by
  apply (List.append_cons_inj_of_notMem ?_ ?_).mp hevents
  · intro hmem
    rw [(hwaits.isWaiting event hmem).not_isAccept] at haccept
    cases haccept
  · intro hmem
    rcases List.mem_pair.mp hmem with hnamed | hconfigured
    · rw [hnamed] at haccept
      cases haccept
    · rw [hconfigured] at haccept
      cases haccept

theorem acceptsOnce_of_accepted {d : Descriptor} {waited : List Event} {caller : Caller}
    {c : Connection}
    (hopen : l.descriptor = some d)
    (hwaits : Readiness.Waits d .input patience l.deadline waited (.returned (.ok ())))
    (near : Except Errno Record) (told : Except Errno Unit)
    (hc : c.IsFor caller) :
    AcceptsOnce l patience (waited ++ ⟨.accept d, .ok caller⟩ :: welcome caller near told)
      (.ok (.connection c)) where
  accepts := by
    intro before event after hevents haccept
    rcases eq_of_accepted hwaits hevents haccept with ⟨hbefore, hevent, hafter⟩
    rw [hbefore] at hwaits
    rw [← hevent, ← hafter]
    exact ⟨⟨d, hopen, rfl, hwaits⟩, by simp [welcome, Call.isAccept]⟩
  returns := by
    intro before other found after hevents
    rcases eq_of_accepted hwaits hevents rfl with ⟨_, hevent, hafter⟩
    cases hevent
    exact ⟨near, told, c, rfl, hc, hafter.symm⟩
  fails := by
    intro error herror
    cases herror

/-- How an operation deals with those who call. -/
structure Serves (l : Listener) (operation : Operation) (patience : Nat)
    (result : Except Error Reply × Listener) (events : List Event) : Prop where
  served : List.Forall₂ Connection.IsFor (connections result.1) (callers events)
  accepts : operation = .accept -> result.2 = l ∧ AcceptsOnce l patience events result.1

theorem accept_recorded :
    (l.perform .accept patience).Meets recorder (fun _ events => callers events = [])
      (Serves l .accept patience) [] := by
  change Program.Meets _ _ ((l.accept patience).run >>= _) _ _
  rw [meets_bind, Attempt.meets_run]
  apply (Attempt.recorded fun _ _ => accepts_of_branch).weaken
  · intro reason after hend
    rcases hend with ⟨events, hafter, haccepts⟩
    rw [hafter]
    cases haccepts with
    | waiting htakes => exact htakes.callers_eq
  · intro error after hend
    rcases hend with ⟨events, hafter, haccepts⟩
    rw [hafter]
    cases haccepts with
    | failed htakes =>
        constructor
        · rw [List.nil_append, htakes.callers_eq]
          exact .nil
        · intro _
          exact ⟨rfl, acceptsOnce_of_failed htakes⟩
  · intro c after hend
    rcases hend with ⟨events, hafter, haccepts⟩
    rw [hafter]
    cases haccepts with
    | @accepted d waited caller c hopen hwaits near told hc =>
        have htaken : callers (waited ++ [⟨.accept d, .ok caller⟩]) = [caller] :=
          TakesCaller.callers_eq (.taken hopen hwaits caller)
        constructor
        · rw [List.nil_append, List.append_cons, callers_append, htaken]
          exact .cons hc .nil
        · intro _
          exact ⟨rfl, acceptsOnce_of_accepted hopen hwaits near told hc⟩

theorem serves_nobody {operation : Operation}
    (hoperation : operation ≠ .accept)
    {result : Except Error Reply × Listener}
    (hresult : connections result.1 = [])
    (hevents : callers events = []) :
    Serves l operation patience result events where
  served := by
    rw [hresult, hevents]
    exact .nil
  accepts := fun haccept => absurd haccept hoperation

theorem perform_recorded (operation : Operation) :
    (l.perform operation patience).Meets recorder (fun _ events => callers events = [])
      (Serves l operation patience) [] := by
  cases operation with
  | accept => exact accept_recorded
  | setDeadline deadline =>
      have hother : Operation.setDeadline deadline ≠ .accept := nofun
      change Program.Meets _ _ (Operation.replace l (l.setDeadline deadline)) _ _
      cases l.setDeadline deadline with
      | ok changed => exact serves_nobody hother rfl rfl
      | error error => exact serves_nobody hother rfl rfl
  | duplicate =>
      have hother : Operation.duplicate ≠ .accept := nofun
      change Program.Meets _ _ (l.duplicate.run >>= _) _ _
      rw [meets_bind]
      apply (callers_of_makes duplicate_makes).mono
      intro result events hevents
      cases result with
      | ok copy => exact serves_nobody hother rfl hevents
      | error error => exact serves_nobody hother rfl hevents
  | close =>
      have hother : Operation.close ≠ .accept := nofun
      change Program.Meets _ _ (l.close >>= _) _ _
      rw [meets_bind]
      apply (callers_of_makes close_makes).mono
      intro answered events hevents
      rcases answered with ⟨result, closed⟩
      cases result with
      | ok _ => exact serves_nobody hother rfl hevents
      | error error => exact serves_nobody hother rfl hevents

/-- In any sequence of operations the connections that are given out are those to the first
who have called, one for each of them and in their order, and all others are still waiting.
An acceptance that fails takes nobody, and one that is waiting has not taken anybody. -/
theorem accepted_callers_are_served {l : Listener} {patience : Nat}
    {turns : List (Turn Listener Operation (Except Error Reply))} {last : Listener}
    (history : History (fun l operation => l.perform operation patience) l turns last) :
    (forall turn, turn ∈ turns -> turn.input = .accept -> turn.finish = turn.start ∧
      AcceptsOnce turn.start patience turn.events turn.answer) ∧
    (forall supply queue,
      (Queue.serving Event.callers).Path (.untouched supply) (turns.flatMap Turn.events) queue ->
      exists served, queue.supplied = served ++ queue.waiting ∧
        List.Forall₂ Connection.IsFor (turns.flatMap fun turn => connections turn.answer) served) ∧
    (forall operation events reason,
      Branch (last.perform operation patience) events (.halted reason) -> callers events = []) := by
  have serves {turn : Turn Listener Operation (Except Error Reply)} (hmem : turn ∈ turns) :
      Serves turn.start turn.input patience (turn.answer, turn.finish) turn.events := by
    have hfollows := ((history.invariant (I := fun _ => True) (fun _ _ => trivial)
      (fun _ (_ : True) _ _ => trivial) trivial).2 turn hmem).2
    exact (perform_recorded turn.input).recorded hfollows
  refine ⟨?_, ?_, ?_⟩
  · intro turn hmem haccept
    exact (serves hmem).accepts haccept
  · intro supply queue path
    refine ⟨_, Queue.supplied_of_untouched path, ?_⟩
    rw [List.flatMap_assoc]
    have hsame : List.Forall₂ (fun one two => one = two ∧ one ∈ turns) turns turns :=
      List.forall₂_same.mpr fun turn hmem => ⟨rfl, hmem⟩
    refine List.rel_flatMap hsame ?_
    intro turn _ hend
    rcases hend with ⟨rfl, hmem⟩
    exact (serves hmem).served
  · intro operation events reason branch
    exact (perform_recorded operation).recorded branch

/-- An acceptance times out, the system refuses one, and the new socket of another knows neither
its own name nor the option. -/
theorem accepted_callers_are_served_between_failures :
    exists (turns : List (Turn Listener Operation (Except Error Reply))) (last : Listener)
      (queue : Queue Caller) (served : List Caller),
      History (fun (l : Listener) (operation : Operation) => l.perform operation 2)
        ⟨some ⟨3⟩, Address.ofName 7 9, some ⟨1000⟩⟩ turns last ∧
      turns.map Turn.input = [.accept, .setDeadline none, .accept, .accept] ∧
      (Queue.serving Event.callers).Path
        (.untouched [(⟨8⟩, (Address.ofName 7 1).toRecord), (⟨9⟩, (Address.ofName 7 2).toRecord)])
        (turns.flatMap Turn.events) queue ∧
      queue.supplied = served ++ queue.waiting ∧
      List.Forall₂ Connection.IsFor (turns.flatMap fun turn => connections turn.answer) served ∧
      (turns.flatMap fun turn => connections turn.answer) =
        [⟨some ⟨8⟩, none, some (Address.ofName 7 1), none, none⟩] := by
  have first : Branch
      (perform ⟨some ⟨3⟩, Address.ofName 7 9, some ⟨1000⟩⟩ .accept 2)
      [⟨.now, ⟨6⟩⟩, ⟨.poll ⟨3⟩ .input 1, .ok 0⟩, ⟨.now, ⟨2000⟩⟩] (.returned (_, _)) :=
    .call _ _ _ (.call _ _ _ (.call _ _ _ (.done _)))
  have second : Branch
      (perform ⟨some ⟨3⟩, Address.ofName 7 9, some ⟨1000⟩⟩ (.setDeadline none) 2)
      [] (.returned (_, _)) :=
    .done _
  have third : Branch
      (perform ⟨some ⟨3⟩, Address.ofName 7 9, none⟩ .accept 2)
      [⟨.accept ⟨3⟩, .error ⟨103⟩⟩] (.returned (_, _)) :=
    .call _ _ _ (.done _)
  have fourth : Branch
      (perform ⟨some ⟨3⟩, Address.ofName 7 9, none⟩ .accept 2)
      [⟨.accept ⟨3⟩, .ok (⟨8⟩, (Address.ofName 7 1).toRecord)⟩, ⟨.localRecord ⟨8⟩, .error ⟨107⟩⟩,
        ⟨.configure ⟨8⟩ (.noDelay true), .error ⟨92⟩⟩] (.returned (_, _)) :=
    .call _ _ _ (.call _ _ _ (.call _ _ _ (.done _)))
  have history : History (fun (l : Listener) (operation : Operation) => l.perform operation 2)
      _ _ _ :=
    .cons first (.cons second (.cons third (.cons fourth (.nil _))))
  rcases (accepted_callers_are_served history).2.1
    [(⟨8⟩, (Address.ofName 7 1).toRecord), (⟨9⟩, (Address.ofName 7 2).toRecord)]
    ⟨_, [(⟨9⟩, (Address.ofName 7 2).toRecord)]⟩ (Queue.path_of_waiting_eq rfl) with
    ⟨served, hsupplied, hserved⟩
  exact ⟨_, _, _, served, history, rfl, Queue.path_of_waiting_eq rfl, hsupplied, hserved, rfl⟩

end Listener
end ServiceSocket
