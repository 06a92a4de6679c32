import ServiceSocket.Proofs.Closing
import ServiceSocket.Proofs.Connection.Calls
import ServiceSocket.Proofs.Virtual.Lingering

/-!
# How long closing lingers

What closing does with data that has not been sent is an option of the socket, which the system
keeps.  A connection gives it a number of seconds or none, and is told the same again: the option
is the one that was set last with success, whatever has been done in between.
-/

namespace ServiceSocket

open Program

/-!
# Seconds
-/

namespace Linger

/-- The option that stands for a time.  Its seconds are cut to the width that the option has. -/
def ofTime : Option Duration -> Linger
  | none => ⟨false, 0⟩
  | some time => ⟨true, Int32.ofNat time.seconds⟩

def time (option : Linger) : Option Duration :=
  if option.enabled then some (.ofSeconds (UInt64.ofInt option.seconds.toInt).toNat) else none

end Linger

namespace Connection

/-- How long closing lingers when so many seconds have been set. -/
def lingerTime (seconds : Int32) : Option Duration :=
  if 0 ≤ seconds then some (.ofSeconds seconds.toInt.toNat) else none

theorem toNat_ofInt_seconds {seconds : Int32}
    (h : 0 ≤ seconds) :
    (UInt64.ofInt seconds.toInt).toNat = seconds.toInt.toNat := by
  have hnonneg : 0 ≤ seconds.toInt := Int32.le_iff_toInt_le.mp h
  have hlt := seconds.toInt_lt
  rw [UInt64.ofInt, Int.emod_eq_of_lt hnonneg (by omega)]
  exact UInt64.toNat_ofNat_of_lt' (by unfold UInt64.size; omega)

theorem lingerOf_nonneg (seconds : Int32) : 0 ≤ (lingerOf seconds).seconds := by
  unfold lingerOf
  split
  next h => exact h
  next => decide

theorem ofTime_lingerTime (seconds : Int32) :
    Linger.ofTime (lingerTime seconds) = lingerOf seconds := by
  unfold lingerTime lingerOf
  split
  next h =>
      have hnonneg : 0 ≤ seconds.toInt := Int32.le_iff_toInt_le.mp h
      rw [Linger.ofTime, Duration.ofSeconds, Duration.seconds,
        Nat.mul_div_cancel _ (by decide), ← Int32.ofInt_eq_ofNat, Int.toNat_of_nonneg hnonneg,
        Int32.ofInt_toInt]
  next => rfl

theorem time_lingerOf (seconds : Int32) : (lingerOf seconds).time = lingerTime seconds := by
  unfold lingerTime lingerOf
  split
  next h => rw [Linger.time, if_pos rfl, toNat_ofInt_seconds h]
  next => rfl

/-- Different numbers of seconds are different options, but for all that let the system send
what is left. -/
theorem eq_or_negative_of_lingerOf_eq {seconds other : Int32}
    (h : lingerOf other = lingerOf seconds) :
    other = seconds ∨ other < 0 ∧ seconds < 0 := by
  unfold lingerOf at h
  split at h
  · split at h
    · exact .inl (Linger.mk.inj h).2
    · cases (Linger.mk.inj h).1
  · split at h
    · cases (Linger.mk.inj h).1
    · next hother hseconds => exact .inr ⟨Int32.not_le.mp hother, Int32.not_le.mp hseconds⟩

/-!
# One operation
-/

theorem Operation.setsLinger_of_mayCall {operation : Operation} {d : Descriptor} {call : Call}
    (hoperation : forall seconds, operation ≠ .setLinger seconds)
    (h : operation.MayCall d call) :
    call.setsLinger = false := by
  cases operation with
  | setLinger seconds => exact absurd rfl (hoperation seconds)
  | setDeadline | setReadDeadline | setWriteDeadline => cases h
  | _ => cases h <;> rfl

def Operation.lingerSet? : Operation -> Except Error Reply -> Option Int32
  | .setLinger seconds, .ok _ => some seconds
  | _, _ => none

inductive SetsLinger (c : Connection) (d : Descriptor) (seconds : Int32) :
    List Event -> Outcome (Except Error Unit) -> Prop where
  | set :
      SetsLinger c d seconds [⟨.configure d (.linger (lingerOf seconds)), .ok ()⟩]
        (.returned (.ok ()))
  | refused (errno : Errno) :
      SetsLinger c d seconds [⟨.configure d (.linger (lingerOf seconds)), .error errno⟩]
        (.returned (.error (.inContext "set" Network.tipc c.remoteAddress (.ofErrno errno))))

inductive TellsLinger (c : Connection) (d : Descriptor) (option : Linger) :
    List Event -> Outcome (Except Error (Option Duration)) -> Prop where
  | told : TellsLinger c d option [⟨.linger d, .ok option⟩] (.returned (.ok option.time))
  | refused (errno : Errno) :
      TellsLinger c d option [⟨.linger d, .error errno⟩]
        (.returned (.error (.inContext "get" Network.tipc c.remoteAddress (.ofErrno errno))))

section

variable {c : Connection} {d : Descriptor} {option now : Linger} {patience : Nat}

theorem run_setLinger
    (hopen : c.descriptor = some d)
    (seconds : Int32) :
    (c.setLinger seconds).run =
      .call (.configure d (.linger (lingerOf seconds))) fun answer =>
        .done ((answer.mapError .ofErrno).mapError
          (.inContext "set" Network.tipc c.remoteAddress)) := by
  rcases c with ⟨descriptor, near, far, read, write⟩
  cases hopen
  rfl

theorem run_linger
    (hopen : c.descriptor = some d) :
    c.linger.run =
      .call (.linger d) fun answer =>
        .done (((answer.mapError .ofErrno).mapError
          (.inContext "get" Network.tipc c.remoteAddress)).map Linger.time) := by
  rcases c with ⟨descriptor, near, far, read, write⟩
  cases hopen
  refine congrArg (Program.call (.linger d)) ?_
  funext answer
  cases answer <;> rfl

theorem setsLinger_of_branch
    (hopen : c.descriptor = some d)
    {seconds : Int32} {events : List Event} {outcome : Outcome (Except Error Unit)}
    (branch : Branch (c.setLinger seconds).run events outcome) :
    c.SetsLinger d seconds events outcome := by
  rw [run_setLinger hopen] at branch
  rcases branch with _ | _ | ⟨_, _, answer, rest⟩
  cases rest
  cases answer with
  | error errno => exact .refused errno
  | ok _ => exact .set

theorem tellsLinger_of_branch
    (hopen : c.descriptor = some d)
    {events : List Event} {outcome : Outcome (Except Error (Option Duration))}
    (branch : Branch c.linger.run events outcome)
    (path : (lingerOption d).Path option events now) :
    c.TellsLinger d option events outcome := by
  rw [run_linger hopen] at branch
  rcases branch with _ | _ | ⟨_, _, answer, rest⟩
  cases rest
  cases answer with
  | error errno => exact .refused errno
  | ok value =>
      rcases Monitor.path_cons_iff.mp path with ⟨_, ⟨_, hvalue⟩, _⟩
      rw [hvalue rfl]
      exact .told

def Holds (c : Connection) (d : Descriptor) : Prop :=
  forall held, c.descriptor = some held -> held = d

theorem holds_of_descriptor_eq (hopen : c.descriptor = some d) : c.Holds d := by
  intro held hheld
  exact Option.some_inj.mp (hheld.symm.trans hopen)

theorem Holds.perform
    (hc : c.Holds d)
    (operation : Operation) :
    (c.perform operation patience).Returns fun result => result.2.Holds d :=
  c.perform_returns (P := fun c => c.Holds d) hc (fun _ _ => hc)
    (fun _ _ hshut => by cases hshut) patience

theorem setLinger_meets
    (hc : c.Holds d)
    (seconds : Int32) :
    (c.setLinger seconds).Meets (lingerOption d) (fun _ now => now = option)
      (fun _ now => now = option) (fun _ now => now = lingerOf seconds) option := by
  cases hopen : c.descriptor with
  | none =>
      rw [setLinger, configure, held, hopen]
      rfl
  | some held =>
      rw [Attempt.Meets, run_setLinger (hopen.trans (congrArg some (hc held hopen))), meets_call,
        Monitor.allowed_and_iff]
      intro answer after hstep
      cases answer with
      | error errno => exact hstep
      | ok _ => exact hstep rfl

theorem perform_lingerOption
    (hc : c.Holds d)
    (operation : Operation) :
    (c.perform operation patience).Meets (lingerOption d) (fun _ now => now = option)
      (fun result now => now = ((operation.lingerSet? result.1).map lingerOf).getD option)
      option := by
  by_cases hset : exists seconds, operation = .setLinger seconds
  · rcases hset with ⟨seconds, rfl⟩
    exact meets_bind.mpr (Attempt.meets_run.mpr (setLinger_meets hc seconds))
  · -- No call of another operation sets the option.
    have hother : forall seconds, operation ≠ .setLinger seconds := not_exists.mp hset
    have hmakes : (c.perform operation patience).Makes fun call => call.setsLinger = false := by
      apply (c.perform_makes operation patience).mono
      rintro call ⟨held, _, hcall⟩
      exact Operation.setsLinger_of_mayCall hother hcall
    apply Meets.mono hmakes.keeps_lingerOption
    rintro ⟨answer, after⟩ now hnow
    cases operation with
    | setLinger seconds => exact absurd rfl (hother seconds)
    | _ => exact hnow

end

/-!
# Every history
-/

/-- The seconds that were last set with success. -/
def lastLinger (turns : List (Turn Connection Operation (Except Error Reply))) : Option Int32 :=
  turns.reverse.findSome? fun turn => turn.input.lingerSet? turn.answer

def lingerAfter (option : Linger)
    (turns : List (Turn Connection Operation (Except Error Reply))) : Linger :=
  ((lastLinger turns).map lingerOf).getD option

theorem lingerAfter_cons (option : Linger)
    (turn : Turn Connection Operation (Except Error Reply))
    (turns : List (Turn Connection Operation (Except Error Reply))) :
    lingerAfter option (turn :: turns) =
      lingerAfter (((turn.input.lingerSet? turn.answer).map lingerOf).getD option) turns := by
  unfold lingerAfter lastLinger
  rw [List.reverse_cons, List.findSome?_append, List.findSome?_singleton]
  cases turns.reverse.findSome? fun turn => turn.input.lingerSet? turn.answer <;> rfl

theorem time_lingerAfter {turns : List (Turn Connection Operation (Except Error Reply))}
    {seconds : Int32}
    (h : lastLinger turns = some seconds)
    (option : Linger) :
    (lingerAfter option turns).time = lingerTime seconds := by
  rw [lingerAfter, h]
  exact time_lingerOf seconds

section

variable {patience : Nat} {c last : Connection} {d : Descriptor} {option now : Linger}
  {turns : List (Turn Connection Operation (Except Error Reply))}

/-- How the option of a connection's descriptor has come through the turns. -/
structure LingersAsSet (d : Descriptor) (option : Linger)
    (turns : List (Turn Connection Operation (Except Error Reply))) (last : Connection)
    (now : Linger) : Prop where
  option_eq : now = lingerAfter option turns
  sets : forall {seconds : Int32} {events : List Event} {outcome : Outcome (Except Error Unit)},
    last.isOpen = true -> Branch (last.setLinger seconds).run events outcome ->
      last.SetsLinger d seconds events outcome
  tells : forall {events : List Event} {outcome : Outcome (Except Error (Option Duration))}
      {later : Linger}, last.isOpen = true -> Branch last.linger.run events outcome ->
    (lingerOption d).Path now events later -> last.TellsLinger d now events outcome
  tells_last : forall {seconds : Int32}, lastLinger turns = some seconds ->
    now.time = lingerTime seconds

theorem Holds.history
    (hc : c.Holds d)
    (history : History (fun (c : Connection) operation => c.perform operation patience) c turns
      last) :
    last.Holds d := by
  have hstep (turn : Turn Connection Operation (Except Error Reply)) (_ : True)
      (hfollows : turn.Follows fun (c : Connection) operation => c.perform operation patience)
      (hstart : turn.start.Holds d) : turn.finish.Holds d :=
    hstart.perform turn.input _ _ hfollows
  exact (history.invariant (I := fun c => c.Holds d) (fun _ _ => trivial) hstep hc).1

theorem eq_lingerAfter
    (history : History (fun (c : Connection) operation => c.perform operation patience) c turns
      last)
    (hc : c.Holds d)
    (path : (lingerOption d).Path option (turns.flatMap Turn.events) now) :
    now = lingerAfter option turns := by
  induction history generalizing option with
  | nil c => exact (Monitor.path_nil_iff.mp path).symm
  | @cons c mid last operation events answer turns first rest ih =>
      rcases Monitor.path_append_iff.mp path with ⟨between, hfirst, hrest⟩
      have hbetween := ((perform_lingerOption hc operation).of_branch first).2 between hfirst
      rw [lingerAfter_cons, ← hbetween]
      exact ih (hc.perform operation _ _ first) hrest

theorem lingersAsSet
    (history : History (fun (c : Connection) operation => c.perform operation patience) c turns
      last)
    (hc : c.Holds d)
    (path : (lingerOption d).Path option (turns.flatMap Turn.events) now) :
    LingersAsSet d option turns last now := by
  have hnow := eq_lingerAfter history hc path
  have hopen (hlast : last.isOpen = true) : last.descriptor = some d := by
    rcases Option.isSome_iff_exists.mp hlast with ⟨held, hdescriptor⟩
    rw [hdescriptor, hc.history history held hdescriptor]
  constructor
  · exact hnow
  · intro seconds events outcome hlast branch
    exact setsLinger_of_branch (hopen hlast) branch
  · intro events outcome later hlast branch hpath
    exact tellsLinger_of_branch (hopen hlast) branch hpath
  · intro seconds hseconds
    rw [hnow]
    exact time_lingerAfter hseconds option

end

/-- For every number of seconds, what is set reaches the system and comes back unchanged.  What is
told is what was last set with success, whatever the option was at first, as the system keeps it;
the virtual system does. -/
theorem linger_round_trips :
    (forall seconds : Int32,
      Linger.ofTime (lingerTime seconds) = lingerOf seconds ∧
      (lingerOf seconds).time = lingerTime seconds ∧ 0 ≤ (lingerOf seconds).seconds ∧
      forall other, lingerOf other = lingerOf seconds ->
        other = seconds ∨ other < 0 ∧ seconds < 0) ∧
    (forall {patience : Nat} {c last : Connection} {d : Descriptor} {option now : Linger}
      {turns : List (Turn Connection Operation (Except Error Reply))},
      History (fun (c : Connection) operation => c.perform operation patience) c turns last ->
      c.descriptor = some d -> (lingerOption d).Path option (turns.flatMap Turn.events) now ->
        LingersAsSet d option turns last now) ∧
    (forall {s after : Virtual.System} {d : Descriptor} {option : Linger} {events : List Event},
      s.Lingers d option -> Virtual.system.Path s events after ->
        exists now, (lingerOption d).Path option events now ∧ after.Lingers d now) := by
  refine ⟨?_, ?_, ?_⟩
  · intro seconds
    exact ⟨ofTime_lingerTime seconds, time_lingerOf seconds, lingerOf_nonneg seconds,
      fun _ => eq_or_negative_of_lingerOf_eq⟩
  · intro patience c last d option now turns history hopen path
    exact lingersAsSet history (holds_of_descriptor_eq hopen) path
  · intro s after d option events hs path
    exact Virtual.System.path_lingers path hs

/-- Discarding is set, the background is refused, and what is told is that unsent data is
discarded. -/
theorem linger_round_trips_zero :
    exists (turns : List (Turn Connection Operation (Except Error Reply))) (last : Connection)
        (s after : Virtual.System) (now : Linger),
      turns.map Turn.input = [.setLinger 0, .setLinger (-1), .setNoDelay true] ∧
      History (fun (c : Connection) operation => c.perform operation 3)
        ⟨some ⟨0⟩, none, none, none, none⟩ turns last ∧
      s.Lingers ⟨0⟩ ⟨false, 0⟩ ∧ Virtual.system.Path s (turns.flatMap Turn.events) after ∧
      after.Lingers ⟨0⟩ now ∧ LingersAsSet ⟨0⟩ ⟨false, 0⟩ turns last now ∧
      lastLinger turns = some 0 ∧
      last.TellsLinger ⟨0⟩ now [⟨.linger ⟨0⟩, .ok now⟩] (.returned (.ok (some (.ofSeconds 0)))) ∧
      Linger.ofTime (lingerTime 0) = lingerOf 0 := by
  let s : Virtual.System :=
    { sockets := [.ofPlan .tipc {}]
      descriptors := [some 1]
      interventions := [(.setsockopt, {}), (.setsockopt, { failure := some ⟨9⟩ })] }
  have history : History (fun (c : Connection) operation => c.perform operation 3)
      ⟨some ⟨0⟩, none, none, none, none⟩
      [⟨_, .setLinger 0, [⟨.configure ⟨0⟩ (.linger (lingerOf 0)), .ok ()⟩], _, _⟩,
        ⟨_, .setLinger (-1), [⟨.configure ⟨0⟩ (.linger (lingerOf (-1))), .error ⟨9⟩⟩], _, _⟩,
        ⟨_, .setNoDelay true, [⟨.configure ⟨0⟩ (.noDelay true), .ok ()⟩], _, _⟩] _ :=
    .cons (.call _ _ _ (.done _)) (.cons (.call _ _ _ (.done _))
      (.cons (.call _ _ _ (.done _)) (.nil _)))
  have hs : s.Lingers ⟨0⟩ ⟨false, 0⟩ := by
    refine ⟨by decide, ?_⟩
    intro number hnumber
    cases hnumber
    rfl
  have path : Virtual.system.Path s
      [⟨.configure ⟨0⟩ (.linger (lingerOf 0)), .ok ()⟩,
        ⟨.configure ⟨0⟩ (.linger (lingerOf (-1))), .error ⟨9⟩⟩,
        ⟨.configure ⟨0⟩ (.noDelay true), .ok ()⟩] _ :=
    .cons (Prod.ext rfl rfl) (.cons (Prod.ext rfl rfl) (.cons (Prod.ext rfl rfl) (.nil _)))
  rcases linger_round_trips.2.2 hs path with ⟨now, hpath, hnow⟩
  have hlingers := linger_round_trips.2.1 history rfl hpath
  have asked : Branch (Connection.linger ⟨some ⟨0⟩, none, none, none, none⟩).run
      [⟨.linger ⟨0⟩, .ok now⟩] (.returned (.ok now.time)) := .call _ _ _ (.done _)
  have htold := hlingers.tells rfl asked (.cons ⟨rfl, fun _ => rfl⟩ (.nil now))
  rw [hlingers.tells_last rfl] at htold
  exact ⟨_, _, s, _, now, rfl, history, hs, path, hnow, hlingers, rfl, htold,
    (linger_round_trips.1 0).1⟩

end Connection
end ServiceSocket
