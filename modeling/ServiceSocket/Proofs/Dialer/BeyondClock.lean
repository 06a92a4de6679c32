import ServiceSocket.Proofs.Dialer.Handshake

/-!
# Deadlines beyond the clock

The deadline of a dial is read off the clock only when connecting goes on after the first
answer.  A timeout can be longer than the time that the clock has left, and then dialling
ends without a result; in no other way does it, however long the timeout is.
-/

namespace ServiceSocket

open Program

def DueBeyondClock (timeout : Duration) (events : List Event) : Prop :=
  exists before d record errno reading, (errno = .inProgress ∨ errno = .wouldBlock) ∧
    events = before ++ [⟨.connect d record, .error errno⟩, ⟨.now, reading⟩] ∧
    reading.after? timeout = none

namespace DueBeyondClock

variable {timeout : Duration} {s events : List Event} {d : Descriptor} {record : Record}
  {errno : Errno} {reading : Instant}

theorem last_eq {event : Event}
    (h : DueBeyondClock timeout (s ++ [event])) :
    (exists before d record errno, (errno = .inProgress ∨ errno = .wouldBlock) ∧
      s = before ++ [⟨.connect d record, .error errno⟩]) ∧
    exists reading, event = ⟨.now, reading⟩ ∧ reading.after? timeout = none := by
  rcases h with ⟨before, d, record, errno, reading, herrno, hevents, hbeyond⟩
  rw [List.append_cons before] at hevents
  rcases List.append_inj' hevents rfl with ⟨hbefore, hlast⟩
  exact ⟨⟨before, d, record, errno, herrno, hbefore⟩, reading, List.singleton_inj.mp hlast,
    hbeyond⟩

theorem not_of_last {event : Event}
    (hcall : event.call ≠ .now) : ¬ DueBeyondClock timeout (s ++ [event]) := by
  intro h
  rcases h.last_eq.2 with ⟨reading, hread, _⟩
  rw [hread] at hcall
  exact hcall rfl

theorem not_nil : ¬ DueBeyondClock timeout [] := by
  intro h
  rcases h with ⟨before, d, record, errno, reading, _, hevents, _⟩
  simp at hevents

theorem not_of_waited
    (hdeadline : reading.after? timeout ≠ none)
    (haside : forall event, event ∈ events -> event.call.isAside = true) :
    ¬ DueBeyondClock timeout
      (s ++ [⟨.connect d record, .error errno⟩] ++ [⟨.now, reading⟩] ++ events) := by
  rcases List.eq_nil_or_concat events with hnil | ⟨front, last, hevents⟩
  · rw [hnil, List.append_nil]
    intro h
    rcases h.last_eq.2 with ⟨other, hread, hbeyond⟩
    cases hread
    exact hdeadline hbeyond
  · rw [hevents, List.concat_eq_append, ← List.append_assoc]
    intro h
    rcases h.last_eq.1 with ⟨before, d, record, errno, _, hbefore⟩
    -- What comes before a reading of the clock is another reading or a poll.
    rcases List.eq_nil_or_concat front with hnil | ⟨rest, previous, hfront⟩
    · rw [hnil, List.append_nil] at hbefore
      cases List.singleton_inj.mp (List.append_inj' hbefore rfl).2
    · rw [hfront, List.concat_eq_append, ← List.append_assoc] at hbefore
      have hprevious := List.singleton_inj.mp (List.append_inj' hbefore rfl).2
      have hmem : previous ∈ events := by
        rw [hevents, hfront]
        simp
      have hcall := haside previous hmem
      rw [hprevious] at hcall
      cases hcall

end DueBeyondClock

namespace Dialer

variable {d : Descriptor} {record : Record} {timeout : Duration} {patience : Nat}
  {s events : List Event}

/-!
# Connecting
-/

theorem restore_recorded_any {halt : Halt -> List Event -> Prop} :
    (Attempt.ofCall (d.setNonblocking false)).Meets recorder halt (fun _ _ => True)
      (fun _ _ => True) s := by
  rw [Attempt.meets_ofCall]
  apply setNonblocking_recorded
  intro _ answer _
  cases answer <;> trivial

theorem connectWithin_halts :
    (connectWithin d record timeout patience).Meets recorder
      (fun reason after => reason = .beyondClock <-> DueBeyondClock timeout after)
      (fun _ _ => True) (fun _ _ => True) s := by
  rw [connectWithin, Attempt.meets_bind, Attempt.meets_ofCall]
  apply setNonblocking_recorded
  intro switched answer _
  rcases answer with errno | _
  · trivial
  · simp only [Attempt.either_mapError_ok, Attempt.meets_bind, Attempt.meets_lift,
      Descriptor.connect, Program.ask, meets_call, meets_done, Monitor.allowed_and_iff]
    rintro answer tried ⟨⟩
    rcases answer with errno | _
    · dsimp only
      split
      next hgoes =>
          have herrno := (hgoes.imp_left Errno.kind_eq_wouldBlock_iff.mp).symm
          simp only [Attempt.meets_bind, Attempt.meets_lift, Program.now, Program.ask,
            meets_call, meets_done, Monitor.allowed_and_iff]
          rintro reading read ⟨⟩
          cases hdeadline : reading.after? timeout with
          | none =>
              refine iff_of_true rfl ⟨s ++ switched, d, record, errno, reading, herrno, ?_,
                hdeadline⟩
              simp only [List.append_assoc, List.cons_append, List.nil_append]
          | some deadline =>
              simp only [Attempt.meets_bind]
              apply Readiness.wait_recorded.weaken
              · intro reason after hafter
                rcases hafter with ⟨waited, hafter, rounds⟩
                rw [hafter]
                cases rounds.verdict
                refine iff_of_false (by simp) (DueBeyondClock.not_of_waited ?_ rounds.isAside)
                rw [hdeadline]
                exact Option.some_ne_none deadline
              · exact fun _ _ _ => trivial
              · intro _ after _
                simp only [Attempt.meets_ofCall, Descriptor.takeFailure, Program.ask,
                  meets_call, meets_done, Monitor.allowed_and_iff]
                intro answer asked _
                rcases answer with errno | failure
                · trivial
                · simp only [Attempt.either_mapError_ok]
                  split
                  next => trivial
                  next => exact restore_recorded_any
      next => trivial
    · exact restore_recorded_any

/-- Connecting goes on, and the clock cannot show when the dialer is to give up. -/
def PendsBeyondClock (dialer : Dialer) (events : List Event) : Prop :=
  exists timeout, dialer.timeout = some timeout ∧ DueBeyondClock timeout events

theorem pendsBeyondClock_iff {dialer : Dialer}
    (htimeout : dialer.timeout = some timeout) :
    dialer.PendsBeyondClock events <-> DueBeyondClock timeout events := by
  constructor
  · intro h
    rcases h with ⟨other, hother, hdue⟩
    rw [htimeout] at hother
    cases hother
    exact hdue
  · intro h
    exact ⟨timeout, htimeout, h⟩

theorem PendsBeyondClock.not_of_last {dialer : Dialer} {event : Event}
    (hcall : event.call ≠ .now) : ¬ dialer.PendsBeyondClock (s ++ [event]) := by
  intro h
  rcases h with ⟨timeout, _, hdue⟩
  exact DueBeyondClock.not_of_last hcall hdue

theorem reach_halts {dialer : Dialer} :
    Attempt.Meets recorder
      (fun reason after => dialer.timeout.isSome ∧
        (reason = .beyondClock <-> dialer.PendsBeyondClock after))
      (match dialer.timeout with
        | some timeout => connectWithin d record timeout patience
        | none => Attempt.ofCall (d.connect record))
      (fun _ _ => True) (fun _ _ => True) s := by
  cases htimeout : dialer.timeout with
  | none =>
      simp only [Attempt.meets_ofCall, Descriptor.connect, Program.ask, meets_call, meets_done,
        Monitor.allowed_and_iff]
      intro answer _ _
      cases answer <;> trivial
  | some timeout =>
      apply connectWithin_halts.weaken
      · intro reason after h
        rw [pendsBeyondClock_iff htimeout]
        exact ⟨rfl, h⟩
      · exact fun _ _ => id
      · exact fun _ _ => id

theorem join_halts (dialer : Dialer) (target : Address) :
    (dialer.join d target patience).Meets recorder
      (fun reason after => dialer.timeout.isSome ∧
        (reason = .beyondClock <-> dialer.PendsBeyondClock after))
      (fun _ _ => True) (fun _ _ => True) s := by
  rw [join]
  split
  next address _ =>
      simp only [Attempt.meets_bind, Attempt.meets_ofCall, Descriptor.bind, Program.ask,
        meets_call, meets_done, Monitor.allowed_and_iff]
      intro answer _ _
      rcases answer with errno | _
      · trivial
      · exact reach_halts
  next => exact reach_halts

/-!
# Dialling
-/

theorem connect_halts (dialer : Dialer) (target : Address) (patience : Nat) :
    (dialer.connect target patience).Meets recorder
      (fun reason after => dialer.timeout.isSome ∧
        (reason = .beyondClock <-> dialer.PendsBeyondClock after))
      (fun _ after => ¬ dialer.PendsBeyondClock after)
      (fun _ after => ¬ dialer.PendsBeyondClock after) [] := by
  simp only [connect, Attempt.meets_bind, Attempt.meets_inContext, Attempt.meets_ofCall,
    Descriptor.openStream, Program.ask, meets_call, meets_done, Monitor.allowed_and_iff]
  rintro answer opened ⟨⟩
  rcases answer with errno | d
  · exact PendsBeyondClock.not_of_last (s := []) (by simp)
  · simp only [Attempt.either_mapError_ok, Descriptor.meets_guarding, Descriptor.meets_release,
      Attempt.meets_inContext, Monitor.allowed_and_iff]
    apply (join_halts dialer target).weaken
    · exact fun _ _ => id
    · intro error after _
      rintro answer closed ⟨⟩
      exact PendsBeyondClock.not_of_last (by simp)
    · intro _ after _
      simp only [Attempt.meets_lift, Descriptor.meets_localAddress?,
        Descriptor.meets_peerAddress?, Connection.establish, meets_bind,
        Descriptor.meets_tryConfigure, meets_pure, Monitor.allowed_and_iff]
      intro near named _ far peered _
      rintro told configured ⟨⟩
      split
      next => exact PendsBeyondClock.not_of_last (by simp)
      next =>
          simp only [Attempt.meets_bind, Attempt.meets_lift, Descriptor.meets_tryConfigure,
            Monitor.allowed_and_iff]
          rintro answer cleared ⟨⟩
          exact PendsBeyondClock.not_of_last (by simp)

/-- How dialling may end: with a result, unless the clock cannot show the deadline, or polling
has used up the patience of a dialer with a timeout. -/
structure Returns (dialer : Dialer) (patience : Nat) (events : List Event)
    (outcome : Outcome (Except Error Connection)) : Prop where
  beyondClock_iff : outcome = .halted .beyondClock <-> dialer.PendsBeyondClock events
  spent : outcome = .halted .outOfPatience ->
    dialer.timeout.isSome ∧ (polls events).length = patience

theorem connect_returns {dialer : Dialer} {target : Address}
    {outcome : Outcome (Except Error Connection)}
    (branch : Branch (dialer.connect target patience).run events outcome) :
    Returns dialer patience events outcome := by
  have hends := Meets.recorded (connect_halts dialer target patience) branch
  rcases outcome with (error | c) | reason
  · exact ⟨iff_of_false (by simp) hends, by simp⟩
  · exact ⟨iff_of_false (by simp) hends, by simp⟩
  · rcases hends with ⟨htimed, hreason⟩
    constructor
    · rw [Outcome.halted.injEq]
      exact hreason
    · intro hspent
      rcases Option.isSome_iff_exists.mp htimed with ⟨timeout, htimeout⟩
      rcases (dials htimeout branch).stops reason rfl with hpolls | hbeyond
      · exact ⟨htimed, hpolls.2⟩
      · rw [hbeyond.1] at hspent
        cases hspent

theorem dial_returns {dialer : Dialer} {network : String} {target : Option Address}
    {outcome : Outcome (Except Error Connection)}
    (branch : Branch (dialer.dial network target patience).run events outcome) :
    Returns dialer patience events outcome := by
  have hrefused : ¬ dialer.PendsBeyondClock [] := by
    intro h
    rcases h with ⟨timeout, _, hdue⟩
    exact DueBeyondClock.not_nil hdue
  unfold dial at branch
  split at branch
  next =>
      cases branch
      exact ⟨iff_of_false (by simp) hrefused, by simp⟩
  next =>
      cases branch
      exact ⟨iff_of_false (by simp) hrefused, by simp⟩
  next => exact connect_returns branch

/-- Dialling ends without a result exactly if connecting goes on and the deadline lies beyond
the last instant of the clock, or if the polls for the connection have used up its patience.  No
network, no address, and no other answer of the system keeps the result from the caller. -/
theorem dial_returns_within_clock (dialer : Dialer) (patience : Nat) :
    (forall target events outcome, Branch (dialer.connect target patience).run events outcome ->
      Returns dialer patience events outcome) ∧
    forall network target events outcome,
      Branch (dialer.dial network target patience).run events outcome ->
      Returns dialer patience events outcome := by
  constructor
  · intro target events outcome branch
    exact connect_returns branch
  · intro network target events outcome branch
    exact dial_returns branch

def givingUpAfter (seconds : Nat) : Dialer where
  timeout := some (.ofSeconds seconds)

/-- From the start of the clock, a timeout that ends with its last second is not too long. -/
theorem dial_returns_within_clock_at_last_second :
    exists (events : List Event) (c : Connection),
      Branch ((givingUpAfter (2 ^ 63 - 1)).connect (.ofName 1 2) 1).run events
        (.returned (.ok c)) ∧
      ⟨.connect ⟨0⟩ (Address.ofName 1 2).toRecord, .error .inProgress⟩ ∈ events ∧
      Returns (givingUpAfter (2 ^ 63 - 1)) 1 events (.returned (.ok c)) := by
  have branch : Branch ((givingUpAfter (2 ^ 63 - 1)).connect (.ofName 1 2) 1).run
      [⟨.openStream .tipc, .ok ⟨0⟩⟩, ⟨.isNonblocking ⟨0⟩, .ok true⟩,
        ⟨.connect ⟨0⟩ (Address.ofName 1 2).toRecord, .error .inProgress⟩, ⟨.now, ⟨0⟩⟩,
        ⟨.now, ⟨0⟩⟩, ⟨.poll ⟨0⟩ .output Readiness.longestPoll, .ok 1⟩,
        ⟨.takeFailure ⟨0⟩, .ok ⟨0⟩⟩, ⟨.isNonblocking ⟨0⟩, .ok false⟩,
        ⟨.localRecord ⟨0⟩, .error .notConnected⟩, ⟨.peerRecord ⟨0⟩, .error .notConnected⟩,
        ⟨.configure ⟨0⟩ (.noDelay true), .ok ()⟩] (.returned _) :=
    .call _ _ _ (.call _ _ _ (.call _ _ _ (.call _ _ _ (.call _ _ _ (.call _ _ _
      (.call _ _ _ (.call _ _ _ (.call _ _ _ (.call _ _ _ (.call _ _ _ (.done _)))))))))))
  exact ⟨_, _, branch, by simp, (dial_returns_within_clock _ 1).1 _ _ _ branch⟩

/-- A second later the dialer that is told that connecting goes on never returns, though its
peer would complete the connection after a moment. -/
theorem dialing_beyond_clock_never_returns :
    exists (s after : Virtual.System), s.interventions = [] ∧ s.nextPlan.handshake = .after 5 ∧
      (Duration.ofSeconds (2 ^ 63)).seconds < 2 ^ 64 ∧
      forall patience, ((givingUpAfter (2 ^ 63)).connect (.ofName 1 2) patience).run.run
        Virtual.System.answer s = (.halted .beyondClock, after) := by
  let s : Virtual.System := { plans := [{ handshake := .after 5 }] }
  have hhalts : (((givingUpAfter (2 ^ 63)).connect (.ofName 1 2) 0).run.run
      Virtual.System.answer s).1.halted? = some .beyondClock := by decide +kernel
  rcases hrun : ((givingUpAfter (2 ^ 63)).connect (.ofName 1 2) 0).run.run
    Virtual.System.answer s with ⟨result | reason, after⟩ <;> rw [hrun] at hhalts
  · cases hhalts
  · cases hhalts
    refine ⟨s, after, rfl, rfl, by decide, ?_⟩
    intro patience
    exact (connect_extends _ _).ends_eq hrun (by simp) (Nat.zero_le patience)

end Dialer
end ServiceSocket
