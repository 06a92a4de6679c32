import ServiceSocket.Dialer
import ServiceSocket.Proofs.Failure.Operations
import ServiceSocket.Proofs.Kernel.Modes
import ServiceSocket.Proofs.Readiness.Rounds

/-!
# How dialling with a timeout ends

Dialling tries to connect once.  It succeeds only if the system says that the connection is
there, at once or after the socket has become writable, and then the socket waits again.
Otherwise it fails, and the last thing it does is to close the socket.
-/

namespace ServiceSocket

open Program

/-!
# Attempts to connect
-/

def Event.isConnect (event : Event) : Bool :=
  match event.call with
  | .connect _ _ => true
  | _ => false

def Call.isAside : Call -> Bool
  | .openStream _ | .connect _ _ => false
  | _ => true

theorem Event.isConnect_of_isAside {event : Event}
    (h : event.call.isAside = true) : event.isConnect = false := by
  rcases event with ⟨c, answer⟩
  cases c <;> first | rfl | cases h

/-- The system says that the connection is there: at once, or when it is asked for a failure
after it has found the socket writable. -/
def Connects (d : Descriptor) (record : Record) (events : List Event) : Prop :=
  ⟨.connect d record, .ok ()⟩ ∈ events ∨
    exists errno time count, (errno = .inProgress ∨ errno = .wouldBlock) ∧
      [⟨.connect d record, .error errno⟩, ⟨.poll d .output time, .ok (count + 1)⟩,
        ⟨.takeFailure d, .ok ⟨0⟩⟩].Sublist events

variable {d : Descriptor} {record : Record} {events : List Event}

theorem Connects.append
    (h : Connects d record events)
    (more : List Event) :
    Connects d record (events ++ more) := by
  rcases h with hmem | ⟨errno, time, count, herrno, hsublist⟩
  · exact .inl (List.mem_append_left more hmem)
  · exact .inr ⟨errno, time, count, herrno, hsublist.trans (List.sublist_append_left events more)⟩

theorem polls_append (first second : List Event) :
    polls (first ++ second) = polls first ++ polls second :=
  List.filterMap_append

theorem Switches.isAside {enabled : Bool} {answer : Except Errno Unit}
    (h : Switches d enabled events answer) :
    forall event, event ∈ events -> event.call.isAside = true := by
  cases h <;> simp [Call.isAside]

theorem Switches.polls_eq {enabled : Bool} {answer : Except Errno Unit}
    (h : Switches d enabled events answer) : polls events = [] := by
  cases h <;> rfl

/-!
# Waiting
-/

namespace Readiness

variable {direction : Direction} {deadline : Instant} {patience : Nat}
  {outcome : Outcome (Except Error Unit)}

theorem Rounds.isAside
    (h : Rounds d direction deadline patience events outcome) :
    forall event, event ∈ events -> event.call.isAside = true := by
  intro event hmem
  rcases List.append_of_mem hmem with ⟨before, after, hevents⟩
  rcases h.places hevents with ⟨_, hread, _⟩ | ⟨_, _, _, _, _, _, hpoll⟩
  · rw [hread]
    rfl
  · rw [hpoll]
    rfl

theorem Rounds.found
    (h : Rounds d direction deadline patience events (.returned (.ok ()))) :
    exists time count, ⟨.poll d direction time, .ok (count + 1)⟩ ∈ events := by
  rcases h.awaits.ready_iff.mp rfl with ⟨count, hlast⟩
  rcases List.mem_filterMap.mp (List.mem_of_getLast? hlast) with ⟨event, hmem, hpolled⟩
  rcases List.append_of_mem hmem with ⟨before, after, hevents⟩
  rcases h.places hevents with ⟨_, hread, _⟩ | ⟨_, _, left, answer, _, _, hpoll⟩
  · rw [hread] at hpolled
    cases hpolled
  · rw [hpoll] at hpolled hmem
    cases hpolled
    exact ⟨pollTime left, count, hmem⟩

theorem wait_recorded {s : List Event} :
    (wait d direction (some deadline) patience).Meets recorder
      (fun reason after => exists waited, after = s ++ waited ∧
        Rounds d direction deadline patience waited (.halted reason))
      (fun error after => exists waited, after = s ++ waited ∧
        Rounds d direction deadline patience waited (.returned (.error error)))
      (fun _ after => exists waited, after = s ++ waited ∧
        Rounds d direction deadline patience waited (.returned (.ok ()))) s :=
  Attempt.recorded fun _ _ => rounds_of_branch

end Readiness

theorem Transparent.all_absorbed {t : Tolerance} {operation : String} {address : Option Address}
    {given : Multiset Descriptor} {value : α}
    (h : Transparent t operation address given events (.returned (.ok value))) :
    forall event, event ∈ events -> event.unabsorbed? t = none := by
  cases hfirst : events.find? fun event => (event.unabsorbed? t).isSome with
  | none =>
      intro event hmem
      simpa using List.find?_eq_none.mp hfirst event hmem
  | some event =>
      rcases List.find?_eq_some_iff_append.mp hfirst with ⟨hsome, before, after, hevents, hbefore⟩
      rcases Option.isSome_iff_exists.mp hsome with ⟨errno, herrno⟩
      have hends := h.ends before event after errno hevents
        (fun earlier hmem => by simpa using hbefore earlier hmem) herrno
      cases hends.1

namespace Dialer

structure Tries (d : Descriptor) (connects : Nat) (s : List Event) : Prop where
  opened : forall family other, ⟨.openStream family, .ok other⟩ ∈ s -> other = d
  connects_le : s.countP Event.isConnect ≤ connects

variable {timeout : Duration} {patience connects : Nat} {s : List Event}

theorem Tries.append
    (h : Tries d connects s)
    (hevents : forall event, event ∈ events -> event.call.isAside = true) :
    Tries d connects (s ++ events) where
  opened := by
    intro family other hmem
    rcases List.mem_append.mp hmem with hbefore | hafter
    · exact h.opened family other hbefore
    · cases hevents _ hafter
  connects_le := by
    have hnone : events.countP Event.isConnect = 0 := by
      rw [List.countP_eq_zero]
      intro event hmem
      rw [Event.isConnect_of_isAside (hevents event hmem)]
      exact Bool.false_ne_true
    rw [List.countP_append, hnone]
    exact h.connects_le

theorem Tries.aside
    (h : Tries d connects s)
    (event : Event)
    (haside : event.call.isAside = true) :
    Tries d connects (s ++ [event]) := by
  apply h.append
  intro other hmem
  rw [List.mem_singleton.mp hmem]
  exact haside

theorem Tries.connect
    (h : Tries d connects s)
    (other : Descriptor) (record : Record) (answer : Except Errno Unit) :
    Tries d (connects + 1) (s ++ [⟨.connect other record, answer⟩]) where
  opened := by
    intro family other hmem
    rcases List.mem_append.mp hmem with hbefore | hafter
    · exact h.opened family other hbefore
    · cases List.mem_singleton.mp hafter
  connects_le := by
    rw [List.countP_append]
    exact Nat.add_le_add_right h.connects_le 1

theorem Tries.mono
    (h : Tries d connects s)
    {more : Nat}
    (hle : connects ≤ more) :
    Tries d more s :=
  ⟨h.opened, Nat.le_trans h.connects_le hle⟩

structure Joins (d : Descriptor) (record : Record) (s : List Event) : Prop where
  tries : Tries d 1 s
  connects : Connects d record s
  waits : EndsInMode d false s

theorem Joins.aside
    (h : Joins d record s)
    (event : Event)
    (haside : event.call.isAside = true)
    (hmode : forall mode, event.modeAfter d mode = mode) :
    Joins d record (s ++ [event]) where
  tries := h.tries.aside event haside
  connects := h.connects.append [event]
  waits := by
    apply h.waits.append
    intro other hmem
    rw [List.mem_singleton.mp hmem]
    exact hmode

/-- Why dialling may end without a result: it has polled as often as it had patience for, or
the clock could not show the deadline that it read off while connecting goes on. -/
def Stops (timeout : Duration) (patience : Nat) (reason : Halt) (s : List Event) : Prop :=
  reason = .outOfPatience ∧ (polls s).length = patience ∨
    reason = .beyondClock ∧ exists before d record errno reading,
      s = before ++ [⟨.connect d record, .error errno⟩, ⟨.now, reading⟩] ∧
        reading.after? timeout = none

/-!
# Connecting in time
-/

theorem restore_recorded {halt : Halt -> List Event -> Prop}
    (htries : Tries d 1 s)
    (hconnects : Connects d record s) :
    (Attempt.ofCall (d.setNonblocking false)).Meets recorder halt (fun _ after => Tries d 1 after)
      (fun _ => Joins d record) s := by
  rw [Attempt.meets_ofCall]
  apply setNonblocking_recorded
  intro switched answer hswitched
  have hafter := htries.append hswitched.isAside
  rcases answer with errno | _
  · exact hafter
  · exact ⟨hafter, hconnects.append switched, hswitched.endsInMode⟩

theorem confirm_recorded {errno : Errno} {deadline : Instant}
    (htries : Tries d 1 s)
    (hpolls : polls s = [])
    (herrno : errno = .inProgress ∨ errno = .wouldBlock)
    (hgoes : ⟨.connect d record, .error errno⟩ ∈ s) :
    Attempt.Meets recorder
      (fun reason after => Tries d 1 after ∧ Stops timeout patience reason after)
      (do
        Readiness.wait d .output (some deadline) patience
        let failure ← Attempt.ofCall d.takeFailure
        if failure.code ≠ 0 then throw (.ofErrno failure)
        Attempt.ofCall (d.setNonblocking false))
      (fun _ after => Tries d 1 after)
      (fun _ => Joins d record) s := by
  simp only [Attempt.meets_bind, Attempt.meets_ofCall, Descriptor.takeFailure, Program.ask,
    meets_call, meets_done, Monitor.allowed_and_iff]
  apply Readiness.wait_recorded.weaken
  · rintro reason after ⟨waited, hafter, rounds⟩
    rw [hafter]
    have hlength := rounds.length_polls
    cases rounds.verdict
    refine ⟨htries.append rounds.isAside, .inl ⟨rfl, ?_⟩⟩
    rw [polls_append, hpolls]
    exact hlength
  · rintro error after ⟨waited, hafter, rounds⟩
    rw [hafter]
    exact htries.append rounds.isAside
  · rintro _ after ⟨waited, hafter, rounds⟩
    rw [hafter]
    rintro answer asked ⟨⟩
    have hasked := (htries.append rounds.isAside).aside ⟨.takeFailure d, answer⟩ rfl
    rcases answer with errno | failure
    · exact hasked
    · simp only [Attempt.either_mapError_ok]
      split
      next => exact hasked
      next hnone =>
          apply restore_recorded hasked
          rcases rounds.found with ⟨time, count, hfound⟩
          have hfailure : failure = ⟨0⟩ := by
            rcases failure with ⟨code⟩
            exact congrArg Errno.mk (not_not.mp hnone)
          rw [hfailure]
          refine .inr ⟨errno, time, count, herrno, ?_⟩
          exact ((List.singleton_sublist.mpr hgoes).append
            (List.singleton_sublist.mpr hfound)).append (.refl _)

theorem connectWithin_recorded
    (htries : Tries d 0 s)
    (hpolls : polls s = []) :
    (connectWithin d record timeout patience).Meets recorder
      (fun reason after => Tries d 1 after ∧ Stops timeout patience reason after)
      (fun _ after => Tries d 1 after)
      (fun _ => Joins d record) s := by
  rw [connectWithin, Attempt.meets_bind, Attempt.meets_ofCall]
  apply setNonblocking_recorded
  intro switched answer hswitched
  have hready := htries.append hswitched.isAside
  have hunpolled : polls (s ++ switched) = [] := by
    rw [polls_append, hpolls, hswitched.polls_eq]
    rfl
  rcases answer with errno | _
  · exact hready.mono (Nat.zero_le 1)
  · simp only [Attempt.either_mapError_ok, Attempt.meets_bind, Attempt.meets_lift,
      Descriptor.connect, Program.ask, meets_call, meets_done, Monitor.allowed_and_iff]
    rintro answer tried ⟨⟩
    have htried := hready.connect d record answer
    rcases answer with errno | _
    · dsimp only
      split
      next hgoes =>
          simp only [Attempt.meets_bind, Attempt.meets_lift, Program.now, Program.ask,
            meets_call, meets_done, Monitor.allowed_and_iff]
          rintro reading read ⟨⟩
          have hread := htried.aside ⟨.now, reading⟩ rfl
          cases hdeadline : reading.after? timeout with
          | none =>
              refine ⟨hread, .inr ⟨rfl, s ++ switched, d, record, errno, reading, ?_, hdeadline⟩⟩
              simp only [List.append_assoc, List.cons_append, List.nil_append]
          | some deadline =>
              apply confirm_recorded hread
              · rw [polls_append, polls_append, hunpolled]
                rfl
              · exact (hgoes.imp_left Errno.kind_eq_wouldBlock_iff.mp).symm
              · simp
      next => exact htried
    · apply restore_recorded htried
      exact .inl (by simp)

theorem join_recorded {dialer : Dialer}
    (htimeout : dialer.timeout = some timeout)
    {target : Address}
    (htries : Tries d 0 s)
    (hpolls : polls s = []) :
    (dialer.join d target patience).Meets recorder
      (fun reason after => Tries d 1 after ∧ Stops timeout patience reason after)
      (fun _ after => Tries d 1 after)
      (fun _ => Joins d target.toRecord) s := by
  cases hlocal : dialer.localAddress with
  | none =>
      simp only [join, hlocal, htimeout]
      exact connectWithin_recorded htries hpolls
  | some address =>
      simp only [join, hlocal, htimeout, Attempt.meets_bind, Attempt.meets_ofCall,
        Descriptor.bind, Program.ask, meets_call, meets_done, Monitor.allowed_and_iff]
      rintro answer bound ⟨⟩
      have hbound := htries.aside ⟨.bind d address.toRecord, answer⟩ rfl
      rcases answer with errno | _
      · exact hbound.mono (Nat.zero_le 1)
      · apply connectWithin_recorded hbound
        rw [polls_append, hpolls]
        rfl

/-!
# Dialling
-/

/-- The error says what has been dialled, and a socket that has been made is closed last. -/
structure Fails (target : Address) (error : Error) (s : List Event) : Prop where
  connects_le : s.countP Event.isConnect ≤ 1
  reports : exists cause, error = .inContext "dial" Network.tipc target cause
  closes : forall family d, ⟨.openStream family, .ok d⟩ ∈ s ->
    exists before answer, s = before ++ [⟨.close d, answer⟩]

/-- The connection is there, and its socket waits. -/
structure Succeeds (target : Address) (c : Connection) (s : List Event) : Prop where
  connects_le : s.countP Event.isConnect ≤ 1
  connected : exists d, c.descriptor = some d ∧ Connects d target.toRecord s ∧ EndsInMode d false s

theorem Joins.succeeds {target : Address}
    (h : Joins d target.toRecord s)
    {c : Connection}
    (hopen : c.descriptor = some d) :
    Succeeds target c s :=
  ⟨h.tries.connects_le, d, hopen, h.connects, h.waits⟩

theorem connect_recorded {dialer : Dialer}
    (htimeout : dialer.timeout = some timeout)
    (target : Address) (patience : Nat) :
    (dialer.connect target patience).Meets recorder
      (fun reason after => after.countP Event.isConnect ≤ 1 ∧
        Stops timeout patience reason after)
      (Fails target) (Succeeds target) [] := by
  simp only [connect, Attempt.meets_bind, Attempt.meets_inContext, Attempt.meets_ofCall,
    Descriptor.openStream, Program.ask, meets_call, meets_done, Monitor.allowed_and_iff]
  rintro answer opened ⟨⟩
  rcases answer with errno | d
  · refine ⟨by simp [Event.isConnect], ⟨_, rfl⟩, ?_⟩
    intro family d hmem
    cases List.mem_singleton.mp hmem
  · have htries : Tries d 0 [⟨.openStream .tipc, .ok d⟩] := by
      constructor
      · intro family other hmem
        cases List.mem_singleton.mp hmem
        rfl
      · exact Nat.le_refl 0
    simp only [Attempt.either_mapError_ok, Descriptor.meets_guarding, Descriptor.meets_release,
      Attempt.meets_inContext, Monitor.allowed_and_iff]
    apply (join_recorded htimeout htries rfl).weaken
    · rintro reason after ⟨htried, hstops⟩
      exact ⟨htried.connects_le, hstops⟩
    · intro error after htried
      rintro answer closed ⟨⟩
      have hclosed := htried.aside ⟨.close d, answer⟩ rfl
      refine ⟨hclosed.connects_le, ⟨error, rfl⟩, ?_⟩
      intro family other hmem
      rw [hclosed.opened family other hmem]
      exact ⟨after, answer, rfl⟩
    · intro _ after hjoins
      simp only [Attempt.meets_lift, Descriptor.meets_localAddress?,
        Descriptor.meets_peerAddress?, Connection.establish, meets_bind,
        Descriptor.meets_tryConfigure, meets_pure, Monitor.allowed_and_iff]
      rintro near named ⟨⟩
      rintro far peered ⟨⟩
      rintro told configured ⟨⟩
      have hconfigured := ((hjoins.aside ⟨.localRecord d, near⟩ rfl fun _ => rfl).aside
        ⟨.peerRecord d, far⟩ rfl fun _ => rfl).aside ⟨.configure d (.noDelay true), told⟩ rfl
          fun _ => rfl
      split
      next => exact hconfigured.succeeds rfl
      next =>
          simp only [Attempt.meets_bind, Attempt.meets_lift, Descriptor.meets_tryConfigure,
            Monitor.allowed_and_iff]
          rintro answer cleared ⟨⟩
          have hcleared := hconfigured.aside ⟨.configure d (.noDelay false), answer⟩ rfl
            fun _ => rfl
          exact hcleared.succeeds rfl

structure Dials (dialer : Dialer) (timeout : Duration) (target : Address) (patience : Nat)
    (events : List Event) (outcome : Outcome (Except Error Connection)) : Prop where
  connects_le : events.countP Event.isConnect ≤ 1
  succeeds : forall c, outcome = .returned (.ok c) -> Succeeds target c events ∧
    forall event, event ∈ events -> event.unabsorbed? dialer.tolerance = none
  fails : forall error, outcome = .returned (.error error) -> Fails target error events
  stops : forall reason, outcome = .halted reason -> Stops timeout patience reason events

theorem dials {dialer : Dialer}
    (htimeout : dialer.timeout = some timeout)
    {target : Address} {outcome : Outcome (Except Error Connection)}
    (branch : Branch (dialer.connect target patience).run events outcome) :
    Dials dialer timeout target patience events outcome := by
  have hends := Meets.recorded (connect_recorded htimeout target patience) branch
  constructor
  · rcases outcome with (error | c) | reason
    · exact hends.connects_le
    · exact hends.connects_le
    · exact hends.1
  · rintro c rfl
    refine ⟨hends, ?_⟩
    exact ((connect_tells dialer target patience).isTransparent.transparent branch).all_absorbed
  · rintro error rfl
    exact hends
  · rintro reason rfl
    exact hends.2

end Dialer
end ServiceSocket
