import ServiceSocket.Proofs.Connection.Sending
import ServiceSocket.Proofs.Deadline.Clock

/-!
# Deadlines are kept

A call with a deadline comes back at most a millisecond after it, and never reports it
before it has come.  A call that starts when the deadline has come looks at the clock and
does nothing else.
-/

namespace ServiceSocket

open Program

/-!
# What is kept
-/

/-- An attempt that starts at some time takes this course. -/
structure TimedRun (body : Attempt α) (start : Int) (events : List Event)
    (outcome : Outcome (Except Error α)) (last : Moment) : Prop where
  branch : Branch body.run events outcome
  path : clock.Path (.start start) events last

/-- What a deadline promises about one call.  It does come back: only setbacks and the
stretches of time until the deadline can use up its patience. -/
structure KeepsDeadline (deadline : Instant) (patience : Nat) (start : Int)
    (outcome : Outcome (Except Error α)) (last : Moment) : Prop where
  inTime : last.now ≤ max start (deadline.nanoseconds + 10 ^ 6)
  notEarly : forall error, outcome = .returned (.error error) -> error.cause = .timeout ->
    deadline.nanoseconds ≤ last.now
  returns : last.setbacks + Readiness.stretches deadline start + 1 < patience ->
    exists result, outcome = .returned result

/-- The call fails with a timeout and has done nothing. -/
structure FailsAtOnce (events : List Event) (outcome : Outcome (Except Error α)) : Prop where
  timesOut : exists error, outcome = .returned (.error error) ∧ error.cause = .timeout
  onlyReads : forall event, event ∈ events -> event.call = .now

namespace Moment

def MayHalt (deadline : Instant) (latest total : Int) (reason : Halt) (s : Moment) : Prop :=
  s.now ≤ latest ∧ reason = .outOfPatience ∧ total ≤ s.progress deadline + 1

def MayFail (deadline : Instant) (latest : Int) (error : Error) (s : Moment) : Prop :=
  s.now ≤ latest ∧ (error.cause = .timeout -> deadline.nanoseconds ≤ s.now)

/-- The progress that has used up some patience when a wait starts at some time. -/
def spent (deadline : Instant) (start : Int) (patience : Nat) : Int :=
  patience - Readiness.stretches deadline start

theorem spent_le (deadline : Instant) (patience : Nat) (s : Moment) :
    spent deadline s.now patience ≤ patience + s.progress deadline := by
  unfold spent progress
  omega

end Moment

theorem KeepsDeadline.of_ends {deadline : Instant} {patience : Nat} {start : Int}
    {outcome : Outcome (Except Error α)} {last : Moment}
    (h : outcome.Ends
      (Moment.MayHalt deadline (max start (deadline.nanoseconds + 10 ^ 6))
        (Moment.spent deadline start patience))
      (Attempt.either (Moment.MayFail deadline (max start (deadline.nanoseconds + 10 ^ 6)))
        fun _ s => s.now ≤ max start (deadline.nanoseconds + 10 ^ 6)) last) :
    KeepsDeadline deadline patience start outcome last := by
  rcases outcome with (error | value) | reason
  · refine ⟨h.1, ?_, fun _ => ⟨_, rfl⟩⟩
    intro same hsame
    cases hsame
    exact h.2
  · refine ⟨h, ?_, fun _ => ⟨_, rfl⟩⟩
    intro error hfailed
    cases hfailed
  · refine ⟨h.1, ?_, ?_⟩
    · intro error hfailed
      cases hfailed
    · intro hpatience
      have htotal := h.2.2
      unfold Moment.spent Moment.progress at htotal
      omega

namespace TimedRun

variable {body : Attempt α} {start : Int} {events : List Event}
  {outcome : Outcome (Except Error α)} {last : Moment}

theorem actions_eq
    (run : TimedRun body start events outcome last) :
    last.actions = events.countP Event.isAction := by
  rw [clock.actions_eq run.path]
  exact Nat.zero_add _

theorem keepsDeadline_of_meets {deadline : Instant} {patience : Nat}
    (run : TimedRun body start events outcome last)
    (h : body.Meets clock
      (Moment.MayHalt deadline (max start (deadline.nanoseconds + 10 ^ 6))
        (Moment.spent deadline start patience))
      (Moment.MayFail deadline (max start (deadline.nanoseconds + 10 ^ 6)))
      (fun _ after => after.now ≤ max start (deadline.nanoseconds + 10 ^ 6)) (.start start)) :
    KeepsDeadline deadline patience start outcome last :=
  .of_ends ((Meets.of_branch h run.branch).2 last run.path)

theorem failsAtOnce
    (run : TimedRun body start events outcome last)
    (h : body.Meets clock (fun _ _ => False)
      (fun error after => error.cause = .timeout ∧
        after.actions = (Moment.start start).actions)
      (fun _ _ => False) (.start start)) :
    FailsAtOnce events outcome := by
  have hend := (Meets.of_branch h run.branch).2 last run.path
  rcases outcome with (error | value) | reason
  · refine ⟨⟨error, rfl, hend.1⟩, ?_⟩
    have hnone : events.countP Event.isAction = 0 := run.actions_eq.symm.trans hend.2
    intro event hmem
    have hread := List.countP_eq_zero.mp hnone event hmem
    simpa [Event.isAction] using hread
  · exact hend.elim
  · exact hend.elim

end TimedRun

/-!
# Waiting for input
-/

namespace Readiness

variable {d : Descriptor} {deadline : Instant} {latest : Int} {s : Moment}

theorem wait_meets_clock {post : Unit -> Moment -> Prop}
    (hlatest : deadline.nanoseconds + 10 ^ 6 ≤ latest)
    (patience : Nat)
    (hnow : s.now ≤ latest)
    (hready : forall ready, ready.now ≤ latest -> ready.ready = some d -> post () ready) :
    (wait d .input (some deadline) patience).Meets clock
      (Moment.MayHalt deadline latest (Moment.spent deadline s.now patience))
      (Moment.MayFail deadline latest) post s := by
  apply (pollUntil_meets hlatest patience ⟨hnow, rfl, Int.le_refl _⟩
    (Moment.spent_le deadline patience s)).weaken
  · intro reason after hafter
    exact ⟨hafter.1.now_le, hafter.2.1, Int.le_add_one hafter.2.2⟩
  · intro error after hafter
    exact ⟨hafter.1.now_le, hafter.2⟩
  · intro _ ready hfound
    exact hready ready hfound.1.now_le (hfound.2 rfl)

end Readiness

/-!
# Reading and writing
-/

namespace Connection

variable {d : Descriptor} {deadline : Instant} {latest : Int} {s : Moment}

theorem read_meets_clock {c : Connection}
    (hopen : c.descriptor = some d)
    (hdeadline : c.readDeadline = some deadline)
    (hlatest : deadline.nanoseconds + 10 ^ 6 ≤ latest)
    (limit patience : Nat)
    (hnow : s.now ≤ latest) :
    (c.read limit patience).Meets clock
      (Moment.MayHalt deadline latest (Moment.spent deadline s.now patience))
      (Moment.MayFail deadline latest) (fun _ after => after.now ≤ latest) s := by
  simp only [read, inContext, Attempt.meets_inContext, Attempt.meets_bind, held, hopen,
    Attempt.meets_liftExcept, Attempt.either_ok, hdeadline]
  apply Readiness.wait_meets_clock hlatest patience hnow
  intro ready hnow hready
  simp only [Attempt.meets_ofCall, Descriptor.receive, Program.ask, meets_call, meets_done,
    Monitor.allowed_and_iff]
  intro answer after hreceive
  have htime : after.now - ready.now = 0 := hreceive.takes hready
  have hafter : after.now ≤ latest := Int.sub_eq_zero.mp htime ▸ hnow
  cases answer with
  | ok bytes => exact hafter
  | error errno => exact ⟨hafter, fun hcause => absurd hcause Readiness.cause_ofErrno_ne⟩

theorem sendAll_meets_clock {total : Int}
    (hlatest : deadline.nanoseconds + 10 ^ 6 ≤ latest)
    (patience : Nat) {sent : Nat} {rest : List UInt8}
    (hnow : s.now ≤ latest)
    (htotal : total ≤ patience + s.progress deadline) :
    (sendAll d (some deadline) patience sent rest).Meets clock
      (Moment.MayHalt deadline latest total) (Moment.MayFail deadline latest)
      (fun _ after => after.now ≤ latest) s := by
  induction patience generalizing s sent rest with
  | zero =>
      cases rest with
      | nil => exact hnow
      | cons b rest => exact ⟨hnow, rfl, by omega⟩
  | succ patience ih =>
      cases rest with
      | nil => exact hnow
      | cons b rest =>
          simp only [sendAll_cons_meets_iff, Monitor.allowed_and_iff]
          have hwait : total - 1 ≤ patience + s.progress deadline := by omega
          apply (Readiness.pollUntil_meets hlatest patience ⟨hnow, rfl, Int.le_refl _⟩ hwait).weaken
          · intro reason after hafter
            exact ⟨hafter.1.now_le, hafter.2.1, Int.le_add_of_sub_right_le hafter.2.2⟩
          · intro error after hafter
            exact ⟨hafter.1.now_le, hafter.2⟩
          · intro _ ready hready answer offered hsend
            have htime : offered.now - ready.now = 0 := hsend.takes rfl
            have hoffered : offered.now ≤ latest :=
              Int.sub_eq_zero.mp htime ▸ hready.1.now_le
            -- Sending goes on only after a setback, which makes up for the patience it takes.
            have hcount (hsetback : Event.isSetback (offered.now - ready.now)
                ⟨.send d (b :: rest) true true, answer⟩ = true) :
                total ≤ patience + offered.progress deadline := by
              have hmade := hready.1.made_le
              have hprogress : ready.progress deadline < offered.progress deadline :=
                Moment.progress_lt_of_isSetback hsend hsetback
              omega
            rcases answer with errno | n | n
            · dsimp only
              split
              next hkind => exact ih hoffered (hcount (decide_eq_true hkind))
              next => exact ⟨hoffered, fun hcause => absurd hcause Readiness.cause_ofErrno_ne⟩
            · refine ⟨hoffered, ?_⟩
              intro hcause
              cases hcause
            · by_cases hpart : n + 1 < (b :: rest).length
              · exact ih hoffered (hcount (decide_eq_true hpart))
              · dsimp only
                rw [List.drop_of_length_le (Nat.not_lt.mp hpart), sendAll]
                exact hoffered

theorem write_meets_clock {c : Connection}
    (hopen : c.descriptor = some d)
    (hdeadline : c.writeDeadline = some deadline)
    (hlatest : deadline.nanoseconds + 10 ^ 6 ≤ latest)
    (bytes : List UInt8) (patience : Nat)
    (hnow : s.now ≤ latest) :
    (c.write bytes patience).Meets clock
      (Moment.MayHalt deadline latest (Moment.spent deadline s.now patience))
      (Moment.MayFail deadline latest) (fun _ after => after.now ≤ latest) s := by
  simp only [write, inContext, Attempt.meets_inContext, Attempt.meets_bind, held, hopen,
    Attempt.meets_liftExcept, Attempt.either_ok, hdeadline]
  exact sendAll_meets_clock hlatest patience hnow (Moment.spent_le deadline patience s)

/-!
# Reading and writing too late
-/

theorem read_late_meets {c : Connection}
    (hopen : c.descriptor = some d)
    (hdeadline : c.readDeadline = some deadline)
    (hlate : deadline.nanoseconds ≤ s.now)
    (limit patience : Nat) :
    (c.read limit (patience + 1)).Meets clock (fun _ _ => False)
      (fun error after => error.cause = .timeout ∧ after.actions = s.actions)
      (fun _ _ => False) s := by
  simp only [read, inContext, Attempt.meets_inContext, Attempt.meets_bind, held, hopen,
    Attempt.meets_liftExcept, Attempt.either_ok, hdeadline, Readiness.wait]
  exact Readiness.pollUntil_late_meets hlate patience

theorem write_late_meets {c : Connection}
    (hopen : c.descriptor = some d)
    (hdeadline : c.writeDeadline = some deadline)
    (hlate : deadline.nanoseconds ≤ s.now)
    {bytes : List UInt8}
    (hbytes : bytes ≠ [])
    (patience : Nat) :
    (c.write bytes (patience + 2)).Meets clock (fun _ _ => False)
      (fun error after => error.cause = .timeout ∧ after.actions = s.actions)
      (fun _ _ => False) s := by
  cases bytes with
  | nil => exact absurd rfl hbytes
  | cons b rest =>
      simp only [write, inContext, Attempt.meets_inContext, Attempt.meets_bind, held, hopen,
        Attempt.meets_liftExcept, Attempt.either_ok, hdeadline, sendAll_cons_meets_iff]
      exact Readiness.pollUntil_late_meets hlate patience

end Connection

/-!
# Accepting
-/

namespace Listener

variable {d : Descriptor} {deadline : Instant} {latest : Int} {s : Moment}

theorem accept_meets_clock {l : Listener}
    (hopen : l.descriptor = some d)
    (hdeadline : l.deadline = some deadline)
    (hlatest : deadline.nanoseconds + 10 ^ 6 ≤ latest)
    (patience : Nat)
    (hnow : s.now ≤ latest) :
    (l.accept patience).Meets clock
      (Moment.MayHalt deadline latest (Moment.spent deadline s.now patience))
      (Moment.MayFail deadline latest) (fun _ after => after.now ≤ latest) s := by
  simp only [accept, inContext, Attempt.meets_inContext, Attempt.meets_bind, held, hopen,
    Attempt.meets_liftExcept, Attempt.either_ok, hdeadline]
  apply Readiness.wait_meets_clock hlatest patience hnow
  intro ready hnow hready
  simp only [Attempt.meets_ofCall, Descriptor.accept, Program.ask, meets_call, meets_done,
    Monitor.allowed_and_iff]
  intro answer after haccept
  have htime : after.now - ready.now = 0 := haccept.takes hready
  have hafter : after.now ≤ latest := Int.sub_eq_zero.mp htime ▸ hnow
  rcases answer with errno | ⟨copy, record⟩
  · exact ⟨hafter, fun hcause => absurd hcause Readiness.cause_ofErrno_ne⟩
  · simp only [Attempt.either_mapError_ok, Attempt.meets_lift, Descriptor.meets_localAddress?,
      Connection.establish, meets_bind, Descriptor.meets_tryConfigure, meets_pure,
      Monitor.allowed_and_iff]
    intro near named hnear told configured hconfigure
    have hstands := (clock.step_instant hnear rfl).trans (clock.step_instant hconfigure rfl)
    rw [hstands.now_eq]
    exact hafter

theorem accept_late_meets {l : Listener}
    (hopen : l.descriptor = some d)
    (hdeadline : l.deadline = some deadline)
    (hlate : deadline.nanoseconds ≤ s.now)
    (patience : Nat) :
    (l.accept (patience + 1)).Meets clock (fun _ _ => False)
      (fun error after => error.cause = .timeout ∧ after.actions = s.actions)
      (fun _ _ => False) s := by
  simp only [accept, inContext, Attempt.meets_inContext, Attempt.meets_bind, held, hopen,
    Attempt.meets_liftExcept, Attempt.either_ok, hdeadline, Readiness.wait]
  exact Readiness.pollUntil_late_meets hlate patience

end Listener

/-!
# Dialling
-/

namespace Moment

/-- What holds once connecting was said to be going on and its deadline is known. -/
def OncePending (timeout : Duration) (P : Instant -> Instant -> Moment -> Prop) (s : Moment) :
    Prop :=
  forall since deadline, s.pending = some since -> since.after? timeout = some deadline ->
    P since deadline s

theorem oncePending_of_none {timeout : Duration} {P : Instant -> Instant -> Moment -> Prop}
    {s : Moment}
    (h : s.pending = none) :
    s.OncePending timeout P := by
  intro since deadline hpending
  rw [h] at hpending
  cases hpending

theorem OncePending.stands {timeout : Duration} {P Q : Instant -> Instant -> Moment -> Prop}
    {s after : Moment}
    (h : s.OncePending timeout P)
    (hstands : s.Stands after)
    (hkeep : forall since deadline, P since deadline s -> Q since deadline after) :
    after.OncePending timeout Q := by
  intro since deadline hpending hdeadline
  rw [hstands.pending_eq] at hpending
  exact hkeep since deadline (h since deadline hpending hdeadline)

theorem MayFail.stands {deadline : Instant} {latest : Int} {error : Error} {s after : Moment}
    (h : s.MayFail deadline latest error)
    (hstands : s.Stands after) :
    after.MayFail deadline latest error := by
  rw [MayFail, hstands.now_eq]
  exact h

def InTime (timeout : Duration) (s : Moment) : Prop :=
  s.OncePending timeout fun _ deadline s => s.now ≤ deadline.nanoseconds + 10 ^ 6

def FailsInTime (timeout : Duration) (error : Error) (s : Moment) : Prop :=
  s.OncePending timeout fun _ deadline =>
    MayFail deadline (deadline.nanoseconds + 10 ^ 6) error

def HaltsInTime (timeout : Duration) (patience : Nat) (reason : Halt) (s : Moment) : Prop :=
  s.OncePending timeout fun since deadline =>
    MayHalt deadline (deadline.nanoseconds + 10 ^ 6) (spent deadline since.nanoseconds patience)
      reason

theorem InTime.stands {timeout : Duration} {s after : Moment}
    (h : s.InTime timeout)
    (hstands : s.Stands after) :
    after.InTime timeout := by
  refine OncePending.stands h hstands ?_
  intro _ deadline hnow
  rw [hstands.now_eq]
  exact hnow

theorem FailsInTime.stands {timeout : Duration} {error : Error} {s after : Moment}
    (h : s.FailsInTime timeout error)
    (hstands : s.Stands after) :
    after.FailsInTime timeout error := by
  refine OncePending.stands h hstands ?_
  intro _ deadline hfail
  exact hfail.stands hstands

theorem InTime.fails {timeout : Duration} {error : Error} {s : Moment}
    (h : s.InTime timeout)
    (hcause : error.cause ≠ .timeout) :
    s.FailsInTime timeout error := by
  intro since deadline hpending hdeadline
  exact ⟨h since deadline hpending hdeadline, fun htimeout => absurd htimeout hcause⟩

end Moment

theorem Instant.le_of_after?_eq_some {now : Int} {timeout : Duration} {deadline : Instant}
    (h : (Instant.mk now).after? timeout = some deadline) :
    now ≤ deadline.nanoseconds := by
  rw [Readiness.nanoseconds_of_after? h]
  exact Int.le_add_of_nonneg_right (Int.natCast_nonneg timeout.nanoseconds)

namespace Dialer

variable {d : Descriptor} {timeout : Duration} {patience : Nat} {s : Moment}

theorem ofCall_setNonblocking_meets_clock {enabled : Bool} :
    (Attempt.ofCall (d.setNonblocking enabled)).Meets clock (fun _ _ => False)
      (fun error after => s.Stands after ∧ error.cause ≠ .timeout) (fun _ => s.Stands) s := by
  simp only [Attempt.meets_ofCall, Descriptor.meets_setNonblocking, Monitor.allowed_and_iff]
  intro answer asked hask
  have hasked := clock.step_instant hask rfl
  rcases answer with errno | current
  · exact ⟨hasked, Readiness.cause_ofErrno_ne⟩
  · dsimp only
    split
    next => exact hasked
    next =>
        intro answer told htell
        have htold := hasked.trans (clock.step_instant htell rfl)
        rcases answer with errno | _
        · exact ⟨htold, Readiness.cause_ofErrno_ne⟩
        · exact htold

theorem setNonblocking_meets_inTime {enabled : Bool}
    (h : s.InTime timeout) :
    (Attempt.ofCall (d.setNonblocking enabled)).Meets clock
      (Moment.HaltsInTime timeout patience) (Moment.FailsInTime timeout)
      (fun _ => Moment.InTime timeout) s := by
  apply ofCall_setNonblocking_meets_clock.weaken
  · intro _ _ hfalse
    exact hfalse.elim
  · intro error after hafter
    exact (h.stands hafter.1).fails hafter.2
  · intro _ after hafter
    exact h.stands hafter

theorem since_eq_now
    (hpending : s.pending = some ⟨s.now⟩ ∨ s.pending = none)
    {since : Instant}
    (hsince : s.pending = some since) :
    since = ⟨s.now⟩ := by
  rcases hpending with hpending | hpending
  · rw [hpending] at hsince
    exact (Option.some.inj hsince).symm
  · rw [hpending] at hsince
    cases hsince

theorem wait_meets_inTime {deadline : Instant}
    (hpending : s.pending = some ⟨s.now⟩ ∨ s.pending = none)
    (hdeadline : (Instant.mk s.now).after? timeout = some deadline) :
    (Readiness.wait d .output (some deadline) patience).Meets clock
      (Moment.HaltsInTime timeout patience) (Moment.FailsInTime timeout)
      (fun _ => Moment.InTime timeout) s := by
  -- The wait leaves what is pending as it is, so its deadline is the one waited for.
  have same {since other : Instant} (hsince : s.pending = some since)
      (hother : since.after? timeout = some other) : since = ⟨s.now⟩ ∧ other = deadline := by
    have hnow := since_eq_now hpending hsince
    rw [hnow, hdeadline] at hother
    exact ⟨hnow, (Option.some.inj hother).symm⟩
  have hnow : s.now ≤ deadline.nanoseconds + 10 ^ 6 := by
    have hahead := Instant.le_of_after?_eq_some hdeadline
    omega
  apply (Readiness.pollUntil_meets (Int.le_refl _) patience ⟨hnow, rfl, Int.le_refl _⟩
    (Moment.spent_le deadline patience s)).weaken
  · intro reason after hafter since other hsince hother
    rw [hafter.1.pending_eq] at hsince
    rw [(same hsince hother).1, (same hsince hother).2]
    exact ⟨hafter.1.now_le, hafter.2.1, Int.le_add_one hafter.2.2⟩
  · intro error after hafter since other hsince hother
    rw [hafter.1.pending_eq] at hsince
    rw [(same hsince hother).2]
    exact ⟨hafter.1.now_le, hafter.2⟩
  · intro _ after hafter since other hsince hother
    rw [hafter.1.pending_eq] at hsince
    rw [(same hsince hother).2]
    exact hafter.1.now_le

theorem connectWithin_meets {target : Record}
    (hpending : s.pending = none) :
    (connectWithin d target timeout patience).Meets clock
      (Moment.HaltsInTime timeout patience) (Moment.FailsInTime timeout)
      (fun _ => Moment.InTime timeout) s := by
  rw [connectWithin, Attempt.meets_bind]
  apply ofCall_setNonblocking_meets_clock.weaken
  · intro _ _ hfalse
    exact hfalse.elim
  · intro error after hafter
    exact Moment.oncePending_of_none (hafter.1.pending_eq.trans hpending)
  · intro _ begun hbegun
    have hnone : begun.pending = none := hbegun.pending_eq.trans hpending
    simp only [Attempt.meets_bind, Attempt.meets_lift, Descriptor.connect, Program.ask, meets_call,
      meets_done, Monitor.allowed_and_iff]
    intro answer after hconnect
    rcases answer with errno | _
    · have hafter : after.pending = if errno = .inProgress then some ⟨after.now⟩ else none :=
        hnone ▸ hconnect.pending_eq
      dsimp only
      split
      next =>
          simp only [Attempt.meets_bind, Attempt.meets_lift, Program.now, Program.ask, meets_call,
            meets_done, Monitor.allowed_and_iff]
          intro reading started hread
          rcases clock.step_now hread with ⟨hreading, hstarted⟩
          have hstart : started.pending = some ⟨started.now⟩ ∨ started.pending = none := by
            rw [hstarted.pending_eq, hstarted.now_eq, hafter]
            split
            next => exact .inl rfl
            next => exact .inr rfl
          rw [hreading, ← hstarted.now_eq]
          cases hdeadline : (Instant.mk started.now).after? timeout with
          | none =>
              intro since deadline hsince hother
              rw [since_eq_now hstart hsince, hdeadline] at hother
              cases hother
          | some deadline =>
              simp only [Attempt.meets_bind, Attempt.meets_ofCall, Descriptor.takeFailure,
                Program.ask, meets_call, meets_done, Monitor.allowed_and_iff]
              apply (wait_meets_inTime hstart hdeadline).mono
              · intro error after hfail
                exact hfail
              · intro _ waited hwaited answer asked htake
                have hasked := hwaited.stands (clock.step_instant htake rfl)
                rcases answer with errno | failure
                · exact hasked.fails Readiness.cause_ofErrno_ne
                · simp only [Attempt.either_mapError_ok]
                  split
                  next => exact hasked.fails Readiness.cause_ofErrno_ne
                  next => exact setNonblocking_meets_inTime hasked
      next hother =>
          have hpending : errno ≠ .inProgress := fun h => hother (.inr h)
          exact Moment.oncePending_of_none (hafter.trans (if_neg hpending))
    · apply setNonblocking_meets_inTime
      exact Moment.oncePending_of_none (hconnect.pending_eq.trans hnone)

theorem join_meets {dialer : Dialer}
    (htimeout : dialer.timeout = some timeout)
    {target : Address}
    (hpending : s.pending = none) :
    (dialer.join d target patience).Meets clock
      (Moment.HaltsInTime timeout patience) (Moment.FailsInTime timeout)
      (fun _ => Moment.InTime timeout) s := by
  cases hlocal : dialer.localAddress with
  | none =>
      simp only [join, hlocal, htimeout]
      exact connectWithin_meets hpending
  | some address =>
      simp only [join, hlocal, htimeout, Attempt.meets_bind, Attempt.meets_ofCall, Descriptor.bind,
        Program.ask, meets_call, meets_done, Monitor.allowed_and_iff]
      intro answer bound hbind
      have hbound : bound.pending = none :=
        (clock.step_instant hbind rfl).pending_eq.trans hpending
      rcases answer with errno | _
      · exact Moment.oncePending_of_none hbound
      · exact connectWithin_meets hbound

theorem connect_meets_clock {dialer : Dialer}
    (htimeout : dialer.timeout = some timeout)
    (target : Address) (patience : Nat)
    (hpending : s.pending = none) :
    (dialer.connect target patience).Meets clock
      (Moment.HaltsInTime timeout patience) (Moment.FailsInTime timeout)
      (fun _ => Moment.InTime timeout) s := by
  simp only [connect, Attempt.meets_bind, Attempt.meets_inContext, Attempt.meets_ofCall,
    Descriptor.openStream, Program.ask, meets_call, meets_done, Monitor.allowed_and_iff]
  intro answer opened hopen
  have hopened : opened.pending = none :=
    (clock.step_instant hopen rfl).pending_eq.trans hpending
  rcases answer with errno | d
  · exact Moment.oncePending_of_none hopened
  · simp only [Attempt.either_mapError_ok, Descriptor.meets_guarding, Descriptor.meets_release,
      Attempt.meets_inContext, Monitor.allowed_and_iff]
    apply (join_meets htimeout hopened).mono
    · intro error after hfail answer closed hclose
      exact Moment.FailsInTime.stands hfail (clock.step_instant hclose rfl)
    · intro _ joined hjoined
      simp only [Attempt.meets_lift, Descriptor.meets_localAddress?, Descriptor.meets_peerAddress?,
        Connection.establish, meets_bind, Descriptor.meets_tryConfigure, meets_pure,
        Monitor.allowed_and_iff]
      intro near named hnear far peered hfar told configured hconfigure
      have hstands := ((clock.step_instant hnear rfl).trans (clock.step_instant hfar rfl)).trans
        (clock.step_instant hconfigure rfl)
      have hconfigured := Moment.InTime.stands hjoined hstands
      split
      next => exact hconfigured
      next =>
          simp only [Attempt.meets_bind, Attempt.meets_lift, Descriptor.meets_tryConfigure,
            Monitor.allowed_and_iff]
          intro answer cleared hclear
          exact hconfigured.stands (clock.step_instant hclear rfl)

end Dialer

/-!
# All calls with a deadline
-/

/-- Reading, writing, accepting and connecting keep their deadlines.  What connecting keeps counts
from the answer that it is going on. -/
theorem deadlines_kept {deadline : Instant} {patience : Nat} {start : Int}
    {events : List Event} {last : Moment} :
    (forall (c : Connection) (limit : Nat) outcome, c.isOpen = true ->
      c.readDeadline = some deadline ->
      TimedRun (c.read limit patience) start events outcome last ->
      KeepsDeadline deadline patience start outcome last ∧
        (deadline.nanoseconds ≤ start -> 1 < patience -> FailsAtOnce events outcome)) ∧
    (forall (c : Connection) (bytes : List UInt8) outcome, c.isOpen = true ->
      c.writeDeadline = some deadline ->
      TimedRun (c.write bytes patience) start events outcome last ->
      KeepsDeadline deadline patience start outcome last ∧
        (deadline.nanoseconds ≤ start -> 1 < patience -> bytes ≠ [] ->
          FailsAtOnce events outcome)) ∧
    (forall (l : Listener) outcome, l.descriptor.isSome = true -> l.deadline = some deadline ->
      TimedRun (l.accept patience) start events outcome last ->
      KeepsDeadline deadline patience start outcome last ∧
        (deadline.nanoseconds ≤ start -> 1 < patience -> FailsAtOnce events outcome)) ∧
    (forall (dialer : Dialer) (target : Address) (timeout : Duration) (since : Instant) outcome,
      dialer.timeout = some timeout -> last.pending = some since ->
      since.after? timeout = some deadline ->
      TimedRun (dialer.connect target patience) start events outcome last ->
      KeepsDeadline deadline patience since.nanoseconds outcome last) := by
  have hlatest := Int.le_max_right start (deadline.nanoseconds + 10 ^ 6)
  have hstart : (Moment.start start).now ≤ max start (deadline.nanoseconds + 10 ^ 6) :=
    Int.le_max_left _ _
  refine ⟨?_, ?_, ?_, ?_⟩
  · intro c limit outcome hopen hdeadline run
    rcases Option.isSome_iff_exists.mp hopen with ⟨d, hd⟩
    have hmeets := Connection.read_meets_clock (s := .start start) hd hdeadline hlatest limit
      patience hstart
    refine ⟨run.keepsDeadline_of_meets hmeets, ?_⟩
    intro hlate hpatience
    cases patience with
    | zero => cases hpatience
    | succ patience =>
        exact run.failsAtOnce (Connection.read_late_meets hd hdeadline hlate limit patience)
  · intro c bytes outcome hopen hdeadline run
    rcases Option.isSome_iff_exists.mp hopen with ⟨d, hd⟩
    have hmeets := Connection.write_meets_clock (s := .start start) hd hdeadline hlatest bytes
      patience hstart
    refine ⟨run.keepsDeadline_of_meets hmeets, ?_⟩
    intro hlate hpatience hbytes
    rcases Nat.exists_eq_add_of_le' hpatience with ⟨more, hmore⟩
    rw [hmore] at run
    exact run.failsAtOnce (Connection.write_late_meets hd hdeadline hlate hbytes more)
  · intro l outcome hopen hdeadline run
    rcases Option.isSome_iff_exists.mp hopen with ⟨d, hd⟩
    have hmeets := Listener.accept_meets_clock (s := .start start) hd hdeadline hlatest patience
      hstart
    refine ⟨run.keepsDeadline_of_meets hmeets, ?_⟩
    intro hlate hpatience
    cases patience with
    | zero => cases hpatience
    | succ patience =>
        exact run.failsAtOnce (Listener.accept_late_meets hd hdeadline hlate patience)
  · intro dialer target timeout since outcome htimeout hpending hdeadline run
    have hend := (Meets.of_branch
      (Dialer.connect_meets_clock htimeout target patience rfl) run.branch).2 last run.path
    have hlatest := Int.le_max_right since.nanoseconds (deadline.nanoseconds + 10 ^ 6)
    apply KeepsDeadline.of_ends
    rcases outcome with (error | connection) | reason
    · have hfail := hend since deadline hpending hdeadline
      exact ⟨Int.le_trans hfail.1 hlatest, hfail.2⟩
    · exact Int.le_trans (hend since deadline hpending hdeadline) hlatest
    · have hhalt := hend since deadline hpending hdeadline
      exact ⟨Int.le_trans hhalt.1 hlatest, hhalt.2⟩

/-- A read whose first poll is interrupted and whose second finds nothing, with patience to spare;
a write that comes too late; an accept of a caller who has gone; and a dialer whose peer does not
answer. -/
theorem deadlines_kept_by_each_call :
    (exists events outcome last,
      TimedRun (Connection.read ⟨some ⟨7⟩, none, none, some ⟨1500000⟩, none⟩ 4 4)
        0 events outcome last ∧
      KeepsDeadline ⟨1500000⟩ 4 0 outcome last ∧
      last.setbacks + Readiness.stretches ⟨1500000⟩ 0 + 1 < 4) ∧
    (exists events outcome last,
      TimedRun (Connection.write ⟨some ⟨7⟩, none, none, none, some ⟨1500000⟩⟩ [1] 2)
        2000000 events outcome last ∧
      FailsAtOnce events outcome) ∧
    (exists events outcome last,
      TimedRun (Listener.accept ⟨some ⟨7⟩, .ofName 1 2, some ⟨1500000⟩⟩ 2)
        0 events outcome last ∧
      KeepsDeadline ⟨1500000⟩ 2 0 outcome last) ∧
    (exists events outcome last,
      TimedRun (Dialer.connect ⟨some ⟨1500000⟩, true, none⟩ (.ofName 1 2) 2)
        0 events outcome last ∧
      KeepsDeadline ⟨1500000⟩ 2 0 outcome last) := by
  have instant {s : Moment} {event : Event} (htakes : s.MayTake (0 : Nat) event.call)
      (hshows : s.Shows event) := Moment.passes_of_mayTake 0 htakes hshows
  have read : TimedRun (Connection.read ⟨some ⟨7⟩, none, none, some ⟨1500000⟩, none⟩ 4 4) 0
      [⟨.now, ⟨0⟩⟩, ⟨.poll ⟨7⟩ .input 2, .error .interrupted⟩, ⟨.now, ⟨0⟩⟩,
        ⟨.poll ⟨7⟩ .input 2, .ok 0⟩, ⟨.now, ⟨2000000⟩⟩] (.returned _) _ :=
    ⟨.call _ _ _ (.call _ _ _ (.call _ _ _ (.call _ _ _ (.call _ _ _ (.done _))))),
      .cons (instant rfl rfl)
        (.cons (instant (Int.mul_nonneg (by decide) (by decide)) trivial)
        (.cons (instant rfl rfl)
        (.cons (Moment.passes_of_mayTake 2000000 (Int.le_refl _) trivial)
        (.cons (instant rfl rfl) (.nil _)))))⟩
  have hstretches : Readiness.stretches ⟨1500000⟩ 0 = 1 := by
    rw [Readiness.stretches, Nat.ceilDiv_eq_add_pred_div]
    decide
  have write : TimedRun (Connection.write ⟨some ⟨7⟩, none, none, none, some ⟨1500000⟩⟩ [1] 2)
      2000000 [⟨.now, ⟨2000000⟩⟩] (.returned _) _ :=
    ⟨.call _ _ _ (.done _), .cons (instant rfl rfl) (.nil _)⟩
  have accept : TimedRun (Listener.accept ⟨some ⟨7⟩, .ofName 1 2, some ⟨1500000⟩⟩ 2) 0
      [⟨.now, ⟨0⟩⟩, ⟨.poll ⟨7⟩ .input 2, .ok 1⟩, ⟨.accept ⟨7⟩, .error ⟨103⟩⟩] (.returned _) _ :=
    ⟨.call _ _ _ (.call _ _ _ (.call _ _ _ (.done _))),
      .cons (instant rfl rfl) (.cons (Moment.passes_of_mayTake 2000000 (Int.le_refl _) trivial)
        (.cons (instant (fun _ => rfl) trivial) (.nil _)))⟩
  have connect : TimedRun (Dialer.connect ⟨some ⟨1500000⟩, true, none⟩ (.ofName 1 2) 2) 0
      [⟨.openStream .tipc, .ok ⟨7⟩⟩, ⟨.isNonblocking ⟨7⟩, .ok false⟩,
        ⟨.setNonblocking ⟨7⟩ true, .ok ()⟩,
        ⟨.connect ⟨7⟩ (Address.ofName 1 2).toRecord, .error .inProgress⟩, ⟨.now, ⟨0⟩⟩,
        ⟨.now, ⟨0⟩⟩, ⟨.poll ⟨7⟩ .output 2, .ok 0⟩, ⟨.now, ⟨2000000⟩⟩,
        ⟨.close ⟨7⟩, .ok ()⟩] (.returned _) _ :=
    ⟨.call _ _ _ (.call _ _ _ (.call _ _ _ (.call _ _ _ (.call _ _ _ (.call _ _ _
      (.call _ _ _ (.call _ _ _ (.call _ _ _ (.done _))))))))),
      .cons (instant rfl trivial) (.cons (instant rfl trivial) (.cons (instant rfl trivial)
        (.cons (instant trivial trivial) (.cons (instant rfl rfl) (.cons (instant rfl rfl)
        (.cons (Moment.passes_of_mayTake 2000000 (Int.le_refl _) trivial)
        (.cons (instant rfl rfl) (.cons (instant rfl trivial) (.nil _)))))))))⟩
  refine ⟨⟨_, _, _, read, ?_⟩, ⟨_, _, _, write, ?_⟩, ⟨_, _, _, accept, ?_⟩,
    ⟨_, _, _, connect, ?_⟩⟩
  · refine ⟨(deadlines_kept.1 _ _ _ rfl rfl read).1, ?_⟩
    rw [hstretches]
    decide
  · exact (deadlines_kept.2.1 _ _ _ rfl rfl write).2 (by decide) (by decide) (by decide)
  · exact (deadlines_kept.2.2.1 _ _ rfl rfl accept).1
  · exact deadlines_kept.2.2.2 ⟨some ⟨1500000⟩, true, none⟩ (.ofName 1 2) ⟨1500000⟩ ⟨0⟩ _ rfl rfl
      (by decide) connect

end ServiceSocket
