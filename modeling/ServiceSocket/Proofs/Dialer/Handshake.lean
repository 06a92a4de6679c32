import ServiceSocket.Proofs.Dialer.Outcomes
import ServiceSocket.Proofs.Readiness.Ending
import ServiceSocket.Proofs.Virtual.Connecting
import ServiceSocket.Proofs.Virtual.Proceeding

/-!
# Dialling on the virtual system

The plan of a new socket says when its peer completes the connection.  Dialling succeeds only
after that.  When it gives up at its deadline, either the connection is not complete, or the
socket has no room for a single byte and so is never found writable.
-/

namespace ServiceSocket

open Virtual (system System Socket Plan)

variable {s : System} {d : Descriptor} {plan : Plan}

/-!
# Switching
-/

theorem setNonblocking_meets_system {enabled : Bool} {Q : Socket -> Prop}
    {halt : Halt -> System -> Prop} {post : Except Errno Unit -> System -> Prop}
    (calm : s.Calm d Q)
    (hlasting : Socket.Lasting Q)
    (hkeeps : forall socket, Q socket -> Q { socket with nonblocking := enabled })
    (hfails : forall errno after, post (.error errno) after)
    (hswitches : forall after, after.now = s.now ->
      (after.Calm d fun socket => Q socket ∧ socket.nonblocking = enabled) ->
      post (.ok ()) after) :
    (d.setNonblocking enabled).Meets system halt post s := by
  simp only [Descriptor.meets_setNonblocking, Monitor.allowed_and_iff]
  intro answer asked hasked
  rcases Prod.mk.inj hasked with ⟨htold, hsame⟩
  rw [← hsame]
  rcases answer with errno | told
  · exact hfails errno s
  · dsimp only
    split
    next hin =>
        have hmode := calm.nonblocking_eq htold
        rw [hin] at hmode
        exact hswitches s rfl hmode
    next =>
        intro answer switched hswitched
        rcases answer with errno | _
        · exact hfails errno switched
        · have hchanged := System.changing_ok (R := fun socket =>
            Q socket ∧ socket.nonblocking = enabled) calm hlasting hswitched
              fun socket h => ⟨hkeeps socket h, rfl⟩
          exact hswitches switched hchanged.1 hchanged.2

namespace Dialer

open Readiness (longestPolls)

variable {timeout : Duration} {deadline : Instant} {patience start : Nat}

/-!
# Connecting in time
-/

/-- If the deadline is the cause of the error, there was no way to meet it. -/
def Excused (plan : Plan) (start moment : Nat) (error : Error) : Prop :=
  error.cause = .timeout -> plan.Stalls start moment

theorem excused_ofErrno {moment : Nat} {errno : Errno} :
    Excused plan start moment (.ofErrno errno) :=
  fun hcause => absurd hcause Readiness.cause_ofErrno_ne

def Completes (plan : Plan) (start : Nat) (s : System) : Prop :=
  plan.handshake.CompleteBy start s.now

theorem Completes.step
    (h : Completes plan start s)
    {c : Call} {answer : c.Answer} {after : System}
    (hstep : system.step s ⟨c, answer⟩ after) :
    Completes plan start after :=
  h.of_le (System.now_le_answer hstep)

theorem wait_meets_system {moment : Nat}
    (pends : s.Pends d plan start)
    (hdeadline : deadline.nanoseconds = moment)
    (hpatience : longestPolls deadline s.now < patience) :
    (Readiness.wait d .output (some deadline) patience).Meets system (fun _ _ => False)
      (fun error _ => Excused plan start moment error) (fun _ => Completes plan start) s := by
  rcases pends.socket with ⟨number, socket, hnumber, hsocket, hunsent⟩
  have hlasting := Socket.lasting_unsent plan (plan.handshake.connecting start)
  have henough : s.interventions.length + longestPolls deadline s.now < patience := by
    rw [pends.interventions_eq, List.length_nil, Nat.zero_add]
    exact hpatience
  apply (Readiness.pollUntil_meets_system henough).mono
  · intro error after hend hcause
    rcases hend hcause with ⟨goesOn, hlate, hends⟩
    have hle : moment ≤ after.now := by omega
    -- Without any time nothing has been asked, and then the connection still pends.
    rcases (hends.of_nil pends.interventions_eq).2 with hsame | ⟨found, hfound, hnot⟩
    · rw [hsame] at hle
      exact Plan.Stalls.of_le (.inl pends.pending) hle
    · rw [hnumber] at hfound
      cases hfound
      rcases goesOn.socket hsocket hlasting hunsent with ⟨eased, heased, hkept⟩
      rw [heased, Option.any_some] at hnot
      exact (hkept.stalls hnot).of_le hle
  · rintro _ after ⟨goesOn, hends⟩
    rcases (hends.of_nil pends.interventions_eq).2 with ⟨found, hfound, hready⟩
    rw [hnumber] at hfound
    cases hfound
    rcases goesOn.socket hsocket hlasting hunsent with ⟨eased, heased, hkept⟩
    rw [heased, Option.any_some] at hready
    exact hkept.completeBy hready

theorem restore_meets_system {halt : Halt -> System -> Prop} {moment : Nat}
    (h : Completes plan start s) :
    (Attempt.ofCall (d.setNonblocking false)).Meets system halt
      (fun error _ => Excused plan start moment error) (fun _ => Completes plan start) s := by
  simp only [Attempt.meets_ofCall, Descriptor.meets_setNonblocking, Monitor.allowed_and_iff]
  intro answer asked hasked
  rcases answer with errno | told
  · exact excused_ofErrno
  · dsimp only
    split
    next => exact h.step hasked
    next =>
        intro answer switched hswitched
        rcases answer with errno | _
        · exact excused_ofErrno
        · exact (h.step hasked).step hswitched

theorem confirm_meets_system {moment : Nat}
    (pends : s.Pends d plan start)
    (hdeadline : deadline.nanoseconds = moment)
    (hpatience : longestPolls deadline s.now < patience) :
    Attempt.Meets system (fun _ _ => False)
      (do
        Readiness.wait d .output (some deadline) patience
        let failure ← Attempt.ofCall d.takeFailure
        if failure.code ≠ 0 then throw (.ofErrno failure)
        Attempt.ofCall (d.setNonblocking false))
      (fun error _ => Excused plan start moment error) (fun _ => Completes plan start) s := by
  simp only [Attempt.meets_bind, Attempt.meets_ofCall, Descriptor.takeFailure, Program.ask,
    Program.meets_call, Program.meets_done, Monitor.allowed_and_iff]
  apply (wait_meets_system pends hdeadline hpatience).mono
  · exact fun _ _ => id
  · intro _ ready hcomplete answer asked hasked
    rcases answer with errno | failure
    · exact excused_ofErrno
    · simp only [Attempt.either_mapError_ok]
      split
      next => exact excused_ofErrno
      next => exact restore_meets_system (hcomplete.step hasked)

theorem connectWithin_meets_system {record : Record}
    (calm : s.Calm d (Socket.Unsent plan .no))
    (hdeadline : (Instant.mk s.now).after? timeout = some deadline)
    (hpatience : longestPolls deadline s.now < patience) :
    (connectWithin d record timeout patience).Meets system (fun _ _ => False)
      (fun error _ => Excused plan s.now (s.now + timeout.nanoseconds) error)
      (fun _ => Completes plan s.now) s := by
  rw [connectWithin, Attempt.meets_bind, Attempt.meets_ofCall]
  apply setNonblocking_meets_system calm (Socket.lasting_unsent plan .no)
  · exact fun socket h => ⟨h.plan_eq, h.untaken_eq, h.connecting_eq⟩
  · exact fun _ _ => excused_ofErrno
  · intro ready hready hcalm
    simp only [Attempt.either_mapError_ok, Attempt.meets_bind, Attempt.meets_lift,
      Descriptor.connect, Program.ask, Program.meets_call, Program.meets_done,
      Monitor.allowed_and_iff]
    intro answer started hconnect
    rcases System.connect_ends hcalm hconnect with ⟨hstarted, hends⟩
    rw [hready] at hstarted hends
    cases hends with
    | failed => exact excused_ofErrno
    | atOnce hcomplete => exact restore_meets_system hcomplete
    | goesOn pends =>
        dsimp only
        rw [if_pos (Or.inr rfl)]
        simp only [Attempt.meets_bind, Attempt.meets_lift, Program.now, Program.ask,
          Program.meets_call, Program.meets_done, Monitor.allowed_and_iff]
        rintro reading read ⟨⟩
        rw [hstarted, hdeadline]
        rw [← hstarted] at hpatience
        exact confirm_meets_system pends (Readiness.nanoseconds_of_after? hdeadline) hpatience

theorem join_meets_system {dialer : Dialer}
    (htimeout : dialer.timeout = some timeout)
    {target : Address}
    (calm : s.Calm d (Socket.Unsent plan .no))
    (hdeadline : (Instant.mk s.now).after? timeout = some deadline)
    (hpatience : longestPolls deadline s.now < patience) :
    (dialer.join d target patience).Meets system (fun _ _ => False)
      (fun error _ => Excused plan s.now (s.now + timeout.nanoseconds) error)
      (fun _ => Completes plan s.now) s := by
  cases hlocal : dialer.localAddress with
  | none =>
      simp only [join, hlocal, htimeout]
      exact connectWithin_meets_system calm hdeadline hpatience
  | some address =>
      simp only [join, hlocal, htimeout, Attempt.meets_bind, Attempt.meets_ofCall,
        Descriptor.bind, Program.ask, Program.meets_call, Program.meets_done,
        Monitor.allowed_and_iff]
      intro answer bound hbind
      rcases answer with errno | _
      · exact excused_ofErrno
      · rcases System.changing_ok (R := Socket.Unsent plan .no) calm
          (Socket.lasting_unsent plan .no) hbind
          fun socket h => ⟨h.plan_eq, h.untaken_eq, h.connecting_eq⟩ with ⟨hnow, hbound⟩
        rw [← hnow] at hdeadline hpatience ⊢
        exact connectWithin_meets_system hbound hdeadline hpatience

/-!
# Dialling
-/

theorem connect_meets_system {dialer : Dialer}
    (htimeout : dialer.timeout = some timeout)
    (target : Address)
    (hnone : s.interventions = [])
    (hdeadline : (Instant.mk s.now).after? timeout = some deadline)
    (hpatience : longestPolls deadline s.now < patience) :
    (dialer.connect target patience).Meets system (fun _ _ => False)
      (fun error _ => Excused s.nextPlan s.now (s.now + timeout.nanoseconds) error)
      (fun _ => Completes s.nextPlan s.now) s := by
  simp only [connect, Attempt.meets_bind, Attempt.meets_inContext, Attempt.meets_ofCall,
    Descriptor.openStream, Program.ask, Program.meets_call, Program.meets_done,
    Monitor.allowed_and_iff]
  intro answer opened hopen
  rcases answer with errno | d
  · exact excused_ofErrno
  · rcases System.openStream_makes hnone hopen with ⟨hnow, calm⟩
    simp only [Attempt.either_mapError_ok, Descriptor.meets_guarding, Descriptor.meets_release,
      Attempt.meets_inContext, Monitor.allowed_and_iff]
    rw [← hnow] at hdeadline hpatience ⊢
    apply (join_meets_system htimeout calm hdeadline hpatience).mono
    · intro error after hexcused _ _ _
      exact hexcused
    · intro _ joined hcomplete
      -- The calls that follow only let time pass, so what is complete stays complete.
      simp only [Attempt.meets_lift, Descriptor.meets_localAddress?,
        Descriptor.meets_peerAddress?, Connection.establish, Program.meets_bind,
        Descriptor.meets_tryConfigure, Program.meets_pure, Monitor.allowed_and_iff]
      intro near named hnamed far peered hpeered told configured hconfigured
      have hstill := ((hcomplete.step hnamed).step hpeered).step hconfigured
      split
      next => exact hstill
      next =>
          simp only [Attempt.meets_bind, Attempt.meets_lift, Descriptor.meets_tryConfigure,
            Monitor.allowed_and_iff]
          intro answer cleared hcleared
          exact hstill.step hcleared

theorem connectWithin_extends (d : Descriptor) (record : Record) (timeout : Duration) :
    Attempt.Extends (connectWithin d record timeout) := by
  intro patience
  rw [connectWithin, connectWithin]
  apply Attempt.extendedBy_bind (.refl _)
  intro _
  apply Attempt.extendedBy_bind (.refl _)
  intro answer
  split
  next => exact .refl _
  next =>
      split
      next =>
          apply Attempt.extendedBy_bind (.refl _)
          intro reading
          split
          next => exact .refl _
          next deadline _ =>
              apply Attempt.extendedBy_bind
                (Readiness.wait_extends d .output (some deadline) patience)
              exact fun _ => .refl _
      next => exact .refl _

theorem join_extends (dialer : Dialer) (d : Descriptor) (target : Address) :
    Attempt.Extends (dialer.join d target) := by
  intro patience
  cases htimeout : dialer.timeout with
  | none =>
      simp only [join, htimeout]
      exact .refl _
  | some timeout =>
      have hconnect := connectWithin_extends d target.toRecord timeout patience
      simp only [join, htimeout]
      split
      next => exact Attempt.extendedBy_bind (.refl _) fun _ => hconnect
      next => exact hconnect

theorem connect_extends (dialer : Dialer) (target : Address) :
    Attempt.Extends (dialer.connect target) := by
  intro patience
  rw [connect, connect]
  apply Attempt.extendedBy_bind (.refl _)
  intro d
  apply Attempt.extendedBy_bind
  · apply Attempt.extendedBy_guarding
    exact Attempt.extendedBy_inContext (join_extends dialer d target patience)
  · exact fun _ => .refl _

/-- Dialling with a timeout.  On any system the dialer connects once at most, succeeds only
when the system has said that the connection is there, with the socket waiting again, and
closes the socket when it fails.  On the virtual system, with nothing injected, it comes back;
when it succeeds the connection is complete, and when it gives up at the deadline the
connection was not complete then, or the socket has no room at all. -/
theorem dial_within_timeout (dialer : Dialer) {timeout : Duration}
    (htimeout : dialer.timeout = some timeout)
    (target : Address) :
    (forall patience events outcome,
      Program.Branch (dialer.connect target patience).run events outcome ->
      Dials dialer timeout target patience events outcome) ∧
    forall s : System, s.interventions = [] -> ((Instant.mk s.now).after? timeout).isSome ->
      exists result after enough,
        (forall patience, enough ≤ patience ->
          (dialer.connect target patience).run.run System.answer s = (.returned result, after)) ∧
        (forall c, result = .ok c -> s.nextPlan.handshake.CompleteBy s.now after.now) ∧
        forall error, result = .error error -> error.cause = .timeout ->
          ¬ s.nextPlan.handshake.CompleteBy s.now (s.now + timeout.nanoseconds) ∨
            s.nextPlan.capacity = 0 := by
  refine ⟨fun patience events outcome branch => dials htimeout branch, ?_⟩
  intro s hnone hsome
  rcases Option.isSome_iff_exists.mp hsome with ⟨deadline, hdeadline⟩
  have hmeets := connect_meets_system htimeout target hnone hdeadline (Nat.lt_succ_self _)
  rcases Attempt.returns_of_meets hmeets with ⟨result, after, hrun, hresult⟩
  refine ⟨result, after, longestPolls deadline s.now + 1,
    fun _ hpatience => (connect_extends dialer target).run_eq hrun hpatience, ?_, ?_⟩
  · rintro c rfl
    exact hresult
  · rintro error rfl
    exact hresult

def hasty : Dialer where
  timeout := some ⟨1_000_000⟩

/-- The peer takes a moment, and the socket is nonblocking from the start. -/
theorem dial_within_timeout_of_slow_peer :
    exists (s : System) (events : List Event) (c : Connection) (after : System),
      Dials hasty ⟨1_000_000⟩ (.ofName 1 2) 1 events (.returned (.ok c)) ∧
      (hasty.connect (.ofName 1 2) 1).run.run System.answer s = (.returned (.ok c), after) ∧
      s.nextPlan.handshake.CompleteBy s.now after.now := by
  let s : System := { plans := [{ handshake := .after 5, nonblocking := true }] }
  have hmade : ((hasty.connect (.ofName 1 2) 1).run.run System.answer s).1.made?.isSome = true := by
    decide +kernel
  rcases Program.branch_run System.answer (hasty.connect (.ofName 1 2) 1).run s with
    ⟨events, branch⟩
  have dials := dial_within_timeout hasty rfl (.ofName 1 2)
  rcases dials.2 s rfl (by decide) with ⟨result, after, enough, hends, hcomplete, _⟩
  rcases hrun : (hasty.connect (.ofName 1 2) 1).run.run System.answer s with
    ⟨(error | c) | reason, ended⟩ <;> rw [hrun] at hmade branch
  · cases hmade
  · have hsame := (hends (max enough 1) (Nat.le_max_left ..)).symm.trans
      ((connect_extends hasty (.ofName 1 2)).run_eq hrun (Nat.le_max_right ..))
    cases hsame
    exact ⟨s, events, c, after, dials.1 1 events _ branch, hrun, hcomplete c rfl⟩
  · cases hmade

/-- The connection is complete long before the deadline, but there is no room on the socket, so
the dialer does not find it writable and gives up. -/
theorem dialing_without_room_times_out :
    exists (s : System) (error : Error) (after : System), s.interventions = [] ∧
      ((Instant.mk s.now).after? ⟨1_000_000⟩).isSome ∧
      (forall patience, 1 ≤ patience ->
        (hasty.connect (.ofName 1 2) patience).run.run System.answer s =
          (.returned (.error error), after)) ∧
      error.cause = .timeout ∧ s.nextPlan.handshake.CompleteBy s.now (s.now + 1_000_000) := by
  let s : System := { plans := [{ handshake := .after 5, capacity := 0 }] }
  have hlate : ((hasty.connect (.ofName 1 2) 1).run.run System.answer s).1.failed?.map Error.cause =
      some .timeout := by decide +kernel
  rcases hrun : (hasty.connect (.ofName 1 2) 1).run.run System.answer s with
    ⟨(error | c) | reason, after⟩ <;> rw [hrun] at hlate
  · refine ⟨s, error, after, rfl, by decide, ?_, Option.some.inj hlate, ?_⟩
    · exact fun _ hpatience => (connect_extends hasty (.ofName 1 2)).run_eq hrun hpatience
    · change 0 + 5 ≤ 0 + 1_000_000
      omega
  · cases hlate
  · cases hlate

end Dialer
end ServiceSocket
