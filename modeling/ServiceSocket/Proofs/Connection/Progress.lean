import ServiceSocket.Proofs.Connection.Sending
import ServiceSocket.Proofs.Readiness.Ending

/-!
# A write comes back

Each round of a write waits until there is room and then sends.  With a deadline the wait is
a poll; without one it is left to the send, which waits only if the socket does.  So a write
without a deadline comes back on a socket that waits, and may go round for ever on one that
does not.
-/

namespace ServiceSocket
namespace Connection

open Virtual (system System Socket)

variable {s : System} {d : Descriptor} {deadline : Option Instant}

/-- Someone waits for room: with a deadline the write, and without one the socket. -/
def WaitsForRoom (deadline : Option Instant) (d : Descriptor) (s : System) : Prop :=
  deadline = none -> forall number, s.socketOf d = some number -> s.Has number Socket.WaitsForRoom

def pollsLeft (deadline : Option Instant) (now : Nat) : Nat :=
  deadline.elim 0 fun deadline => Readiness.longestPolls deadline now

theorem pollsLeft_le (deadline : Option Instant) {now later : Nat}
    (h : now ≤ later) : pollsLeft deadline later ≤ pollsLeft deadline now := by
  cases deadline with
  | none => exact Nat.le_refl 0
  | some deadline => exact Readiness.longestPolls_le deadline h

theorem wait_meets_system {patience : Nat}
    (hwaits : WaitsForRoom deadline d s)
    (hpatience : s.interventions.length + pollsLeft deadline s.now < patience) :
    (Readiness.wait d .output deadline patience).Meets system (fun _ _ => False)
      (fun _ _ => True)
      (fun _ ready => s.GoesOn ready ∧ s.Undisturbed ready
        (forall number, ready.socketOf d = some number ->
          ready.Has number fun socket => socket.MaySend ready.now deadline.isSome)) s := by
  cases deadline with
  | none =>
      refine ⟨System.GoesOn.refl s, .inr ⟨rfl, ?_⟩⟩
      intro number hnumber
      exact (hwaits rfl number hnumber).mono fun socket h => .inr ⟨rfl, h⟩
  | some deadline =>
      apply (Readiness.pollUntil_meets_system hpatience).mono
      · exact fun _ _ _ => trivial
      · rintro _ ready ⟨goesOn, hends⟩
        refine ⟨goesOn, hends.of_eq rfl ?_⟩
        rintro ⟨found, hfound, hready⟩ number hnumber socket hsocket
        rw [goesOn.socketOf_eq, hfound] at hnumber
        cases hnumber
        rw [hsocket] at hready
        exact .inl hready

/-- Each round uses up an intervention, or some bytes, or ends the write. -/
theorem sendAll_meets_system {patience sent : Nat} {rest : List UInt8}
    (hwaits : WaitsForRoom deadline d s)
    (hpatience : s.interventions.length + rest.length + pollsLeft deadline s.now < patience) :
    (sendAll d deadline patience sent rest).Meets system (fun _ _ => False) (fun _ _ => True)
      (fun _ _ => True) s := by
  induction patience generalizing s sent rest with
  | zero => exact absurd hpatience (Nat.not_lt_zero _)
  | succ patience ih =>
      cases rest with
      | nil => trivial
      | cons b rest =>
          rw [List.length_cons] at hpatience
          simp only [sendAll_cons_meets_iff, Monitor.allowed_and_iff]
          apply (wait_meets_system hwaits (by omega)).mono
          · exact fun _ _ _ => trivial
          · rintro _ ready ⟨goesOn, hready⟩
            intro answer offered hoffered
            have sends := System.send_sends hoffered
            have hends := hready.trans sends.ends fun hmay hdecides => hdecides hmay
            have hlength := hends.length_le
            have hpolls := pollsLeft_le deadline (Nat.le_trans goesOn.now_le sends.now_le)
            have hkept : WaitsForRoom deadline d offered := by
              intro hnone number hnumber
              rw [sends.socketOf_eq, goesOn.socketOf_eq] at hnumber
              exact sends.keeps number
                (goesOn.keeps number _ Socket.lasting_waitsForRoom (hwaits hnone number hnumber))
            rcases answer with errno | n | n
            · dsimp only
              split
              next hagain =>
                  rcases hends with hfewer | ⟨_, hinterrupted, hwouldBlock⟩
                  · apply ih hkept
                    rw [List.length_cons]
                    omega
                  · exact absurd hagain (not_or.mpr ⟨hinterrupted, hwouldBlock⟩)
              next => trivial
            · trivial
            · apply ih hkept
              rw [List.drop_succ_cons, List.length_drop]
              omega

theorem sendAll_extends (d : Descriptor) (deadline : Option Instant) (sent : Nat)
    (bytes : List UInt8) :
    Attempt.Extends fun patience => sendAll d deadline patience sent bytes := by
  intro patience
  induction patience generalizing sent bytes with
  | zero =>
      cases bytes with
      | nil => exact .refl _
      | cons b rest => trivial
  | succ patience ih =>
      cases bytes with
      | nil => exact .refl _
      | cons b rest =>
          dsimp only
          rw [sendAll, sendAll]
          apply Attempt.extendedBy_bind (Readiness.wait_extends d .output deadline patience)
          intro _
          apply Attempt.extendedBy_bind (.refl _)
          intro answer
          split
          next => exact .refl _
          next => exact ih ..
          next =>
              split
              next => exact ih ..
              next => exact .refl _

theorem write_extends (c : Connection) (bytes : List UInt8) :
    Attempt.Extends fun patience => c.write bytes patience := by
  intro patience
  apply Attempt.extendedBy_inContext
  apply Attempt.extendedBy_bind (.refl _)
  intro d
  exact sendAll_extends d c.writeDeadline 0 bytes patience

/-- A write comes back with one result, whatever has been injected and whatever the peer does,
if it has a deadline or its socket waits for room. -/
theorem write_returns {s : System} {c : Connection} (bytes : List UInt8)
    (hwaits : forall d, c.descriptor = some d -> WaitsForRoom c.writeDeadline d s) :
    exists result after enough, forall patience, enough ≤ patience ->
      (c.write bytes patience).run.run System.answer s = (.returned result, after) := by
  have hmeets : exists enough, (c.write bytes enough).Meets system (fun _ _ => False)
      (fun _ _ => True) (fun _ _ => True) s := by
    cases hdescriptor : c.descriptor with
    | none =>
        refine ⟨0, ?_⟩
        simp only [write, inContext, Attempt.meets_inContext, Attempt.meets_bind, held,
          hdescriptor, Attempt.meets_liftExcept]
        trivial
    | some d =>
        refine ⟨s.interventions.length + bytes.length + pollsLeft c.writeDeadline s.now + 1, ?_⟩
        simp only [write, inContext, Attempt.meets_inContext, Attempt.meets_bind, held,
          hdescriptor, Attempt.meets_liftExcept, Attempt.either_ok]
        exact sendAll_meets_system (hwaits d hdescriptor) (Nat.lt_succ_self _)
  rcases hmeets with ⟨enough, hmeets⟩
  rcases Attempt.returns_of_meets hmeets with ⟨result, after, hrun, _⟩
  exact ⟨result, after, enough, fun _ hpatience => (write_extends c bytes).run_eq hrun hpatience⟩

/-- A write into a full buffer whose peer reads on after a while. -/
theorem write_returns_when_drained :
    exists (s : System) (c : Connection),
      (forall d, c.descriptor = some d -> WaitsForRoom none d s) ∧
      exists result after enough, forall patience, enough ≤ patience ->
        (c.write [1, 2] patience).run.run System.answer s = (.returned result, after) := by
  let s : System :=
    { sockets := [Socket.ofPlan .tipc { capacity := 1 }]
      descriptors := [some 1]
      schedule := [⟨5, 1, .drain none⟩] }
  have hwaits : forall d, (some ⟨0⟩ : Option Descriptor) = some d -> WaitsForRoom none d s := by
    rintro d ⟨⟩ _ number hnumber socket hsocket
    cases hnumber
    cases hsocket
    exact ⟨rfl, rfl⟩
  exact ⟨s, ⟨some ⟨0⟩, none, none, none, none⟩, hwaits,
    write_returns (c := ⟨some ⟨0⟩, none, none, none, none⟩) [1, 2] hwaits⟩

/-!
# A socket that does not wait
-/

/-- Without a deadline, on a full socket that does not wait, a write offers its bytes again and
again: no byte is accepted and no time passes. -/
theorem sendAll_jams {b : UInt8} {rest : List UInt8}
    (hjams : s.Jams d)
    (patience sent : Nat) :
    (sendAll d none patience sent (b :: rest)).Meets system
      (fun reason after => reason = .outOfPatience ∧ after.now = s.now ∧
        after.sockets = s.sockets)
      (fun _ _ => False) (fun _ _ => False) s := by
  induction patience generalizing s with
  | zero => exact ⟨rfl, rfl, rfl⟩
  | succ patience ih =>
      simp only [sendAll_cons_meets_iff, Monitor.allowed_and_iff]
      intro answer offered hoffered
      rcases hjams.send (List.cons_ne_nil b rest) true false with
        ⟨after, hsend, hafter, hnow, hsockets⟩
      have hsame : (answer, offered) = (.error .wouldBlock, after) :=
        hoffered.symm.trans hsend
      cases hsame
      refine (if_pos (.inr (by decide))).mpr ?_
      apply (ih hafter).weaken
      · rintro reason last ⟨hreason, hlast, hkept⟩
        exact ⟨hreason, hlast.trans hnow, hkept.trans hsockets⟩
      · exact fun _ _ => id
      · exact fun _ _ => id

theorem write_jams {c : Connection}
    (hopen : c.descriptor = some d)
    (hdeadline : c.writeDeadline = none)
    (hjams : s.Jams d)
    {bytes : List UInt8}
    (hbytes : bytes ≠ [])
    (patience : Nat) :
    exists after, (c.write bytes patience).run.run System.answer s =
        (.halted .outOfPatience, after) ∧
      after.now = s.now ∧ after.sockets = s.sockets := by
  rcases List.exists_cons_of_ne_nil hbytes with ⟨b, rest, hcons⟩
  have hmeets : (c.write bytes patience).Meets system
      (fun reason after => reason = .outOfPatience ∧ after.now = s.now ∧
        after.sockets = s.sockets)
      (fun _ _ => False) (fun _ _ => False) s := by
    simp only [write, inContext, Attempt.meets_inContext, Attempt.meets_bind, held, hopen,
      Attempt.meets_liftExcept, Attempt.either_ok, hdeadline, hcons]
    exact sendAll_jams hjams patience 0
  have hends := Program.meets_answering_iff.mp hmeets
  rcases hrun : (c.write bytes patience).run.run System.answer s with ⟨result | reason, after⟩
  · rw [hrun] at hends
    rcases result with error | count <;> exact hends.elim
  · rw [hrun] at hends
    rcases hends with ⟨hreason, hnow, hsockets⟩
    exact ⟨after, by rw [hreason], hnow, hsockets⟩

def stuffed : System where
  sockets := [Socket.ofPlan .tipc { capacity := 0, nonblocking := true }]
  descriptors := [some 1]

/-- A connection that took over such a descriptor never comes back from a write. -/
theorem write_after_adopting_never_returns :
    exists c taken, (adopt ⟨0⟩).run.run System.answer stuffed = (.returned (.ok c), taken) ∧
      c.isOpen = true ∧ taken.interventions = [] ∧
      forall patience, exists after,
        (c.write [0] patience).run.run System.answer taken = (.halted .outOfPatience, after) ∧
        after.now = taken.now ∧ after.sockets = taken.sockets := by
  refine ⟨_, _, rfl, rfl, rfl, ?_⟩
  intro patience
  refine write_jams (d := ⟨0⟩) rfl rfl ⟨rfl, ?_, 1, _, rfl, rfl, rfl, rfl, rfl, rfl⟩ (by decide)
    patience
  intro item hitem
  cases hitem

end Connection
end ServiceSocket
