import ServiceSocket.Proofs.Connection.Receiving
import ServiceSocket.Proofs.Naming

/-!
# The deadlines of a connection

Each direction of a connection has a deadline of its own.  It is the one that was asked for last
with success, whatever has been read, written or configured since, and whatever has failed.
-/

namespace ServiceSocket

open Program

namespace Connection

/-!
# Deadlines that are asked for
-/

namespace Operation

def readDeadline? : Operation -> Option (Option Instant)
  | .setDeadline due | .setReadDeadline due => some due
  | _ => none

def writeDeadline? : Operation -> Option (Option Instant)
  | .setDeadline due | .setWriteDeadline due => some due
  | _ => none

end Operation

def granted (answer : Except Error Reply) (asked : Option (Option Instant)) :
    Option (Option Instant) :=
  match answer with
  | .ok _ => asked
  | .error _ => none

/-- The deadline that was granted last, and the given one if none was. -/
def lastGranted (asks : Operation -> Option (Option Instant)) (due : Option Instant)
    (turns : List (Turn Connection Operation (Except Error Reply))) : Option Instant :=
  (turns.reverse.findSome? fun turn => granted turn.answer (asks turn.input)).getD due

theorem lastGranted_cons (asks : Operation -> Option (Option Instant)) (due : Option Instant)
    (turn : Turn Connection Operation (Except Error Reply))
    (turns : List (Turn Connection Operation (Except Error Reply))) :
    lastGranted asks due (turn :: turns) =
      lastGranted asks ((granted turn.answer (asks turn.input)).getD due) turns := by
  unfold lastGranted
  rw [List.reverse_cons, List.findSome?_append, List.findSome?_singleton, Option.getD_or]

/-!
# One operation
-/

section

variable {patience : Nat}

theorem perform_keeps (c : Connection) {operation : Operation}
    (hread : operation.readDeadline? = none)
    (hwrite : operation.writeDeadline? = none)
    (hclose : operation ≠ .close) :
    (c.perform operation patience).Returns fun result => result.2 = c := by
  cases operation with
  | copyFrom source => exact returns_bind fun _ => returns_pure rfl
  | setDeadline due | setReadDeadline due => cases hread
  | setWriteDeadline due => cases hwrite
  | close => exact absurd rfl hclose
  | _ => exact Operation.keep_returns (P := (· = c)) _ _ rfl

theorem perform_granted (c : Connection) (operation : Operation) :
    (c.perform operation patience).Returns fun result =>
      result.2.readDeadline = (granted result.1 operation.readDeadline?).getD c.readDeadline ∧
      result.2.writeDeadline =
        (granted result.1 operation.writeDeadline?).getD c.writeDeadline := by
  cases operation with
  | setDeadline due => exact Operation.replace_held_returns ⟨rfl, rfl⟩ fun _ => ⟨rfl, rfl⟩
  | setReadDeadline due => exact Operation.replace_held_returns ⟨rfl, rfl⟩ fun _ => ⟨rfl, rfl⟩
  | setWriteDeadline due => exact Operation.replace_held_returns ⟨rfl, rfl⟩ fun _ => ⟨rfl, rfl⟩
  | close =>
      refine (close_returns c).bind ?_
      rintro ⟨answer, _⟩ rfl
      cases answer <;> exact returns_pure ⟨rfl, rfl⟩
  | _ =>
      refine Returns.mono (c.perform_keeps rfl rfl nofun) ?_
      rintro ⟨answer, _⟩ rfl
      cases answer <;> exact ⟨rfl, rfl⟩

/-!
# Every history
-/

section

variable {c last : Connection} {turns : List (Turn Connection Operation (Except Error Reply))}

/-- A field that takes on what is granted holds what was granted last. -/
theorem eq_lastGranted (field : Connection -> Option Instant)
    {asks : Operation -> Option (Option Instant)}
    (hstep : forall (c : Connection) operation, (c.perform operation patience).Returns fun result =>
      field result.2 = (granted result.1 (asks operation)).getD (field c))
    (history : History (fun (c : Connection) operation => c.perform operation patience) c turns
      last) :
    field last = lastGranted asks (field c) turns := by
  induction history with
  | nil c => rfl
  | @cons c mid last operation events answer turns first rest ih =>
      rw [ih, hstep c operation events _ first, lastGranted_cons]

end

end

/-!
# Sending
-/

/-- What is recorded while bytes are sent.  Each send follows a wait for room that the deadline
bounds, and does not wait itself if there is a deadline. -/
inductive SendsWithin (held : Option Descriptor) (deadline : Option Instant) :
    List Event -> Prop where
  | nothing : SendsWithin held deadline []
  | waited {before waited : List Event} {d : Descriptor} {patience : Nat}
      {outcome : Outcome (Except Error Unit)} (hbefore : SendsWithin held deadline before)
      (hopen : held = some d)
      (hwaits : Readiness.Waits d .output patience deadline waited outcome) :
      SendsWithin held deadline (before ++ waited)
  | sent {before waited : List Event} {d : Descriptor} {patience : Nat}
      (hbefore : SendsWithin held deadline before)
      (hopen : held = some d)
      (hwaits : Readiness.Waits d .output patience deadline waited (.returned (.ok ())))
      (bytes : List UInt8) (answer : Except Errno Nat) :
      SendsWithin held deadline
        (before ++ waited ++ [⟨.send d bytes true deadline.isSome, answer⟩])

def Sends (held : Option Descriptor) (deadline : Option Instant) (p : Program α) : Prop :=
  forall s, SendsWithin held deadline s ->
    p.Meets recorder (fun _ => SendsWithin held deadline) (fun _ => SendsWithin held deadline) s

section

variable {held : Option Descriptor} {deadline : Option Instant}

theorem sends_pure (value : α) : Sends held deadline (pure value) := fun _ hs => hs

theorem sends_halt (reason : Halt) : Sends held deadline (.halt reason : Program α) :=
  fun _ hs => hs

theorem Sends.bind {p : Program α} {f : α -> Program β}
    (h : Sends held deadline p)
    (hf : forall value, Sends held deadline (f value)) :
    Sends held deadline (p >>= f) := by
  intro s hs
  rw [meets_bind]
  apply (h s hs).mono
  intro value after hafter
  exact hf value after hafter

theorem Sends.of_branch {p : Program α} {events : List Event} {outcome : Outcome α}
    (h : Sends held deadline p)
    (branch : Branch p events outcome) :
    SendsWithin held deadline events := by
  refine (meets_recorder_iff (P := fun after _ => SendsWithin held deadline after)
    (s := [])).mp ?_ events outcome branch
  exact h [] .nothing

theorem sendAll_sends {d : Descriptor}
    (hopen : held = some d)
    (patience sent : Nat) (bytes : List UInt8) :
    Sends held deadline (sendAll d deadline patience sent bytes).run := by
  intro s hs
  rw [Attempt.meets_run]
  induction patience generalizing sent bytes s with
  | zero => cases bytes <;> exact hs
  | succ patience ih =>
      cases bytes with
      | nil => exact hs
      | cons b rest =>
          simp only [sendAll_cons_meets_iff, Monitor.allowed_and_iff]
          apply (Attempt.recorded fun _ _ => Readiness.waits_of_branch).weaken
          · rintro reason _ ⟨waited, rfl, hwaits⟩
            exact .waited hs hopen hwaits
          · rintro error _ ⟨waited, rfl, hwaits⟩
            exact .waited hs hopen hwaits
          · rintro _ _ ⟨waited, rfl, hwaits⟩
            rintro answer _ ⟨⟩
            have hsent := hs.sent hopen hwaits (b :: rest) answer
            rcases answer with errno | n | n
            · dsimp only
              split
              next => exact ih sent (b :: rest) _ hsent
              next => exact hsent
            · exact hsent
            · exact ih _ _ _ hsent

end

section

variable (c : Connection)

theorem write_sends (bytes : List UInt8) (patience : Nat) :
    Sends c.descriptor c.writeDeadline (c.write bytes patience).run := by
  intro s hs
  rw [Attempt.meets_run, write, inContext, Attempt.meets_inContext, Connection.held]
  cases hopen : c.descriptor with
  | none =>
      rw [hopen] at hs
      exact hs
  | some d =>
      rw [hopen] at hs
      exact Attempt.meets_run.mp (sendAll_sends rfl patience 0 bytes s hs)

theorem writeAll_sends (patience : Nat) (bytes : List UInt8) :
    Sends c.descriptor c.writeDeadline (c.writeAll patience bytes) := by
  induction patience generalizing bytes with
  | zero =>
      cases bytes with
      | nil => exact sends_pure _
      | cons b rest => exact sends_halt _
  | succ patience ih =>
      cases bytes with
      | nil => exact sends_pure _
      | cons b rest =>
          apply (c.write_sends (b :: rest) patience).bind
          intro written
          rcases written with error | n | n
          · dsimp only
            split
            next => exact ih (b :: rest)
            next => exact sends_pure _
          · exact sends_pure _
          · exact ih _

theorem copyAll_sends (patience copied : Nat) (source : Source) :
    Sends c.descriptor c.writeDeadline (c.copyAll patience copied source) := by
  induction patience generalizing copied source with
  | zero => exact sends_halt _
  | succ patience ih =>
      rw [copyAll]
      split
      next error rest _ =>
          split
          next => exact ih copied rest
          next => exact sends_pure _
      next => exact sends_pure _
      next b piece rest _ =>
          apply (c.writeAll_sends patience (b :: piece)).bind
          intro written
          cases written with
          | error error => exact sends_pure _
          | ok _ => exact ih _ rest

theorem copyFrom_sends (source : Source) (patience : Nat) :
    Sends c.descriptor c.writeDeadline (c.copyFrom source patience) := by
  unfold copyFrom
  cases c.held with
  | error error => exact sends_pure _
  | ok d => exact (c.copyAll_sends patience 0 source).bind fun _ => sends_pure _

end

/-!
# What is left behind
-/

/-- The bytes of a send are all that the event can leave behind. -/
inductive LeavesOnlySent : Event -> Prop where
  | reads (reading : Instant) : LeavesOnlySent ⟨.now, reading⟩
  | polls (d : Descriptor) (direction : Direction) (time : Nat) (answer : Except Errno Nat) :
      LeavesOnlySent ⟨.poll d direction time, answer⟩
  | sends (d : Descriptor) (bytes : List UInt8) (quiet dontWait : Bool)
      (answer : Except Errno Nat) : LeavesOnlySent ⟨.send d bytes quiet dontWait, answer⟩
  | refused (d : Descriptor) (limit : Nat) (errno : Errno) :
      LeavesOnlySent ⟨.receive d limit, .error errno⟩

theorem leavesOnlySent_of_waits {d : Descriptor} {direction : Direction} {patience : Nat}
    {deadline : Option Instant} {events : List Event} {outcome : Outcome (Except Error Unit)}
    (h : Readiness.Waits d direction patience deadline events outcome) :
    forall event, event ∈ events -> LeavesOnlySent event := by
  intro event hmem
  cases h.isWaiting event hmem with
  | reads reading => exact .reads reading
  | polls time answer => exact .polls d direction time answer

theorem SendsWithin.leavesOnlySent {held : Option Descriptor} {deadline : Option Instant}
    {events : List Event}
    (h : SendsWithin held deadline events) :
    forall event, event ∈ events -> LeavesOnlySent event := by
  induction h with
  | nothing => exact List.forall_mem_nil _
  | waited hbefore hopen hwaits ih =>
      exact List.forall_mem_append.mpr ⟨ih, leavesOnlySent_of_waits hwaits⟩
  | sent hbefore hopen hwaits bytes answer ih =>
      have hwaited := List.forall_mem_append.mpr ⟨ih, leavesOnlySent_of_waits hwaits⟩
      exact List.forall_mem_append.mpr ⟨hwaited, List.forall_mem_singleton.mpr (.sends ..)⟩

theorem Reads.leavesOnlySent {c : Connection} {limit patience : Nat} {events : List Event}
    {error : Error}
    (h : c.Reads limit patience events (.returned (.error error))) :
    forall event, event ∈ events -> LeavesOnlySent event := by
  cases h with
  | closed => exact List.forall_mem_nil _
  | unready hopen hwaits => exact leavesOnlySent_of_waits hwaits
  | refused hopen hwaits errno =>
      refine List.forall_mem_append.mpr ⟨leavesOnlySent_of_waits hwaits, ?_⟩
      exact List.forall_mem_singleton.mpr (.refused ..)

def Operation.movesBytes : Operation -> Bool
  | .read _ | .write _ | .copyFrom _ => true
  | _ => false

theorem failed_leavesOnlySent {c after : Connection} {operation : Operation} {patience : Nat}
    {events : List Event} {error : Error}
    (hmoves : operation.movesBytes = true)
    (branch : Branch (c.perform operation patience) events (.returned (.error error, after))) :
    forall event, event ∈ events -> LeavesOnlySent event := by
  cases operation with
  | read limit =>
      rcases branch_bind_returned.mp branch with ⟨first, second, result, rfl, hread, hafter⟩
      cases result with
      | ok bytes => cases hafter
      | error error =>
          cases hafter
          rw [List.append_nil]
          exact (reads_of_branch hread).leavesOnlySent
  | write bytes =>
      have hsends : Sends c.descriptor c.writeDeadline (c.perform (.write bytes) patience) :=
        (c.write_sends bytes patience).bind fun _ => sends_pure _
      exact (hsends.of_branch branch).leavesOnlySent
  | copyFrom source =>
      have hsends : Sends c.descriptor c.writeDeadline (c.perform (.copyFrom source) patience) :=
        (c.copyFrom_sends source patience).bind fun _ => sends_pure _
      exact (hsends.of_branch branch).leavesOnlySent
  | _ => cases hmoves

theorem setDeadline_of_open {c : Connection} {d : Descriptor}
    (hopen : c.descriptor = some d)
    (due : Option Instant) :
    c.setDeadline due = .ok ⟨some d, c.localAddress, c.remoteAddress, due, due⟩ := by
  rw [setDeadline, held, hopen]
  rfl

/-- A connection that has not been closed is, once its deadlines are cleared, what it would be if
they had been cleared at first and nothing else been done. -/
theorem clears_history {patience : Nat} {c last now : Connection}
    {turns : List (Turn Connection Operation (Except Error Reply))}
    (history : History (fun (c : Connection) operation => c.perform operation patience) c turns
      last)
    (hcleared : last.setDeadline none = .ok now) :
    c.setDeadline none = .ok now := by
  have hlives := (closable patience).livesUntilClosed history
  cases hlast : last.descriptor with
  | none =>
      rw [setDeadline, held, hlast] at hcleared
      cases hcleared
  | some d =>
      have hinputs : forall turn, turn ∈ turns -> turn.input ≠ .close := by
        intro turn hmem hclose
        have hclosed := hlives.handle_eq_none_iff.mpr (.inr ⟨turn, hmem, hclose⟩)
        rw [hlast] at hclosed
        cases hclosed
      have hopen : c.descriptor = some d := (hlives.keeps hinputs).symm.trans hlast
      rcases Prod.ext_iff.mp hlives.addresses_eq with ⟨hnear, hfar⟩
      have hnear : last.localAddress = c.localAddress := hnear
      have hfar : last.remoteAddress = c.remoteAddress := hfar
      rw [setDeadline_of_open hlast, hnear, hfar] at hcleared
      rw [setDeadline_of_open hopen]
      exact hcleared

/-!
# New connections
-/

def HasNoDeadline (c : Connection) : Prop :=
  c.readDeadline = none ∧ c.writeDeadline = none

section

variable {c : Connection} {named : List Event}

theorem hasNoDeadline_of_names {dialer : Dialer} {target : Address}
    (h : dialer.Names target named (.returned (.ok c))) : c.HasNoDeadline := by
  cases h with
  | joined => exact ⟨rfl, rfl⟩
  | missed _ hfailed => cases hfailed

theorem hasNoDeadline_of_accepted {l : Listener}
    (h : l.Names named (.returned (.ok c))) : c.HasNoDeadline := by
  cases h with
  | accepted => exact ⟨rfl, rfl⟩
  | missed hfailed => cases hfailed

theorem hasNoDeadline_of_adopted {d : Descriptor}
    (h : NamesAdopted d named (.returned (.ok c))) : c.HasNoDeadline := by
  cases h
  exact ⟨rfl, rfl⟩

end

/-!
# Deadlines that are in force
-/

/-- How a connection uses its deadlines wherever these turns have led. -/
structure UsesLastGranted (patience : Nat) (c : Connection)
    (turns : List (Turn Connection Operation (Except Error Reply))) (last : Connection) :
    Prop where
  reads : forall {limit : Nat} {events : List Event}
      {outcome : Outcome (Except Error (List UInt8))},
    Branch (last.read limit patience).run events outcome ->
      Readiness.Takes last.descriptor .input
        (lastGranted Operation.readDeadline? c.readDeadline turns) patience
        (fun d answer => ⟨.receive d limit, answer⟩) events outcome
  writes : forall {bytes : List UInt8} {events : List Event} {outcome : Outcome (Except Error Nat)},
    Branch (last.write bytes patience).run events outcome ->
      SendsWithin last.descriptor (lastGranted Operation.writeDeadline? c.writeDeadline turns)
        events
  copies : forall {source : Source} {events : List Event}
      {outcome : Outcome (Except Error Nat × Source)},
    Branch (last.copyFrom source patience) events outcome ->
      SendsWithin last.descriptor (lastGranted Operation.writeDeadline? c.writeDeadline turns)
        events
  keeps : forall {operation : Operation} {events : List Event} {answer : Except Error Reply}
      {after : Connection}, operation.readDeadline? = none -> operation.writeDeadline? = none ->
    operation ≠ .close ->
    Branch (last.perform operation patience) events (.returned (answer, after)) -> after = last
  /-- In particular a timeout leaves nothing behind but bytes that have been sent. -/
  fails : forall {operation : Operation} {events : List Event} {error : Error} {after : Connection},
    operation.movesBytes = true ->
    Branch (last.perform operation patience) events (.returned (.error error, after)) ->
      forall event, event ∈ events -> LeavesOnlySent event
  clears : forall {now : Connection},
    last.setDeadline none = .ok now -> c.setDeadline none = .ok now

/-- A new connection has no deadlines, and after that each of the two is the one that was last
set with success.  All that waits or sends is bounded by it, and nothing else changes it. -/
theorem deadlines_are_last_granted :
    (forall {dialer : Dialer} {target : Address} {patience : Nat} {events : List Event}
      {c : Connection},
      Branch (dialer.connect target patience).run events (.returned (.ok c)) -> c.HasNoDeadline) ∧
    (forall {l : Listener} {patience : Nat} {events : List Event} {c : Connection},
      Branch (l.accept patience).run events (.returned (.ok c)) -> c.HasNoDeadline) ∧
    (forall {d : Descriptor} {events : List Event} {c : Connection},
      Branch (adopt d).run events (.returned (.ok c)) -> c.HasNoDeadline) ∧
    (forall {patience : Nat} {c last : Connection}
      {turns : List (Turn Connection Operation (Except Error Reply))},
      History (fun (c : Connection) operation => c.perform operation patience) c turns last ->
        last.readDeadline = lastGranted Operation.readDeadline? c.readDeadline turns ∧
        last.writeDeadline = lastGranted Operation.writeDeadline? c.writeDeadline turns ∧
        UsesLastGranted patience c turns last) := by
  refine ⟨?_, ?_, ?_, ?_⟩
  · intro dialer target patience events c branch
    exact hasNoDeadline_of_names (Dialer.names_of_branch branch)
  · intro l patience events c branch
    exact hasNoDeadline_of_accepted (Listener.names_of_branch branch)
  · intro d events c branch
    exact hasNoDeadline_of_adopted (namesAdopted_of_branch branch)
  · intro patience c last turns history
    have hread : last.readDeadline = lastGranted Operation.readDeadline? c.readDeadline turns :=
      eq_lastGranted readDeadline (fun c operation =>
        (c.perform_granted operation).mono fun _ hgranted => hgranted.1) history
    have hwrite : last.writeDeadline = lastGranted Operation.writeDeadline? c.writeDeadline turns :=
      eq_lastGranted writeDeadline (fun c operation =>
        (c.perform_granted operation).mono fun _ hgranted => hgranted.2) history
    refine ⟨hread, hwrite, ?_⟩
    constructor
    · intro limit events outcome branch
      rw [← hread]
      exact reads_of_branch branch
    · intro bytes events outcome branch
      rw [← hwrite]
      exact (last.write_sends bytes patience).of_branch branch
    · intro source events outcome branch
      rw [← hwrite]
      exact (last.copyFrom_sends source patience).of_branch branch
    · intro operation events answer after hasksRead hasksWrite hclose branch
      exact last.perform_keeps hasksRead hasksWrite hclose _ _ branch
    · intro operation events error after hmoves branch
      exact failed_leavesOnlySent hmoves branch
    · intro now hcleared
      exact clears_history history hcleared

/-- Both deadlines are set, that for writing is cleared and a read times out.  The next one has a
deadline of its own, writing has none, and clearing it all makes the connection new again. -/
theorem deadlines_are_last_granted_after_timeout :
    exists (turns : List (Turn Connection Operation (Except Error Reply))) (c last now : Connection)
        (events : List Event),
      Branch (adopt ⟨5⟩).run events (.returned (.ok c)) ∧ c.HasNoDeadline ∧
      History (fun (c : Connection) operation => c.perform operation 3) c turns last ∧
      turns.map Turn.input = [.setDeadline (some ⟨100⟩), .setWriteDeadline none, .read 4,
        .setReadDeadline (some ⟨900⟩)] ∧
      last.readDeadline = some ⟨900⟩ ∧ last.writeDeadline = none ∧
      Readiness.Takes (some ⟨5⟩) .input (some ⟨900⟩) 3 (fun d answer => ⟨.receive d 4, answer⟩)
        [⟨.now, ⟨200⟩⟩, ⟨.poll ⟨5⟩ .input 1, .ok 1⟩, ⟨.receive ⟨5⟩ 4, .ok [7]⟩]
        (.returned (.ok [7])) ∧
      SendsWithin (some ⟨5⟩) none [⟨.send ⟨5⟩ [1] true false, .ok 1⟩] ∧
      last.setDeadline none = .ok now ∧ c.setDeadline none = .ok now := by
  have adopted : Branch (adopt ⟨5⟩).run
      [⟨.localRecord ⟨5⟩, .ok (Address.ofName 1 2).toRecord⟩, ⟨.peerRecord ⟨5⟩, .error ⟨107⟩⟩,
        ⟨.configure ⟨5⟩ (.noDelay true), .ok ()⟩]
      (.returned (.ok ⟨some ⟨5⟩, some (.ofName 1 2), none, none, none⟩)) :=
    .call _ _ _ (.call _ _ _ (.call _ _ _ (.done _)))
  have history : History (fun (c : Connection) operation => c.perform operation 3)
      ⟨some ⟨5⟩, some (.ofName 1 2), none, none, none⟩
      [⟨_, .setDeadline (some ⟨100⟩), [], _, _⟩, ⟨_, .setWriteDeadline none, [], _, _⟩,
        ⟨_, .read 4, [⟨.now, ⟨100⟩⟩], .error (.inContext "read" Network.tipc none .timeout), _⟩,
        ⟨_, .setReadDeadline (some ⟨900⟩), [], _, _⟩]
      ⟨some ⟨5⟩, some (.ofName 1 2), none, some ⟨900⟩, none⟩ :=
    .cons (.done _) (.cons (.done _) (.cons (.call _ _ _ (.done _)) (.cons (.done _) (.nil _))))
  rcases deadlines_are_last_granted.2.2.2 history with ⟨hread, hwrite, huses⟩
  have read : Branch
      ((Connection.mk (some ⟨5⟩) (some (.ofName 1 2)) none (some ⟨900⟩) none).read 4 3).run
      [⟨.now, ⟨200⟩⟩, ⟨.poll ⟨5⟩ .input 1, .ok 1⟩, ⟨.receive ⟨5⟩ 4, .ok [7]⟩]
      (.returned (.ok [7])) :=
    .call _ _ _ (.call _ _ _ (.call _ _ _ (.done _)))
  have written : Branch
      ((Connection.mk (some ⟨5⟩) (some (.ofName 1 2)) none (some ⟨900⟩) none).write [1] 3).run
      [⟨.send ⟨5⟩ [1] true false, .ok 1⟩] (.returned (.ok 1)) :=
    .call _ _ _ (.done _)
  exact ⟨_, _, _, _, _, adopted, deadlines_are_last_granted.2.2.1 adopted, history, rfl, hread,
    hwrite, huses.reads read, huses.writes written, rfl, huses.clears rfl⟩

end Connection
end ServiceSocket
