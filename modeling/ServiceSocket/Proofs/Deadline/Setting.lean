import ServiceSocket.Proofs.Closing
import ServiceSocket.Proofs.Tcp.Deadlines
import ServiceSocket.Transport

/-!
# Deadlines that cannot be set

Connections and listeners of services note a deadline only if they are open, so one that is
refused leaves those in force as they are.  A connection between hosts notes it first and then
clears the limits of its socket, which the system can refuse.
-/

namespace ServiceSocket

open Program

/-- However it fails, the object is what it was. -/
def KeepsOnFailure (p : Program (Except Error α × σ)) (object : σ) : Prop :=
  p.Returns fun result => forall error, result.1 = .error error -> result.2 = object

/-!
# Services
-/

theorem Operation.replace_keepsOnFailure (object : σ) (result : Except Error σ) :
    KeepsOnFailure (replace object result) object := by
  cases result with
  | error error => exact returns_pure fun _ _ => rfl
  | ok changed => exact returns_pure nofun

def Connection.Operation.setsDeadline : Operation -> Bool
  | .setDeadline _ | .setReadDeadline _ | .setWriteDeadline _ => true
  | _ => false

theorem Connection.setting_keepsOnFailure (c : Connection) {operation : Operation}
    (hsets : operation.setsDeadline = true)
    (patience : Nat) :
    KeepsOnFailure (c.perform operation patience) c := by
  cases operation with
  | setDeadline due => exact Operation.replace_keepsOnFailure c (c.setDeadline due)
  | setReadDeadline due => exact Operation.replace_keepsOnFailure c (c.setReadDeadline due)
  | setWriteDeadline due => exact Operation.replace_keepsOnFailure c (c.setWriteDeadline due)
  | _ => cases hsets

theorem AnyConnection.setting_service_keepsOnFailure (c : Connection) (due : Option Instant) :
    KeepsOnFailure ((service c).setDeadline due) (service c) := by
  dsimp only [setDeadline]
  cases c.setDeadline due with
  | ok changed => exact returns_pure nofun
  | error error => exact returns_pure fun _ _ => rfl

/-!
# Hosts
-/

section

variable {c : Tcp.Connection} {due : Option Instant} {events : List Event} {error : Error}
  {after : AnyConnection}

theorem Tcp.Connection.goes_of_setDeadline {result : Except Error Unit} {finish : Tcp.Connection}
    (branch : Branch (c.setDeadline due) events (.returned (result, finish))) :
    Goes c (.setDeadline due) events (.deadlineSet result) finish := by
  apply goes_of_returned
  refine branch_bind_returned.mpr ⟨events, [], (result, finish), ?_, branch, .done _⟩
  rw [List.append_nil]

def AnyConnection.deadlines : AnyConnection -> Option Instant × Option Instant
  | .service c => (c.readDeadline, c.writeDeadline)
  | .tcp c => (c.deadline, c.deadline)

/-- Clearing has failed on a limit of the socket, when the deadline was gone already. -/
structure Tcp.Connection.ForgetsDeadline (c : Connection) (due : Option Instant)
    (events : List Event) (error : Error) (after : AnyConnection) : Prop where
  due_eq : due = none
  refused : exists before side errno,
    events = before ++ [⟨.configure c.descriptor (.waitLimit side ⟨0, 0⟩), .error errno⟩] ∧
      error = .io (.os errno)
  after_eq : after = .tcp ⟨c.descriptor, none⟩

theorem AnyConnection.forgetsDeadline_of_branch
    (branch : Branch ((tcp c).setDeadline due) events (.returned (.error error, after))) :
    c.ForgetsDeadline due events error after := by
  rcases branch_bind_returned.mp branch with
    ⟨first, second, ⟨result, finish⟩, hevents, hset, hwrapped⟩
  cases hwrapped
  rw [List.append_nil] at hevents
  rw [hevents]
  have hgoes := Tcp.Connection.goes_of_setDeadline hset
  generalize hreply : Tcp.Connection.Reply.deadlineSet (.error error) = reply at hgoes
  cases hgoes with
  | set later => cases hreply
  | clear harms =>
      refine ⟨rfl, ?_, rfl⟩
      cases harms with
      | refused errno =>
          cases hreply
          exact ⟨[], .input, errno, rfl, rfl⟩
      | made answer =>
          cases answer with
          | ok _ => cases hreply
          | error errno =>
              cases hreply
              exact ⟨[_], .output, errno, rfl, rfl⟩

theorem Tcp.Connection.ForgetsDeadline.deadlines_eq_iff
    (h : c.ForgetsDeadline due events error after) :
    after.deadlines = (AnyConnection.tcp c).deadlines <-> c.deadline = none := by
  rw [h.after_eq, AnyConnection.deadlines, AnyConnection.deadlines, Prod.mk.injEq, and_self,
    eq_comm]

/-- The system can always refuse to clear a limit, so only a connection that had no deadline
cannot lose it. -/
theorem AnyConnection.setting_tcp_keepsOnFailure_iff :
    KeepsOnFailure ((tcp c).setDeadline due) (tcp c) <-> due ≠ none ∨ c.deadline = none := by
  constructor
  · intro hkeeps
    cases due with
    | some due => exact .inl nofun
    | none =>
        have refused : Branch ((tcp c).setDeadline none)
            [⟨.configure c.descriptor (.waitLimit .input ⟨0, 0⟩), .error ⟨9⟩⟩]
            (.returned (.error (.io (.os ⟨9⟩)), tcp ⟨c.descriptor, none⟩)) :=
          .call _ _ _ (.done _)
        have hkept := hkeeps _ _ refused _ rfl
        injection hkept with hkept
        exact .inr (congrArg Tcp.Connection.deadline hkept).symm
  · rintro hspared events ⟨result, finish⟩ branch error ⟨⟩
    have hforgets := forgetsDeadline_of_branch branch
    have hdeadline := hspared.resolve_left (not_not_intro hforgets.due_eq)
    rw [hforgets.after_eq, ← hdeadline]

end

/-- A deadline that cannot be set on a connection or a listener of services changes nothing.
Between hosts only clearing can fail, and it leaves the connection without the deadline that it
had. -/
theorem failed_setting_keeps_deadlines_unless_clearing (c : Connection) (l : Listener)
    (host : Tcp.Connection) (due : Option Instant) (patience : Nat) :
    (forall operation : Connection.Operation, operation.setsDeadline = true ->
      KeepsOnFailure (c.perform operation patience) c) ∧
    KeepsOnFailure (l.perform (.setDeadline due) patience) l ∧
    KeepsOnFailure ((AnyConnection.service c).setDeadline due) (.service c) ∧
    (KeepsOnFailure ((AnyConnection.tcp host).setDeadline due) (.tcp host) <->
      due ≠ none ∨ host.deadline = none) ∧
    forall events error after,
      Branch ((AnyConnection.tcp host).setDeadline due) events (.returned (.error error, after)) ->
        host.ForgetsDeadline due events error after ∧
        (after.deadlines = (AnyConnection.tcp host).deadlines <-> host.deadline = none) := by
  refine ⟨?_, ?_, ?_, ?_, ?_⟩
  · intro operation hsets
    exact c.setting_keepsOnFailure hsets patience
  · exact Operation.replace_keepsOnFailure l (l.setDeadline due)
  · exact AnyConnection.setting_service_keepsOnFailure c due
  · exact AnyConnection.setting_tcp_keepsOnFailure_iff
  · intro events error after branch
    have hforgets := AnyConnection.forgetsDeadline_of_branch branch
    exact ⟨hforgets, hforgets.deadlines_eq_iff⟩

/-- A closed connection keeps its deadlines when clearing them is refused.  Between hosts the
second of the two limits is refused, and the deadline is lost. -/
theorem failed_setting_keeps_deadlines_unless_clearing_second_limit :
    (exists (c after : Connection) (error : Error), c.readDeadline = some ⟨1⟩ ∧
      Branch (c.perform (.setReadDeadline none) 0) [] (.returned (.error error, after)) ∧
      after = c) ∧
    exists (events : List Event) (error : Error) (after : AnyConnection),
      Branch ((AnyConnection.tcp ⟨⟨5⟩, some ⟨1⟩⟩).setDeadline none) events
        (.returned (.error error, after)) ∧
      after.deadlines ≠ (AnyConnection.tcp ⟨⟨5⟩, some ⟨1⟩⟩).deadlines := by
  rcases failed_setting_keeps_deadlines_unless_clearing ⟨none, none, none, some ⟨1⟩, none⟩
    ⟨none, .ofName 1 2, none⟩ ⟨⟨5⟩, some ⟨1⟩⟩ none 0 with ⟨hservice, _, _, _, hhost⟩
  constructor
  · have refused : Branch ((Connection.mk none none none (some ⟨1⟩) none).perform
        (.setReadDeadline none) 0) [] (.returned (.error .invalidDescriptor, _)) := .done _
    exact ⟨_, _, _, rfl, refused, hservice _ rfl _ _ refused _ rfl⟩
  · have refused : Branch ((AnyConnection.tcp ⟨⟨5⟩, some ⟨1⟩⟩).setDeadline none)
        [⟨.configure ⟨5⟩ (.waitLimit .input ⟨0, 0⟩), .ok ()⟩,
          ⟨.configure ⟨5⟩ (.waitLimit .output ⟨0, 0⟩), .error ⟨9⟩⟩]
        (.returned (.error (.io (.os ⟨9⟩)), .tcp ⟨⟨5⟩, none⟩)) :=
      .call _ _ _ (.call _ _ _ (.done _))
    refine ⟨_, _, _, refused, ?_⟩
    rw [Ne, (hhost _ _ _ refused).2]
    exact nofun

/-- The system refuses to clear the limit of a connection that has a millisecond to read.  What
is read next waits without a limit, and before the failure it would have looked at the clock. -/
theorem refused_clearing_forgets_deadline :
    exists (events : List Event) (error : Error) (after : AnyConnection),
      Branch ((AnyConnection.tcp ⟨⟨5⟩, some ⟨1_000_000⟩⟩).setDeadline none) events
        (.returned (.error error, after)) ∧
      after.deadlines ≠ (AnyConnection.tcp ⟨⟨5⟩, some ⟨1_000_000⟩⟩).deadlines ∧
      Branch (after.read 4 0) [⟨.configure ⟨5⟩ (.waitLimit .input ⟨0, 0⟩), .ok ()⟩,
        ⟨.receive ⟨5⟩ 4, .ok [7]⟩] (.returned (.ok [7])) ∧
      forall events outcome,
        Branch ((AnyConnection.tcp ⟨⟨5⟩, some ⟨1_000_000⟩⟩).read 4 0) events outcome ->
        exists reading rest, events = ⟨.now, reading⟩ :: rest := by
  refine ⟨[⟨.configure ⟨5⟩ (.waitLimit .input ⟨0, 0⟩), .error ⟨9⟩⟩], .io (.os ⟨9⟩),
    .tcp ⟨⟨5⟩, none⟩, .call _ _ _ (.done _), nofun, .call _ _ _ (.call _ _ _ (.done _)), ?_⟩
  intro events outcome branch
  cases branch with
  | call _ _ reading rest => exact ⟨reading, _, rfl⟩

end ServiceSocket
