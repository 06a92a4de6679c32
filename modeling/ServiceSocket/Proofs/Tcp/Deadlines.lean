import ServiceSocket.Proofs.Deadline.Clock
import ServiceSocket.Proofs.Kernel.History
import ServiceSocket.Proofs.Kernel.Recording
import ServiceSocket.Tcp

/-!
# Deadlines between hosts

The limits of a socket stay with the system from call to call, while the deadline is the
connection's own.  What is read and sent is bounded by the deadline in force and the time
that is left of it, whatever has been set and whatever has failed before.
-/

namespace ServiceSocket

/-!
# Limits
-/

/-- A limit that ends the wait, and does so within the time left or one microsecond. -/
structure WaitLimit.Fits (limit : WaitLimit) (left : Int) : Prop where
  ends : limit ≠ ⟨0, 0⟩
  nanoseconds_le :
    ((limit.seconds * 1_000_000_000 + limit.microseconds * 1_000 : Nat) : Int) ≤ max left 1_000

def Event.limitAfter (d : Descriptor) (direction : Direction) (limit : WaitLimit) :
    Event -> WaitLimit
  | ⟨.configure other (.waitLimit side told), .ok ()⟩ =>
      if other = d ∧ side = direction then told else limit
  | _ => limit

def limitThrough (d : Descriptor) (direction : Direction) (limit : WaitLimit)
    (events : List Event) : WaitLimit :=
  events.foldl (Event.limitAfter d direction) limit

def Call.moves? : Call -> Option (Descriptor × Direction)
  | .receive d _ => some (d, .input)
  | .send d _ _ _ => some (d, .output)
  | _ => none

variable {d : Descriptor} {direction : Direction} {limit was : WaitLimit}

theorem limitThrough_set (events : List Event) :
    limitThrough d direction was
      (events ++ [⟨.configure d (.waitLimit direction limit), .ok ()⟩]) = limit := by
  rw [limitThrough, List.foldl_append]
  exact if_pos ⟨rfl, rfl⟩

namespace Tcp

def zeroLimit : IoError :=
  .message .invalidInput "cannot set a 0 duration timeout"

theorem setWaitLimit_zero : setWaitLimit d direction (some ⟨0⟩) = pure (.error zeroLimit) := rfl

theorem waitLimitOf_ne_zero (left : Duration) : waitLimitOf left ≠ ⟨0, 0⟩ := by
  intro h
  rw [waitLimitOf] at h
  split at h
  next => cases h
  next hsome =>
      injection h with hseconds hmicroseconds
      exact hsome ⟨hseconds, hmicroseconds⟩

theorem waitLimitOf_fits (left : Duration) : (waitLimitOf left).Fits left.nanoseconds where
  ends := waitLimitOf_ne_zero left
  nanoseconds_le := by
    rw [waitLimitOf]
    split
    next => exact Int.le_max_right _ _
    next =>
        have hseconds := Nat.min_le_left left.seconds 0x7fff_ffff_ffff_ffff
        have hmicroseconds := Nat.div_mul_le_self left.fraction 1_000
        have hparts := Nat.div_add_mod left.nanoseconds 1_000_000_000
        dsimp only
        rw [Duration.seconds] at hseconds ⊢
        rw [Duration.fraction] at hmicroseconds ⊢
        omega

/-- The time left is not zero, so it is not refused. -/
theorem setWaitLimit_left {reading due : Instant} {left : Duration}
    (hleft : reading.until? due = some left) :
    setWaitLimit d direction (some left) =
      Except.mapError .os <$> d.configure (.waitLimit direction (waitLimitOf left)) := by
  rcases Instant.left_of_until?_eq_some hleft with ⟨hbefore, hcount⟩
  have hsome : left.nanoseconds ≠ 0 := by omega
  exact if_neg hsome

namespace Connection

/-!
# Operations
-/

inductive Operation where
  | setDeadline (deadline : Option Instant)
  | read (limit : Nat)
  | write (bytes : List UInt8)

inductive Reply where
  | deadlineSet (result : Except Error Unit)
  | received (result : Except IoError (List UInt8))
  | sent (result : Except IoError Nat)

def perform (c : Connection) : Operation -> Program (Reply × Connection)
  | .setDeadline deadline => do
      let (result, changed) ← c.setDeadline deadline
      return (.deadlineSet result, changed)
  | .read limit => return (.received (← c.read limit), c)
  | .write bytes => return (.sent (← c.write bytes), c)

def Reply.failure? : Reply -> Option Error
  | .deadlineSet (.error error) => some error
  | .received (.error error) => some (.io error)
  | .sent (.error error) => some (.io error)
  | _ => none

namespace Reply

variable {error : IoError}

theorem failure?_deadlineSet {result : Except IoError Unit} :
    (deadlineSet (result.mapError .io)).failure? = some (.io error) <-> result = .error error := by
  cases result with
  | ok _ => exact iff_of_false nofun nofun
  | error failed =>
      show some (Error.io failed) = some (.io error) <-> _
      rw [Option.some.injEq, Error.io.injEq, Except.error.injEq]

theorem failure?_received {result : Except IoError (List UInt8)} :
    (received result).failure? = some (.io error) <-> result = .error error := by
  cases result <;> simp [failure?]

theorem failure?_sent {result : Except IoError Nat} :
    (sent result).failure? = some (.io error) <-> result = .error error := by
  cases result <;> simp [failure?]

end Reply

/-- The deadline in force after an operation; one that is asked for holds from there on,
even if clearing the socket's limits fails. -/
def Operation.deadlineAfter (deadline : Option Instant) : Operation -> Option Instant
  | .setDeadline asked => asked
  | _ => deadline

def deadlineThrough (deadline : Option Instant)
    (turns : List (Turn Connection Operation Reply)) : Option Instant :=
  (turns.map Turn.input).foldl Operation.deadlineAfter deadline

/-!
# What an operation does
-/

inductive Arms (d : Descriptor) (direction : Direction) (limit : WaitLimit)
    (event : Except Errno α -> Event) : List Event -> Except IoError α -> Prop where
  | refused (errno : Errno) :
      Arms d direction limit event [⟨.configure d (.waitLimit direction limit), .error errno⟩]
        (.error (.os errno))
  | made (answer : Except Errno α) :
      Arms d direction limit event
        [⟨.configure d (.waitLimit direction limit), .ok ()⟩, event answer]
        (answer.mapError .os)

inductive Bounded (d : Descriptor) (direction : Direction) (event : Except Errno α -> Event) :
    Option Instant -> List Event -> Except IoError α -> Prop where
  | unbounded {events : List Event} {result : Except IoError α}
      (harms : Arms d direction ⟨0, 0⟩ event events result) :
      Bounded d direction event none events result
  | late {due reading : Instant} {error : IoError}
      (hlate : due.nanoseconds ≤ reading.nanoseconds)
      (hkind : error.kind = .timedOut) :
      Bounded d direction event (some due) [⟨.now, reading⟩] (.error error)
  | inTime {due reading : Instant} {limit : WaitLimit} {events : List Event}
      {result : Except IoError α} (hreading : reading.nanoseconds < due.nanoseconds)
      (hfits : limit.Fits (due.nanoseconds - reading.nanoseconds))
      (harms : Arms d direction limit event events result) :
      Bounded d direction event (some due) (⟨.now, reading⟩ :: events) result

/-- What is recorded of an operation, what it comes to and what the connection becomes. -/
inductive Goes (c : Connection) : Operation -> List Event -> Reply -> Connection -> Prop where
  | set (due : Instant) :
      Goes c (.setDeadline (some due)) [] (.deadlineSet (.ok ())) ⟨c.descriptor, some due⟩
  | clear {events : List Event} {result : Except IoError Unit}
      (harms : Arms c.descriptor .input ⟨0, 0⟩
        (fun answer => ⟨.configure c.descriptor (.waitLimit .output ⟨0, 0⟩), answer⟩)
        events result) :
      Goes c (.setDeadline none) events (.deadlineSet (result.mapError .io)) ⟨c.descriptor, none⟩
  | read {limit : Nat} {events : List Event} {result : Except IoError (List UInt8)}
      (hbounded : Bounded c.descriptor .input
        (fun answer => ⟨.receive c.descriptor limit, answer⟩) c.deadline events result) :
      Goes c (.read limit) events (.received result) c
  | write {bytes : List UInt8} {events : List Event} {result : Except IoError Nat}
      (hbounded : Bounded c.descriptor .output
        (fun answer => ⟨.send c.descriptor bytes true false, answer⟩) c.deadline events result) :
      Goes c (.write bytes) events (.sent result) c

/-!
# One operation
-/

def limited (d : Descriptor) (direction : Direction) (body : Program (Except Errno α))
    (left : Option Duration) : Program (Except IoError α) := do
  match ← setWaitLimit d direction left with
  | .error error => return .error error
  | .ok () => Except.mapError .os <$> body

section

variable {c : Connection} {event : Except Errno α -> Event} {halt : Halt -> List Event -> Prop}
  {s : List Event} {body : Program (Except Errno α)} {post : Except IoError α -> List Event -> Prop}

theorem bounded_none :
    (Connection.mk d none).bounded direction body = limited d direction body none := rfl

theorem bounded_some (due : Instant) :
    (Connection.mk d (some due)).bounded direction body = (do
      match (← Program.now).until? due with
      | none => return .error Error.timeout.toIoError
      | some left => limited d direction body (some left)) := rfl

theorem limited_recorded {left : Option Duration}
    (hleft : setWaitLimit d direction left =
      Except.mapError .os <$> d.configure (.waitLimit direction limit))
    (hbody : body.Asks event)
    (h : forall events result, Arms d direction limit event events result ->
      post result (s ++ events)) :
    (limited d direction body left).Meets recorder halt post s := by
  rw [limited, hleft, Program.meets_bind, Program.meets_map]
  constructor
  · trivial
  · intro answer armed harmed
    have harmed : armed = s ++ [⟨.configure d (.waitLimit direction limit), answer⟩] := harmed
    rw [harmed]
    cases answer with
    | error errno => exact h _ _ (.refused errno)
    | ok _ =>
        apply Program.meets_map.mpr
        apply hbody
        intro answer
        rw [List.append_assoc]
        exact h _ _ (.made answer)

theorem bounded_recorded
    (hbody : body.Asks event)
    (h : forall events result, Bounded c.descriptor direction event c.deadline events result ->
      post result (s ++ events)) :
    (c.bounded direction body).Meets recorder halt post s := by
  rcases c with ⟨d, deadline⟩
  cases deadline with
  | none =>
      rw [bounded_none]
      apply limited_recorded rfl hbody
      intro events result harms
      exact h events result (.unbounded harms)
  | some due =>
      rw [bounded_some, Program.meets_bind]
      constructor
      · trivial
      · intro reading read hread
        have hread : read = s ++ [⟨.now, reading⟩] := hread
        rw [hread, Program.meets_done]
        cases hleft : reading.until? due with
        | none =>
            have hlate := Readiness.le_of_until?_eq_none hleft
            have hkind : Error.timeout.toIoError.kind = .timedOut := rfl
            exact h _ _ (.late hlate hkind)
        | some left =>
            rcases Instant.left_of_until?_eq_some hleft with ⟨hbefore, hcount⟩
            have hfits := hcount ▸ waitLimitOf_fits left
            apply limited_recorded (setWaitLimit_left hleft) hbody
            intro events result harms
            rw [List.append_assoc]
            exact h _ _ (.inTime hbefore hfits harms)

end

section

variable {c : Connection} {operation : Operation} {events : List Event} {reply : Reply}
  {finish : Connection}

theorem setDeadline_none :
    c.setDeadline none = (fun result => (Except.mapError .io result, ⟨c.descriptor, none⟩)) <$>
      limited c.descriptor .input
        (c.descriptor.configure (.waitLimit .output ⟨0, 0⟩)) none := by
  rw [limited, map_bind, setDeadline]
  apply bind_congr
  intro result
  cases result <;> rfl

theorem perform_recorded {halt : Halt -> List Event -> Prop} :
    (c.perform operation).Meets recorder halt
      (fun result events => Goes c operation events result.1 result.2) [] := by
  cases operation with
  | setDeadline deadline =>
      cases deadline with
      | some due => exact .set due
      | none =>
          rw [perform, setDeadline_none, Program.meets_bind, Program.meets_map]
          apply limited_recorded rfl (Program.asks_ask _)
          intro events result harms
          exact .clear harms
  | read limit =>
      rw [perform, Program.meets_bind]
      apply bounded_recorded (Program.asks_ask (.receive c.descriptor limit))
      intro events result hbounded
      exact .read hbounded
  | write bytes =>
      rw [perform, Program.meets_bind]
      apply bounded_recorded (Program.asks_ask (.send c.descriptor bytes true false))
      intro events result hbounded
      exact .write hbounded

theorem perform_goes {outcome : Program.Outcome (Reply × Connection)}
    (branch : Program.Branch (c.perform operation) events outcome) :
    exists reply finish, outcome = .returned (reply, finish) ∧
      Goes c operation events reply finish := by
  have hgoes : outcome.Ends (fun _ _ => False)
      (fun result events => Goes c operation events result.1 result.2) events :=
    perform_recorded.recorded branch
  cases outcome with
  | returned result => exact ⟨result.1, result.2, rfl, hgoes⟩
  | halted reason => exact hgoes.elim

theorem Goes.finish_eq
    (h : Goes c operation events reply finish) :
    finish = ⟨c.descriptor, operation.deadlineAfter c.deadline⟩ := by
  cases h <;> rfl

end

/-!
# Limits in force
-/

section

variable {event : Except Errno α -> Event} {events first rest : List Event} {moved : Event}
  {result : Except IoError α} {deadline : Option Instant}

theorem Arms.ne_zeroLimit
    (h : Arms d direction limit event events result) :
    result ≠ .error zeroLimit := by
  intro hresult
  cases h with
  | refused errno => cases hresult
  | made answer => cases answer <;> cases hresult

theorem Bounded.ne_zeroLimit
    (h : Bounded d direction event deadline events result) :
    result ≠ .error zeroLimit := by
  intro hresult
  cases h with
  | unbounded harms => exact harms.ne_zeroLimit hresult
  | late _ hkind =>
      injection hresult with herror
      rw [herror] at hkind
      cases hkind
  | inTime _ _ harms => exact harms.ne_zeroLimit hresult

theorem split_behind {head : Event}
    (hevents : head :: events = first ++ moved :: rest)
    (hhead : head.call.moves? = none)
    (hmoves : moved.call.moves? ≠ none) :
    exists front, first = head :: front ∧ events = front ++ moved :: rest := by
  cases first with
  | nil =>
      injection hevents with hmoved _
      rw [← hmoved] at hmoves
      exact absurd hhead hmoves
  | cons other front =>
      injection hevents with hother hfront
      rw [hother]
      exact ⟨front, rfl, hfront⟩

theorem Arms.moves
    (h : Arms d direction limit event events result)
    (hevents : events = first ++ moved :: rest)
    (hmoves : moved.call.moves? ≠ none) :
    first = [⟨.configure d (.waitLimit direction limit), .ok ()⟩] ∧
      exists answer, moved = event answer := by
  cases h with
  | refused errno =>
      rcases split_behind hevents rfl hmoves with ⟨front, _, hfront⟩
      simp at hfront
  | made answer =>
      rcases split_behind hevents rfl hmoves with ⟨front, hfirst, hfront⟩
      rcases List.singleton_eq_append_iff.mp hfront with ⟨hnil, hmoved⟩ | ⟨_, hnone⟩
      · rw [hfirst, hnil]
        exact ⟨rfl, answer, (List.cons.inj hmoved).1⟩
      · cases hnone

/-- The limit under which bytes are moved is the one that the deadline asks for: none
without a deadline, and else one that fits the time left of it when the clock was read. -/
inductive Suits (first : List Event) (limit : WaitLimit) : Option Instant -> Prop where
  | unbounded (hlimit : limit = ⟨0, 0⟩) : Suits first limit none
  | bounded {due reading : Instant}
      (hread : ⟨.now, reading⟩ ∈ first)
      (hreading : reading.nanoseconds < due.nanoseconds)
      (hfits : limit.Fits (due.nanoseconds - reading.nanoseconds)) : Suits first limit (some due)

theorem Arms.limitThrough_eq {other : Descriptor} {side : Direction}
    (h : Arms d direction limit event events result)
    (before : List Event)
    (hevent : forall answer, (event answer).call.moves? = some (d, direction))
    (hevents : events = first ++ moved :: rest)
    (hmoves : moved.call.moves? = some (other, side)) :
    limitThrough other side was (before ++ first) = limit := by
  rcases h.moves hevents (by simp [hmoves]) with ⟨hfirst, answer, hmoved⟩
  rw [hmoved, hevent] at hmoves
  cases hmoves
  rw [hfirst]
  exact limitThrough_set before

theorem Bounded.suits {other : Descriptor} {side : Direction} {before : List Event}
    (h : Bounded d direction event deadline events result)
    (hevent : forall answer, (event answer).call.moves? = some (d, direction))
    (hevents : events = first ++ moved :: rest)
    (hmoves : moved.call.moves? = some (other, side)) :
    Suits first (limitThrough other side was (before ++ first)) deadline := by
  cases h with
  | unbounded harms => exact .unbounded (harms.limitThrough_eq before hevent hevents hmoves)
  | late _ _ =>
      rcases split_behind hevents rfl (by simp [hmoves]) with ⟨front, _, hfront⟩
      simp at hfront
  | @inTime due reading limit events result hreading hfits harms =>
      rcases split_behind hevents rfl (by simp [hmoves]) with ⟨front, hfirst, hfront⟩
      -- The clock was read before the limit was set, so the reading is among the first events.
      have hlimit : limitThrough other side was (before ++ [⟨.now, reading⟩] ++ front) = limit :=
        harms.limitThrough_eq (before ++ [⟨.now, reading⟩]) hevent hfront hmoves
      rw [List.append_assoc, List.singleton_append, ← hfirst] at hlimit
      rw [hlimit, hfirst]
      exact .bounded List.mem_cons_self hreading hfits

end

/-!
# Every sequence of operations
-/

section

variable {c last : Connection} {operation : Operation} {events : List Event} {reply : Reply}
  {finish : Connection} {turns before after : List (Turn Connection Operation Reply)}
  {turn : Turn Connection Operation Reply}

theorem Goes.accepted
    (h : Goes c operation events reply finish) :
    reply.failure? ≠ some (.io zeroLimit) := by
  cases h with
  | set due => exact nofun
  | clear harms =>
      rw [Ne, Reply.failure?_deadlineSet]
      exact harms.ne_zeroLimit
  | read hbounded =>
      rw [Ne, Reply.failure?_received]
      exact hbounded.ne_zeroLimit
  | write hbounded =>
      rw [Ne, Reply.failure?_sent]
      exact hbounded.ne_zeroLimit

theorem Goes.suits {first rest before : List Event} {moved : Event}
    (h : Goes c operation events reply finish)
    (hevents : events = first ++ moved :: rest)
    (hmoves : moved.call.moves? = some (d, direction)) :
    Suits first (limitThrough d direction was (before ++ first)) c.deadline := by
  cases h with
  | set due => simp at hevents
  | clear harms =>
      rcases harms.moves hevents (by simp [hmoves]) with ⟨_, answer, hmoved⟩
      rw [hmoved] at hmoves
      cases hmoves
  | read hbounded => exact hbounded.suits (fun _ => rfl) hevents hmoves
  | write hbounded => exact hbounded.suits (fun _ => rfl) hevents hmoves

theorem goes_of_returned
    (branch : Program.Branch (c.perform operation) events (.returned (reply, finish))) :
    Goes c operation events reply finish := by
  rcases perform_goes branch with ⟨_, _, houtcome, hgoes⟩
  cases houtcome
  exact hgoes

theorem last_eq
    (history : History perform c turns last) :
    last = ⟨c.descriptor, deadlineThrough c.deadline turns⟩ := by
  induction history with
  | nil c => rfl
  | @cons c mid last operation events reply turns first rest ih =>
      rw [ih, (goes_of_returned first).finish_eq]
      rfl

structure Keeps (c : Connection) (before : List (Turn Connection Operation Reply))
    (turn : Turn Connection Operation Reply) : Prop where
  start_eq : turn.start = ⟨c.descriptor, deadlineThrough c.deadline before⟩
  goes : Goes turn.start turn.input turn.events turn.answer turn.finish
  /-- It does not fail as setting a limit of no time at all does. -/
  accepted : forall direction refusal,
    setWaitLimit c.descriptor direction (some ⟨0⟩) = pure (.error refusal) ->
    turn.answer.failure? ≠ some (.io refusal)
  /-- Whatever limit the socket had at first, bytes are moved under one of this call. -/
  suits : forall was first moved rest d direction, turn.events = first ++ moved :: rest ->
    moved.call.moves? = some (d, direction) ->
    Suits first (limitThrough d direction was (before.flatMap Turn.events ++ first))
      turn.start.deadline

/-- Every operation comes to its end, and in every sequence of them the deadline that was
asked for last bounds each call that moves bytes by the time left of it. -/
theorem deadline_bounds_every_call :
    (forall {c : Connection} {operation : Operation} {events : List Event}
      {outcome : Program.Outcome (Reply × Connection)},
      Program.Branch (c.perform operation) events outcome ->
      exists reply finish, outcome = .returned (reply, finish)) ∧
    (forall {c last : Connection} {before after : List (Turn Connection Operation Reply)}
      {turn : Turn Connection Operation Reply},
      History perform c (before ++ turn :: after) last -> Keeps c before turn) := by
  constructor
  · intro c operation events outcome branch
    rcases perform_goes branch with ⟨reply, finish, houtcome, _⟩
    exact ⟨reply, finish, houtcome⟩
  · intro c last before after turn history
    rcases history.split with ⟨hbefore, hfollows, _⟩
    have hgoes := goes_of_returned hfollows
    constructor
    · exact last_eq hbefore
    · exact hgoes
    · intro direction refusal hrefusal
      rw [setWaitLimit_zero] at hrefusal
      cases hrefusal
      exact hgoes.accepted
    · intro was first moved rest d direction hevents hmoves
      exact hgoes.suits hevents hmoves

/-- Half a microsecond is left at the second read, whose limit is a microsecond and not the
millisecond of the first.  Then clearing the deadline fails, and so does arming a write. -/
theorem deadline_bounds_every_call_below_microsecond :
    exists (before after : List (Turn Connection Operation Reply))
      (turn : Turn Connection Operation Reply) (last : Connection),
      History perform ⟨⟨5⟩, none⟩ (before ++ turn :: after) last ∧
      turn.events = [⟨.now, ⟨2_000_000⟩⟩, ⟨.configure ⟨5⟩ (.waitLimit .input ⟨0, 1⟩), .ok ()⟩,
        ⟨.receive ⟨5⟩ 4, .ok [7]⟩] ∧
      (forall was, Suits (turn.events.take 2)
        (limitThrough ⟨5⟩ .input was (before.flatMap Turn.events ++ turn.events.take 2))
        (some ⟨2_000_500⟩)) ∧
      after.map Turn.input = [.setDeadline none] ∧
      exists events outcome, Program.Branch (last.perform (.write [1])) events outcome ∧
        exists reply finish, outcome = .returned (reply, finish) := by
  have history : History perform ⟨⟨5⟩, none⟩
      ([⟨_, .setDeadline (some ⟨2_000_500⟩), [], _, _⟩,
        ⟨_, .read 4, [⟨.now, ⟨1_000_000⟩⟩,
          ⟨.configure ⟨5⟩ (.waitLimit .input ⟨0, 1000⟩), .ok ()⟩,
          ⟨.receive ⟨5⟩ 4, .error ⟨11⟩⟩], _, _⟩] ++
        ⟨_, .read 4, [⟨.now, ⟨2_000_000⟩⟩,
          ⟨.configure ⟨5⟩ (.waitLimit .input ⟨0, 1⟩), .ok ()⟩,
          ⟨.receive ⟨5⟩ 4, .ok [7]⟩], _, _⟩ ::
        [⟨_, .setDeadline none,
          [⟨.configure ⟨5⟩ (.waitLimit .input ⟨0, 0⟩), .error ⟨9⟩⟩], _, _⟩]) ⟨⟨5⟩, none⟩ :=
    .cons (.done _) (.cons (.call _ _ _ (.call _ _ _ (.call _ _ _ (.done _))))
      (.cons (.call _ _ _ (.call _ _ _ (.call _ _ _ (.done _))))
        (.cons (.call _ _ _ (.done _)) (.nil _))))
  have branch : Program.Branch ((Connection.mk ⟨5⟩ none).perform (.write [1]))
      [⟨.configure ⟨5⟩ (.waitLimit .output ⟨0, 0⟩), .error ⟨9⟩⟩] (.returned (_, _)) :=
    .call _ _ _ (.done _)
  have hkeeps := deadline_bounds_every_call.2 history
  refine ⟨_, _, _, _, history, rfl, ?_, rfl, _, _, branch, deadline_bounds_every_call.1 branch⟩
  intro was
  exact hkeeps.suits was [_, _] _ [] ⟨5⟩ .input rfl rfl

end

end Connection
end Tcp
end ServiceSocket
