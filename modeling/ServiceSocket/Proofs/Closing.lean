import ServiceSocket.Proofs.Failure.Layers
import ServiceSocket.Proofs.Kernel.History
import ServiceSocket.Proofs.Kernel.Monitor
import ServiceSocket.Proofs.Operation
import ServiceSocket.Session.Script

/-!
# Closed for good

Nothing but closing closes a connection or a listener, and closing always does, also when
the system reports a failure.  From then on whatever is asked of it fails at once: no call
is made, and nothing about the object changes any more.
-/

namespace ServiceSocket

open Program

structure Error.TellsClosed (error : Error) : Prop where
  cause_eq : error.cause = .invalidDescriptor
  kind_eq : error.toIoError.kind = .notConnected

theorem Error.tellsClosed_of_cause {error : Error}
    (h : error.cause = .invalidDescriptor) : error.TellsClosed where
  cause_eq := h
  kind_eq := by rw [kind_toIoError, kind, h]

/-!
# Objects that can be closed
-/

section Closable

variable {step : σ -> ι -> Program (Except Error Reply × σ)} {closing : ι}
  {handle : σ -> Option Descriptor} {shut : σ -> σ} {addresses : σ -> τ} {s last : σ}
  {turns : List (Turn σ ι (Except Error Reply))}

/-- Whatever is asked fails at once, without a call and without a change. -/
def IsDead (step : σ -> ι -> Program (Except Error Reply × σ)) (s : σ) : Prop :=
  forall input, exists error : Error, step s input = pure (.error error, s) ∧ error.TellsClosed

/-- What makes an object closable: only closing takes its handle, closing leaves all else as
it is, and an object without a handle is dead. -/
structure Closable (step : σ -> ι -> Program (Except Error Reply × σ)) (closing : ι)
    (handle : σ -> Option Descriptor) (shut : σ -> σ) (addresses : σ -> τ) : Prop where
  keeps : forall s input, input ≠ closing ->
    (step s input).Returns fun result => handle result.2 = handle s
  shuts : forall s, (step s closing).Returns fun result => result.2 = shut s
  handle_shut : forall s, handle (shut s) = none
  dead : forall s, handle s = none -> IsDead step s
  addresses_eq : forall s input, (step s input).Returns fun result =>
    addresses result.2 = addresses s

/-- How a closable object lives through its turns. -/
structure LivesUntilClosed (step : σ -> ι -> Program (Except Error Reply × σ)) (closing : ι)
    (handle : σ -> Option Descriptor) (shut : σ -> σ) (addresses : σ -> τ) (s : σ)
    (turns : List (Turn σ ι (Except Error Reply))) (last : σ) : Prop where
  /-- Until it is closed it keeps its handle. -/
  keeps : (forall turn, turn ∈ turns -> turn.input ≠ closing) -> handle last = handle s
  /-- Once closed it stays as closing has left it. -/
  dies : forall before turn after, turns = before ++ turn :: after -> turn.input = closing ->
    last = shut turn.start ∧ handle last = none ∧ IsDead step last ∧
      forall later, later ∈ after -> later.start = last ∧ later.finish = last ∧ later.events = [] ∧
        exists error : Error, later.answer = .error error ∧ error.TellsClosed
  addresses_eq : addresses last = addresses s

theorem IsDead.turn
    (h : IsDead step s)
    {input : ι} {events : List Event} {answer : Except Error Reply} {finish : σ}
    (branch : Branch (step s input) events (.returned (answer, finish))) :
    finish = s ∧ events = [] ∧ exists error : Error, answer = .error error ∧ error.TellsClosed := by
  rcases h input with ⟨error, hstep, htells⟩
  rw [hstep] at branch
  cases branch
  exact ⟨rfl, rfl, error, rfl, htells⟩

theorem IsDead.history
    (h : IsDead step s)
    (history : History step s turns last) :
    last = s ∧ forall turn, turn ∈ turns -> turn.start = s ∧ turn.finish = s ∧ turn.events = [] ∧
      exists error : Error, turn.answer = .error error ∧ error.TellsClosed := by
  have hstep (turn : Turn σ ι (Except Error Reply)) (_ : True) (hfollows : turn.Follows step)
      (hstart : turn.start = s) : turn.finish = s := by
    rw [Turn.Follows, hstart] at hfollows
    exact (h.turn hfollows).1
  rcases history.invariant (I := (· = s)) (fun _ _ => trivial) hstep rfl with ⟨hlast, hturns⟩
  refine ⟨hlast, ?_⟩
  intro turn hmem
  rcases hturns turn hmem with ⟨hstart, hfollows⟩
  rw [Turn.Follows, hstart] at hfollows
  exact ⟨hstart, h.turn hfollows⟩

namespace Closable

theorem handle_eq
    (h : Closable step closing handle shut addresses)
    (history : History step s turns last)
    (hinputs : forall turn, turn ∈ turns -> turn.input ≠ closing) :
    handle last = handle s := by
  have hstep (turn : Turn σ ι (Except Error Reply)) (hinput : turn.input ≠ closing)
      (hfollows : turn.Follows step) (hstart : handle turn.start = handle s) :
      handle turn.finish = handle s :=
    (h.keeps turn.start turn.input hinput _ _ hfollows).trans hstart
  exact (history.invariant (I := fun now => handle now = handle s) hinputs hstep rfl).1

theorem addresses_last
    (h : Closable step closing handle shut addresses)
    (history : History step s turns last) :
    addresses last = addresses s := by
  have hstep (turn : Turn σ ι (Except Error Reply)) (_ : True) (hfollows : turn.Follows step)
      (hstart : addresses turn.start = addresses s) : addresses turn.finish = addresses s :=
    (h.addresses_eq turn.start turn.input _ _ hfollows).trans hstart
  exact (history.invariant (I := fun now => addresses now = addresses s)
    (fun _ _ => trivial) hstep rfl).1

/-- The turn that closes leaves a dead object, and the turns behind it change nothing. -/
theorem dies
    (h : Closable step closing handle shut addresses)
    {before after : List (Turn σ ι (Except Error Reply))} {turn : Turn σ ι (Except Error Reply)}
    (history : History step s (before ++ turn :: after) last)
    (hinput : turn.input = closing) :
    last = shut turn.start ∧ handle last = none ∧ IsDead step last ∧
      forall later, later ∈ after -> later.start = last ∧ later.finish = last ∧ later.events = [] ∧
        exists error : Error, later.answer = .error error ∧ error.TellsClosed := by
  rcases history.split with ⟨_, hfollows, hrest⟩
  rw [Turn.Follows, hinput] at hfollows
  have hshut : turn.finish = shut turn.start := h.shuts turn.start _ _ hfollows
  rw [hshut] at hrest
  have hdead := h.dead (shut turn.start) (h.handle_shut turn.start)
  rcases hdead.history hrest with ⟨hlast, hafter⟩
  rw [hlast]
  exact ⟨rfl, h.handle_shut turn.start, hdead, hafter⟩

theorem livesUntilClosed
    (h : Closable step closing handle shut addresses)
    (history : History step s turns last) :
    LivesUntilClosed step closing handle shut addresses s turns last where
  keeps := h.handle_eq history
  dies := by
    intro before turn after hturns hinput
    rw [hturns] at history
    exact h.dies history hinput
  addresses_eq := h.addresses_last history

end Closable

theorem LivesUntilClosed.handle_eq_none_iff
    (h : LivesUntilClosed step closing handle shut addresses s turns last) :
    handle last = none <-> handle s = none ∨ exists turn, turn ∈ turns ∧ turn.input = closing := by
  by_cases hclosed : exists turn, turn ∈ turns ∧ turn.input = closing
  · rcases hclosed with ⟨turn, hmem, hinput⟩
    rcases List.append_of_mem hmem with ⟨before, after, hturns⟩
    have hlast := (h.dies before turn after hturns hinput).2.1
    exact iff_of_true hlast (.inr ⟨turn, hmem, hinput⟩)
  · have hinputs : forall turn, turn ∈ turns -> turn.input ≠ closing := by
      intro turn hmem hinput
      exact hclosed ⟨turn, hmem, hinput⟩
    rw [h.keeps hinputs, or_iff_left hclosed]

end Closable

/-!
# Connections and listeners
-/

namespace Operation

variable {object : σ}

theorem keep_returns (body : Attempt α) (reply : α -> Reply) {P : σ -> Prop}
    (hobject : P object) :
    (keep object body reply).Returns fun result => P result.2 :=
  returns_bind fun _ => returns_pure hobject

theorem replace_held_returns {changed : σ} {held : Except Error Descriptor}
    {P : Except Error Reply × σ -> Prop}
    (hchanged : P (.ok .done, changed))
    (hobject : forall error, P (.error error, object)) :
    (replace object (do let _ ← held; return changed)).Returns P := by
  cases held with
  | error error => exact returns_pure (hobject error)
  | ok d => exact returns_pure hchanged

end Operation

namespace Connection

def shut (c : Connection) : Connection :=
  { c with descriptor := none }

def addresses (c : Connection) : Option Address × Option Address :=
  (c.localAddress, c.remoteAddress)

theorem close_returns (c : Connection) : c.close.Returns fun result => result.2 = c.shut := by
  unfold close
  cases hopen : c.descriptor with
  | none =>
      apply returns_pure
      rw [shut, ← hopen]
  | some d =>
      apply returns_bind
      intro result
      exact returns_pure rfl

theorem perform_returns (c : Connection) {P : Connection -> Prop}
    (hc : P c)
    (hdeadlines : forall read write, P { c with readDeadline := read, writeDeadline := write })
    {operation : Operation}
    (hclose : operation = .close -> P c.shut)
    (patience : Nat) :
    (c.perform operation patience).Returns fun result => P result.2 := by
  cases operation with
  | copyFrom source => exact returns_bind fun _ => returns_pure hc
  | setDeadline deadline =>
      exact Operation.replace_held_returns (hdeadlines deadline deadline) fun _ => hc
  | setReadDeadline deadline =>
      exact Operation.replace_held_returns (hdeadlines deadline c.writeDeadline) fun _ => hc
  | setWriteDeadline deadline =>
      exact Operation.replace_held_returns (hdeadlines c.readDeadline deadline) fun _ => hc
  | close =>
      refine (close_returns c).bind ?_
      intro result hresult
      exact returns_pure (hresult ▸ hclose rfl)
  | _ => exact Operation.keep_returns _ _ hc

theorem isDead (patience : Nat) {c : Connection}
    (hclosed : c.descriptor = none) :
    IsDead (fun c operation => perform c operation patience) c := by
  intro operation
  rcases c with ⟨descriptor, near, far, read, write⟩
  cases hclosed
  cases operation <;> exact ⟨_, rfl, Error.tellsClosed_of_cause rfl⟩

theorem closable (patience : Nat) :
    Closable (fun c operation => perform c operation patience) .close descriptor shut
      addresses where
  keeps c operation hoperation :=
    c.perform_returns (P := fun now => now.descriptor = c.descriptor) rfl (fun _ _ => rfl)
      (fun hclose => absurd hclose hoperation) patience
  shuts c := by
    refine (close_returns c).bind ?_
    intro result hresult
    exact returns_pure hresult
  handle_shut _ := rfl
  dead c hclosed := isDead patience hclosed
  addresses_eq c operation :=
    c.perform_returns (P := fun now => now.addresses = c.addresses) rfl (fun _ _ => rfl)
      (fun _ => rfl) patience

end Connection

namespace Listener

def shut (l : Listener) : Listener :=
  { l with descriptor := none }

theorem close_returns (l : Listener) : l.close.Returns fun result => result.2 = l.shut := by
  unfold close
  cases hopen : l.descriptor with
  | none =>
      apply returns_pure
      rw [shut, ← hopen]
  | some d =>
      apply returns_bind
      intro result
      exact returns_pure rfl

theorem perform_returns (l : Listener) {P : Listener -> Prop}
    (hl : P l)
    (hdeadline : forall deadline, P { l with deadline })
    {operation : Operation}
    (hclose : operation = .close -> P l.shut)
    (patience : Nat) :
    (l.perform operation patience).Returns fun result => P result.2 := by
  cases operation with
  | setDeadline deadline =>
      exact Operation.replace_held_returns (hdeadline deadline) fun _ => hl
  | close =>
      refine (close_returns l).bind ?_
      intro result hresult
      exact returns_pure (hresult ▸ hclose rfl)
  | _ => exact Operation.keep_returns _ _ hl

theorem isDead (patience : Nat) {l : Listener}
    (hclosed : l.descriptor = none) :
    IsDead (fun l operation => perform l operation patience) l := by
  intro operation
  rcases l with ⟨descriptor, address, deadline⟩
  cases hclosed
  cases operation <;> exact ⟨_, rfl, Error.tellsClosed_of_cause rfl⟩

theorem closable (patience : Nat) :
    Closable (fun l operation => perform l operation patience) .close descriptor shut
      address where
  keeps l operation hoperation :=
    l.perform_returns (P := fun now => now.descriptor = l.descriptor) rfl (fun _ => rfl)
      (fun hclose => absurd hclose hoperation) patience
  shuts l := by
    refine (close_returns l).bind ?_
    intro result hresult
    exact returns_pure hresult
  handle_shut _ := rfl
  dead l hclosed := isDead patience hclosed
  addresses_eq l operation :=
    l.perform_returns (P := fun now => now.address = l.address) rfl (fun _ => rfl)
      (fun _ => rfl) patience

end Listener

/-- Connections and listeners stay open until they are closed, and closed after that; their
addresses stay the same throughout.  The number that stands for a closed listener is -1. -/
theorem closed_for_good :
    (forall {patience : Nat} {c last : Connection}
      {turns : List (Turn Connection Connection.Operation (Except Error Reply))},
      History (fun c operation => c.perform operation patience) c turns last ->
      LivesUntilClosed (fun c operation => c.perform operation patience) .close
        Connection.descriptor Connection.shut Connection.addresses c turns last ∧
      (last.isOpen = false <->
        c.isOpen = false ∨ exists turn, turn ∈ turns ∧ turn.input = .close)) ∧
    (forall {patience : Nat} {l last : Listener}
      {turns : List (Turn Listener Listener.Operation (Except Error Reply))},
      History (fun l operation => l.perform operation patience) l turns last ->
      LivesUntilClosed (fun l operation => l.perform operation patience) .close
        Listener.descriptor Listener.shut Listener.address l turns last ∧
      ((exists turn, turn ∈ turns ∧ turn.input = .close) -> forall stage : Session.Stage,
        stage.showDescriptor (.descriptor last.descriptor) = .number (-1))) := by
  constructor
  · intro patience c last turns history
    have hlives := (Connection.closable patience).livesUntilClosed history
    refine ⟨hlives, ?_⟩
    rw [Connection.isOpen, Connection.isOpen, Option.isSome_eq_false_iff,
      Option.isSome_eq_false_iff, Option.isNone_iff_eq_none, Option.isNone_iff_eq_none]
    exact hlives.handle_eq_none_iff
  · intro patience l last turns history
    have hlives := (Listener.closable patience).livesUntilClosed history
    refine ⟨hlives, ?_⟩
    intro hclosed stage
    rw [hlives.handle_eq_none_iff.mpr (.inr hclosed)]
    rfl

/-- The system reports a failure of closing, and nothing that follows reaches it: neither a
write of no bytes nor closing again, neither accepting nor a second descriptor. -/
theorem closed_for_good_after_failure :
    (exists (turns : List (Turn Connection Connection.Operation (Except Error Reply)))
        (last : Connection),
      History (fun (c : Connection) operation => c.perform operation 3)
        ⟨some ⟨7⟩, none, some (.ofName 1 2), none, none⟩ turns last ∧
      turns.map Turn.input =
        [.read 4, .setReadDeadline (some ⟨5⟩), .close, .write [], .close] ∧
      last.isOpen = false ∧
      forall turn, turn ∈ turns.drop 3 -> turn.finish = last ∧ turn.events = []) ∧
    (exists (turns : List (Turn Listener Listener.Operation (Except Error Reply)))
        (last : Listener),
      History (fun (l : Listener) operation => l.perform operation 3)
        ⟨some ⟨7⟩, .ofName 1 2, none⟩ turns last ∧
      turns.map Turn.input = [.close, .accept, .duplicate] ∧
      (forall turn, turn ∈ turns.drop 1 -> turn.finish = last ∧ turn.events = []) ∧
      forall stage : Session.Stage,
        stage.showDescriptor (.descriptor last.descriptor) = .number (-1)) := by
  constructor
  · have history : History (fun (c : Connection) operation => c.perform operation 3)
        ⟨some ⟨7⟩, none, some (.ofName 1 2), none, none⟩
        [⟨_, .read 4, [⟨.receive ⟨7⟩ 4, .error ⟨104⟩⟩], _, _⟩,
          ⟨_, .setReadDeadline (some ⟨5⟩), [], _, _⟩,
          ⟨_, .close, [⟨.close ⟨7⟩, .error ⟨5⟩⟩], _, _⟩,
          ⟨_, .write [], [], _, _⟩, ⟨_, .close, [], _, _⟩] _ :=
      .cons (.call _ _ _ (.done _)) (.cons (.done _) (.cons (.call _ _ _ (.done _))
        (.cons (.done _) (.cons (.done _) (.nil _)))))
    rcases closed_for_good.1 history with ⟨hlives, hopen⟩
    refine ⟨_, _, history, rfl, ?_, ?_⟩
    · exact hopen.mpr (.inr ⟨_, List.mem_of_getElem? (i := 2) rfl, rfl⟩)
    · intro turn hmem
      have hlater := (hlives.dies [_, _] _ [_, _] rfl rfl).2.2.2 turn hmem
      exact ⟨hlater.2.1, hlater.2.2.1⟩
  · have history : History (fun (l : Listener) operation => l.perform operation 3)
        ⟨some ⟨7⟩, .ofName 1 2, none⟩
        [⟨_, .close, [⟨.close ⟨7⟩, .error ⟨5⟩⟩], _, _⟩, ⟨_, .accept, [], _, _⟩,
          ⟨_, .duplicate, [], _, _⟩] _ :=
      .cons (.call _ _ _ (.done _)) (.cons (.done _) (.cons (.done _) (.nil _)))
    rcases closed_for_good.2 history with ⟨hlives, hnumber⟩
    refine ⟨_, _, history, rfl, ?_, ?_⟩
    · intro turn hmem
      have hlater := (hlives.dies [] _ [_, _] rfl rfl).2.2.2 turn hmem
      exact ⟨hlater.2.1, hlater.2.2.1⟩
    · exact hnumber ⟨_, List.mem_cons_self .., rfl⟩

end ServiceSocket
