import ServiceSocket.Proofs.Connection.Sending
import ServiceSocket.Proofs.Kernel.Queue
import ServiceSocket.Proofs.Readiness.Taking

/-!
# The stream that a connection receives

What the peer sends waits with the system until it is asked for.  A read asks at most once,
and all that it is given goes to the caller.  So a read that fails has taken nothing, and the
next one goes on where the last one has stopped.
-/

namespace ServiceSocket

open Program

/-!
# Received bytes
-/

def Call.isReceive : Call -> Bool
  | .receive _ _ => true
  | _ => false

def Event.received : Event -> List UInt8
  | ⟨.receive _ _, .ok bytes⟩ => bytes
  | _ => []

def received (events : List Event) : List UInt8 :=
  events.flatMap Event.received

theorem Event.received_of_not_isReceive {event : Event}
    (h : event.call.isReceive = false) : event.received = [] := by
  rcases event with ⟨c, answer⟩
  cases c <;> first | rfl | cases h

theorem Readiness.IsWaiting.not_isReceive {d : Descriptor} {direction : Direction} {event : Event}
    (h : IsWaiting d direction event) : event.call.isReceive = false := by
  cases h <;> rfl

theorem received_of_makes {p : Program α}
    (h : p.Makes fun c => c.isReceive = false) :
    p.Meets recorder (fun _ events => received events = []) (fun _ events => received events = [])
      [] :=
  h.flatMap_eq_nil fun _ => Event.received_of_not_isReceive

/-!
# One read
-/

namespace Connection

variable {c : Connection} {limit patience : Nat} {events : List Event}

def Reads (c : Connection) (limit patience : Nat) :
    List Event -> Outcome (Except Error (List UInt8)) -> Prop :=
  Readiness.Takes c.descriptor .input c.readDeadline patience
    fun d answer => ⟨.receive d limit, answer⟩

theorem reads_of_branch {outcome : Outcome (Except Error (List UInt8))}
    (branch : Branch (c.read limit patience).run events outcome) :
    c.Reads limit patience events outcome := by
  refine Readiness.takes_of_branch ?_ (fun d => asks_ask (.receive d limit)) branch
  rw [held]
  cases c.descriptor <;> rfl

theorem Reads.received_eq {outcome : Outcome (Except Error (List UInt8))}
    (h : c.Reads limit patience events outcome) :
    received events = outcome.value?.getD [] := by
  have htaken : events.flatMap Event.received = outcome.value?.elim [] id :=
    Readiness.Takes.flatMap_eq
      (fun _ _ hplace => Event.received_of_not_isReceive hplace.not_isReceive) (fun _ _ => rfl)
      (fun _ _ => rfl) h
  rw [received, htaken]
  cases outcome.value? <;> rfl

end Connection

/-!
# Many reads
-/

namespace Session

def Answer.delivered : Answer -> List UInt8
  | .bytes value => value
  | _ => []

theorem Answer.delivered_eq_nil {answer : Answer}
    (h : forall bytes, answer ≠ .bytes bytes) : answer.delivered = [] := by
  cases answer with
  | bytes value => exact absurd rfl (h value)
  | _ => rfl

theorem delivered_ofUnit (result : Except Error Unit) : (Answer.ofUnit result).delivered = [] := by
  cases result <;> rfl

def Item.service? : Item -> Option Connection
  | .connection c | .anyConnection (.service c) => some c
  | _ => none

namespace Request

/-- How many bytes a request to read asks for. -/
def limit? : Request -> Option Nat
  | .read limit | .anyRead limit => some limit
  | _ => none

def isReading : Request -> Bool
  | .read _ | .anyRead _ | .anySetDeadline _ | .close | .anyClose => true
  | request => request.setsDeadline

end Request

/-- A read asks for bytes at most once, of its own descriptor, for as many as the caller has
room for, and after that it does nothing more.  It does so only when there is no deadline or
when the socket has been found ready. -/
structure ReadsOnce (c : Connection) (limit patience : Nat) (events : List Event)
    (answer : Answer) : Prop where
  receives : forall before event after, events = before ++ event :: after ->
    event.call.isReceive = true -> after = [] ∧ exists d, c.descriptor = some d ∧
      event.call = .receive d limit ∧
      Readiness.Waits d .input patience c.readDeadline before (.returned (.ok ()))
  delivers : forall bytes, answer = .bytes bytes <->
    exists before d, events = before ++ [⟨.receive d limit, .ok bytes⟩]
  received_eq : received events = answer.delivered

section

variable {c : Connection} {item : Item} {limit patience : Nat} {events : List Event}

structure TellsBytes (answer : Except Error (List UInt8) -> Answer) : Prop where
  ok : forall bytes, answer (.ok bytes) = .bytes bytes
  error : forall error bytes, answer (.error error) ≠ .bytes bytes

theorem readsOnce_of_reads {answer : Except Error (List UInt8) -> Answer}
    (htells : TellsBytes answer)
    {result : Except Error (List UInt8)}
    (h : c.Reads limit patience events (.returned result)) :
    ReadsOnce c limit patience events (answer result) where
  receives := by
    intro before event after hevents hreceive
    have hplace (d : Descriptor) : ¬ Readiness.IsWaiting d .input event := by
      intro hwaiting
      rw [hwaiting.not_isReceive] at hreceive
      cases hreceive
    rcases h.places hevents hplace with ⟨hafter, d, told, hopen, hevent, hwaits, _⟩
    rw [hevent]
    exact ⟨hafter, d, hopen, rfl, hwaits⟩
  delivers := by
    intro bytes
    constructor
    · intro hbytes
      cases h with
      | closed | unready | refused => exact absurd hbytes (htells.error _ bytes)
      | @taken d waited hopen hwaits value =>
          rw [htells.ok] at hbytes
          cases hbytes
          exact ⟨waited, d, rfl⟩
    -- The call that has given the bytes is the one that is made.
    · intro hend
      rcases hend with ⟨before, d, hevents⟩
      have hplace (other : Descriptor) :
          ¬ Readiness.IsWaiting other .input ⟨.receive d limit, .ok bytes⟩ := by
        intro hwaiting
        cases hwaiting
      rcases h.places hevents hplace with ⟨_, d, told, _, hevent, _, hvalue⟩
      cases hevent
      have hresult := hvalue bytes rfl
      cases hresult
      exact htells.ok bytes
  received_eq := by
    rw [h.received_eq]
    cases result with
    | error error => exact (Answer.delivered_eq_nil (htells.error error)).symm
    | ok bytes =>
        rw [htells.ok]
        rfl

/-- How a request to read, to change a deadline or to close goes. -/
structure Reading (c : Connection) (request : Request) (patience : Nat) (result : Answer × Item)
    (events : List Event) : Prop where
  goesOn : exists now, result.2.service? = some now
  received_eq : received events = result.1.delivered
  readsOnce : forall limit, request.limit? = some limit ->
    ReadsOnce c limit patience events result.1

theorem read_recorded {answer : Except Error (List UInt8) -> Answer}
    (htells : TellsBytes answer)
    (hservice : item.service? = some c)
    (request : Request)
    (hlimit : request.limit? = some limit)
    (patience : Nat) :
    Program.Meets recorder (fun _ events => received events = []) (do
      return (answer (← (c.read limit patience).run), item))
      (Reading c request patience) [] := by
  have reading {events : List Event} {result : Except Error (List UInt8)}
      (h : c.Reads limit patience events (.returned result)) :
      Reading c request patience (answer result, item) events := by
    have honce := readsOnce_of_reads htells h
    refine ⟨⟨c, hservice⟩, honce.received_eq, ?_⟩
    intro other hother
    rw [hlimit] at hother
    cases hother
    exact honce
  rw [Program.meets_bind, Attempt.meets_run]
  apply (Attempt.recorded fun _ _ => Connection.reads_of_branch).weaken
  · intro reason after hend
    rcases hend with ⟨events, hafter, hreads⟩
    rw [hafter]
    exact hreads.received_eq
  · intro error after hend
    rcases hend with ⟨events, hafter, hreads⟩
    rw [hafter]
    exact reading hreads
  · intro bytes after hend
    rcases hend with ⟨events, hafter, hreads⟩
    rw [hafter]
    exact reading hreads

theorem reading_of_limit?_eq_none {request : Request}
    (hlimit : request.limit? = none)
    {answer : Answer}
    (hitem : exists now, item.service? = some now)
    (hreceived : received events = [])
    (hanswer : answer.delivered = []) :
    Reading c request patience (answer, item) events where
  goesOn := hitem
  received_eq := hreceived.trans hanswer.symm
  readsOnce := by
    intro limit hsome
    rw [hlimit] at hsome
    cases hsome

theorem setsDeadline_recorded {item : Item}
    (hservice : item.service? = some c)
    {request : Request}
    (hlimit : request.limit? = none)
    (offset : Option Int) (change : Option Instant -> Except Error Connection) :
    Program.Meets recorder (fun _ events => received events = []) (do
      item.replace (change (← deadlineAt offset)) .connection)
      (Reading c request patience) [] := by
  rw [Program.meets_bind]
  apply (received_of_makes (deadlineAt_makes offset rfl)).mono
  intro due events hreceived
  cases change due with
  | ok changed => exact reading_of_limit?_eq_none hlimit ⟨changed, rfl⟩ hreceived rfl
  | error error => exact reading_of_limit?_eq_none hlimit ⟨c, hservice⟩ hreceived rfl

theorem close_recorded {wrap : Connection -> Item}
    (hwrap : forall now, (wrap now).service? = some now)
    (c : Connection) (request : Request)
    (hlimit : request.limit? = none)
    (patience : Nat) :
    Program.Meets recorder (fun _ events => received events = []) (do
      let (result, closed) ← c.close
      return (.ofUnit result, wrap closed))
      (Reading c request patience) [] := by
  unfold Connection.close
  cases c.descriptor with
  | none => exact reading_of_limit?_eq_none hlimit ⟨_, hwrap _⟩ rfl (delivered_ofUnit _)
  | some d =>
      apply Monitor.allowed_and_iff.mpr
      rintro answer after ⟨⟩
      exact reading_of_limit?_eq_none hlimit ⟨_, hwrap _⟩ rfl (delivered_ofUnit _)

theorem reading_missing {item : Item}
    (hservice : item.service? = some c)
    (request : Request) :
    Reading c request patience (.missing, item) [] where
  goesOn := ⟨c, hservice⟩
  received_eq := rfl
  readsOnce := by
    intro limit _
    constructor
    · intro before event after hevents
      simp at hevents
    · intro bytes
      constructor
      · intro hbytes
        cases hbytes
      · intro hend
        rcases hend with ⟨before, d, hevents⟩
        simp at hevents
    · rfl

theorem tellsBytes_ofExcept : TellsBytes fun result => Answer.ofExcept result .bytes where
  ok _ := rfl
  error _ _ h := by cases h

theorem tellsBytes_ofIo :
    TellsBytes fun result => Answer.ofIo (result.mapError Error.toIoError) .bytes where
  ok _ := rfl
  error _ _ h := by cases h

theorem askConnection_recorded {request : Request}
    (hreading : request.isReading = true) :
    (Item.askConnection c request patience).Meets recorder (fun _ events => received events = [])
      (Reading c request patience) [] := by
  cases request with
  | read limit => exact read_recorded tellsBytes_ofExcept rfl _ rfl patience
  | setDeadline offset => exact setsDeadline_recorded rfl rfl offset c.setDeadline
  | setReadDeadline offset => exact setsDeadline_recorded rfl rfl offset c.setReadDeadline
  | setWriteDeadline offset => exact setsDeadline_recorded rfl rfl offset c.setWriteDeadline
  | close => exact close_recorded (fun _ => rfl) c _ rfl patience
  -- A request for a connection of any network is not one for this kind of item.
  | anyRead | anySetDeadline | anyClose => exact reading_missing rfl _
  | _ => cases hreading

theorem askAnyConnection_recorded {wrap : AnyConnection -> Item}
    (hwrap : forall now, (wrap (.service now)).service? = some now)
    {request : Request}
    (hreading : request.isReading = true) :
    (Item.askAnyConnection (.service c) wrap request patience).Meets recorder
      (fun _ events => received events = []) (Reading c request patience) [] := by
  cases request with
  | anyRead limit =>
      have hread := read_recorded tellsBytes_ofIo (hwrap c) (.anyRead limit) rfl patience
      rw [Program.meets_bind] at hread
      change Program.Meets _ _ (Except.mapError Error.toIoError <$> (c.read limit patience).run
        >>= _) _ _
      rw [Program.meets_bind, Program.meets_map]
      exact hread
  | anySetDeadline offset =>
      change Program.Meets _ _ (deadlineAt offset >>= _) _ _
      rw [Program.meets_bind]
      apply (received_of_makes (deadlineAt_makes offset rfl)).mono
      intro due events hreceived
      have hlimit : (Request.anySetDeadline offset).limit? = none := rfl
      dsimp only [AnyConnection.setDeadline]
      cases c.setDeadline due with
      | ok changed =>
          exact reading_of_limit?_eq_none hlimit ⟨_, hwrap changed⟩ hreceived (delivered_ofUnit _)
      | error error =>
          exact reading_of_limit?_eq_none hlimit ⟨_, hwrap c⟩ hreceived (delivered_ofUnit _)
  | anyClose =>
      have hclose := close_recorded hwrap c .anyClose rfl patience
      change Program.Meets _ _ ((c.close >>= _) >>= _) _ _
      rw [LawfulMonad.bind_assoc]
      exact hclose
  | read | setDeadline | setReadDeadline | setWriteDeadline | close =>
      exact reading_missing (hwrap c) _
  | _ => cases hreading

theorem ask_recorded
    (hservice : item.service? = some c)
    {request : Request}
    (hreading : request.isReading = true) :
    (item.ask request patience).Meets recorder (fun _ events => received events = [])
      (Reading c request patience) [] := by
  cases item with
  | connection now =>
      cases hservice
      change Program.Meets _ _ (if _ then _ else _) _ _
      split
      next => exact askAnyConnection_recorded (fun _ => rfl) hreading
      next => exact askConnection_recorded hreading
  | anyConnection now =>
      cases now with
      | service now =>
          cases hservice
          exact askAnyConnection_recorded (fun _ => rfl) hreading
      | tcp now => cases hservice
  | _ => cases hservice

end

/-- In any sequence of reads, with deadlines set, changed and cleared between them, what the
reads have delivered is the front of what the peer has sent, and all the rest is still waiting.
Each read asks at most once, and only a read that is given bytes delivers them or takes any; a
read that has not come back has taken nothing. -/
theorem reads_keep_stream {item : Item} {c : Connection}
    (hservice : item.service? = some c)
    {patience : Nat} {turns : List (Turn Item Request Answer)} {last : Item}
    (history : History (fun item request => item.ask request patience) item turns last)
    (inputs : forall turn, turn ∈ turns -> turn.input.isReading = true) :
    (forall turn, turn ∈ turns -> exists now, turn.start.service? = some now ∧ forall limit,
      turn.input.limit? = some limit ->
      ReadsOnce now limit patience turn.events turn.answer) ∧
    (forall supply queue,
      (Queue.serving Event.received).Path (.untouched supply) (turns.flatMap Turn.events) queue ->
      queue.supplied = turns.flatMap (fun turn => turn.answer.delivered) ++ queue.waiting) ∧
    (forall request events reason, request.isReading = true ->
      Branch (last.ask request patience) events (.halted reason) -> received events = []) := by
  have reading {item : Item} {c : Connection} (hservice : item.service? = some c)
      {request : Request} (hreading : request.isReading = true) {events : List Event}
      {result : Answer × Item}
      (branch : Branch (item.ask request patience) events (.returned result)) :
      Reading c request patience result events :=
    (ask_recorded hservice hreading).recorded branch
  have hturns := history.invariant
    (I := fun item => exists now, item.service? = some now) inputs (by
    intro turn hreading hfollows hend
    rcases hend with ⟨now, hnow⟩
    exact (reading hnow hreading hfollows).goesOn) ⟨c, hservice⟩
  refine ⟨?_, ?_, ?_⟩
  · intro turn hmem
    rcases hturns.2 turn hmem with ⟨⟨now, hnow⟩, hfollows⟩
    exact ⟨now, hnow, (reading hnow (inputs turn hmem) hfollows).readsOnce⟩
  · intro supply queue path
    rw [Queue.supplied_of_untouched path, List.flatMap_assoc]
    congr 1
    apply List.flatMap_congr
    intro turn hmem
    rcases hturns.2 turn hmem with ⟨⟨now, hnow⟩, hfollows⟩
    exact (reading hnow (inputs turn hmem) hfollows).received_eq
  · intro request events reason hreading branch
    rcases hturns.1 with ⟨now, hnow⟩
    exact (ask_recorded hnow hreading).recorded branch

/-- A read times out, one is answered with a failure, and those that succeed go on in turn. -/
theorem reads_keep_stream_between_failures :
    exists (turns : List (Turn Item Request Answer)) (last : Item) (queue : Queue UInt8),
      History (fun (item : Item) (request : Request) => item.ask request 3)
        (.connection ⟨some ⟨7⟩, none, none, none, none⟩) turns last ∧
      turns.map Turn.input =
        [.setReadDeadline (some 1000), .read 2, .setReadDeadline none, .anyRead 2, .read 4,
          .read 4] ∧
      (forall turn, turn ∈ turns -> turn.input.isReading = true) ∧
      (Queue.serving Event.received).Path (.untouched [1, 2, 3, 4])
        (turns.flatMap Turn.events) queue ∧
      turns.flatMap (fun turn => turn.answer.delivered) = [1, 2, 3] ∧ queue.waiting = [4] ∧
      queue.supplied = [1, 2, 3] ++ [4] := by
  have first : Branch
      ((Item.connection ⟨some ⟨7⟩, none, none, none, none⟩).ask (.setReadDeadline (some 1000)) 3)
      [⟨.now, ⟨5⟩⟩] (.returned (_, _)) :=
    .call _ _ _ (.done _)
  have second : Branch
      ((Item.connection ⟨some ⟨7⟩, none, none, some ⟨1005⟩, none⟩).ask (.read 2) 3)
      [⟨.now, ⟨6⟩⟩, ⟨.poll ⟨7⟩ .input 1, .ok 0⟩, ⟨.now, ⟨2000⟩⟩] (.returned (_, _)) :=
    .call _ _ _ (.call _ _ _ (.call _ _ _ (.done _)))
  have third : Branch
      ((Item.connection ⟨some ⟨7⟩, none, none, some ⟨1005⟩, none⟩).ask (.setReadDeadline none) 3)
      [] (.returned (_, _)) :=
    .done _
  have fourth : Branch
      ((Item.connection ⟨some ⟨7⟩, none, none, none, none⟩).ask (.anyRead 2) 3)
      [⟨.receive ⟨7⟩ 2, .ok [1, 2]⟩] (.returned (_, _)) :=
    .call _ _ _ (.done _)
  have fifth : Branch
      ((Item.connection ⟨some ⟨7⟩, none, none, none, none⟩).ask (.read 4) 3)
      [⟨.receive ⟨7⟩ 4, .error ⟨4⟩⟩] (.returned (_, _)) :=
    .call _ _ _ (.done _)
  have sixth : Branch
      ((Item.connection ⟨some ⟨7⟩, none, none, none, none⟩).ask (.read 4) 3)
      [⟨.receive ⟨7⟩ 4, .ok [3]⟩] (.returned (_, _)) :=
    .call _ _ _ (.done _)
  have history : History (fun (item : Item) (request : Request) => item.ask request 3) _ _ _ :=
    .cons first (.cons second (.cons third (.cons fourth (.cons fifth (.cons sixth (.nil _))))))
  have hstream := reads_keep_stream rfl history (by simp [Request.isReading, Request.setsDeadline])
  refine ⟨_, _, ⟨_, [4]⟩, history, rfl, ?_, Queue.path_of_waiting_eq rfl, rfl, rfl, ?_⟩
  · simp [Request.isReading, Request.setsDeadline]
  · exact hstream.2.1 _ _ (Queue.path_of_waiting_eq rfl)

end Session
end ServiceSocket
