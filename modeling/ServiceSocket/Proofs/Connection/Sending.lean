import ServiceSocket.Proofs.Kernel.History
import ServiceSocket.Proofs.Readiness
import ServiceSocket.Session.Item

/-!
# The stream that a connection sends

What the system accepts of the bytes offered to it is the stream that the peer receives.
A write keeps to one invariant: the bytes accepted since its start and the bytes still to
be offered are together the bytes it was given.  So a write that fails half way leaves a
prefix of them in the stream, and one that succeeds leaves all of them.
-/

namespace ServiceSocket

/-!
# Accepted bytes
-/

def Call.isSend : Call -> Bool
  | .send _ _ _ _ => true
  | _ => false

namespace Event

def accepted : Event -> List UInt8
  | ⟨.send _ bytes _ _, .ok count⟩ => bytes.take count
  | _ => []

/-- A send accepts at most the bytes it is offered. -/
def AcceptsOffered : Event -> Prop
  | ⟨.send _ bytes _ _, .ok count⟩ => count ≤ bytes.length
  | _ => True

theorem accepted_of_not_isSend {event : Event}
    (h : event.call.isSend = false) : event.accepted = [] := by
  obtain ⟨c, answer⟩ := event
  cases c <;> first | rfl | cases h

end Event

def accepted (events : List Event) : List UInt8 :=
  events.flatMap Event.accepted

@[simp] theorem accepted_nil : accepted [] = [] := rfl

@[simp] theorem accepted_cons (event : Event) (events : List Event) :
    accepted (event :: events) = event.accepted ++ accepted events := rfl

theorem accepted_append (first second : List Event) :
    accepted (first ++ second) = accepted first ++ accepted second :=
  List.flatMap_append

/-!
# Sending in order
-/

/-- How one call deals with the bytes it is given: a prefix of them is accepted, and every
send offers just what the sends before it have left. -/
structure SendsInOrder (d : Descriptor) (bytes : List UInt8) (dontWait : Bool)
    (events : List Event) : Prop where
  accepted_isPrefix : accepted events <+: bytes
  offers : forall before event after, events = before ++ event :: after ->
    event.call.isSend = true ->
      event.call = .send d (bytes.drop (accepted before).length) true dontWait

def sending (d : Descriptor) (bytes : List UInt8) (dontWait : Bool) :
    Monitor (List UInt8) where
  step taken event after := event.AcceptsOffered ∧ after = taken ++ event.accepted
  allowed taken c :=
    c.isSend = true -> c = .send d (bytes.drop taken.length) true dontWait

section Sending

variable {d : Descriptor} {bytes taken : List UInt8} {dontWait : Bool} {events : List Event}

theorem sending_path
    (honest : forall event, event ∈ events -> event.AcceptsOffered) :
    (sending d bytes dontWait).Path taken events (taken ++ accepted events) := by
  induction events generalizing taken with
  | nil => simpa using Monitor.Path.nil taken
  | cons event events ih =>
      have hrest := @ih (taken ++ event.accepted)
        fun other hmem => honest other (List.mem_cons_of_mem _ hmem)
      rw [accepted_cons, ← List.append_assoc]
      exact .cons ⟨honest event (List.mem_cons_self ..), rfl⟩ hrest

theorem sending_of_makes {p : Program α}
    (h : p.Makes fun c => c.isSend = false) :
    p.Meets (sending d bytes dontWait) (fun _ after => after = taken)
      (fun _ after => after = taken) taken := by
  apply Program.Makes.meets (I := (· = taken)) h
  · intro s c _ hc hsend
    rw [hc] at hsend
    cases hsend
  · intro s c answer mid hs hc hmid
    rw [hmid.2, Event.accepted_of_not_isSend hc, List.append_nil, hs]
  · rfl

theorem sendsInOrder_of_meets {p : Program α} {post : α -> List UInt8 -> Prop}
    {outcome : Program.Outcome α}
    (h : p.Meets (sending d bytes dontWait) (fun _ after => after <+: bytes) post [])
    (hpost : forall value after, post value after -> after <+: bytes)
    (branch : Program.Branch p events outcome)
    (honest : forall event, event ∈ events -> event.AcceptsOffered) :
    SendsInOrder d bytes dontWait events ∧
      outcome.Ends (fun _ after => after <+: bytes) post (accepted events) := by
  rcases h.of_branch branch with ⟨hobeyed, hends⟩
  have hend := hends _ (sending_path honest)
  rw [List.nil_append] at hend
  refine ⟨⟨?_, ?_⟩, hend⟩
  · cases outcome with
    | returned value => exact hpost value _ hend
    | halted reason => exact hend
  · intro before event after hsplit hsend
    have hbefore : forall other, other ∈ before -> other.AcceptsOffered := by
      intro other hmem
      apply honest
      rw [hsplit]
      exact List.mem_append_left _ hmem
    have hcall := hobeyed before event after _ hsplit (sending_path hbefore) hsend
    rw [List.nil_append] at hcall
    exact hcall

end Sending

/-!
# One write
-/

namespace Connection

section SendAll

variable {m : Monitor σ} {halt : Halt -> σ -> Prop} {fail : Error -> σ -> Prop}
  {post : Nat -> σ -> Prop} {s : σ} {d : Descriptor} {deadline : Option Instant}

theorem sendAll_cons_meets_iff {patience sent : Nat} {b : UInt8} {rest : List UInt8} :
    (sendAll d deadline (patience + 1) sent (b :: rest)).Meets m halt fail post s <->
      (Readiness.wait d .output deadline patience).Meets m halt fail (fun _ ready =>
        m.allowed ready (.send d (b :: rest) true deadline.isSome) ∧
          forall (answer : Except Errno Nat) (offered : σ),
            m.step ready ⟨.send d (b :: rest) true deadline.isSome, answer⟩ offered ->
            match answer with
            | .ok 0 => fail (.io (.bare .writeZero)) offered
            | .ok (n + 1) =>
                (sendAll d deadline patience (sent + (n + 1)) ((b :: rest).drop (n + 1))).Meets
                  m halt fail post offered
            | .error errno =>
                if errno.kind = .interrupted ∨ errno.kind = .wouldBlock then
                  (sendAll d deadline patience sent (b :: rest)).Meets m halt fail post offered
                else fail (.ofErrno errno) offered) s := by
  simp only [sendAll, Attempt.meets_bind, Attempt.meets_lift, Descriptor.send, Program.ask,
    Program.meets_call, Program.meets_done]
  apply iff_of_eq
  congr
  funext _ ready
  apply propext
  apply and_congr_right
  intro _
  apply forall_congr'
  intro answer
  apply forall_congr'
  intro offered
  apply imp_congr_right
  intro _
  rcases answer with errno | n | n
  · dsimp only
    split <;> rfl
  · rfl
  · rfl

end SendAll

/-- The bytes accepted since the start and the bytes still to be offered are the bytes of
the call. -/
theorem sendAll_meets {d : Descriptor} {deadline : Option Instant} {bytes : List UInt8}
    (patience : Nat) {sent : Nat} {taken rest : List UInt8}
    (hbytes : taken ++ rest = bytes)
    (hsent : sent = taken.length) :
    (sendAll d deadline patience sent rest).Meets (sending d bytes deadline.isSome)
      (fun _ after => after <+: bytes) (fun _ after => after <+: bytes)
      (fun count after => after = bytes ∧ count = bytes.length) taken := by
  have hprefix : taken <+: bytes := ⟨rest, hbytes⟩
  induction patience generalizing sent taken rest with
  | zero =>
      cases rest with
      | nil =>
          rw [List.append_nil] at hbytes
          simp [sendAll, hbytes, hsent]
      | cons b rest => exact hprefix
  | succ patience ih =>
      cases rest with
      | nil =>
          rw [List.append_nil] at hbytes
          simp [sendAll, hbytes, hsent]
      | cons b rest =>
          have hrest : bytes.drop taken.length = b :: rest := by
            rw [← hbytes, List.drop_left]
          rw [sendAll_cons_meets_iff]
          have hwait : (Readiness.wait d .output deadline patience).run.Makes
              fun c => c.isSend = false :=
            Readiness.wait_makes d .output deadline patience rfl fun _ => rfl
          apply Attempt.Meets.weaken (Attempt.meets_run.mp (sending_of_makes hwait))
          · intro _ waited hwaited
            rw [hwaited]
            exact hprefix
          · intro _ waited hwaited
            rw [hwaited]
            exact hprefix
          · intro _ waited hwaited
            rw [hwaited]
            constructor
            · intro _
              rw [hrest]
            · intro answer offered hoffered
              rcases hoffered with ⟨honest, hoffered⟩
              rw [hoffered]
              rcases answer with errno | n | n
              · dsimp only [Event.accepted]
                rw [List.append_nil]
                split
                · exact ih hbytes hsent hprefix
                · exact hprefix
              · simpa [Event.accepted] using hprefix
              · have hcount : n + 1 ≤ (b :: rest).length := honest
                have hbytes' : (taken ++ (b :: rest).take (n + 1)) ++ (b :: rest).drop (n + 1) =
                    bytes := by
                  rw [List.append_assoc, List.take_append_drop, hbytes]
                apply ih hbytes' _ ⟨_, hbytes'⟩
                rw [List.length_append, List.length_take, Nat.min_eq_left hcount, hsent]

theorem write_meets {c : Connection} {d : Descriptor}
    (hopen : c.descriptor = some d)
    (bytes : List UInt8) (patience : Nat) :
    (c.write bytes patience).Meets (sending d bytes c.writeDeadline.isSome)
      (fun _ after => after <+: bytes) (fun _ after => after <+: bytes)
      (fun count after => after = bytes ∧ count = bytes.length) [] := by
  simp only [write, inContext, Attempt.meets_inContext, Attempt.meets_bind, held, hopen,
    Attempt.meets_liftExcept, Attempt.either_ok]
  exact sendAll_meets patience rfl rfl

end Connection

/-!
# Many writes
-/

namespace Session

namespace Request

def setsDeadline : Request -> Bool
  | .setDeadline _ | .setReadDeadline _ | .setWriteDeadline _ => true
  | _ => false

def isWriting : Request -> Bool
  | .write _ => true
  | request => request.setsDeadline

def payload : Request -> List UInt8
  | .write bytes => bytes
  | _ => []

end Request

theorem deadlineAt_makes {P : Call -> Prop} (offset : Option Int)
    (hnow : P .now) : (deadlineAt offset).Makes P := by
  cases offset with
  | none => trivial
  | some offset => exact ⟨hnow, fun _ _ _ => trivial⟩

theorem ask_setsDeadline_meets {c : Connection} {d : Descriptor}
    (hopen : c.descriptor = some d)
    {request : Request}
    (hsets : request.setsDeadline = true)
    (bytes : List UInt8) (dontWait : Bool) (patience : Nat) :
    ((Item.connection c).ask request patience).Meets (sending d bytes dontWait)
      (fun _ after => after = [])
      (fun result after => after = [] ∧
        exists changed, result.2 = .connection changed ∧ changed.descriptor = some d) [] := by
  have hheld : c.held = .ok d := by rw [Connection.held, hopen]
  cases request <;> try cases hsets
  all_goals
    rename_i offset
    simp only [Item.ask, Item.isShared, Item.askConnection, Connection.setDeadline,
      Connection.setReadDeadline, Connection.setWriteDeadline, hheld]
    change Program.Meets _ _ (deadlineAt offset >>= _) _ _
    rw [Program.meets_bind]
    apply Program.Meets.mono (sending_of_makes (deadlineAt_makes offset rfl))
    intro deadline after hafter
    exact ⟨hafter, _, rfl, hopen⟩

theorem ask_writing_meets {c : Connection} {d : Descriptor}
    (hopen : c.descriptor = some d)
    {request : Request}
    (hwriting : request.isWriting = true)
    (patience : Nat) :
    ((Item.connection c).ask request patience).Meets
      (sending d request.payload c.writeDeadline.isSome)
      (fun _ after => after <+: request.payload)
      (fun result after => after <+: request.payload ∧
        (exists changed, result.2 = .connection changed ∧ changed.descriptor = some d) ∧
        forall bytes, request = .write bytes -> (exists error, result.1 = .failed error) ∨
          result.1 = .number bytes.length ∧ after = bytes) [] := by
  by_cases hsets : request.setsDeadline = true
  · apply (ask_setsDeadline_meets hopen hsets _ _ patience).weaken
    · intro _ after hafter
      rw [hafter]
      exact List.nil_prefix
    · intro result after hresult
      rcases hresult with ⟨hafter, hchanged⟩
      rw [hafter]
      refine ⟨List.nil_prefix, hchanged, ?_⟩
      intro bytes hwrite
      rw [hwrite] at hsets
      cases hsets
  · cases request with
    | write bytes =>
        change Program.Meets _ _ (do
          return (Answer.ofExcept (← (c.write bytes patience).run) fun count => .number count,
            Item.connection c)) _ _
        rw [Program.meets_bind, Attempt.meets_run]
        apply (Connection.write_meets hopen bytes patience).mono
        · intro error after hafter
          exact ⟨hafter, ⟨c, rfl, hopen⟩, fun _ _ => .inl ⟨error, rfl⟩⟩
        · intro count after hcount
          rcases hcount with ⟨hafter, hlength⟩
          rw [hafter, hlength]
          refine ⟨List.prefix_rfl, ⟨c, rfl, hopen⟩, ?_⟩
          intro same hsame
          cases hsame
          exact .inr ⟨rfl, rfl⟩
    | _ => exact absurd hwriting hsets

/-- In any sequence of writes, with deadlines set, changed and cleared between them, the
stream grows by a prefix of the bytes of each write in turn, and by all of them when the
write succeeds; a call that has not come back keeps to this as well. -/
theorem writes_keep_stream {c : Connection} {d : Descriptor}
    (hopen : c.descriptor = some d)
    {patience : Nat} {turns : List (Turn Item Request Answer)} {last : Item}
    (history : History (fun item request => item.ask request patience) (.connection c) turns last)
    (inputs : forall turn, turn ∈ turns -> turn.input.isWriting = true)
    (honest : forall turn, turn ∈ turns ->
      forall event, event ∈ turn.events -> event.AcceptsOffered) :
    accepted (turns.flatMap Turn.events) = turns.flatMap (fun turn => accepted turn.events) ∧
    (forall turn, turn ∈ turns -> exists now, turn.start = .connection now ∧
      SendsInOrder d turn.input.payload now.writeDeadline.isSome turn.events ∧
      forall bytes, turn.input = .write bytes -> (exists error, turn.answer = .failed error) ∨
        turn.answer = .number bytes.length ∧ accepted turn.events = bytes) ∧
    (exists now, last = .connection now ∧ forall request events reason, request.isWriting = true ->
      Program.Branch (last.ask request patience) events (.halted reason) ->
      (forall event, event ∈ events -> event.AcceptsOffered) ->
      SendsInOrder d request.payload now.writeDeadline.isSome events) := by
  let isOpen (item : Item) : Prop :=
    exists now, item = .connection now ∧ now.descriptor = some d
  have one {now : Connection} (hnow : now.descriptor = some d) {request : Request}
      (hwriting : request.isWriting = true) {events : List Event}
      {outcome : Program.Outcome (Answer × Item)}
      (branch : Program.Branch ((Item.connection now).ask request patience) events outcome)
      (hhonest : forall event, event ∈ events -> event.AcceptsOffered) :=
    sendsInOrder_of_meets (ask_writing_meets hnow hwriting patience)
      (fun _ _ hresult => hresult.1) branch hhonest
  have hturns := history.invariant (I := isOpen)
    (P := fun turn => turn.input.isWriting = true ∧
      forall event, event ∈ turn.events -> event.AcceptsOffered)
    (fun turn hmem => ⟨inputs turn hmem, honest turn hmem⟩) (by
      intro turn hturn hfollows hstart
      rcases hstart with ⟨now, hitem, hnow⟩
      rw [Turn.Follows, hitem] at hfollows
      exact (one hnow hturn.1 hfollows hturn.2).2.2.1)
    ⟨c, rfl, hopen⟩
  refine ⟨?_, ?_, ?_⟩
  · exact List.flatMap_assoc
  · intro turn hmem
    rcases hturns.2 turn hmem with ⟨⟨now, hitem, hnow⟩, hfollows⟩
    rw [Turn.Follows, hitem] at hfollows
    rcases one hnow (inputs turn hmem) hfollows (honest turn hmem) with ⟨horder, _, _, hresult⟩
    exact ⟨now, hitem, horder, hresult⟩
  · rcases hturns.1 with ⟨now, hitem, hnow⟩
    refine ⟨now, hitem, ?_⟩
    intro request events reason hwriting branch hhonest
    rw [hitem] at branch
    exact (one hnow hwriting branch hhonest).1

/-- The peer vanishes in the middle of the first write, and the second has a deadline. -/
theorem writes_keep_stream_after_failure :
    exists (turns : List (Turn Item Request Answer)) (last : Item),
      History (fun (item : Item) (request : Request) => item.ask request 3)
        (.connection ⟨some ⟨7⟩, none, none, none, none⟩) turns last ∧
      turns.map Turn.input =
        [.write [1, 2, 3], .setWriteDeadline (some 1000), .write [4, 5]] ∧
      (forall turn, turn ∈ turns -> turn.input.isWriting = true) ∧
      (forall turn, turn ∈ turns -> forall event, event ∈ turn.events -> event.AcceptsOffered) ∧
      accepted (turns.flatMap Turn.events) = [1, 2, 4, 5] := by
  have first : Program.Branch
      ((Item.connection ⟨some ⟨7⟩, none, none, none, none⟩).ask (.write [1, 2, 3]) 3)
      [⟨.send ⟨7⟩ [1, 2, 3] true false, .ok 2⟩, ⟨.send ⟨7⟩ [3] true false, .error ⟨4⟩⟩,
        ⟨.send ⟨7⟩ [3] true false, .error ⟨32⟩⟩] (.returned (_, _)) :=
    .call _ _ _ (.call _ _ _ (.call _ _ _ (.done _)))
  have second : Program.Branch
      ((Item.connection ⟨some ⟨7⟩, none, none, none, none⟩).ask
        (.setWriteDeadline (some 1000)) 3)
      [⟨.now, ⟨5⟩⟩] (.returned (_, _)) :=
    .call _ _ _ (.done _)
  have third : Program.Branch
      ((Item.connection ⟨some ⟨7⟩, none, none, none, some ⟨1005⟩⟩).ask (.write [4, 5]) 3)
      [⟨.now, ⟨6⟩⟩, ⟨.poll ⟨7⟩ .output 1, .ok 1⟩, ⟨.send ⟨7⟩ [4, 5] true true, .ok 2⟩]
      (.returned (_, _)) :=
    .call _ _ _ (.call _ _ _ (.call _ _ _ (.done _)))
  have history : History (fun (item : Item) (request : Request) => item.ask request 3) _ _ _ :=
    .cons first (.cons second (.cons third (.nil _)))
  have hstream := writes_keep_stream rfl history
    (by simp [Request.isWriting, Request.setsDeadline]) (by simp [Event.AcceptsOffered])
  refine ⟨_, _, history, rfl, ?_, ?_, ?_⟩
  · simp [Request.isWriting, Request.setsDeadline]
  · simp [Event.AcceptsOffered]
  · rw [hstream.1]
    rfl

end Session
end ServiceSocket
