import ServiceSocket.Connection
import ServiceSocket.Proofs.Connection.Sending
import ServiceSocket.Proofs.Failure.Causes

/-!
# Copying a source without repeating a byte

A copy repeats a write only if the write reports an interruption, and by then the write may
have sent some of its bytes.  But no write ever reports one: it takes care of interruptions
itself.  So each piece of the source is written once, and what the system has accepted is
always a prefix of what the source has delivered.
-/

namespace ServiceSocket

open Program

/-!
# What a source delivers
-/

namespace Source

/-- The bytes that a source gives before it ends, whatever reads fail on the way. -/
def content : Source -> List UInt8
  | [] => []
  | .error _ :: rest => content rest
  | .ok [] :: _ => []
  | .ok (b :: piece) :: rest => b :: piece ++ content rest

/-- The first read before the end that fails and is not merely interrupted. -/
def failure? : Source -> Option IoError
  | [] => none
  | .error error :: rest => if error.kind = .interrupted then failure? rest else some error
  | .ok [] :: _ => none
  | .ok (_ :: _) :: rest => failure? rest

theorem content_cons_ok {chunk : List UInt8}
    (hchunk : chunk ≠ [])
    (rest : Source) :
    content (.ok chunk :: rest) = chunk ++ content rest := by
  cases chunk with
  | nil => exact absurd rfl hchunk
  | cons b piece => rfl

theorem failure?_cons_ok {chunk : List UInt8}
    (hchunk : chunk ≠ [])
    (rest : Source) :
    failure? (.ok chunk :: rest) = failure? rest := by
  cases chunk with
  | nil => exact absurd rfl hchunk
  | cons b piece => rfl

theorem read_cases {size : Nat}
    (hsize : 0 < size)
    (source : Source) :
    (exists error rest, source.read size = (.error error, rest) ∧ source.content = rest.content ∧
      source.failure? = if error.kind = .interrupted then rest.failure? else some error) ∨
    (exists rest, source.read size = (.ok [], rest) ∧ source.content = [] ∧
      source.failure? = none) ∨
    (exists b piece rest, source.read size = (.ok (b :: piece), rest) ∧
      source.content = b :: piece ++ rest.content ∧ source.failure? = rest.failure?) := by
  rcases source with _ | ⟨error | _ | ⟨b, piece⟩, rest⟩
  · exact .inr (.inl ⟨[], rfl, rfl, rfl⟩)
  · exact .inl ⟨error, rest, rfl, rfl, rfl⟩
  · exact .inr (.inl ⟨rest, rfl, rfl, rfl⟩)
  · right
    right
    by_cases hfits : (b :: piece).length ≤ size
    · exact ⟨b, piece, rest, if_pos hfits, rfl, rfl⟩
    · obtain ⟨n, hn⟩ : exists n, size = n + 1 := ⟨size - 1, by omega⟩
      have hdrop : (b :: piece).drop size ≠ [] := by
        intro hnil
        exact hfits (List.drop_eq_nil_iff.mp hnil)
      refine ⟨b, piece.take n, .ok ((b :: piece).drop size) :: rest, ?_, ?_, ?_⟩
      · rw [read, if_neg hfits, hn]
        rfl
      · rw [content_cons_ok hdrop, hn, ← List.append_assoc]
        change _ = (b :: (piece.take n ++ piece.drop n)) ++ _
        rw [List.take_append_drop]
        rfl
      · rw [failure?_cons_ok hdrop]
        rfl

end Source

/-!
# A write never reports an interruption
-/

namespace Connection

variable {c : Connection} {d : Descriptor} {events : List Event} {patience : Nat}

theorem sendAll_not_interrupted (d : Descriptor) (deadline : Option Instant)
    (patience sent : Nat) (bytes : List UInt8) :
    (sendAll d deadline patience sent bytes).FailsWith fun error => error.kind ≠ .interrupted := by
  induction patience generalizing sent bytes with
  | zero =>
      cases bytes with
      | nil => exact Attempt.failsWith_pure
      | cons b rest => exact Attempt.failsWith_halt _
  | succ patience ih =>
      cases bytes with
      | nil => exact Attempt.failsWith_pure
      | cons b rest =>
          apply (Readiness.wait_failsWith nofun (fun _ hkind => hkind) _ _ _ _).bind
          intro _
          apply (Attempt.failsWith_lift _).bind
          intro answer
          rcases answer with errno | n | n
          · dsimp only
            split
            next => exact ih sent (b :: rest)
            next hkind =>
                exact Attempt.failsWith_throw fun hinterrupted => hkind (.inl hinterrupted)
          · exact Attempt.failsWith_throw nofun
          · exact ih _ _

theorem write_not_interrupted {bytes : List UInt8} {error : Error}
    (branch : Branch (c.write bytes patience).run events (.returned (.error error))) :
    error.toIoError.kind ≠ .interrupted := by
  have hwrite : (c.write bytes patience).FailsWith fun error => error.kind ≠ .interrupted := by
    apply Attempt.FailsWith.inContext
    rw [held]
    cases c.descriptor with
    | none =>
        apply Attempt.failsWith_throw
        intro hkind
        cases hkind
    | some d => exact sendAll_not_interrupted d c.writeDeadline patience 0 bytes
  rw [Error.kind_toIoError]
  exact hwrite.of_branch branch

/-!
# Writing a piece
-/

theorem write_accepted
    (hopen : c.descriptor = some d)
    {bytes : List UInt8} {result : Except Error Nat}
    (branch : Branch (c.write bytes patience).run events (.returned result))
    (honest : forall event, event ∈ events -> event.AcceptsOffered) :
    accepted events <+: bytes ∧
      forall count, result = .ok count -> accepted events = bytes ∧ count = bytes.length := by
  have hstarts : forall (result : Except Error Nat) after,
      Attempt.either (fun _ after => after <+: bytes)
        (fun count after => after = bytes ∧ count = bytes.length) result after ->
      after <+: bytes := by
    intro result after hafter
    cases result with
    | error error => exact hafter
    | ok count => exact hafter.1 ▸ List.prefix_rfl
  rcases sendsInOrder_of_meets (write_meets hopen bytes patience) hstarts branch honest with
    ⟨horder, hend⟩
  refine ⟨horder.accepted_isPrefix, ?_⟩
  rintro count rfl
  exact hend

def EndsInWrite (c : Connection) (events : List Event) (error : Error) : Prop :=
  exists before bytes patience during, events = before ++ during ∧
    Branch (c.write bytes patience).run during (.returned (.error error))

theorem EndsInWrite.append {error : Error}
    (h : c.EndsInWrite events error)
    (first : List Event) :
    c.EndsInWrite (first ++ events) error := by
  rcases h with ⟨before, bytes, patience, during, hevents, hwrite⟩
  refine ⟨first ++ before, bytes, patience, during, ?_, hwrite⟩
  rw [hevents, List.append_assoc]

theorem writeAll_branch
    (hopen : c.descriptor = some d)
    {bytes : List UInt8} {result : Except IoError Unit}
    (branch : Branch (c.writeAll patience bytes) events (.returned result))
    (honest : forall event, event ∈ events -> event.AcceptsOffered) :
    (result = .ok () ∧ accepted events = bytes) ∨
      exists error, result = .error error.toIoError ∧ accepted events <+: bytes ∧
        c.EndsInWrite events error := by
  cases bytes with
  | nil =>
      have hdone : c.writeAll patience [] = pure (.ok ()) := by cases patience <;> rfl
      rw [hdone] at branch
      cases branch
      exact .inl ⟨rfl, rfl⟩
  | cons b rest =>
      cases patience with
      | zero => cases branch
      | succ patience =>
          rcases branch_bind_returned.mp branch with
            ⟨first, second, written, hevents, hwrite, hafter⟩
          have hfirst : forall event, event ∈ first -> event.AcceptsOffered := by
            intro event hmem
            apply honest
            rw [hevents]
            exact List.mem_append_left _ hmem
          rcases write_accepted hopen hwrite hfirst with ⟨hstarts, hall⟩
          rcases written with error | n
          · have hkind : ¬ error.toIoError.kind = .interrupted := write_not_interrupted hwrite
            dsimp only at hafter
            rw [if_neg hkind] at hafter
            cases hafter
            rw [List.append_nil] at hevents
            rw [hevents]
            exact .inr ⟨error, rfl, hstarts, ⟨[], b :: rest, patience, first, rfl, hwrite⟩⟩
          · rcases hall n rfl with ⟨haccepted, hcount⟩
            obtain ⟨k, hk⟩ : exists k, n = k + 1 := ⟨rest.length, hcount⟩
            have hdone : c.writeAll patience ((b :: rest).drop n) = pure (.ok ()) := by
              rw [hcount, List.drop_length]
              cases patience <;> rfl
            rw [hk] at hafter hdone
            change Branch (c.writeAll patience ((b :: rest).drop (k + 1))) _ _ at hafter
            rw [hdone] at hafter
            cases hafter
            rw [List.append_nil] at hevents
            rw [hevents]
            exact .inl ⟨rfl, haccepted⟩

/-!
# Copying all pieces
-/

/-- The whole content of the source is in the stream, and its end was found. -/
structure Copied (source : Source) (events : List Event) : Prop where
  accepted_eq : accepted events = source.content
  failure?_eq : source.failure? = none

/-- The copy has come to a failure: what is in the stream is a prefix of what was taken from
the source, and the failure is that of the source or of the write that came last. -/
structure CutShort (c : Connection) (source rest : Source) (failed : IoError)
    (events : List Event) : Prop where
  delivers : exists delivered, source.content = delivered ++ rest.content ∧
    accepted events <+: delivered
  blames : source.failure? = some failed ∨
    exists error, c.EndsInWrite events error ∧ failed = error.toIoError

section Copying

variable {source mid rest : Source} {failed : IoError} {piece : List UInt8}
  {first second : List Event}

theorem Copied.of_piece
    (h : Copied mid second)
    (hcontent : source.content = piece ++ mid.content)
    (hfailure : source.failure? = mid.failure?)
    (hfirst : accepted first = piece) :
    Copied source (first ++ second) where
  accepted_eq := by rw [accepted_append, hfirst, h.accepted_eq, hcontent]
  failure?_eq := hfailure.trans h.failure?_eq

theorem CutShort.of_piece
    (h : CutShort c mid rest failed second)
    (hcontent : source.content = piece ++ mid.content)
    (hfailure : source.failure? = mid.failure?)
    (hfirst : accepted first = piece) :
    CutShort c source rest failed (first ++ second) := by
  rcases h with ⟨⟨delivered, hdelivered, hstarts⟩, hblames⟩
  refine ⟨⟨piece ++ delivered, ?_, ?_⟩, ?_⟩
  · rw [hcontent, hdelivered, List.append_assoc]
  · rw [accepted_append, hfirst]
    exact (List.prefix_append_right_inj piece).mpr hstarts
  · rcases hblames with hsource | ⟨error, hwrite, herror⟩
    · exact .inl (hfailure.trans hsource)
    · exact .inr ⟨error, hwrite.append first, herror⟩

/-- The invariant of the copy: the pieces written so far and the content still in the source
are the content that the source had. -/
theorem copyAll_branch
    (hopen : c.descriptor = some d)
    {copied : Nat} {result : Except IoError Nat}
    (branch : Branch (c.copyAll patience copied source) events (.returned (result, rest)))
    (honest : forall event, event ∈ events -> event.AcceptsOffered) :
    (result = .ok (copied + source.content.length) ∧ Copied source events) ∨
      exists failed, result = .error failed ∧ CutShort c source rest failed events := by
  induction patience generalizing copied source events with
  | zero => cases branch
  | succ patience ih =>
      unfold copyAll at branch
      have hbuffer : 0 < copyBuffer := by decide
      rcases source.read_cases hbuffer with
        ⟨error, mid, hread, hcontent, hfailure⟩ | ⟨mid, hread, hcontent, hfailure⟩ |
        ⟨b, piece, mid, hread, hcontent, hfailure⟩
      · rw [hread] at branch
        dsimp only at branch
        by_cases hkind : error.kind = .interrupted
        · rw [if_pos hkind] at branch hfailure
          have hnone : accepted [] = [] := rfl
          rcases ih branch honest with ⟨hresult, hmid⟩ | ⟨failed, hresult, hmid⟩
          · exact .inl ⟨hcontent ▸ hresult, hmid.of_piece hcontent hfailure hnone⟩
          · exact .inr ⟨failed, hresult, hmid.of_piece hcontent hfailure hnone⟩
        · rw [if_neg hkind] at branch hfailure
          cases branch
          exact .inr ⟨error, rfl, ⟨[], hcontent, List.prefix_rfl⟩, .inl hfailure⟩
      · rw [hread] at branch
        cases branch
        rw [hcontent]
        exact .inl ⟨rfl, hcontent.symm, hfailure⟩
      · rw [hread] at branch
        rcases branch_bind_returned.mp branch with
          ⟨first, second, written, hevents, hwrite, hafter⟩
        rw [hevents] at honest ⊢
        rcases writeAll_branch hopen hwrite
          (fun event hmem => honest event (List.mem_append_left _ hmem)) with
          ⟨hwritten, hfirst⟩ | ⟨error, hwritten, hstarts, hlast⟩
        · rw [hwritten] at hafter
          rcases ih hafter (fun event hmem => honest event (List.mem_append_right _ hmem)) with
            ⟨hresult, hmid⟩ | ⟨failed, hresult, hmid⟩
          · refine .inl ⟨?_, hmid.of_piece hcontent hfailure hfirst⟩
            rw [hresult, hcontent, List.length_append, Nat.add_assoc]
          · exact .inr ⟨failed, hresult, hmid.of_piece hcontent hfailure hfirst⟩
        · rw [hwritten] at hafter
          cases hafter
          rw [List.append_nil]
          exact .inr ⟨_, rfl, ⟨b :: piece, hcontent, hstarts⟩, .inr ⟨error, hlast, rfl⟩⟩

end Copying

theorem copyFrom_of_closed
    (hclosed : c.descriptor = none)
    (source : Source) (patience : Nat) :
    c.copyFrom source patience =
      pure (.error (.inContext "readfrom" Network.tipc c.remoteAddress .invalidDescriptor),
        source) := by
  rw [copyFrom, held, hclosed]

theorem copyFrom_of_open
    (hopen : c.descriptor = some d)
    (source : Source) (patience : Nat) :
    c.copyFrom source patience = do
      let (result, rest) ← c.copyAll patience 0 source
      return (result.mapError fun failed =>
        .inContext "readfrom" Network.tipc c.remoteAddress (.io failed), rest) := by
  rw [copyFrom, held, hopen]

/-- A copy that succeeds has sent the content of the source once, and one that fails has sent a
prefix of what the source has delivered and fails as the source or the last write did.  No
write reports an interruption, after which it would be repeated, and a closed connection
leaves the source unread. -/
theorem copy_sends_each_byte_once
    (hopen : c.descriptor = some d)
    {source rest : Source} {result : Except Error Nat}
    (branch : Branch (c.copyFrom source patience) events (.returned (result, rest)))
    (honest : forall event, event ∈ events -> event.AcceptsOffered) :
    (forall count, result = .ok count -> count = source.content.length ∧
      accepted events = source.content ∧ source.failure? = none) ∧
    (forall error, result = .error error ->
      (exists delivered, source.content = delivered ++ rest.content ∧
        accepted events <+: delivered) ∧
      exists failed, error = .op "readfrom" "tipc" (Address.describe c.remoteAddress) (.io failed) ∧
        (source.failure? = some failed ∧ error.toIoError.kind = failed.kind ∧
            error.isTimeout = (failed.kind == .timedOut) ∨
          exists written, c.EndsInWrite events written ∧ failed = written.toIoError ∧
            error.toIoError.kind = written.toIoError.kind ∧
            error.isTimeout = written.isTimeout)) ∧
    (forall (other : Connection) bytes patience events error,
      Branch (other.write bytes patience).run events (.returned (.error error)) ->
        error.toIoError.kind ≠ .interrupted) ∧
    (forall closed : Connection, closed.descriptor = none -> forall source patience,
      closed.copyFrom source patience = pure
        (.error (.op "readfrom" "tipc" (Address.describe closed.remoteAddress)
          .invalidDescriptor), source)) := by
  rw [copyFrom_of_open hopen] at branch
  rcases branch_bind_returned.mp branch with ⟨first, second, ⟨copied, left⟩, hevents, hcopy, hafter⟩
  cases hafter
  rw [List.append_nil] at hevents
  rw [hevents] at honest ⊢
  refine ⟨?_, ?_, ?_, ?_⟩
  · intro count hresult
    rcases copyAll_branch hopen hcopy honest with ⟨hcopied, hall⟩ | ⟨failed, hcopied, hcut⟩
    · rw [hcopied] at hresult
      cases hresult
      exact ⟨Nat.zero_add _, hall.accepted_eq, hall.failure?_eq⟩
    · rw [hcopied] at hresult
      cases hresult
  · intro error hresult
    rcases copyAll_branch hopen hcopy honest with ⟨hcopied, hall⟩ | ⟨failed, hcopied, hcut⟩
    · rw [hcopied] at hresult
      cases hresult
    · rw [hcopied] at hresult
      cases hresult
      refine ⟨hcut.delivers, failed, rfl, ?_⟩
      rcases hcut.blames with hsource | ⟨written, hwrite, hfailed⟩
      · exact .inl ⟨hsource, rfl, rfl⟩
      · refine .inr ⟨written, hwrite, hfailed, ?_, ?_⟩
        · rw [hfailed]
          rfl
        · rw [hfailed, Error.isTimeout_eq written, ← Error.kind_toIoError]
          rfl
  · intro other bytes patience events error hwrite
    exact write_not_interrupted hwrite
  · intro closed hclosed source patience
    exact copyFrom_of_closed hclosed source patience

/-- A send takes one byte of two, the next is interrupted, a read is interrupted, and then the
peer vanishes. -/
theorem copy_sends_each_byte_once_until_reset :
    exists events error rest,
      Branch (copyFrom ⟨some ⟨7⟩, none, none, none, none⟩
        [.ok [1, 2], .error (.os .interrupted), .ok [3], .ok [4]] 6) events
        (.returned (.error error, rest)) ∧
      (forall event, event ∈ events -> event.AcceptsOffered) ∧
      accepted events = [1, 2] ∧
      exists delivered,
        [1, 2, 3, 4] = delivered ++ rest.content ∧ accepted events <+: delivered := by
  have branch : Branch (copyFrom ⟨some ⟨7⟩, none, none, none, none⟩
      [.ok [1, 2], .error (.os .interrupted), .ok [3], .ok [4]] 6)
      [⟨.send ⟨7⟩ [1, 2] true false, .ok 1⟩, ⟨.send ⟨7⟩ [2] true false, .error .interrupted⟩,
        ⟨.send ⟨7⟩ [2] true false, .ok 1⟩, ⟨.send ⟨7⟩ [3] true false, .error .brokenPipe⟩]
      (.returned (.error _, _)) :=
    .call _ _ _ (.call _ _ _ (.call _ _ _ (.call _ _ _ (.done _))))
  have honest : forall event, event ∈ [⟨.send ⟨7⟩ [1, 2] true false, .ok 1⟩,
      ⟨.send ⟨7⟩ [2] true false, .error .interrupted⟩, ⟨.send ⟨7⟩ [2] true false, .ok 1⟩,
      ⟨.send ⟨7⟩ [3] true false, .error .brokenPipe⟩] -> Event.AcceptsOffered event := by
    simp [Event.AcceptsOffered]
  have hcopy := copy_sends_each_byte_once rfl branch honest
  exact ⟨_, _, _, branch, honest, rfl, (hcopy.2.1 _ rfl).1⟩

end Connection
end ServiceSocket
