import ServiceSocket.Dialer
import ServiceSocket.Proofs.Address.Classes
import ServiceSocket.Proofs.Address.Codec
import ServiceSocket.Proofs.Closing
import ServiceSocket.Proofs.Readiness.Taking

/-!
# The names of sockets

A socket is named by records: those that are handed to the system while it is made, and those
that the system reports of its two ends.  What they tell is kept by the connection or listener
from then on, with the address that was asked for where the system reports none.
-/

namespace ServiceSocket

open Program

/-!
# Naming
-/

def Call.isNaming : Call -> Bool
  | .openStream _ | .bind _ _ | .connect _ _ | .accept _ | .localRecord _ | .peerRecord _ => true
  | _ => false

def namings (events : List Event) : List Event :=
  events.filter fun event => event.call.isNaming

/-- The service address that the system reports; none when it reports no such address. -/
def reported : Except Errno Record -> Option Address
  | .ok record => record.toAddress?
  | .error _ => none

def namer : Monitor (List Event) where
  step s event after := after = s ++ namings [event]
  allowed _ _ := True

instance : namer.Follows := ⟨fun _ _ => trivial⟩

section

variable {s events : List Event} {halt : Halt -> List Event -> Prop}

theorem namer_path : namer.Path s events (s ++ namings events) := by
  induction events generalizing s with
  | nil =>
      rw [namings, List.filter_nil, List.append_nil]
      exact .nil s
  | cons event events ih =>
      have hevents : namings (event :: events) = namings [event] ++ namings events :=
        List.filter_append [event] events
      rw [hevents, ← List.append_assoc]
      exact .cons rfl ih

theorem Attempt.namings_of_branch {P : List Event -> Outcome (Except Error α) -> Prop}
    {body : Attempt α}
    (h : body.Meets namer (fun reason after => P after (.halted reason))
      (fun error after => P after (.returned (.error error)))
      (fun value after => P after (.returned (.ok value))) [])
    {outcome : Outcome (Except Error α)}
    (branch : Branch body.run events outcome) :
    P (namings events) outcome := by
  have hends := (Program.Meets.of_branch h branch).2 _ namer_path
  rw [List.nil_append] at hends
  cases outcome with
  | returned result => cases result <;> exact hends
  | halted reason => exact hends

theorem Attempt.unnamed {body : Attempt α} {fail : Error -> List Event -> Prop}
    {post : α -> List Event -> Prop}
    (h : body.run.Makes fun c => c.isNaming = false)
    (hhalt : forall reason, halt reason s)
    (hfail : forall error, fail error s)
    (hpost : forall value, post value s) :
    body.Meets namer halt fail post s := by
  have hsame : Program.Meets namer (fun _ after => after = s) body.run (fun _ after => after = s)
      s := by
    apply Makes.meets (I := (· = s)) h
    · intro _ _ _ _
      trivial
    · intro now c answer after hnow hc hafter
      have hnone : namings [⟨c, answer⟩] = [] :=
        List.filter_eq_nil_iff.mpr (by simp [hc])
      rw [hafter, hnone, List.append_nil, hnow]
    · rfl
  apply Attempt.Meets.weaken (Attempt.meets_run.mp hsame)
  · rintro reason _ rfl
    exact hhalt reason
  · rintro error _ rfl
    exact hfail error
  · rintro value _ rfl
    exact hpost value

end

/-!
# Listening
-/

namespace Listener

/-- How a socket is named when a listener is made of it, and what that comes to. -/
inductive Builder.Names (b : Builder) (address : Address) :
    List Event -> Outcome (Except Error Listener) -> Prop where
  | unopened (errno : Errno) (error : Error) :
      Names b address [⟨.openStream .tipc, .error errno⟩] (.returned (.error error))
  | refused (d : Descriptor) (answer : Except Errno Unit) (error : Error) :
      Names b address
        [⟨.openStream .tipc, .ok d⟩, ⟨.bind d (b.requested address).toRecord, answer⟩]
        (.returned (.error error))
  | bound (d : Descriptor) (answer : Except Errno Record) :
      Names b address
        [⟨.openStream .tipc, .ok d⟩, ⟨.bind d (b.requested address).toRecord, .ok ()⟩,
          ⟨.localRecord d, answer⟩]
        (.returned (.ok ⟨some d, (reported answer).getD (b.requested address), none⟩))

theorem Builder.names_of_branch {b : Builder} {address : Address} {events : List Event}
    {outcome : Outcome (Except Error Listener)}
    (branch : Branch (b.bind address).run events outcome) :
    b.Names address (namings events) outcome := by
  refine Attempt.namings_of_branch (P := b.Names address) ?_ branch
  simp only [bind, Attempt.meets_bind, Attempt.meets_inContext, Attempt.meets_ofCall,
    Attempt.meets_lift, Attempt.meets_pure, Descriptor.openStream, Descriptor.bind,
    Descriptor.listen, Descriptor.meets_guarding, Descriptor.meets_release,
    Descriptor.meets_localAddress?, Program.ask, meets_call, meets_done, Monitor.allowed_and_iff]
  rintro (errno | d) _ ⟨⟩
  · exact .unopened errno _
  · rintro (errno | _) _ ⟨⟩
    · rintro told _ ⟨⟩
      exact .refused d _ _
    · rintro (errno | _) _ ⟨⟩
      · rintro told _ ⟨⟩
        exact .refused d _ _
      · rintro answer _ ⟨⟩
        exact .bound d answer

end Listener

/-!
# Dialling
-/

namespace Dialer

def binding (dialer : Dialer) (d : Descriptor) : List Event :=
  (dialer.localAddress.map fun near => ⟨.bind d near.toRecord, .ok ()⟩).toList

theorem binding_of_none {dialer : Dialer}
    (hlocal : dialer.localAddress = none)
    (d : Descriptor) :
    dialer.binding d = [] := by
  rw [binding, hlocal]
  rfl

theorem binding_of_some {dialer : Dialer} {near : Address}
    (hlocal : dialer.localAddress = some near)
    (d : Descriptor) :
    dialer.binding d = [⟨.bind d near.toRecord, .ok ()⟩] := by
  rw [binding, hlocal]
  rfl

inductive Misses (dialer : Dialer) (d : Descriptor) (target : Address) : List Event -> Prop where
  | unbound {near : Address} (hnear : dialer.localAddress = some near) (errno : Errno) :
      Misses dialer d target [⟨.bind d near.toRecord, .error errno⟩]
  | untried : Misses dialer d target (dialer.binding d)
  | tried (answer : Except Errno Unit) :
      Misses dialer d target (dialer.binding d ++ [⟨.connect d target.toRecord, answer⟩])

/-- How a socket is named when a target is dialled, and what that comes to. -/
inductive Names (dialer : Dialer) (target : Address) :
    List Event -> Outcome (Except Error Connection) -> Prop where
  | unopened (errno : Errno) (error : Error) :
      Names dialer target [⟨.openStream .tipc, .error errno⟩] (.returned (.error error))
  | missed {d : Descriptor} {tried : List Event} {outcome : Outcome (Except Error Connection)}
      (htried : dialer.Misses d target tried)
      (hfailed : outcome.value? = none) :
      Names dialer target (⟨.openStream .tipc, .ok d⟩ :: tried) outcome
  | joined (d : Descriptor) (answer : Except Errno Unit) (near far : Except Errno Record) :
      Names dialer target
        (⟨.openStream .tipc, .ok d⟩ :: dialer.binding d ++
          [⟨.connect d target.toRecord, answer⟩, ⟨.localRecord d, near⟩, ⟨.peerRecord d, far⟩])
        (.returned (.ok
          ⟨some d, reported near, some ((reported far).getD target), none, none⟩))

section

variable {s : List Event} {d : Descriptor} {patience : Nat}

theorem connectWithin_named {P : List Event -> Prop} {record : Record} {timeout : Duration}
    (hbefore : P s)
    (hafter : forall answer, P (s ++ [⟨.connect d record, answer⟩])) :
    (connectWithin d record timeout patience).Meets namer (fun _ => P) (fun _ => P)
      (fun _ after => exists answer, after = s ++ [⟨.connect d record, answer⟩]) s := by
  have hswitch (enabled : Bool) :
      (Attempt.ofCall (d.setNonblocking enabled)).run.Makes fun c => c.isNaming = false :=
    Attempt.makes_ofCall.mpr (Descriptor.setNonblocking_makes rfl rfl)
  have hask {c : Call} (hc : c.isNaming = false) : (ask c).Makes fun c => c.isNaming = false :=
    makes_ask hc
  have hwait (deadline : Option Instant) :
      (Readiness.wait d .output deadline patience).run.Makes fun c => c.isNaming = false :=
    Readiness.wait_makes d .output deadline patience rfl fun _ => rfl
  rw [connectWithin, Attempt.meets_bind]
  apply Attempt.unnamed (hswitch true) (fun _ => hbefore) (fun _ => hbefore)
  intro _
  simp only [Attempt.meets_bind, Attempt.meets_lift, Descriptor.connect, Program.ask, meets_call,
    meets_done, Monitor.allowed_and_iff]
  rintro answer _ ⟨⟩
  -- Nothing names the socket once the call to connect it has come back.
  apply Attempt.unnamed _ (fun _ => hafter answer) (fun _ => hafter answer) fun _ => ⟨answer, rfl⟩
  cases answer with
  | ok _ => exact hswitch false
  | error errno =>
      dsimp only
      split
      · apply Attempt.makes_bind (Attempt.makes_lift (hask rfl))
        intro reading
        cases reading.after? timeout with
        | none => trivial
        | some deadline =>
            apply Attempt.makes_bind (hwait (some deadline))
            intro _
            apply Attempt.makes_bind (Attempt.makes_ofCall.mpr (hask rfl))
            intro failure
            split
            · trivial
            · exact hswitch false
      · trivial

theorem reach_named {record : Record} (timeout : Option Duration) :
    forall {P : List Event -> Prop}, P s ->
      (forall answer, P (s ++ [⟨.connect d record, answer⟩])) ->
      Attempt.Meets namer (fun _ => P)
        (match timeout with
          | some timeout => connectWithin d record timeout patience
          | none => Attempt.ofCall (d.connect record))
        (fun _ => P)
        (fun _ after => exists answer, after = s ++ [⟨.connect d record, answer⟩]) s := by
  intro P hbefore hafter
  cases timeout with
  | some timeout => exact connectWithin_named hbefore hafter
  | none =>
      simp only [Attempt.meets_ofCall, Descriptor.connect, Program.ask, meets_call, meets_done,
        Monitor.allowed_and_iff]
      rintro (errno | _) _ ⟨⟩
      · exact hafter (.error errno)
      · exact ⟨.ok (), rfl⟩

theorem join_named {dialer : Dialer} {target : Address} :
    (dialer.join d target patience).Meets namer
      (fun _ after => exists tried, after = s ++ tried ∧ dialer.Misses d target tried)
      (fun _ after => exists tried, after = s ++ tried ∧ dialer.Misses d target tried)
      (fun _ after => exists answer,
        after = s ++ (dialer.binding d ++ [⟨.connect d target.toRecord, answer⟩])) s := by
  have hbefore : exists tried, s ++ dialer.binding d = s ++ tried ∧ dialer.Misses d target tried :=
    ⟨_, rfl, .untried⟩
  have hafter (answer : Except Errno Unit) : exists tried,
      s ++ dialer.binding d ++ [⟨.connect d target.toRecord, answer⟩] = s ++ tried ∧
        dialer.Misses d target tried :=
    ⟨_, List.append_assoc _ _ _, .tried answer⟩
  cases hlocal : dialer.localAddress with
  | none =>
      have hbound := binding_of_none hlocal d
      rw [hbound, List.append_nil] at hbefore hafter
      simp only [join, hlocal, hbound, List.nil_append]
      exact reach_named dialer.timeout hbefore hafter
  | some near =>
      have hbound := binding_of_some hlocal d
      rw [hbound] at hbefore hafter
      simp only [join, hlocal, Attempt.meets_bind, Attempt.meets_ofCall, Descriptor.bind,
        Program.ask, meets_call, meets_done, Monitor.allowed_and_iff]
      rintro (errno | _) _ ⟨⟩
      · exact ⟨_, rfl, .unbound hlocal errno⟩
      · apply (reach_named dialer.timeout hbefore hafter).mono fun _ _ hmissed => hmissed
        rintro _ _ ⟨answer, rfl⟩
        rw [hbound, List.append_assoc]
        exact ⟨answer, rfl⟩

end

theorem names_of_branch {dialer : Dialer} {target : Address} {patience : Nat}
    {events : List Event} {outcome : Outcome (Except Error Connection)}
    (branch : Branch (dialer.connect target patience).run events outcome) :
    dialer.Names target (namings events) outcome := by
  refine Attempt.namings_of_branch (P := dialer.Names target) ?_ branch
  simp only [connect, Attempt.meets_bind, Attempt.meets_inContext, Attempt.meets_ofCall,
    Descriptor.openStream, Program.ask, meets_call, meets_done, Monitor.allowed_and_iff]
  rintro (errno | d) _ ⟨⟩
  · exact .unopened errno _
  · simp only [Attempt.either_mapError_ok, Descriptor.meets_guarding, Descriptor.meets_release,
      Attempt.meets_inContext, Monitor.allowed_and_iff]
    apply join_named.weaken
    · rintro reason _ ⟨tried, rfl, htried⟩
      exact .missed htried rfl
    · rintro error _ ⟨tried, rfl, htried⟩
      rintro told _ ⟨⟩
      rw [show namings [⟨.close d, told⟩] = [] from rfl, List.append_nil]
      exact .missed htried rfl
    · rintro _ _ ⟨answer, rfl⟩
      simp only [Attempt.meets_lift, Descriptor.meets_localAddress?,
        Descriptor.meets_peerAddress?, Connection.establish, meets_bind,
        Descriptor.meets_tryConfigure, meets_pure, Monitor.allowed_and_iff]
      rintro near _ ⟨⟩
      rintro far _ ⟨⟩
      rintro told _ ⟨⟩
      have hnamed : [] ++ namings [⟨.openStream .tipc, .ok d⟩] ++
          (dialer.binding d ++ [⟨.connect d target.toRecord, answer⟩]) ++
          namings [⟨.localRecord d, near⟩] ++ namings [⟨.peerRecord d, far⟩] ++
          namings [⟨.configure d (.noDelay true), told⟩] =
          ⟨.openStream .tipc, .ok d⟩ :: dialer.binding d ++ [⟨.connect d target.toRecord, answer⟩,
            ⟨.localRecord d, near⟩, ⟨.peerRecord d, far⟩] := by
        simp [namings, Call.isNaming]
      rw [hnamed]
      split
      next => exact .joined d answer near far
      next =>
          simp only [Attempt.meets_bind, Attempt.meets_lift, Descriptor.meets_tryConfigure,
            Monitor.allowed_and_iff]
          rintro cleared _ ⟨⟩
          rw [show namings [⟨.configure d (.noDelay false), cleared⟩] = [] from rfl,
            List.append_nil]
          exact .joined d answer near far

end Dialer

/-!
# Accepting
-/

namespace Listener

/-- How the socket of a caller is named when it is accepted, and what that comes to. -/
inductive Names (l : Listener) : List Event -> Outcome (Except Error Connection) -> Prop where
  | missed {outcome : Outcome (Except Error Connection)}
      (hfailed : outcome.value? = none) : Names l [] outcome
  | refused {d : Descriptor} (hopen : l.descriptor = some d) (errno : Errno) (error : Error) :
      Names l [⟨.accept d, .error errno⟩] (.returned (.error error))
  | accepted {d : Descriptor}
      (hopen : l.descriptor = some d) (made : Descriptor)
      (record : Record) (near : Except Errno Record) :
      Names l [⟨.accept d, .ok (made, record)⟩, ⟨.localRecord made, near⟩]
        (.returned (.ok ⟨some made, reported near, record.toAddress?, none, none⟩))

theorem names_of_branch {l : Listener} {patience : Nat} {events : List Event}
    {outcome : Outcome (Except Error Connection)}
    (branch : Branch (l.accept patience).run events outcome) :
    l.Names (namings events) outcome := by
  refine Attempt.namings_of_branch (P := l.Names) ?_ branch
  rw [accept, Attempt.meets_bind, inContext, Attempt.meets_inContext, held]
  cases hopen : l.descriptor with
  | none => exact .missed rfl
  | some d =>
      have hwait : (Readiness.wait d .input l.deadline patience).run.Makes
          fun c => c.isNaming = false :=
        Readiness.wait_makes d .input l.deadline patience rfl fun _ => rfl
      simp only [Attempt.meets_bind, Attempt.meets_liftExcept, Attempt.either_ok]
      apply Attempt.unnamed hwait (fun _ => .missed rfl) (fun _ => .missed rfl)
      intro _
      simp only [Attempt.meets_ofCall, Descriptor.accept, Program.ask, meets_call, meets_done,
        Monitor.allowed_and_iff]
      rintro (errno | ⟨made, record⟩) _ ⟨⟩
      · exact .refused hopen errno _
      · simp only [Attempt.meets_lift, Descriptor.meets_localAddress?, Connection.establish,
          meets_bind, Descriptor.meets_tryConfigure, meets_pure, Monitor.allowed_and_iff]
        rintro near _ ⟨⟩
        rintro told _ ⟨⟩
        exact .accepted hopen made record near

end Listener

/-!
# Adopting
-/

namespace Connection

/-- How a socket is asked for its names when it is adopted, and what that comes to. -/
inductive NamesAdopted (d : Descriptor) :
    List Event -> Outcome (Except Error Connection) -> Prop where
  | unnamed {near : Except Errno Record} (hnear : reported near = none) (error : Error) :
      NamesAdopted d [⟨.localRecord d, near⟩] (.returned (.error error))
  | adopted {near : Except Errno Record} {address : Address}
      (hnear : reported near = some address)
      (far : Except Errno Record) :
      NamesAdopted d [⟨.localRecord d, near⟩, ⟨.peerRecord d, far⟩]
        (.returned (.ok ⟨some d, some address, reported far, none, none⟩))

theorem namesAdopted_of_branch {d : Descriptor} {events : List Event}
    {outcome : Outcome (Except Error Connection)}
    (branch : Branch (adopt d).run events outcome) :
    NamesAdopted d (namings events) outcome := by
  refine Attempt.namings_of_branch (P := NamesAdopted d) ?_ branch
  simp only [adopt, Descriptor.meets_guarding, Descriptor.meets_release, Attempt.meets_bind,
    Attempt.meets_inContext, Attempt.meets_ofCall, Descriptor.localRecord, Program.ask,
    meets_call, meets_done, Monitor.allowed_and_iff]
  rintro (errno | record) _ ⟨⟩
  · rintro told _ ⟨⟩
    exact .unnamed rfl _
  · rw [Attempt.either_mapError_ok]
    split
    next hnone =>
        have hnear : reported (.ok record) = none := hnone
        rintro told _ ⟨⟩
        exact .unnamed hnear _
    next address hsome =>
        have hnear : reported (.ok record) = some address := hsome
        simp only [Attempt.meets_bind, Attempt.meets_lift, Descriptor.meets_peerAddress?, establish,
          meets_bind, Descriptor.meets_tryConfigure, meets_pure, Monitor.allowed_and_iff]
        rintro far _ ⟨⟩
        rintro told _ ⟨⟩
        exact .adopted hnear far

end Connection

/-!
# Records that are passed
-/

end ServiceSocket
