import ServiceSocket.Proofs.Connection.Sending
import ServiceSocket.Proofs.Failure.Layers
import ServiceSocket.Proofs.Failure.Transparency

/-!
# Reporting failures

The rules by which an attempt is seen to report the first failure that it does not absorb,
and the two loops that repeat calls.
-/

namespace ServiceSocket

/-!
# Kinds with a single number
-/

namespace Errno

variable {errno known : Errno} {kind : FailureKind}

theorem eq_of_kind_eq
    (hkind : kind ≠ .uncategorized)
    (honly : forall entry, entry ∈ table -> entry.kind = kind -> entry.code = known.code)
    (h : errno.kind = kind) :
    errno = known := by
  unfold Errno.kind at h
  cases hentry : errno.entry? with
  | none =>
      rw [hentry] at h
      exact absurd h.symm hkind
  | some entry =>
      rw [hentry] at h
      have hmem := honly entry (List.mem_of_find?_eq_some hentry) h
      have hcode := List.find?_some hentry
      rw [beq_iff_eq, hmem] at hcode
      rcases errno with ⟨code⟩
      rcases known with ⟨other⟩
      exact congrArg Errno.mk hcode.symm

theorem kind_eq_interrupted_iff : errno.kind = .interrupted <-> errno = .interrupted := by
  constructor
  · exact eq_of_kind_eq (by decide) (by decide +kernel)
  · intro h
    rw [h]
    rfl

theorem kind_eq_wouldBlock_iff : errno.kind = .wouldBlock <-> errno = .wouldBlock := by
  constructor
  · exact eq_of_kind_eq (by decide) (by decide +kernel)
  · intro h
    rw [h]
    rfl

end Errno

namespace Tolerance

variable {t : Tolerance} {errno : Errno} {d : Descriptor}

theorem absorbs_poll_iff {direction : Direction} {time : Nat} :
    t.absorbs (.poll d direction time) errno = true <-> errno.kind = .interrupted := by
  rw [Errno.kind_eq_interrupted_iff, absorbs, beq_iff_eq]

theorem absorbs_send_iff {bytes : List UInt8} {quiet dontWait : Bool} :
    t.absorbs (.send d bytes quiet dontWait) errno = true <->
      errno.kind = .interrupted ∨ errno.kind = .wouldBlock := by
  rw [Errno.kind_eq_interrupted_iff, Errno.kind_eq_wouldBlock_iff, absorbs, Bool.or_eq_true,
    beq_iff_eq, beq_iff_eq]

theorem absorbs_connect_iff
    (hconnecting : t.connecting = true)
    {record : Record} :
    t.absorbs (.connect d record) errno = true <->
      errno.kind = .wouldBlock ∨ errno = .inProgress := by
  rw [Errno.kind_eq_wouldBlock_iff, absorbs, hconnecting, Bool.true_and, Bool.or_eq_true,
    beq_iff_eq, beq_iff_eq, or_comm]

end Tolerance

/-!
# Courses without a failure
-/

/-- Nothing has failed that was not absorbed, and only such calls are to be repeated. -/
structure Course.Owes (own : Multiset Descriptor) (P : Call -> Prop) (s : Course) : Prop where
  held_eq : s.held = own
  failure_eq : s.failure = none
  putOff : forall c, c ∈ s.putOff -> P c

structure Course.Fails (context : Error -> Error) (declines : Prop) (held : Multiset Descriptor)
    (error : Error) (s : Course) : Prop where
  held_eq : s.held = held
  blames : error.Blames context s
  declines : s.failure = none -> declines

section Steps

variable {t : Tolerance} {s : Course} {own : Multiset Descriptor} {P Q : Call -> Prop}
  {event : Event} {errno : Errno} {declines : Prop} {b : Bool} {context : Error -> Error}

theorem Event.unabsorbed?_eq_none
    (h : forall errno, event.failure? = some errno -> t.absorbs event.call errno = true) :
    event.unabsorbed? t = none := by
  rw [unabsorbed?, Option.filter_eq_none_iff]
  intro errno hfailure
  rw [h errno hfailure]
  exact Bool.false_ne_true

theorem Event.unabsorbed?_eq_none_of_absorbs
    (hfailure : event.failure? = some errno)
    (habsorbs : t.absorbs event.call errno = true) :
    event.unabsorbed? t = none := by
  apply unabsorbed?_eq_none
  intro other hother
  rw [hfailure] at hother
  cases hother
  exact habsorbs

theorem Event.unabsorbed?_eq_some
    (hfailure : event.failure? = some errno)
    (habsorbs : ¬ t.absorbs event.call errno = true) :
    event.unabsorbed? t = some errno := by
  rw [unabsorbed?, Option.filter_eq_some_iff, Bool.eq_false_of_not_eq_true habsorbs]
  exact ⟨hfailure, rfl⟩

theorem Event.eq_of_mem_putOff {c : Call} (h : c ∈ event.putOff) : c = event.call := by
  unfold putOff at h
  split at h
  · exact List.mem_singleton.mp h
  · cases h

namespace Course

theorem owes_calm : (calm own b).Owes own P :=
  ⟨rfl, rfl, List.forall_mem_nil _⟩

theorem Owes.eq_calm (h : s.Owes own fun _ => False) : s = calm own s.stumbled := by
  rcases s with ⟨held, failure, putOff, stumbled⟩
  rw [calm, Course.mk.injEq]
  exact ⟨h.held_eq, h.failure_eq, List.eq_nil_iff_forall_not_mem.mpr h.putOff, rfl⟩

theorem Owes.mono (h : s.Owes own P) (hPQ : forall c, P c -> Q c) : s.Owes own Q :=
  ⟨h.held_eq, h.failure_eq, fun c hc => hPQ c (h.putOff c hc)⟩

theorem Owes.allowed (h : s.Owes own P) (c : Call) : (reporting t).allowed s c := by
  intro hfailure
  rw [h.failure_eq] at hfailure
  cases hfailure

theorem allowed_calm (c : Call) : (reporting t).allowed (calm own b) c :=
  owes_calm.allowed (P := fun _ => False) c

theorem Owes.next
    (h : s.Owes own P)
    (hpassive : event.call.isPassive = true)
    (hevent : event.unabsorbed? t = none)
    (hnew : forall c, c ∈ event.putOff -> Q c)
    (hleft : forall c, P c -> event.call.repeats c = false -> Q c) :
    (s.next t event).Owes own Q where
  held_eq := (Event.heldAfter_of_isPassive hpassive).trans h.held_eq
  failure_eq := by rw [Course.next, h.failure_eq, hevent, Option.none_or]
  putOff := by
    intro c hc
    rcases List.mem_append.mp hc with hc | hc
    · exact hnew c hc
    · rw [List.mem_filter, Bool.not_eq_true'] at hc
      exact hleft c (h.putOff c hc.1) hc.2

theorem Owes.put_off
    (h : s.Owes own P)
    (hpassive : event.call.isPassive = true)
    (hfailure : event.failure? = some errno)
    (habsorbs : t.absorbs event.call errno = true)
    (hc : P event.call) :
    (s.next t event).Owes own P := by
  apply h.next hpassive (Event.unabsorbed?_eq_none_of_absorbs hfailure habsorbs)
  · intro c hmem
    rw [Event.eq_of_mem_putOff hmem]
    exact hc
  · intro c hc _
    exact hc

theorem Owes.fails
    (h : s.Owes own P)
    (hsteady : s.stumbled = false)
    {error : Error}
    (herror : forall errno, error.cause ≠ .ofErrno errno) :
    s.Fails id True own error where
  held_eq := h.held_eq
  blames := by
    rw [Error.Blames, h.failure_eq]
    exact ⟨hsteady, herror⟩
  declines _ := trivial

theorem fails_of_failure
    (hheld : s.held = own)
    (hfailure : s.failure = some errno) :
    s.Fails context declines own (context (.ofErrno errno)) where
  held_eq := hheld
  blames := by
    rw [Error.Blames, hfailure]
  declines hnone := by
    rw [hfailure] at hnone
    cases hnone

theorem Owes.blames
    (h : s.Owes own P)
    (hpassive : event.call.isPassive = true)
    (hfailure : event.failure? = some errno)
    (habsorbs : ¬ t.absorbs event.call errno = true) :
    (s.next t event).Fails id declines own (.ofErrno errno) := by
  apply fails_of_failure ((Event.heldAfter_of_isPassive hpassive).trans h.held_eq)
  rw [Course.next, h.failure_eq, Event.unabsorbed?_eq_some hfailure habsorbs, Option.none_or]

theorem next_calm
    (hpassive : event.call.isPassive = true)
    (hrepeatable : event.call.isRepeatable = false)
    (hevent : event.unabsorbed? t = none) :
    exists after, (calm own b).next t event = calm own after := by
  have hnew : event.putOff = [] := by
    rw [Event.putOff, hrepeatable]
    rfl
  refine ⟨_, Owes.eq_calm (owes_calm.next hpassive hevent ?_ fun c hc _ => hc)⟩
  rw [hnew]
  exact List.forall_mem_nil _

end Course

theorem Error.Blames.inContext {error : Error}
    (h : error.Blames id s)
    (operation : String) (address : Option Address) :
    (error.inContext operation Network.tipc address).Blames
      (Error.inContext operation Network.tipc address) s := by
  unfold Blames at h ⊢
  cases hfailure : s.failure with
  | none =>
      rw [hfailure] at h
      simp only [cause_inContext]
      exact h
  | some errno =>
      rw [hfailure] at h
      exact congrArg _ h

end Steps

/-!
# Programs that absorb all failures
-/

def Program.Absorbs (t : Tolerance) (p : Program α) (own : Multiset Descriptor) : Prop :=
  forall b, p.Meets (reporting t) (fun _ s => s.failure = none)
    (fun _ s => exists after, s = .calm own after) (.calm own b)

variable {t : Tolerance} {own failed : Multiset Descriptor} {context : Error -> Error}
  {declines : Prop}

theorem Program.Absorbs.bind {p : Program α} {f : α -> Program β}
    (hp : p.Absorbs t own)
    (hf : forall value, (f value).Absorbs t own) :
    (p >>= f).Absorbs t own := by
  intro b
  rw [meets_bind]
  apply Meets.mono (hp b)
  intro value s hs
  rcases hs with ⟨after, hafter⟩
  cases hafter
  exact hf value after

theorem Program.absorbs_call {c : Call} {next : c.Answer -> Program α}
    (hpassive : c.isPassive = true)
    (hrepeatable : c.isRepeatable = false)
    (hc : forall answer, Event.unabsorbed? t ⟨c, answer⟩ = none)
    (hnext : forall answer, (next answer).Absorbs t own) :
    (Program.call c next).Absorbs t own := by
  intro b
  constructor
  · exact Course.allowed_calm c
  · intro answer after hafter
    cases hafter
    rcases Course.next_calm hpassive hrepeatable (hc answer) with ⟨after, hafter⟩
    rw [hafter]
    exact hnext answer after

theorem Program.absorbs_pure {value : α} : (pure value : Program α).Absorbs t own :=
  fun b => ⟨b, rfl⟩

/-!
# Attempts
-/

namespace Attempt

/-- Starting with these descriptors the attempt ends calmly, holding those that go with its
value, or with an error that blames the failure that it has met, holding `failed`.  Only if
it `declines` may it end with an error and have met no failure. -/
def Reports (t : Tolerance) (context : Error -> Error) (declines : Prop) (body : Attempt α)
    (own failed : Multiset Descriptor) (result : α -> Multiset Descriptor) : Prop :=
  forall b, body.Meets (reporting t) (fun _ s => s.failure = none)
    (Course.Fails context declines failed)
    (fun value s => exists after, s = .calm (result value) after)
    (.calm own b)

variable {body : Attempt α} {result : α -> Multiset Descriptor}

theorem Reports.mono {may : Prop}
    (h : body.Reports t context declines own failed result)
    (hmay : declines -> may) :
    body.Reports t context may own failed result := by
  intro b
  apply (h b).mono
  · intro error s hs
    exact ⟨hs.held_eq, hs.blames, fun hnone => hmay (hs.declines hnone)⟩
  · intro value s hs
    exact hs

theorem Reports.bind {f : α -> Attempt β} {middle : α -> Multiset Descriptor}
    {result : β -> Multiset Descriptor}
    (hbody : body.Reports t context declines own failed middle)
    (hf : forall value, (f value).Reports t context declines (middle value) failed result) :
    (body >>= f).Reports t context declines own failed result := by
  intro b
  rw [meets_bind]
  apply (hbody b).mono
  · intro error s hs
    exact hs
  · intro value s hs
    rcases hs with ⟨after, hafter⟩
    cases hafter
    exact hf value after

theorem reports_bind_of_eq_ok {held : Except Error β} {value : β} {f : β -> Attempt α}
    (hheld : held = .ok value)
    (hf : (f value).Reports t context declines own failed result) :
    ((liftM held : Attempt β) >>= f).Reports t context declines own failed result := by
  rw [hheld]
  exact hf

theorem Reports.inContext
    (h : body.Reports t id declines own failed result)
    (operation : String) (address : Option Address) :
    (Attempt.inContext operation address body).Reports t
      (Error.inContext operation Network.tipc address) declines own failed result := by
  intro b
  rw [meets_inContext]
  apply (h b).mono
  · intro error s hs
    exact ⟨hs.held_eq, hs.blames.inContext operation address, hs.declines⟩
  · intro value s hs
    exact hs

theorem reports_pure {value : α} {own : Multiset Descriptor}
    (h : result value = own) :
    (pure value : Attempt α).Reports t context declines own failed result :=
  fun b => ⟨b, by rw [h]⟩

theorem reports_lift {p : Program α}
    (h : p.Absorbs t own) :
    (liftM p : Attempt α).Reports t context declines own failed fun _ => own := by
  intro b
  rw [meets_lift]
  exact h b

theorem reports_ofCall (c : Call) (decode : c.Answer -> Except Errno α)
    (h : forall answer b, exists after, (Course.calm own b).next t ⟨c, answer⟩ =
      match decode answer with
      | .ok value => .calm (result value) after
      | .error errno => ⟨own, some errno, [], after⟩) :
    (ofCall (.call c fun answer => .done (decode answer))).Reports t id declines own own
      result := by
  intro b
  rw [meets_ofCall, Program.meets_call]
  constructor
  · exact Course.allowed_calm c
  · intro answer after hafter
    cases hafter
    rcases h answer b with ⟨after, hafter⟩
    rw [hafter]
    cases decode answer with
    | ok value => exact ⟨after, rfl⟩
    | error errno => exact Course.fails_of_failure rfl rfl

/-!
# Attempts to their end
-/

def Tells (t : Tolerance) (context : Error -> Error) (body : Attempt α)
    (own : Multiset Descriptor) : Prop :=
  forall b, body.Meets (reporting t) (fun _ s => s.failure = none) (Error.Blames context)
    (fun _ s => s.failure = none ∧ s.putOff = []) (.calm own b)

theorem Tells.isTransparent (h : body.Tells t context own) : body.IsTransparent t context own :=
  h false

theorem Reports.tells
    (h : body.Reports t context declines own failed result) :
    body.Tells t context own := by
  intro b
  apply (h b).mono
  · intro error s hs
    exact hs.blames
  · intro value s hs
    rcases hs with ⟨after, hafter⟩
    cases hafter
    exact ⟨rfl, rfl⟩

theorem Reports.bind_tells {f : α -> Attempt β}
    (hbody : body.Reports t context declines own failed result)
    (hf : forall value, (f value).Tells t context (result value)) :
    (body >>= f).Tells t context own := by
  intro b
  rw [meets_bind]
  apply (hbody b).mono
  · intro error s hs
    exact hs.blames
  · intro value s hs
    rcases hs with ⟨after, hafter⟩
    cases hafter
    exact hf value after

theorem tells_pure {value : α} : (pure value : Attempt α).Tells t context own :=
  fun _ => ⟨rfl, rfl⟩

theorem tells_lift {p : Program α}
    (h : p.Absorbs t own) : (liftM p : Attempt α).Tells t context own := by
  have hlift : (liftM p : Attempt α).Reports t context False own own fun _ => own :=
    reports_lift h
  exact hlift.tells

theorem tells_lift_bind {p : Program α} {f : α -> Attempt β}
    (h : p.Absorbs t own)
    (hf : forall value, (f value).Tells t context own) :
    ((liftM p : Attempt α) >>= f).Tells t context own := by
  have hlift : (liftM p : Attempt α).Reports t context False own own fun _ => own :=
    reports_lift h
  exact hlift.bind_tells hf

theorem IsTransparent.map
    (h : body.IsTransparent t context own)
    (f : α -> β) :
    (f <$> body).IsTransparent t context own := by
  rw [map_eq_pure_bind, IsTransparent, meets_bind]
  exact h

end Attempt

/-!
# On one descriptor
-/

namespace Descriptor

variable {d : Descriptor}

/-- A guard closes the descriptor, and a failure of that takes nothing from the failure
before it. -/
theorem guarding_reports {body : Attempt α} {result : α -> Multiset Descriptor}
    (h : body.Reports t context declines {d} {d} result)
    (hclose : declines -> t.close = true) :
    (d.guarding body).Reports t context declines {d} 0 result := by
  intro b
  rw [meets_guarding]
  apply (h b).mono
  · intro error s hs
    constructor
    · intro _
      rw [hs.held_eq]
      exact ⟨d, Multiset.mem_singleton_self d, rfl⟩
    · intro answer after hafter
      cases hafter
      have hfailure : (s.next t ⟨.close d, answer⟩).failure = s.failure := by
        cases hs' : s.failure with
        | some errno => rw [Course.next, hs', Option.some_or]
        | none =>
            rw [Course.next, hs', Option.none_or]
            exact Event.unabsorbed?_eq_none fun _ _ => hclose (hs.declines hs')
      constructor
      · change s.held.erase d = 0
        rw [hs.held_eq]
        exact Multiset.erase_singleton d
      · rw [Error.Blames, hfailure]
        exact hs.blames
      · rw [hfailure]
        exact hs.declines
  · intro value s hs
    exact hs

theorem localAddress?_absorbs
    (hrecord : t.localRecord = true) : d.localAddress?.Absorbs t own :=
  Program.absorbs_call rfl rfl (fun _ => Event.unabsorbed?_eq_none fun _ _ => hrecord)
    (fun answer => by cases answer <;> exact Program.absorbs_pure)

theorem peerAddress?_absorbs
    (hrecord : t.peerRecord = true) : d.peerAddress?.Absorbs t own :=
  Program.absorbs_call rfl rfl (fun _ => Event.unabsorbed?_eq_none fun _ _ => hrecord)
    (fun answer => by cases answer <;> exact Program.absorbs_pure)

theorem tryNoDelay_absorbs
    (hnoDelay : t.noDelay = true)
    (enabled : Bool) :
    (d.tryConfigure (.noDelay enabled)).Absorbs t own :=
  Program.absorbs_call rfl rfl (fun _ => Event.unabsorbed?_eq_none fun _ _ => hnoDelay)
    fun _ => Program.absorbs_pure

theorem openStream_reports (family : Family) :
    (Attempt.ofCall (openStream family)).Reports t id declines 0 0 fun d => {d} :=
  Attempt.reports_ofCall (.openStream family) id
    (fun answer b => by cases answer <;> exact ⟨_, rfl⟩)

theorem setNonblocking_reports (enabled : Bool) :
    (Attempt.ofCall (d.setNonblocking enabled)).Reports t id declines own own fun _ => own := by
  intro b
  rw [Attempt.meets_ofCall, meets_setNonblocking]
  refine ⟨Course.allowed_calm _, ?_⟩
  intro answer after hafter
  cases hafter
  rcases answer with errno | current
  · exact Course.fails_of_failure rfl rfl
  · dsimp only
    split
    · exact ⟨false, rfl⟩
    · refine ⟨Course.allowed_calm _, ?_⟩
      intro answer after hafter
      cases hafter
      rcases answer with errno | _
      · exact Course.fails_of_failure rfl rfl
      · exact ⟨false, rfl⟩

end Descriptor

/-!
# Loops that repeat calls
-/

namespace Readiness

variable {d : Descriptor} {direction : Direction} {P : Call -> Prop}

theorem pollUntil_owes (deadline : Instant) (patience : Nat) {s : Course}
    (h : s.Owes own fun c => P c ∨ exists time, c = .poll d direction time) :
    (pollUntil d direction deadline patience).Meets (reporting t)
      (fun _ s => s.failure = none) (Course.Fails id True own) (fun _ s => s.Owes own P) s := by
  have hnow {Q : Call -> Prop} {s : Course} (h : s.Owes own Q) (reading : Instant) :
      (s.next t ⟨.now, reading⟩).Owes own Q :=
    h.next rfl rfl (List.forall_mem_nil _) fun _ hc _ => hc
  have hpolled {s : Course} (h : s.Owes own fun c => P c ∨ exists time, c = .poll d direction time)
      (time count : Nat) : (s.next t ⟨.poll d direction time, .ok count⟩).Owes own P := by
    apply h.next rfl rfl (List.forall_mem_nil _)
    intro c hc hrepeats
    rcases hc with hc | ⟨other, hc⟩
    · exact hc
    · simp [hc, Call.repeats] at hrepeats
  have hlate (errno : Errno) : Error.timeout.cause ≠ .ofErrno errno := by
    intro hcause
    cases hcause
  induction patience generalizing s with
  | zero => exact h.failure_eq
  | succ patience ih =>
      rw [pollUntil_succ_meets_iff]
      refine ⟨h.allowed _, ?_⟩
      intro reading after hafter
      cases hafter
      replace h := hnow h reading
      cases reading.until? deadline with
      | none => exact h.fails rfl hlate
      | some left =>
          refine ⟨h.allowed _, ?_⟩
          intro answer after hafter
          cases hafter
          rcases answer with errno | count | count
          · dsimp only
            split
            next hkind =>
              apply ih
              exact h.put_off rfl rfl (Tolerance.absorbs_poll_iff.mpr hkind) (.inr ⟨_, rfl⟩)
            next hkind =>
              exact h.blames rfl rfl (mt Tolerance.absorbs_poll_iff.mp hkind)
          · have hagain := hpolled h (pollTime left) 0
            refine ⟨hagain.allowed _, ?_⟩
            intro reading after hafter
            cases hafter
            have hlater := hnow hagain reading
            cases reading.until? deadline with
            | none => exact hlater.fails rfl hlate
            | some _ => exact ih (hlater.mono fun _ hc => .inl hc)
          · exact hpolled h _ (count + 1)

theorem wait_owes (deadline : Option Instant) (patience : Nat) {s : Course}
    (h : s.Owes own P) :
    (wait d direction deadline patience).Meets (reporting t) (fun _ s => s.failure = none)
      (Course.Fails id True own) (fun _ s => s.Owes own P) s := by
  cases deadline with
  | none => exact h
  | some deadline => exact pollUntil_owes deadline patience (h.mono fun _ hc => .inl hc)

theorem wait_reports (deadline : Option Instant) (patience : Nat) :
    (wait d direction deadline patience).Reports t id True own own fun _ => own := by
  intro b
  apply (wait_owes (P := fun _ => False) deadline patience Course.owes_calm).mono
  · intro error s hs
    exact hs
  · intro _ s hs
    exact ⟨_, hs.eq_calm⟩

end Readiness

namespace Connection

theorem sendAll_owes {d : Descriptor} (deadline : Option Instant) (patience sent : Nat)
    (bytes : List UInt8) {s : Course}
    (h : s.Owes own fun c => bytes ≠ [] ∧ c = .send d bytes true deadline.isSome) :
    (sendAll d deadline patience sent bytes).Meets (reporting t)
      (fun _ s => s.failure = none) (Course.Fails id True own)
      (fun _ s => s.Owes own fun _ => False) s := by
  induction patience generalizing sent bytes s with
  | zero =>
      cases bytes with
      | nil => exact h.mono fun c hc => hc.1 rfl
      | cons b rest => exact h.failure_eq
  | succ patience ih =>
      cases bytes with
      | nil => exact h.mono fun c hc => hc.1 rfl
      | cons b rest =>
          rw [sendAll_cons_meets_iff]
          apply (Readiness.wait_owes deadline patience h).mono
          · intro error s hs
            exact hs
          · intro _ s h
            refine ⟨h.allowed _, ?_⟩
            have hsent (count : Nat) : Course.Owes own (fun _ => False) (s.next t
                ⟨.send d (b :: rest) true deadline.isSome, .ok count⟩) := by
              apply h.next rfl rfl (List.forall_mem_nil _)
              intro c hc hrepeats
              rw [hc.2, Call.repeats_self] at hrepeats
              cases hrepeats
            intro answer after hafter
            cases hafter
            rcases answer with errno | count | count
            · dsimp only
              split
              next hkind =>
                apply ih
                exact h.put_off rfl rfl (Tolerance.absorbs_send_iff.mpr hkind)
                  ⟨List.cons_ne_nil b rest, rfl⟩
              next hkind =>
                exact h.blames rfl rfl (mt Tolerance.absorbs_send_iff.mp hkind)
            · apply (hsent 0).fails rfl
              intro errno hcause
              cases hcause
            · exact ih _ _ ((hsent (count + 1)).mono fun _ => False.elim)

theorem sendAll_reports {d : Descriptor} (deadline : Option Instant) (patience sent : Nat)
    (bytes : List UInt8) :
    (sendAll d deadline patience sent bytes).Reports t id True own own fun _ => own := by
  intro b
  apply (sendAll_owes deadline patience sent bytes Course.owes_calm).mono
  · intro error s hs
    exact hs
  · intro _ s hs
    exact ⟨_, hs.eq_calm⟩

end Connection
end ServiceSocket
