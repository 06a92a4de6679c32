import ServiceSocket.Kernel.Program

/-!
# Monitors

A monitor follows the calls of a program one by one.  Its steps say what the system is
trusted to do, and its `allowed` says what the program owes.  What holds of a program
under a monitor is computed along the program's tree, so a specification of a function
is used in its callers without looking at its body again.
-/

namespace ServiceSocket

structure Monitor (σ : Type) where
  /-- The states that may come after a call and its answer; none if the system is trusted
  never to answer so. -/
  step : σ -> Event -> σ -> Prop
  allowed : σ -> Call -> Prop

/-- The monitor forbids no call and only follows the system. -/
class Monitor.Follows (m : Monitor σ) : Prop where
  allowed : forall s c, m.allowed s c

namespace Monitor

variable {m : Monitor σ} {s mid last : σ}

inductive Path (m : Monitor σ) : σ -> List Event -> σ -> Prop where
  | nil (s : σ) : Path m s [] s
  | cons {s mid last : σ} {event : Event} {events : List Event}
      (first : m.step s event mid) (rest : Path m mid events last) :
      Path m s (event :: events) last

/-- Every call is allowed wherever the events before it lead. -/
def Obeyed (m : Monitor σ) (s : σ) (events : List Event) : Prop :=
  forall before event after mid, events = before ++ event :: after ->
    m.Path s before mid -> m.allowed mid event.call

/-- Under such a monitor a call is followed by whatever it is answered with. -/
@[simp] theorem allowed_and_iff [m.Follows] {c : Call} {rest : Prop} :
    m.allowed s c ∧ rest <-> rest :=
  and_iff_right (Follows.allowed s c)

theorem path_nil_iff : m.Path s [] last <-> s = last := by
  constructor
  · intro h
    cases h
    rfl
  · intro h
    rw [h]
    exact .nil last

theorem path_cons_iff {event : Event} {events : List Event} :
    m.Path s (event :: events) last <->
      exists mid, m.step s event mid ∧ m.Path mid events last := by
  constructor
  · intro h
    cases h with
    | cons first rest => exact ⟨_, first, rest⟩
  · intro h
    rcases h with ⟨mid, first, rest⟩
    exact .cons first rest

theorem path_append_iff {first second : List Event} :
    m.Path s (first ++ second) last <->
      exists mid, m.Path s first mid ∧ m.Path mid second last := by
  induction first generalizing s with
  | nil => simp [path_nil_iff]
  | cons event first ih =>
      simp only [List.cons_append, path_cons_iff, ih]
      constructor
      · rintro ⟨begun, hstep, mid, hfirst, hsecond⟩
        exact ⟨mid, ⟨begun, hstep, hfirst⟩, hsecond⟩
      · rintro ⟨mid, ⟨begun, hstep, hfirst⟩, hsecond⟩
        exact ⟨begun, hstep, mid, hfirst, hsecond⟩

theorem obeyed_nil : m.Obeyed s [] := by
  intro before event after mid hsplit
  simp at hsplit

theorem obeyed_cons {event : Event} {events : List Event}
    (hcall : m.allowed s event.call)
    (hrest : forall mid, m.step s event mid -> m.Obeyed mid events) :
    m.Obeyed s (event :: events) := by
  intro before other after mid hsplit hpath
  cases before with
  | nil =>
      rw [List.nil_append] at hsplit
      injection hsplit with hevent _
      rw [← hevent, ← path_nil_iff.mp hpath]
      exact hcall
  | cons head tail =>
      rw [List.cons_append] at hsplit
      injection hsplit with hhead htail
      rw [← hhead] at hpath
      obtain ⟨next, hstep, htailPath⟩ := path_cons_iff.mp hpath
      exact hrest next hstep tail other after mid htail htailPath

end Monitor

/-!
# Programs under a monitor
-/

namespace Program

variable {m : Monitor σ} {halt : Halt -> σ -> Prop} {s : σ}

def Outcome.Ends (halt : Halt -> σ -> Prop) (post : α -> σ -> Prop) : Outcome α -> σ -> Prop
  | .returned value, s => post value s
  | .halted reason, s => halt reason s

/-- On every way through the program from this state each call is allowed, and the way
ends as `post` says of a value and `halt` of ending without one. -/
def Meets (m : Monitor σ) (halt : Halt -> σ -> Prop) :
    Program α -> (α -> σ -> Prop) -> σ -> Prop
  | .done value, post, s => post value s
  | .halt reason, _, s => halt reason s
  | .call c next, post, s =>
      m.allowed s c ∧
        forall answer mid, m.step s ⟨c, answer⟩ mid -> Meets m halt (next answer) post mid

theorem Meets.weaken {halt' : Halt -> σ -> Prop} {p : Program α} {post post' : α -> σ -> Prop}
    (h : p.Meets m halt post s)
    (hhalt : forall reason s, halt reason s -> halt' reason s)
    (hpost : forall value s, post value s -> post' value s) :
    p.Meets m halt' post' s := by
  induction p generalizing s with
  | done value => exact hpost value s h
  | halt reason => exact hhalt reason s h
  | call c next ih =>
      constructor
      · exact h.1
      · intro answer mid hstep
        exact ih answer (h.2 answer mid hstep)

theorem Meets.mono {p : Program α} {post post' : α -> σ -> Prop}
    (h : p.Meets m halt post s)
    (hpost : forall value s, post value s -> post' value s) :
    p.Meets m halt post' s :=
  h.weaken (fun _ _ hreason => hreason) hpost

/-- What is computed along the tree holds of every branch. -/
theorem Meets.of_branch {p : Program α} {post : α -> σ -> Prop} {events : List Event}
    {outcome : Outcome α}
    (h : p.Meets m halt post s)
    (branch : Branch p events outcome) :
    m.Obeyed s events ∧ forall last, m.Path s events last -> outcome.Ends halt post last := by
  induction branch generalizing s with
  | done value =>
      constructor
      · exact Monitor.obeyed_nil
      · intro last hpath
        rw [← Monitor.path_nil_iff.mp hpath]
        exact h
  | halt reason =>
      constructor
      · exact Monitor.obeyed_nil
      · intro last hpath
        rw [← Monitor.path_nil_iff.mp hpath]
        exact h
  | call c next answer rest ih =>
      constructor
      · exact Monitor.obeyed_cons h.1 fun mid hstep => (ih (h.2 answer mid hstep)).1
      · intro last hpath
        obtain ⟨mid, hstep, hrest⟩ := Monitor.path_cons_iff.mp hpath
        exact (ih (h.2 answer mid hstep)).2 last hrest

@[simp] theorem meets_pure {value : α} {post : α -> σ -> Prop} :
    (pure value : Program α).Meets m halt post s <-> post value s := Iff.rfl

@[simp] theorem meets_done {value : α} {post : α -> σ -> Prop} :
    (Program.done value).Meets m halt post s <-> post value s := Iff.rfl

@[simp] theorem meets_bind {p : Program α} {f : α -> Program β} {post : β -> σ -> Prop} :
    (p >>= f).Meets m halt post s <->
      p.Meets m halt (fun value s => (f value).Meets m halt post s) s := by
  induction p generalizing s with
  | done value => rfl
  | halt reason => rfl
  | call c next ih =>
      constructor
      · intro h
        exact ⟨h.1, fun answer mid hstep => (ih answer).mp (h.2 answer mid hstep)⟩
      · intro h
        exact ⟨h.1, fun answer mid hstep => (ih answer).mpr (h.2 answer mid hstep)⟩

@[simp] theorem meets_map {p : Program α} {f : α -> β} {post : β -> σ -> Prop} :
    (f <$> p).Meets m halt post s <-> p.Meets m halt (fun value s => post (f value) s) s := by
  rw [map_eq_pure_bind, meets_bind]
  rfl

@[simp] theorem meets_call {c : Call} {next : c.Answer -> Program α} {post : α -> σ -> Prop} :
    (Program.call c next).Meets m halt post s <->
      m.allowed s c ∧ forall answer mid, m.step s ⟨c, answer⟩ mid ->
        (next answer).Meets m halt post mid := Iff.rfl

end Program

/-!
# The calls of a program
-/

def Monitor.only (P : Call -> Prop) : Monitor Unit where
  step _ _ _ := True
  allowed _ c := P c

def Program.Makes (p : Program α) (P : Call -> Prop) : Prop :=
  p.Meets (.only P) (fun _ _ => True) (fun _ _ => True) ()

/-- What calls of one kind keep, a program that makes only such calls keeps. -/
theorem Program.Makes.meets {m : Monitor σ} {P : Call -> Prop} {I : σ -> Prop} {s : σ}
    {p : Program α}
    (h : p.Makes P)
    (hallowed : forall s c, I s -> P c -> m.allowed s c)
    (hstep : forall s c answer mid, I s -> P c -> m.step s ⟨c, answer⟩ mid -> I mid)
    (hs : I s) :
    p.Meets m (fun _ => I) (fun _ => I) s := by
  induction p generalizing s with
  | done value => exact hs
  | halt reason => exact hs
  | call c next ih =>
      constructor
      · exact hallowed s c hs h.1
      · intro answer mid hmid
        exact ih answer (h.2 answer () trivial) (hstep s c answer mid hs h.1 hmid)

theorem Program.Makes.bind {P : Call -> Prop} {p : Program α} {f : α -> Program β}
    (hp : p.Makes P)
    (hf : forall value, (f value).Makes P) :
    (p >>= f).Makes P := by
  rw [Makes, meets_bind]
  apply Meets.mono hp
  intro value _ _
  exact hf value

theorem Program.makes_map {P : Call -> Prop} {p : Program α} {f : α -> β} :
    (f <$> p).Makes P <-> p.Makes P := by
  rw [Makes, meets_map]
  rfl

theorem Program.makes_ask {P : Call -> Prop} {c : Call} (hc : P c) : (ask c).Makes P :=
  ⟨hc, fun _ _ _ => trivial⟩

/-!
# Attempts under a monitor
-/

namespace Attempt

variable {m : Monitor σ} {halt : Halt -> σ -> Prop} {s : σ} {fail : Error -> σ -> Prop}

def either (fail : Error -> σ -> Prop) (post : α -> σ -> Prop) : Except Error α -> σ -> Prop
  | .ok value, s => post value s
  | .error error, s => fail error s

theorem either_eta (post : Except Error α -> σ -> Prop) :
    either (fun error => post (.error error)) (fun value => post (.ok value)) = post := by
  funext result s
  cases result with
  | ok value => rfl
  | error error => rfl

def Meets (m : Monitor σ) (halt : Halt -> σ -> Prop) (body : Attempt α)
    (fail : Error -> σ -> Prop) (post : α -> σ -> Prop) (s : σ) : Prop :=
  Program.Meets m halt body.run (either fail post) s

theorem Meets.weaken {halt' : Halt -> σ -> Prop} {fail' : Error -> σ -> Prop} {body : Attempt α}
    {post post' : α -> σ -> Prop}
    (h : body.Meets m halt fail post s)
    (hhalt : forall reason s, halt reason s -> halt' reason s)
    (hfail : forall error s, fail error s -> fail' error s)
    (hpost : forall value s, post value s -> post' value s) :
    body.Meets m halt' fail' post' s := by
  apply Program.Meets.weaken h hhalt
  intro result s hresult
  cases result with
  | ok value => exact hpost value s hresult
  | error error => exact hfail error s hresult

theorem Meets.mono {body : Attempt α} {fail' : Error -> σ -> Prop} {post post' : α -> σ -> Prop}
    (h : body.Meets m halt fail post s)
    (hfail : forall error s, fail error s -> fail' error s)
    (hpost : forall value s, post value s -> post' value s) :
    body.Meets m halt fail' post' s :=
  h.weaken (fun _ _ hreason => hreason) hfail hpost

@[simp] theorem meets_run {body : Attempt α} {post : Except Error α -> σ -> Prop} :
    Program.Meets m halt body.run post s <->
      body.Meets m halt (fun error => post (.error error)) (fun value => post (.ok value)) s := by
  rw [Meets, either_eta]

@[simp] theorem meets_mk {body : Program (Except Error α)} {post : α -> σ -> Prop} :
    Meets m halt (ExceptT.mk body) fail post s <->
      body.Meets m halt (either fail post) s := Iff.rfl

@[simp] theorem meets_pure {value : α} {post : α -> σ -> Prop} :
    Meets m halt (pure value) fail post s <-> post value s := Iff.rfl

@[simp] theorem meets_bind {body : Attempt α} {f : α -> Attempt β} {post : β -> σ -> Prop} :
    Meets m halt (body >>= f) fail post s <->
      body.Meets m halt fail (fun value s => (f value).Meets m halt fail post s) s := by
  rw [Meets, ExceptT.run_bind, Program.meets_bind]
  exact meets_run

@[simp] theorem meets_lift {p : Program α} {post : α -> σ -> Prop} :
    Meets m halt (liftM p : Attempt α) fail post s <-> p.Meets m halt post s := by
  change Program.Meets m halt (Except.ok <$> p) (either fail post) s <-> _
  rw [Program.meets_map]
  rfl

@[simp] theorem meets_liftExcept {result : Except Error α} {post : α -> σ -> Prop} :
    Meets m halt (liftM result : Attempt α) fail post s <-> either fail post result s := Iff.rfl

@[simp] theorem either_ok {value : α} {post : α -> σ -> Prop} :
    either fail post (.ok value) s <-> post value s := Iff.rfl

@[simp] theorem either_mapError_ok {f : Errno -> Error} {value : α} {post : α -> σ -> Prop} :
    either fail post ((Except.ok value).mapError f) s <-> post value s := Iff.rfl

@[simp] theorem meets_ofCall {p : Program (Except Errno α)} {post : α -> σ -> Prop} :
    Meets m halt (ofCall p) fail post s <->
      p.Meets m halt (fun answer s => either fail post (answer.mapError .ofErrno) s) s := by
  rw [ofCall, meets_mk, Program.meets_map]

@[simp] theorem meets_inContext {operation : String} {address : Option Address}
    {body : Attempt α} {post : α -> σ -> Prop} :
    Meets m halt (inContext operation address body) fail post s <->
      body.Meets m halt (fun error => fail (error.inContext operation Network.tipc address))
        post s := by
  rw [inContext, meets_mk, Program.meets_map, meets_run]
  rfl

end Attempt

/-!
# The values of a program
-/

namespace Program

def Returns (p : Program α) (P : α -> Prop) : Prop :=
  forall events value, Branch p events (.returned value) -> P value

theorem returns_pure {P : α -> Prop} {value : α}
    (h : P value) : (pure value : Program α).Returns P := by
  intro events other branch
  cases branch
  exact h

theorem Returns.mono {P Q : α -> Prop} {p : Program α}
    (h : p.Returns P)
    (hQ : forall value, P value -> Q value) :
    p.Returns Q := by
  intro events value branch
  exact hQ value (h events value branch)

theorem Returns.bind {P : α -> Prop} {Q : β -> Prop} {p : Program α} {f : α -> Program β}
    (h : p.Returns P)
    (hf : forall value, P value -> (f value).Returns Q) :
    (p >>= f).Returns Q := by
  intro events value branch
  rcases branch_bind_returned.mp branch with ⟨first, second, middle, _, hfirst, hsecond⟩
  exact hf middle (h first middle hfirst) second value hsecond

theorem returns_bind {P : β -> Prop} {p : Program α} {f : α -> Program β}
    (h : forall value, (f value).Returns P) : (p >>= f).Returns P :=
  Returns.bind (fun _ _ _ => trivial) fun value (_ : True) => h value

end Program

/-!
# The calls of an attempt
-/

namespace Attempt

variable {P : Call -> Prop}

theorem makes_bind {body : Attempt α} {f : α -> Attempt β}
    (hbody : body.run.Makes P)
    (hf : forall value, (f value).run.Makes P) :
    (body >>= f).run.Makes P := by
  rw [ExceptT.run_bind]
  apply Program.Makes.bind hbody
  intro result
  cases result with
  | ok value => exact hf value
  | error error => trivial

theorem makes_ofCall {p : Program (Except Errno α)} :
    (ofCall p).run.Makes P <-> p.Makes P :=
  Program.makes_map

theorem makes_inContext {operation : String} {address : Option Address} {body : Attempt α} :
    (inContext operation address body).run.Makes P <-> body.run.Makes P :=
  Program.makes_map

theorem makes_lift {p : Program α} (hp : p.Makes P) : (liftM p : Attempt α).run.Makes P :=
  Program.makes_map.mpr hp

end Attempt

/-!
# Descriptors under a monitor
-/

namespace Descriptor

variable {m : Monitor σ} {halt : Halt -> σ -> Prop} {s : σ} {fail : Error -> σ -> Prop}
  {d : Descriptor}

-- A monitor sees through the names of the single calls.
attribute [simp] Program.ask Program.now openStream bind connect listen accept localRecord
  peerRecord receive send shutdown configure linger waitLimit takeFailure poll duplicate close

@[simp] theorem meets_release {post : Unit -> σ -> Prop} :
    d.release.Meets m halt post s <->
      m.allowed s (.close d) ∧
        forall answer mid, m.step s ⟨.close d, answer⟩ mid -> post () mid :=
  Iff.rfl

@[simp] theorem meets_guarding {body : Attempt α} {post : α -> σ -> Prop} :
    Attempt.Meets m halt (d.guarding body) fail post s <->
      body.Meets m halt (fun error s => d.release.Meets m halt (fun _ => fail error) s)
        post s := by
  rw [guarding, Attempt.meets_mk, Program.meets_bind, Attempt.meets_run]
  rfl

@[simp] theorem meets_tryConfigure {setting : Setting} {post : Unit -> σ -> Prop} :
    (d.tryConfigure setting).Meets m halt post s <->
      m.allowed s (.configure d setting) ∧
        forall answer mid, m.step s ⟨.configure d setting, answer⟩ mid -> post () mid :=
  Iff.rfl

@[simp] theorem meets_localAddress? {post : Option Address -> σ -> Prop} :
    d.localAddress?.Meets m halt post s <->
      m.allowed s (.localRecord d) ∧ forall (answer : Except Errno Record) (mid : σ),
        m.step s ⟨.localRecord d, answer⟩ mid ->
        post (match answer with | .ok record => record.toAddress? | .error _ => none) mid := by
  simp only [localAddress?, localRecord, Program.ask, Program.meets_bind, Program.meets_call,
    Program.meets_done]
  apply and_congr_right
  intro _
  apply forall_congr'
  intro answer
  cases answer <;> rfl

@[simp] theorem meets_peerAddress? {post : Option Address -> σ -> Prop} :
    d.peerAddress?.Meets m halt post s <->
      m.allowed s (.peerRecord d) ∧ forall (answer : Except Errno Record) (mid : σ),
        m.step s ⟨.peerRecord d, answer⟩ mid ->
        post (match answer with | .ok record => record.toAddress? | .error _ => none) mid := by
  simp only [peerAddress?, peerRecord, Program.ask, Program.meets_bind, Program.meets_call,
    Program.meets_done]
  apply and_congr_right
  intro _
  apply forall_congr'
  intro answer
  cases answer <;> rfl

@[simp] theorem meets_setNonblocking {enabled : Bool} {post : Except Errno Unit -> σ -> Prop} :
    (d.setNonblocking enabled).Meets m halt post s <->
      m.allowed s (.isNonblocking d) ∧ forall (answer : Except Errno Bool) (mid : σ),
        m.step s ⟨.isNonblocking d, answer⟩ mid ->
        match answer with
        | .error errno => post (.error errno) mid
        | .ok current =>
            if current = enabled then post (.ok ()) mid
            else m.allowed mid (.setNonblocking d enabled) ∧
              forall (answer : Except Errno Unit) (last : σ),
                m.step mid ⟨.setNonblocking d enabled, answer⟩ last -> post answer last := by
  simp only [setNonblocking, Program.ask, Program.meets_bind, Program.meets_call,
    Program.meets_done]
  apply and_congr_right
  intro _
  apply forall_congr'
  intro answer
  cases answer with
  | error errno => rfl
  | ok current =>
      by_cases hsame : current = enabled
      · simp only [hsame, if_true]
        rfl
      · simp only [hsame, if_false]
        rfl

theorem setNonblocking_makes {P : Call -> Prop} {enabled : Bool}
    (hasks : P (.isNonblocking d))
    (htells : P (.setNonblocking d enabled)) :
    (d.setNonblocking enabled).Makes P := by
  rw [Program.Makes, meets_setNonblocking]
  constructor
  · exact hasks
  · intro answer _ _
    cases answer with
    | error errno => trivial
    | ok current =>
        dsimp only
        split
        · trivial
        · exact ⟨htells, fun _ _ _ => trivial⟩

theorem guarding_makes {P : Call -> Prop} {body : Attempt α}
    (hbody : body.run.Makes P)
    (hcloses : P (.close d)) :
    (d.guarding body).run.Makes P := by
  rw [Program.Makes, Attempt.meets_run, meets_guarding]
  apply (Attempt.meets_run.mp hbody).mono
  · intro error _ _
    exact ⟨hcloses, fun _ _ _ => trivial⟩
  · intro value _ _
    trivial

end Descriptor
end ServiceSocket
