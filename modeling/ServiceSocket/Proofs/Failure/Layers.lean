import ServiceSocket.Failure.Basic

/-!
# Errors in layers

An error comes to its caller in layers: contexts, which leave the cause in sight, and byte
streams, which hide everything but the kind.  A byte stream hides a whole library error, so
what can be told of the result rests on each of them having kept the kind of what it hides.
-/

namespace ServiceSocket
namespace Error

/-!
# One layer
-/

@[simp] theorem cause_inContext (operation network : String) (address : Option Address)
    (error : Error) : (error.inContext operation network address).cause = error.cause := rfl

@[simp] theorem kind_toIoError (error : Error) : error.toIoError.kind = error.kind := by
  cases error <;> rfl

theorem isTimeout_eq (error : Error) : error.isTimeout = (error.kind == .timedOut) := by
  unfold isTimeout kind
  cases error.cause <;> rfl

/-!
# Causes
-/

theorem cause_ne_op (error : Error) (operation network address : String) (source : Error) :
    error.cause ≠ .op operation network address source := by
  fun_induction cause error with
  | case1 _ _ _ inner ih => exact ih
  | case2 error hother => exact hother operation network address source

theorem wrapAll_cons (error : Error) (layer : Layer) (layers : List Layer) :
    error.wrapAll (layer :: layers) = (error.wrap layer).wrapAll layers := rfl

abbrev Context := String × String × Option Address

def Context.layer (context : Context) : Layer :=
  .context context.1 context.2.1 context.2.2

theorem cause_wrapAll_contexts (base : Error) (contexts : List Context) :
    (base.wrapAll (contexts.map Context.layer)).cause = base.cause := by
  induction contexts generalizing base with
  | nil => rfl
  | cons context contexts ih =>
      rw [List.map_cons, wrapAll_cons, ih]
      exact cause_inContext context.1 context.2.1 context.2.2 base

/-!
# Kinds
-/

theorem kind_wrap (error : Error) (layer : Layer) : (error.wrap layer).kind = error.kind := by
  cases layer with
  | stream =>
      show error.toIoError.kind = error.kind
      exact kind_toIoError error
  | context operation network address => rfl

theorem kind_wrapAll (base : Error) (layers : List Layer) :
    (base.wrapAll layers).kind = base.kind := by
  induction layers generalizing base with
  | nil => rfl
  | cons layer layers ih => rw [wrapAll_cons, ih, kind_wrap]

theorem kind_eq_other_iff (error : Error) :
    error.kind = .other <-> exists stream, error.cause = .io stream ∧ stream.kind = .other := by
  unfold kind
  cases hcause : error.cause with
  | op operation network address source =>
      exact absurd hcause (cause_ne_op error operation network address source)
  | io stream =>
      constructor
      · intro h
        exact ⟨stream, rfl, h⟩
      · intro h
        rcases h with ⟨other, hother, hkind⟩
        rw [io.inj hother]
        exact hkind
  | unknownNetwork | malformedAddress | missingAddress | invalidDescriptor | timeout =>
      simp

/-- Whatever layers are put around an error, its kind for the callers of a byte stream stays the
same, and so does whether it is a timeout, which is one of the kinds.  A cause is never an error
in a context, and contexts do not change it; a byte stream hands on what came from one as it is,
so passing through two of them is passing through one. -/
theorem kind_survives_layers :
    (forall (base : Error) (layers : List Layer),
      (base.wrapAll layers).toIoError.kind = base.toIoError.kind ∧
        (base.wrapAll layers).isTimeout = base.isTimeout) ∧
    (forall error : Error, error.isTimeout = true <-> error.toIoError.kind = .timedOut) ∧
    (forall (error : Error) (operation network address : String) (source : Error),
      error.cause ≠ .op operation network address source) ∧
    (forall error : Error, error.toIoError.kind = .other <->
      exists stream, error.cause = .io stream ∧ stream.kind = .other) ∧
    (forall (base : Error) (contexts : List Context),
      (base.wrapAll (contexts.map Context.layer)).cause = base.cause) ∧
    (forall stream : IoError, (Error.io stream).toIoError = stream) ∧
    forall error : Error, (error.wrap .stream).wrap .stream = error.wrap .stream := by
  refine ⟨?_, ?_, cause_ne_op, ?_, cause_wrapAll_contexts, fun _ => rfl, fun _ => rfl⟩
  · intro base layers
    rw [kind_toIoError, kind_toIoError, isTimeout_eq, isTimeout_eq, kind_wrapAll]
    exact ⟨rfl, rfl⟩
  · intro error
    rw [isTimeout_eq, kind_toIoError, beq_iff_eq]
  · intro error
    rw [kind_toIoError]
    exact kind_eq_other_iff error

end Error
end ServiceSocket
