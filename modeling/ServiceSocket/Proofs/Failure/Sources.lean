import ServiceSocket.Proofs.Failure.Layers

/-!
# What errors in layers tell

An error that has come through layers still tells them all.  Its text begins with what each
layer has put before it, and its sources lead through one layer after another down to what the
innermost error was caused by.  Only a byte stream that hands on what came from another one adds
nothing, since it puts nothing around it.
-/

namespace ServiceSocket

/-!
# Sources
-/

inductive Failure where
  | stream (error : IoError)
  | library (error : Error)

def Error.source? : Error -> Option Failure
  | .op _ _ _ source => some (.library source)
  | .io error => some (.stream error)
  | _ => none

/-- An error that wraps another one has the source of that one, and so stands in its place. -/
def IoError.source? : IoError -> Option Failure
  | .wrapped _ error => error.source?
  | _ => none

namespace Failure

def source? : Failure -> Option Failure
  | .stream error => error.source?
  | .library error => error.source?

def depth : Failure -> Nat
  | .stream error => error.depth
  | .library error => error.depth

theorem depth_eq (failure : Failure) :
    failure.depth = failure.source?.elim 0 fun source => source.depth + 1 := by
  have hlibrary (error : Error) :
      error.depth = error.source?.elim 0 fun source => source.depth + 1 := by
    cases error <;> rfl
  cases failure with
  | library error => exact hlibrary error
  | stream error =>
      cases error with
      | wrapped kind error => exact hlibrary error
      | os | bare | message => rfl

def sources (failure : Failure) : List Failure :=
  match _h : failure.source? with
  | none => []
  | some source => source :: source.sources
termination_by failure.depth
decreasing_by
  rw [failure.depth_eq, _h]
  exact Nat.lt_succ_self _

theorem length_sources (failure : Failure) : failure.sources.length = failure.depth := by
  fun_induction sources failure with
  | case1 failure hnone => rw [failure.depth_eq, hnone]; rfl
  | case2 failure source hsome ih =>
      rw [failure.depth_eq, hsome, List.length_cons, ih]
      rfl

end Failure

namespace Error

def contexts : Error -> Nat
  | .op _ _ _ source => source.contexts + 1
  | _ => 0

/-- An error that has come from a byte stream has the error of that stream as its source, and
with it all the sources of that one. -/
def streamSources : Error -> Nat
  | .io stream => 1 + (Failure.stream stream).sources.length
  | _ => 0

theorem depth_eq_contexts (error : Error) :
    error.depth = error.contexts + error.cause.streamSources := by
  fun_induction cause error with
  | case1 _ _ _ source ih =>
      rw [depth, contexts, ih]
      exact Nat.add_right_comm _ _ _
  | case2 error hother =>
      cases error with
      | op operation network address source => exact absurd rfl (hother _ _ _ _)
      | io stream =>
          change stream.depth + 1 = 0 + (1 + (Failure.stream stream).sources.length)
          rw [Failure.length_sources, Nat.zero_add, Nat.add_comm]
          rfl
      | _ => rfl

/-!
# Layers
-/

structure Wrapping where
  around : Error
  layer : Layer

namespace Wrapping

def heading : Wrapping -> String
  | ⟨_, .context operation network address⟩ =>
      operation ++ " " ++ network ++ " " ++ Address.describe address ++ ": "
  | ⟨.io _, .stream⟩ => ""
  | ⟨_, .stream⟩ => "I/O error: "

def isContext : Wrapping -> Bool
  | ⟨_, .context _ _ _⟩ => true
  | ⟨_, .stream⟩ => false

/-- Whether a byte stream is put around an error that has not come from one. -/
def isStream : Wrapping -> Bool
  | ⟨_, .context _ _ _⟩ => false
  | ⟨.io _, .stream⟩ => false
  | ⟨_, .stream⟩ => true

theorem text_wrap (w : Wrapping) : (w.around.wrap w.layer).text = w.heading ++ w.around.text := by
  rcases w with ⟨error, _ | ⟨operation, network, address⟩⟩
  · cases error with
    | io stream => exact String.empty_append.symm
    | _ => rfl
  · rfl

theorem depth_wrap (w : Wrapping) :
    (w.around.wrap w.layer).depth = w.isContext.toNat + w.isStream.toNat + w.around.depth := by
  rcases w with ⟨error, _ | ⟨operation, network, address⟩⟩
  · cases error with
    | io stream => exact (Nat.zero_add _).symm
    | _ => exact Nat.add_comm _ _
  · exact Nat.add_comm _ _

end Wrapping

/-- The layers one after the other, each with the error that it is put around. -/
def wrappings (base : Error) : List Layer -> List Wrapping
  | [] => []
  | layer :: layers => ⟨base, layer⟩ :: (base.wrap layer).wrappings layers

theorem text_wrapAll (base : Error) (layers : List Layer) :
    (base.wrapAll layers).text =
      String.join ((base.wrappings layers).reverse.map Wrapping.heading) ++ base.text := by
  induction layers generalizing base with
  | nil => exact String.empty_append.symm
  | cons layer layers ih =>
      rw [wrapAll_cons, ih, Wrapping.text_wrap ⟨base, layer⟩, wrappings, List.reverse_cons,
        List.map_append, String.join_append, String.append_assoc]
      rfl

theorem depth_wrapAll (base : Error) (layers : List Layer) :
    (base.wrapAll layers).depth = (base.wrappings layers).countP Wrapping.isContext +
      (base.wrappings layers).countP Wrapping.isStream + base.depth := by
  induction layers generalizing base with
  | nil => exact (Nat.zero_add _).symm
  | cons layer layers ih =>
      have hcount (counted : Wrapping -> Bool) :
          ((base.wrappings (layer :: layers)).countP counted) =
            ((base.wrap layer).wrappings layers).countP counted +
              (counted ⟨base, layer⟩).toNat := by
        rw [wrappings, List.countP_cons]
        cases counted ⟨base, layer⟩ <;> rfl
      rw [wrapAll_cons, ih, Wrapping.depth_wrap ⟨base, layer⟩, hcount, hcount]
      dsimp only
      omega

/-- Whatever layers are put around an error, its text is what they have put before it, outermost
first, and then its own.  Its sources are one for each context, one for each byte stream around
an error that has not come from one, and those of the cause, if that has come from one.  An error
that is in contexts from the start has one for each of these. -/
theorem layers_keep_context (base : Error) (layers : List Layer) :
    (base.wrapAll layers).text =
      String.join ((base.wrappings layers).reverse.map Wrapping.heading) ++ base.text ∧
    (Failure.library (base.wrapAll layers)).sources.length =
      ((base.wrappings layers).countP Wrapping.isContext + base.contexts) +
        (base.wrappings layers).countP Wrapping.isStream + base.cause.streamSources := by
  constructor
  · exact text_wrapAll base layers
  · rw [Failure.length_sources, Failure.depth, depth_wrapAll, depth_eq_contexts]
    omega

/-- It is not enough to count what the layers add: a timeout in dialling is in a context before
any layer is put around it. -/
theorem sources_exceed_added_layers :
    ¬ forall (base : Error) (layers : List Layer),
      (Failure.library (base.wrapAll layers)).sources.length =
        (base.wrappings layers).countP Wrapping.isContext +
          (base.wrappings layers).countP Wrapping.isStream + base.streamSources := by
  intro h
  have hdial := h (.inContext "dial" Network.tipc none .timeout) []
  rw [Failure.length_sources] at hdial
  cases hdial

end Error
end ServiceSocket
