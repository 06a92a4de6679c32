import ServiceSocket.Proofs.Kernel.Recording

/-!
# Modes

A descriptor waits when a call is not ready, or it fails at once.  The mode it is in follows
from the one it started in and from what the system was told since.
-/

namespace ServiceSocket

def Event.modeAfter (d : Descriptor) (mode : Bool) : Event -> Bool
  | ⟨.setNonblocking other enabled, .ok ()⟩ => if other = d then enabled else mode
  | _ => mode

def modeThrough (d : Descriptor) (mode : Bool) (events : List Event) : Bool :=
  events.foldl (Event.modeAfter d) mode

def TellsMode (d : Descriptor) (mode : Bool) (events : List Event) : Prop :=
  forall before told after, events = before ++ ⟨.isNonblocking d, .ok told⟩ :: after ->
    told = modeThrough d mode before

/-- The descriptor ends in this mode, whatever mode it started in. -/
def EndsInMode (d : Descriptor) (enabled : Bool) (events : List Event) : Prop :=
  forall mode, TellsMode d mode events -> modeThrough d mode events = enabled

variable {d : Descriptor} {mode enabled : Bool} {first second : List Event}

theorem modeThrough_append :
    modeThrough d mode (first ++ second) = modeThrough d (modeThrough d mode first) second :=
  List.foldl_append

theorem TellsMode.of_append
    (h : TellsMode d mode (first ++ second)) : TellsMode d mode first := by
  intro before told after hfirst
  apply h before told (after ++ second)
  rw [hfirst, List.append_assoc, List.cons_append]

theorem EndsInMode.append
    (h : EndsInMode d enabled first)
    (hsecond : forall event, event ∈ second -> forall mode, event.modeAfter d mode = mode) :
    EndsInMode d enabled (first ++ second) := by
  intro mode htells
  rw [modeThrough_append, h mode htells.of_append]
  clear htells
  induction second with
  | nil => rfl
  | cons event second ih =>
      rw [modeThrough, List.foldl_cons, hsecond event List.mem_cons_self]
      apply ih
      intro other hother
      exact hsecond other (List.mem_cons_of_mem event hother)

/-!
# Switching
-/

inductive Switches (d : Descriptor) (enabled : Bool) : List Event -> Except Errno Unit -> Prop where
  | unknown (errno : Errno) :
      Switches d enabled [⟨.isNonblocking d, .error errno⟩] (.error errno)
  | kept : Switches d enabled [⟨.isNonblocking d, .ok enabled⟩] (.ok ())
  | told {current : Bool} (answer : Except Errno Unit) :
      Switches d enabled [⟨.isNonblocking d, .ok current⟩, ⟨.setNonblocking d enabled, answer⟩]
        answer

theorem Switches.endsInMode
    (h : Switches d enabled second (.ok ())) :
    EndsInMode d enabled (first ++ second) := by
  intro mode htells
  cases h with
  | kept =>
      rw [modeThrough_append, ← htells first enabled [] rfl]
      rfl
  | told =>
      rw [modeThrough_append]
      exact if_pos rfl

theorem setNonblocking_recorded {halt : Halt -> List Event -> Prop} {s : List Event}
    {post : Except Errno Unit -> List Event -> Prop}
    (h : forall events answer, Switches d enabled events answer -> post answer (s ++ events)) :
    (d.setNonblocking enabled).Meets recorder halt post s := by
  simp only [Descriptor.meets_setNonblocking, Monitor.allowed_and_iff]
  rintro answer asked ⟨⟩
  rcases answer with errno | current
  · exact h _ _ (.unknown errno)
  · dsimp only
    split
    next hsame =>
        rw [hsame]
        exact h _ _ .kept
    next =>
        rintro answer switched ⟨⟩
        rw [List.append_assoc]
        exact h _ _ (.told answer)

end ServiceSocket
