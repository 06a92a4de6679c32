import ServiceSocket.Proofs.Readiness.Ending
import ServiceSocket.Proofs.Virtual.Proceeding

/-!
# Lingering on the virtual system

The virtual system keeps the option for lingering with the socket, which other descriptors may
belong to as well.
-/

namespace ServiceSocket

open Program

/-!
# The option
-/

section

/-- The option of a descriptor.  What is set with success stands until the option is set again,
and what is told is what stands.  Another descriptor may belong to the same socket, so nothing is
said about what setting its option does to this one. -/
def lingerOption (d : Descriptor) : Monitor Linger where
  step option event after :=
    match event with
    | ⟨.configure other (.linger value), .ok ()⟩ => other = d -> after = value
    | ⟨.linger other, .ok value⟩ => after = option ∧ (other = d -> value = option)
    | _ => after = option
  allowed _ _ := True

variable {d : Descriptor} {option : Linger}

instance : (lingerOption d).Follows := ⟨fun _ _ => trivial⟩

theorem lingerOption_keeps {c : Call}
    (hc : c.setsLinger = false)
    {answer : c.Answer} {after : Linger}
    (hstep : (lingerOption d).step option ⟨c, answer⟩ after) :
    after = option := by
  cases c with
  | configure other setting =>
      cases setting with
      | linger value => cases hc
      | _ => cases answer <;> exact hstep
  | linger other =>
      cases answer with
      | error errno => exact hstep
      | ok value => exact hstep.1
  | _ => exact hstep

theorem Program.Makes.keeps_lingerOption {p : Program α}
    (h : p.Makes fun c => c.setsLinger = false) :
    p.Meets (lingerOption d) (fun _ now => now = option) (fun _ now => now = option) option := by
  apply Makes.meets (I := (· = option)) h
  · exact fun _ _ _ _ => trivial
  · intro now c answer mid hnow hc hstep
    exact (lingerOption_keeps hc hstep).trans hnow
  · rfl

end

/-!
# The option on the virtual system
-/

namespace Virtual
namespace System

variable {s after : System} {d other : Descriptor} {option : Linger}

/-- The number of the descriptor has been given out, and its socket has this option unless the
descriptor is closed. -/
structure Lingers (s : System) (d : Descriptor) (option : Linger) : Prop where
  known : d.number < s.descriptors.length
  linger?_eq : forall number, s.socketOf d = some number -> s.linger? number = some option

theorem Proceeds.lingers
    (h : s.Proceeds after)
    (hs : s.Lingers d option) :
    after.Lingers d option where
  known := Nat.lt_of_lt_of_le hs.known h.length_le
  linger?_eq number hnumber :=
    h.linger?_eq number option (hs.linger?_eq number (h.socketOf_eq d number hs.known hnumber))

section

variable {number : Nat}

theorem Lingers.update {socket : Socket}
    (hs : s.Lingers d option)
    (hnumber : s.socketOf d = some number)
    (hsocket : s.socket? number = some socket)
    (f : Socket -> Socket) :
    (s.update number f).Lingers d (f socket).linger where
  known := by
    rw [descriptors_update]
    exact hs.known
  linger?_eq found hfound := by
    rw [socketOf_update, hnumber] at hfound
    cases hfound
    rw [linger?, socket?_update, if_pos rfl, hsocket]
    rfl

theorem Lingers.update_other
    (hs : s.Lingers d option)
    (hnumber : s.socketOf d ≠ some number)
    (f : Socket -> Socket) :
    (s.update number f).Lingers d option where
  known := by
    rw [descriptors_update]
    exact hs.known
  linger?_eq found hfound := by
    rw [socketOf_update] at hfound
    have hother : found ≠ number := fun heq => hnumber (heq ▸ hfound)
    rw [linger?, socket?_update, if_neg hother]
    exact hs.linger?_eq found hfound

end

/-!
# One call
-/

theorem reporting_tells {name : CallName} {arguments : List Argument}
    {report : Nat -> Socket -> Except Errno α} {value : α}
    (h : s.reporting name d arguments report = (.ok value, after)) :
    exists number begun socket, s.socketOf d = some number ∧ s.GoesOn begun ∧
      begun.socket? number = some socket ∧ report number socket = .ok value := by
  generalize hvalue : (Except.ok value : Except Errno α) = answer at h
  cases onSocket_handles h with
  | unknown | demanded | missing => cases hvalue
  | @done number intervention begun ended entry socket result hnumber begins hsocket hbody =>
      refine ⟨number, begun, socket, hnumber, begins.goesOn, hsocket, ?_⟩
      cases hbody
      cases report number socket <;> rfl

theorem linger_tells {value : Linger}
    (h : s.answer (.linger d) = (.ok value, after))
    (hs : s.Lingers d option) :
    value = option := by
  rcases reporting_tells h with ⟨number, begun, socket, hnumber, goesOn, hsocket, hvalue⟩
  have hbegun := goesOn.proceeds.lingers hs
  have hoption := hbegun.linger?_eq number ((goesOn.socketOf_eq d).trans hnumber)
  rw [linger?, hsocket] at hoption
  rw [← Except.ok.inj hvalue]
  exact Option.some_inj.mp hoption

theorem configure_lingers {value : Linger} {answer : Except Errno Unit}
    (h : s.configure other (.linger value) = (answer, after))
    (hs : s.Lingers d option) :
    exists now, (lingerOption d).step option ⟨.configure other (.linger value), answer⟩ now ∧
      after.Lingers d now := by
  cases onSocket_handles h with
  | unknown hnumber => exact ⟨option, rfl, hs⟩
  | demanded hnumber begins => exact ⟨option, rfl, (begins.goesOn.proceeds.record _).lingers hs⟩
  | missing hnumber begins => exact ⟨option, rfl, (begins.goesOn.proceeds.record _).lingers hs⟩
  | @done number intervention begun ended entry socket result hnumber begins hsocket hbody =>
      cases hbody
      have hbegun := begins.goesOn.proceeds.lingers hs
      have hrecord {now : Linger} {f : Socket -> Socket}
          (h : (begun.update number f).Lingers d now) :
          ((begun.update number f).record entry).Lingers d now :=
        ((Proceeds.refl _).record entry).lingers h
      by_cases hsame : begun.socketOf d = some number
      · exact ⟨value, fun _ => rfl, hrecord (hbegun.update hsame hsocket _)⟩
      · refine ⟨option, ?_, hrecord (hbegun.update_other hsame _)⟩
        rintro rfl
        exact absurd ((begins.goesOn.socketOf_eq other).trans hnumber) hsame

/-!
# Every call
-/

theorem answer_lingers {c : Call} {given : c.Answer}
    (h : s.answer c = (given, after))
    (hs : s.Lingers d option) :
    exists now, (lingerOption d).step option ⟨c, given⟩ now ∧ after.Lingers d now := by
  cases c with
  | configure other setting =>
      cases setting with
      | linger value => exact configure_lingers h hs
      | _ =>
          refine ⟨option, ?_, (answer_proceeds rfl h).lingers hs⟩
          cases given <;> rfl
  | linger other =>
      refine ⟨option, ?_, (answer_proceeds rfl h).lingers hs⟩
      cases given with
      | error errno => rfl
      | ok value =>
          refine ⟨rfl, ?_⟩
          rintro rfl
          exact linger_tells h hs
  | _ => exact ⟨option, rfl, (answer_proceeds rfl h).lingers hs⟩

theorem path_lingers {events : List Event}
    (path : system.Path s events after)
    (hs : s.Lingers d option) :
    exists now, (lingerOption d).Path option events now ∧ after.Lingers d now := by
  induction path generalizing option with
  | nil s => exact ⟨option, .nil option, hs⟩
  | cons first rest ih =>
      rcases answer_lingers first hs with ⟨between, hstep, hmid⟩
      rcases ih hmid with ⟨now, hpath, hnow⟩
      exact ⟨now, .cons hstep hpath, hnow⟩

end System
end Virtual
end ServiceSocket
