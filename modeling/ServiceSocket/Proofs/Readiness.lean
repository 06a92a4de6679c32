import ServiceSocket.Proofs.Kernel.Monitor
import ServiceSocket.Readiness

/-!
# Waiting under a monitor

Waiting reads the clock and polls, and makes no other call.
-/

namespace ServiceSocket
namespace Readiness

variable {m : Monitor σ} {halt : Halt -> σ -> Prop} {fail : Error -> σ -> Prop}
  {post : Unit -> σ -> Prop} {s : σ} {d : Descriptor} {direction : Direction}

/-- One round of the loop: with time left it polls, and goes round again after an
interruption or an early end. -/
theorem pollUntil_succ_meets_iff {deadline : Instant} {patience : Nat} :
    (pollUntil d direction deadline (patience + 1)).Meets m halt fail post s <->
      m.allowed s .now ∧ forall (reading : Instant) (begun : σ), m.step s ⟨.now, reading⟩ begun ->
        match reading.until? deadline with
        | none => fail .timeout begun
        | some left =>
            m.allowed begun (.poll d direction (pollTime left)) ∧
              forall (answer : Except Errno Nat) (polled : σ),
                m.step begun ⟨.poll d direction (pollTime left), answer⟩ polled ->
                match answer with
                | .error errno =>
                    if errno.kind = .interrupted then
                      (pollUntil d direction deadline patience).Meets m halt fail post polled
                    else fail (.ofErrno errno) polled
                | .ok 0 =>
                    m.allowed polled .now ∧
                      forall (late : Instant) (later : σ), m.step polled ⟨.now, late⟩ later ->
                        match late.until? deadline with
                        | none => fail .timeout later
                        | some _ =>
                            (pollUntil d direction deadline patience).Meets m halt fail post later
                | .ok (_ + 1) => post () polled := by
  simp only [pollUntil, Attempt.meets_bind, Attempt.meets_lift, Program.now, Program.ask,
    Program.meets_call, Program.meets_done]
  apply and_congr_right
  intro _
  apply forall_congr'
  intro reading
  apply forall_congr'
  intro begun
  apply imp_congr_right
  intro _
  cases reading.until? deadline with
  | none => rfl
  | some left =>
      simp only [Attempt.meets_bind, Attempt.meets_lift, Descriptor.poll, Program.ask,
        Program.meets_call, Program.meets_done]
      apply and_congr_right
      intro _
      apply forall_congr'
      intro answer
      apply forall_congr'
      intro polled
      apply imp_congr_right
      intro _
      rcases answer with errno | count | count
      · dsimp only
        split <;> rfl
      · simp only [Attempt.meets_bind, Attempt.meets_lift, Program.meets_call,
          Program.meets_done]
        apply and_congr_right
        intro _
        apply forall_congr'
        intro late
        apply forall_congr'
        intro later
        apply imp_congr_right
        intro _
        cases Instant.until? late deadline <;> rfl
      · rfl

theorem pollUntil_makes {P : Call -> Prop} (d : Descriptor) (direction : Direction)
    (deadline : Instant) (patience : Nat)
    (hnow : P .now)
    (hpoll : forall time, P (.poll d direction time)) :
    (pollUntil d direction deadline patience).run.Makes P := by
  rw [Program.Makes, Attempt.meets_run]
  induction patience with
  | zero => trivial
  | succ patience ih =>
      rw [pollUntil_succ_meets_iff]
      constructor
      · exact hnow
      · intro reading _ _
        cases reading.until? deadline with
        | none => trivial
        | some left =>
            constructor
            · exact hpoll _
            · intro answer _ _
              rcases answer with errno | count | count
              · dsimp only
                split
                · exact ih
                · trivial
              · constructor
                · exact hnow
                · intro late _ _
                  cases late.until? deadline with
                  | none => trivial
                  | some _ => exact ih
              · trivial

theorem wait_makes {P : Call -> Prop} (d : Descriptor) (direction : Direction)
    (deadline : Option Instant) (patience : Nat)
    (hnow : P .now)
    (hpoll : forall time, P (.poll d direction time)) :
    (wait d direction deadline patience).run.Makes P := by
  cases deadline with
  | none => trivial
  | some deadline => exact pollUntil_makes d direction deadline patience hnow hpoll

end Readiness
end ServiceSocket
