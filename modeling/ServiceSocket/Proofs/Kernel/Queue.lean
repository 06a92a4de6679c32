import ServiceSocket.Proofs.Kernel.Monitor

/-!
# Queues

What comes for a socket waits in a queue of the system.  More of it may come at any time, and
it goes behind the rest.  A call is handed what is in front.
-/

namespace ServiceSocket

structure Queue (β : Type) where
  /-- All that has come so far, in order. -/
  supplied : List β
  waiting : List β

namespace Queue

def untouched (supplied : List β) : Queue β :=
  ⟨supplied, supplied⟩

/-- Each event is handed what it is said to take, and more may have come before that. -/
def serving (taken : Event -> List β) : Monitor (Queue β) where
  step q event after := exists arrived, after.supplied = q.supplied ++ arrived ∧
    q.waiting ++ arrived = taken event ++ after.waiting
  allowed _ _ := True

variable {taken : Event -> List β} {q last : Queue β} {events : List Event}

theorem supplied_eq {before : List β}
    (path : (serving taken).Path q events last)
    (hq : q.supplied = before ++ q.waiting) :
    last.supplied = before ++ events.flatMap taken ++ last.waiting := by
  induction path generalizing before with
  | nil q => rw [hq, List.flatMap_nil, List.append_nil]
  | @cons q mid last event events first rest ih =>
      rcases first with ⟨arrived, hsupplied, hwaiting⟩
      have hmid : mid.supplied = (before ++ taken event) ++ mid.waiting := by
        rw [hsupplied, hq, List.append_assoc, hwaiting, List.append_assoc]
      rw [ih hmid, List.flatMap_cons, List.append_assoc before]

theorem supplied_of_untouched {supply : List β}
    (path : (serving taken).Path (untouched supply) events last) :
    last.supplied = events.flatMap taken ++ last.waiting :=
  supplied_eq path (List.nil_append supply).symm

theorem path_of_waiting_eq {rest : List β}
    (h : q.waiting = events.flatMap taken ++ rest) :
    (serving taken).Path q events ⟨q.supplied, rest⟩ := by
  induction events generalizing q with
  | nil =>
      rw [List.flatMap_nil, List.nil_append] at h
      rw [← h]
      exact .nil q
  | cons event events ih =>
      rw [List.flatMap_cons, List.append_assoc] at h
      have hfirst : (serving taken).step q event ⟨q.supplied, events.flatMap taken ++ rest⟩ :=
        ⟨[], (List.append_nil _).symm, by rw [List.append_nil, h]⟩
      exact .cons hfirst (ih rfl)

end Queue
end ServiceSocket
