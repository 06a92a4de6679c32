/-!
# Time

Instants are points on the system's clock and durations lie between them, both in
nanoseconds.  A clock counts its seconds in a signed word of 64 bits, so a duration can
lead past the last instant.
-/

namespace ServiceSocket

structure Duration where
  nanoseconds : Nat
deriving DecidableEq

structure Instant where
  nanoseconds : Int
deriving DecidableEq

namespace Duration

def ofSeconds (seconds : Nat) : Duration :=
  ⟨seconds * 1_000_000_000⟩

def seconds (d : Duration) : Nat :=
  d.nanoseconds / 1_000_000_000

def fraction (d : Duration) : Nat :=
  d.nanoseconds % 1_000_000_000

def milliseconds (d : Duration) : Nat :=
  d.nanoseconds / 1_000_000

end Duration

namespace Instant

def IsRepresentable (t : Instant) : Prop :=
  -0x8000_0000_0000_0000 * 1_000_000_000 ≤ t.nanoseconds ∧
    t.nanoseconds < 0x8000_0000_0000_0000 * 1_000_000_000

instance (t : Instant) : Decidable t.IsRepresentable := by
  unfold IsRepresentable
  infer_instance

def shift (t : Instant) (nanoseconds : Int) : Instant :=
  ⟨t.nanoseconds + nanoseconds⟩

/-- The instant after a duration, if the clock can show it. -/
def after? (t : Instant) (d : Duration) : Option Instant :=
  let later := t.shift d.nanoseconds
  if later.IsRepresentable then some later else none

/-- The time left until a deadline; none when it has come. -/
def until? (now deadline : Instant) : Option Duration :=
  if now.nanoseconds < deadline.nanoseconds then
    some ⟨(deadline.nanoseconds - now.nanoseconds).toNat⟩
  else
    none

end Instant
end ServiceSocket
