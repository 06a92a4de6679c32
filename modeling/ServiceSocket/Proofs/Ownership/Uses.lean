import ServiceSocket.Connection
import ServiceSocket.Listener
import ServiceSocket.Proofs.Connection.Calls
import ServiceSocket.Proofs.Ownership.Ledger
import ServiceSocket.Transport

/-!
# Operations that only use a descriptor

Reading, writing, copying, half closing and everything about options and addresses uses the
descriptor of the connection or listener and no other, and neither gets nor closes one.
-/

namespace ServiceSocket

variable {own : Multiset Descriptor} {d : Descriptor}

namespace Call

theorem uses_of_mem {c : Call}
    (hd : d ∈ own)
    (hpassive : c.isPassive = true)
    (htarget : c.target? = some d) :
    c.Uses own := by
  constructor
  · exact hpassive
  · intro other hother
    rw [htarget] at hother
    cases hother
    exact hd

theorem uses_now : Call.now.Uses own := by
  constructor
  · exact rfl
  · intro d htarget
    cases htarget

end Call

/-!
# On one descriptor
-/

namespace Descriptor

theorem ask_uses {c : Call}
    (hd : d ∈ own)
    (hpassive : c.isPassive = true)
    (htarget : c.target? = some d) :
    (Program.ask c).Makes (Call.Uses own) :=
  Program.makes_ask (Call.uses_of_mem hd hpassive htarget)

theorem wait_uses
    (hd : d ∈ own)
    (direction : Direction) (deadline : Option Instant) (patience : Nat) :
    (Readiness.wait d direction deadline patience).run.Makes (Call.Uses own) :=
  Readiness.wait_makes d direction deadline patience Call.uses_now fun _ =>
    Call.uses_of_mem hd rfl rfl

theorem localAddress?_uses (hd : d ∈ own) : d.localAddress?.Makes (Call.Uses own) := by
  rw [Program.Makes, meets_localAddress?]
  exact ⟨Call.uses_of_mem hd rfl rfl, fun _ _ _ => trivial⟩

theorem peerAddress?_uses (hd : d ∈ own) : d.peerAddress?.Makes (Call.Uses own) := by
  rw [Program.Makes, meets_peerAddress?]
  exact ⟨Call.uses_of_mem hd rfl rfl, fun _ _ _ => trivial⟩

theorem setNonblocking_uses
    (hd : d ∈ own)
    (enabled : Bool) :
    (d.setNonblocking enabled).Makes (Call.Uses own) :=
  setNonblocking_makes (Call.uses_of_mem hd rfl rfl) (Call.uses_of_mem hd rfl rfl)

theorem tryConfigure_uses
    (hd : d ∈ own)
    (setting : Setting) :
    (d.tryConfigure setting).Makes (Call.Uses own) := by
  rw [Program.Makes, meets_tryConfigure]
  exact ⟨Call.uses_of_mem hd rfl rfl, fun _ _ _ => trivial⟩

end Descriptor

/-!
# Connections
-/

namespace Connection

def owned (c : Connection) : Multiset Descriptor :=
  c.descriptor.elim 0 ({·})

theorem owned_eq {c : Connection} (hopen : c.descriptor = some d) : c.owned = {d} := by
  rw [owned, hopen]
  rfl

variable {c : Connection}

theorem makes_uses {P : Descriptor -> Call -> Prop} {p : Program α}
    (h : p.Makes (c.On P))
    (hP : forall d call, P d call -> call.Uses {d}) :
    p.Makes (Call.Uses c.owned) := by
  apply h.mono
  intro call hcall
  rcases hcall with ⟨d, hopen, hcall⟩
  rw [owned_eq hopen]
  exact hP d call hcall

theorem uses_self {d : Descriptor} {call : Call}
    (hpassive : call.isPassive = true)
    (htarget : call.target? = some d) :
    call.Uses {d} :=
  Call.uses_of_mem (Multiset.mem_singleton_self d) hpassive htarget

theorem uses_of_writes (d : Descriptor) (call : Call) (h : call.Writes d) : call.Uses {d} := by
  cases h with
  | now => exact Call.uses_now
  | poll | send => exact uses_self rfl rfl

theorem read_uses (limit patience : Nat) :
    (c.read limit patience).run.Makes (Call.Uses c.owned) := by
  apply makes_uses (read_makes limit patience)
  intro d call hcall
  cases hcall with
  | now => exact Call.uses_now
  | poll | receive => exact uses_self rfl rfl

theorem write_uses (bytes : List UInt8) (patience : Nat) :
    (c.write bytes patience).run.Makes (Call.Uses c.owned) :=
  makes_uses (write_makes bytes patience) uses_of_writes

theorem copyFrom_uses (source : Source) (patience : Nat) :
    (c.copyFrom source patience).Makes (Call.Uses c.owned) :=
  makes_uses (copyFrom_makes source patience) uses_of_writes

theorem shutdown_uses (half : Half) : (c.shutdown half).run.Makes (Call.Uses c.owned) := by
  apply makes_uses (shutdown_makes half)
  rintro d call rfl
  exact uses_self rfl rfl

theorem configure_uses (setting : Setting) :
    (c.configure setting).run.Makes (Call.Uses c.owned) := by
  apply makes_uses (configure_makes setting)
  rintro d call rfl
  exact uses_self rfl rfl

theorem linger_uses : c.linger.run.Makes (Call.Uses c.owned) := by
  apply makes_uses linger_makes
  rintro d call rfl
  exact uses_self rfl rfl

theorem setKeepAlivePeriod_uses (period : Duration) :
    (c.setKeepAlivePeriod period).run.Makes (Call.Uses c.owned) := by
  apply makes_uses (setKeepAlivePeriod_makes period)
  intro d call hcall
  cases hcall <;> exact uses_self rfl rfl

end Connection

/-!
# Connections between hosts
-/

namespace Tcp

theorem setWaitLimit_uses
    (hd : d ∈ own)
    (direction : Direction) (limit : Option Duration) :
    (setWaitLimit d direction limit).Makes (Call.Uses own) := by
  unfold setWaitLimit
  cases limit with
  | none => exact Program.makes_map.mpr (Descriptor.ask_uses hd rfl rfl)
  | some limit =>
      dsimp only
      split
      · trivial
      · exact Program.makes_map.mpr (Descriptor.ask_uses hd rfl rfl)

namespace Connection

def owned (c : Connection) : Multiset Descriptor :=
  {c.descriptor}

variable {c : Connection}

theorem descriptor_mem_owned (c : Connection) : c.descriptor ∈ c.owned :=
  Multiset.mem_singleton_self _

theorem limited_uses {body : Program (Except Errno α)} (direction : Direction)
    (hbody : body.Makes (Call.Uses c.owned))
    (left : Option Duration) :
    Program.Makes (do
      match ← setWaitLimit c.descriptor direction left with
      | .error error => return .error error
      | .ok () => Except.mapError IoError.os <$> body) (Call.Uses c.owned) := by
  apply Program.Makes.bind (setWaitLimit_uses c.descriptor_mem_owned direction left)
  intro result
  cases result with
  | error error => trivial
  | ok _ => exact Program.makes_map.mpr hbody

theorem bounded_uses {body : Program (Except Errno α)} (direction : Direction)
    (hbody : body.Makes (Call.Uses c.owned)) :
    (c.bounded direction body).Makes (Call.Uses c.owned) := by
  unfold bounded
  cases c.deadline with
  | none => exact limited_uses direction hbody none
  | some deadline =>
      apply Program.Makes.bind (Program.makes_ask Call.uses_now)
      intro now
      cases now.until? deadline with
      | none => trivial
      | some left => exact limited_uses direction hbody (some left)

theorem read_uses (limit : Nat) : (c.read limit).Makes (Call.Uses c.owned) :=
  bounded_uses .input (Descriptor.ask_uses c.descriptor_mem_owned rfl rfl)

theorem write_uses (bytes : List UInt8) : (c.write bytes).Makes (Call.Uses c.owned) :=
  bounded_uses .output (Descriptor.ask_uses c.descriptor_mem_owned rfl rfl)

theorem waitLimit_uses (direction : Direction) :
    (c.waitLimit direction).Makes (Call.Uses c.owned) := by
  apply Program.Makes.bind (Descriptor.ask_uses c.descriptor_mem_owned rfl rfl)
  intro answer
  cases answer <;> trivial

theorem localEndpoint_uses : c.localEndpoint.Makes (Call.Uses c.owned) :=
  Program.makes_map.mpr (Descriptor.ask_uses c.descriptor_mem_owned rfl rfl)

theorem remoteEndpoint_uses : c.remoteEndpoint.Makes (Call.Uses c.owned) :=
  Program.makes_map.mpr (Descriptor.ask_uses c.descriptor_mem_owned rfl rfl)

theorem close_uses : c.close.run.Makes (Call.Uses c.owned) :=
  Attempt.makes_ofCall.mpr (Descriptor.ask_uses c.descriptor_mem_owned rfl rfl)

end Connection

namespace Listener

def owned (l : Listener) : Multiset Descriptor :=
  {l.descriptor}

variable {l : Listener}

theorem endpoint_uses : l.endpoint.Makes (Call.Uses l.owned) :=
  Program.Makes.bind (Descriptor.ask_uses (Multiset.mem_singleton_self _) rfl rfl)
    fun _ => trivial

theorem close_uses : l.close.run.Makes (Call.Uses l.owned) :=
  Attempt.makes_ofCall.mpr (Descriptor.ask_uses (Multiset.mem_singleton_self _) rfl rfl)

end Listener
end Tcp

/-!
# Connections of any network
-/

namespace AnyConnection

def owned : AnyConnection -> Multiset Descriptor
  | .service c => c.owned
  | .tcp c => c.owned

variable {c : AnyConnection}

theorem localAddress_uses : c.localAddress.Makes (Call.Uses c.owned) := by
  cases c with
  | service c => trivial
  | tcp c => exact Program.makes_map.mpr Tcp.Connection.localEndpoint_uses

theorem remoteAddress_uses : c.remoteAddress.Makes (Call.Uses c.owned) := by
  cases c with
  | service c => trivial
  | tcp c => exact Program.makes_map.mpr Tcp.Connection.remoteEndpoint_uses

theorem read_uses (limit patience : Nat) :
    (c.read limit patience).Makes (Call.Uses c.owned) := by
  cases c with
  | service c => exact Program.makes_map.mpr (Connection.read_uses limit patience)
  | tcp c => exact Tcp.Connection.read_uses limit

theorem write_uses (bytes : List UInt8) (patience : Nat) :
    (c.write bytes patience).Makes (Call.Uses c.owned) := by
  cases c with
  | service c => exact Program.makes_map.mpr (Connection.write_uses bytes patience)
  | tcp c => exact Tcp.Connection.write_uses bytes

end AnyConnection
end ServiceSocket
