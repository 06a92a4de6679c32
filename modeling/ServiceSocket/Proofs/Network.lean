import ServiceSocket.Proofs.Failure.Causes

/-!
# Networks are checked first

There is one network of services.  Whoever resolves, dials or listens names it, and the name is
looked at before the address, and the address before the system is asked for anything.  So all
of them refuse the same names, and what is refused leaves no trace.
-/

namespace ServiceSocket

open Program

theorem Network.lookup_eq_none_iff {network : String} :
    lookup network = none <-> network ≠ tipc := by
  rw [lookup, families, List.find?_singleton]
  by_cases hnetwork : network = tipc
  · rw [hnetwork, if_pos (beq_self_eq_true tipc)]
    exact iff_of_false nofun fun hother => hother rfl
  · rw [if_neg (by rw [beq_iff_eq]; exact Ne.symm hnetwork)]
    exact iff_of_true rfl hnetwork

namespace Attempt

/-- The attempt fails so on every system, asking it nothing and leaving it as it was. -/
structure Refuses (body : Attempt α) (error : Error) : Prop where
  branch_iff : forall events outcome,
    Branch body.run events outcome <-> events = [] ∧ outcome = .returned (.error error)
  run_eq : forall {σ : Type} (answer : (c : Call) -> σ -> c.Answer × σ) (s : σ),
    body.run.run answer s = (.returned (.error error), s)

theorem refuses_throw (error : Error) : (throw error : Attempt α).Refuses error where
  branch_iff events outcome := by
    constructor
    · intro branch
      cases branch
      exact ⟨rfl, rfl⟩
    · rintro ⟨rfl, rfl⟩
      exact .done _
  run_eq answer s := rfl

/-!
# Checking a network and an address
-/

/-- Something is attempted on a network and an address.  Any name but that of the one network is
refused, then an address that is missing is, and with neither of them the address is all that
counts. -/
structure ChecksFirst (entry : String -> Option Address -> Attempt α)
    (carryOut : Address -> Attempt α) : Prop where
  unknown : forall network address, network ≠ "tipc" -> exists error : Error,
    error.cause = .unknownNetwork network ∧ (entry network address).Refuses error
  missing : exists error : Error, error.cause = .missingAddress ∧ (entry "tipc" none).Refuses error
  known : forall address, entry "tipc" (some address) = carryOut address
  /-- Nothing that comes later blames a network. -/
  blames_iff : forall network address name,
    (exists events error, Branch (entry network address).run events (.returned (.error error)) ∧
      error.cause = .unknownNetwork name) <-> network ≠ "tipc" ∧ name = network

def SparesNetworks (cause : Error) : Prop :=
  forall name, cause ≠ .unknownNetwork name

theorem checksFirst_of_eq {entry : String -> Option Address -> Attempt α}
    {carryOut : Address -> Attempt α} (operation : String)
    (hentry : forall network address, entry network address =
      match Network.lookup network, address with
      | none, _ => throw (.inContext operation network address (.unknownNetwork network))
      | some _, none => throw (.inContext operation network none .missingAddress)
      | some _, some address => carryOut address)
    (hcarryOut : forall address,
      (carryOut address).FailsWith fun error => SparesNetworks error.cause) :
    ChecksFirst entry carryOut := by
  have hunknown {network : String} (address : Option Address) (hnetwork : network ≠ "tipc") :
      entry network address =
        throw (.inContext operation network address (.unknownNetwork network)) := by
    rw [hentry, Network.lookup_eq_none_iff.mpr hnetwork]
  have hmissing : entry "tipc" none =
      throw (.inContext operation "tipc" none .missingAddress) := hentry "tipc" none
  have hknown (address : Address) : entry "tipc" (some address) = carryOut address :=
    hentry "tipc" (some address)
  constructor
  · intro network address hnetwork
    rw [hunknown address hnetwork]
    exact ⟨_, rfl, refuses_throw _⟩
  · rw [hmissing]
    exact ⟨_, rfl, refuses_throw _⟩
  · exact hknown
  · intro network address name
    by_cases hnetwork : network = "tipc"
    · refine iff_of_false ?_ fun hother => hother.1 hnetwork
      rintro ⟨events, error, branch, hcause⟩
      rw [hnetwork] at branch
      cases address with
      | none =>
          rw [hmissing] at branch
          rcases ((refuses_throw _).branch_iff _ _).mp branch with ⟨_, hreturned⟩
          cases hreturned
          cases hcause
      | some address =>
          rw [hknown] at branch
          exact (hcarryOut address).of_branch branch name hcause
    · rw [hunknown address hnetwork]
      constructor
      · rintro ⟨events, error, branch, hcause⟩
        rcases ((refuses_throw _).branch_iff _ _).mp branch with ⟨_, hreturned⟩
        cases hreturned
        cases hcause
        exact ⟨hnetwork, rfl⟩
      · rintro ⟨_, rfl⟩
        exact ⟨[], _, .done _, rfl⟩

end Attempt

/-!
# Every way in
-/

theorem Address.resolve_error_iff {network text name : String} :
    (exists error, resolve network text = .error error ∧ error.cause = .unknownNetwork name) <->
      network ≠ "tipc" ∧ name = network := by
  unfold resolve
  split
  next hnetwork =>
    refine iff_of_false ?_ fun hother => hother.1 hnetwork
    rintro ⟨error, herror, hcause⟩
    cases hparse : parse text with
    | ok address =>
        rw [hparse] at herror
        cases herror
    | error fault =>
        rw [hparse] at herror
        cases herror
        cases hcause
  next hnetwork =>
    constructor
    · rintro ⟨error, herror, hcause⟩
      cases herror
      cases hcause
      exact ⟨hnetwork, rfl⟩
    · rintro ⟨_, rfl⟩
      exact ⟨_, rfl, rfl⟩

theorem Dialer.dial_checksFirst (dialer : Dialer) (patience : Nat) :
    Attempt.ChecksFirst (fun network target => dialer.dial network target patience)
      fun target => dialer.connect target patience := by
  apply Attempt.checksFirst_of_eq "dial"
  · intro network target
    rfl
  · intro target
    exact connect_failsWith nofun (fun _ => nofun) dialer target patience

theorem Listener.Builder.listen_checksFirst (b : Builder) :
    Attempt.ChecksFirst b.listen b.bind := by
  apply Attempt.checksFirst_of_eq "listen"
  · intro network address
    rfl
  · intro address
    exact bind_failsWith (fun _ => nofun) b address

/-- Resolving, dialling and listening refuse the same names of networks, before anything else
can go wrong; on the one network an address is all that is needed, and with one they do just
what connecting and binding do. -/
theorem network_checked_before_anything (patience : Nat) :
    (forall network text name,
      (exists error, Address.resolve network text = .error error ∧
        error.cause = .unknownNetwork name) <-> network ≠ "tipc" ∧ name = network) ∧
    (forall text, Address.resolve "tipc" text = (Address.parse text).mapError .ofTextFault) ∧
    (forall dialer : Dialer,
      Attempt.ChecksFirst (fun network target => dialer.dial network target patience)
        fun target => dialer.connect target patience) ∧
    (forall near : Option Address,
      Attempt.ChecksFirst (fun network far => Connection.dial network near far patience)
        fun far => ({ localAddress := near } : Dialer).connect far patience) ∧
    (forall b : Listener.Builder, Attempt.ChecksFirst b.listen b.bind) ∧
    Attempt.ChecksFirst Listener.listen ({} : Listener.Builder).bind := by
  refine ⟨?_, ?_, ?_, ?_, ?_, ?_⟩
  · intro network text name
    exact Address.resolve_error_iff
  · intro text
    rfl
  · intro dialer
    exact dialer.dial_checksFirst patience
  · intro near
    exact Dialer.dial_checksFirst { localAddress := near } patience
  · intro b
    exact b.listen_checksFirst
  · exact Listener.Builder.listen_checksFirst {}

/-- With a wrong name the text may be no address and the address may be missing: it is the name
that is blamed. -/
theorem network_checked_before_missing_address :
    (exists error, Address.resolve "TIPC" "1;2;" = .error error ∧
      error.cause = .unknownNetwork "TIPC") ∧
    (exists error : Error, error.cause = .unknownNetwork "TIPC" ∧
      (Connection.dial "TIPC" (some (.ofName 1 2)) none 0).Refuses error) ∧
    exists error : Error, error.cause = .unknownNetwork "" ∧
      (Listener.listen "" none).Refuses error := by
  rcases network_checked_before_anything 0 with ⟨hresolve, _, _, hdial, _, hlisten⟩
  refine ⟨?_, ?_, ?_⟩
  · exact (hresolve "TIPC" "1;2;" "TIPC").mpr ⟨by decide, rfl⟩
  · exact (hdial (some (.ofName 1 2))).unknown "TIPC" none (by decide)
  · exact hlisten.unknown "" none (by decide)

end ServiceSocket
