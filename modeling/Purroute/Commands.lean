import Purroute.HopOrder
import Purroute.Login
import Purroute.Malformed
import Purroute.Refresh

set_option autoImplicit false

namespace Purroute

open Interaction Interaction.Program

def wantedMethod (config : RouterConfig) : UInt8 := if config.auth = some true then 0x02 else 0x00

def Greeting (request : Bytes) : Prop :=
  3 ≤ request.length ∧ byteAt request 0 = 0x05 ∧ 2 + (byteAt request 1).toNat ≤ request.length

def listedMethods (request : Bytes) : Bytes := slice request 2 (2 + (byteAt request 1).toNat)

def Offers (request : Bytes) (method : UInt8) : Prop :=
  3 ≤ request.length ∧ byteAt request 0 = 0x05 ∧ 2 + (byteAt request 1).toNat ≤ request.length ∧
    method ∈ slice request 2 (2 + (byteAt request 1).toNat)

section Refusing

variable {A : Type}

end Refusing

section Parsing

variable (request : Bytes)

theorem greeting_methods_ok (greeting : Greeting request) : greetingMethods request = .ok (listedMethods request) := by
  obtain ⟨long, version, whole⟩ := greeting
  rw [greetingMethods, if_neg (by omega), if_neg (not_not.mpr version), if_neg (by omega)]
  rfl

theorem greeting_methods_error (malformed : ¬ Greeting request) : ∃ failure, greetingMethods request = .error failure := by
  rw [greetingMethods]
  split
  · exact ⟨_, rfl⟩
  split
  · exact ⟨_, rfl⟩
  split
  · exact ⟨_, rfl⟩
  · rename_i long version whole
    exact absurd ⟨by omega, not_not.mp version, by omega⟩ malformed

theorem greeting_offers (method : UInt8) :
    (∃ methods, greetingMethods request = .ok methods ∧ method ∈ methods) ↔ Offers request method := by
  by_cases greeting : Greeting request
  · rw [greeting_methods_ok request greeting]
    constructor
    · intro accepted
      obtain ⟨methods, same, offered⟩ := accepted
      cases same
      exact ⟨greeting.1, greeting.2.1, greeting.2.2, offered⟩
    · intro offers
      obtain ⟨_, _, _, offered⟩ := offers
      exact ⟨_, rfl, offered⟩
  · obtain ⟨failure, failed⟩ := greeting_methods_error request greeting
    rw [failed]
    constructor
    · intro accepted
      obtain ⟨methods, same, _⟩ := accepted
      cases same
    · intro offers
      obtain ⟨long, version, whole, _⟩ := offers
      exact absurd ⟨long, version, whole⟩ greeting

end Parsing

section Checked

variable (platform : Platform) (folding : CaseFolding platform) (server : ProxyServer) (peer : IpAddr) (request : Bytes)

include folding

omit folding

end Checked

section Unchecked

variable (platform : Platform) (server : ProxyServer) (peer : IpAddr) (request : Bytes)

def exactly (count : Nat) (bytes : { bytes : Bytes // bytes.length = count }) : Event :=
  ⟨.readExact count, (.ok bytes : Except Fault { bytes : Bytes // bytes.length = count })⟩

end Unchecked

end Purroute
