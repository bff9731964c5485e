import SiteOnYourDevice.Infos
import Mathlib.Logic.Function.Basic

namespace SiteOnYourDevice
open CString
set_option relaxedAutoImplicit false
set_option autoImplicit true

/-- An accepted connection; no two of them share a number. -/
abbrev ClientId := Nat

/-- The device registry and the `InnerTcpServerClient` objects it points to: each object that is
not deleted has its `hinfo_`. -/
structure HttpServerHost where
  clients : ClientId → Option UserAuthInfo
  accepted : ClientId
  connections_ : Str → Option ClientId

namespace HttpServerHost
variable (net : NetTypes)

def init : HttpServerHost := ⟨fun _ => none, 0, fun _ => none⟩

/-- A new connection has the info of the default constructor. -/
def accept (s : HttpServerHost) : HttpServerHost :=
  { s with
    clients := Function.update s.clients s.accepted (some .empty)
    accepted := s.accepted + 1 }

def findInnerConnectionByHost (s : HttpServerHost) (host : Str) : Option ClientId :=
  s.connections_ host

def registerInnerConnectionByUser (s : HttpServerHost) (user : UserAuthInfo) (c : ClientId) :
    HttpServerHost :=
  { s with
    clients := Function.update s.clients c (some user)
    connections_ := Function.update s.connections_ user.host.host (some c) }

def unRegisterInnerConnectionByHost (s : HttpServerHost) (c : ClientId) : Bool × HttpServerHost :=
  match s.clients c with
  | none => (false, s)
  | some hinf =>
    if hinf.isValid net then
      (true, { s with connections_ := Function.update s.connections_ hinf.host.host none })
    else (false, s)

/-- `Close` runs the observer's `Closed`, `delete` ends the object. -/
def close (s : HttpServerHost) (c : ClientId) : HttpServerHost :=
  let s' := (s.unRegisterInnerConnectionByHost net c).2
  { s' with clients := Function.update s'.clients c none }

/-- Every entry points to a live connection whose info names the host of the entry. -/
def Sound (s : HttpServerHost) : Prop :=
  ∀ host c, s.connections_ host = some c → ∃ hinf, s.clients c = some hinf ∧ hinf.host.host = host

variable {net} {s : HttpServerHost} {user : UserAuthInfo} {c d : ClientId} {host : Str}

@[simp] theorem accept_clients_self : s.accept.clients s.accepted = some .empty :=
  Function.update_self ..

@[simp] theorem accept_clients_of_ne (h : d ≠ s.accepted) : s.accept.clients d = s.clients d :=
  Function.update_of_ne h ..

@[simp] theorem register_clients_self :
    (s.registerInnerConnectionByUser user c).clients c = some user :=
  Function.update_self ..

@[simp] theorem register_clients_of_ne (h : d ≠ c) :
    (s.registerInnerConnectionByUser user c).clients d = s.clients d :=
  Function.update_of_ne h ..

@[simp] theorem register_connections_self :
    (s.registerInnerConnectionByUser user c).connections_ user.host.host = some c :=
  Function.update_self ..

@[simp] theorem register_connections_of_ne (h : host ≠ user.host.host) :
    (s.registerInnerConnectionByUser user c).connections_ host = s.connections_ host :=
  Function.update_of_ne h ..

theorem close_clients (s : HttpServerHost) (c : ClientId) :
    (s.close net c).clients = Function.update s.clients c none := by
  simp only [close, unRegisterInnerConnectionByHost]
  split <;> [rfl; (split <;> rfl)]

@[simp] theorem close_clients_self : (s.close net c).clients c = none := by
  rw [close_clients, Function.update_self]

@[simp] theorem close_clients_of_ne (h : d ≠ c) : (s.close net c).clients d = s.clients d := by
  rw [close_clients, Function.update_of_ne h]

@[simp] theorem close_accepted (s : HttpServerHost) (c : ClientId) :
    (s.close net c).accepted = s.accepted := by
  simp only [close, unRegisterInnerConnectionByHost]
  split <;> [rfl; (split <;> rfl)]

theorem close_connections_of_ne
    (h : ∀ hinf, s.clients c = some hinf → hinf.isValid net = true → hinf.host.host ≠ host) :
    (s.close net c).connections_ host = s.connections_ host := by
  simp only [close, unRegisterInnerConnectionByHost]
  split
  · rfl
  · rename_i hinf hc
    split
    · rename_i hv
      exact Function.update_of_ne (h hinf hc hv).symm _ _
    · rfl

theorem close_connections_self {hinf : UserAuthInfo} (hc : s.clients c = some hinf)
    (hv : hinf.isValid net = true) : (s.close net c).connections_ hinf.host.host = none := by
  simp only [close, unRegisterInnerConnectionByHost, hc, hv, if_true]
  exact Function.update_self ..

end HttpServerHost

end SiteOnYourDevice
