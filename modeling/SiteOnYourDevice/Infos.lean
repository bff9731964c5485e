import SiteOnYourDevice.CString

namespace SiteOnYourDevice
open CString
set_option relaxedAutoImplicit false
set_option autoImplicit true

/-- `common::net::HostAndPort`. -/
structure HostAndPort where
  host : Str
  port : Nat
deriving DecidableEq

/-- What the code takes from the library of network types: `ConvertFromString` to a host and
port, and `HostAndPort::IsValid`. -/
structure NetTypes where
  hostAndPort : Str → HostAndPort
  IsValid : HostAndPort → Bool

structure UserAuthInfo where
  login : Str
  password : Str
  host : HostAndPort
deriving DecidableEq

/-- The info of the default constructor, which no login makes valid. -/
def UserAuthInfo.empty : UserAuthInfo := ⟨[], [], ⟨[], 0⟩⟩

variable (net : NetTypes)

def UserAuthInfo.isValid (info : UserAuthInfo) : Bool :=
  info.login ≠ [] && net.IsValid info.host

/-- `ConvertFromString` to a `UserAuthInfo`; `none` leaves the result as it was. -/
def userAuthInfoOfString (str : Str) : Option UserAuthInfo :=
  (strchr ':' str).bind fun (login, up) =>
    (strchr ':' up.tail).map fun (password, ph) => ⟨login, password, net.hostAndPort ph.tail⟩

/-- A host and a decimal port around the last colon, valid when neither is missing. -/
def NetTypes.plain : NetTypes where
  hostAndPort str :=
    match strchr ':' str.reverse with
    | none => ⟨[], 0⟩
    | some (port, host) => ⟨host.tail.reverse, decimal port.reverse⟩
  IsValid h := h.host ≠ [] && h.port ≠ 0

@[simp] theorem UserAuthInfo.empty_invalid : UserAuthInfo.empty.isValid net = false := rfl

example : userAuthInfoOfString .plain "u:p:host:80".toList =
    some ⟨"u".toList, "p".toList, ⟨"host".toList, 80⟩⟩ := by
  decide

end SiteOnYourDevice
