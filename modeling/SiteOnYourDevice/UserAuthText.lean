import SiteOnYourDevice.DeviceConfiguration

namespace SiteOnYourDevice
open CString InnerServerHandler
set_option relaxedAutoImplicit false
set_option autoImplicit true

variable {Url : Type} {types : CommonTypes Url} {net : NetTypes} {u v : UserAuthInfo}
variable {a b p q : Str}

/-- The text of an info is read as the info, and no other valid one has it. -/
structure Unambiguous (types : CommonTypes Url) (u : UserAuthInfo) : Prop where
  round_trip : userAuthInfoOfString types.toNetTypes (authStr types u) = some u
  unique : ∀ v, v.isValid types.toNetTypes = true → authStr types v = authStr types u → v = u

/-- Neither the login nor the password has a colon, and behind none of the colons in the text of
the host stands the text of a valid host. -/
structure Separated (types : CommonTypes Url) (u : UserAuthInfo) : Prop where
  login : ':' ∉ u.login
  password : ':' ∉ u.password
  host : ∀ h, types.IsValid h = true →
    ∀ x, types.ConvertToString u.host ≠ x ++ ':' :: types.ConvertToString h

/-- What is read has no colon in the login and the password. -/
theorem userAuthInfoOfString_plain (h : userAuthInfoOfString net a = some u) :
    ':' ∉ u.login ∧ ':' ∉ u.password := by
  obtain ⟨⟨login, up⟩, hup, h⟩ := Option.bind_eq_some_iff.1 h
  obtain ⟨⟨password, ph⟩, hph, rfl⟩ := Option.map_eq_some_iff.1 h
  exact ⟨strchr_not_mem hup, strchr_not_mem hph⟩

/-- When one of two cuts of a text is at its first separator and the other is not, the part behind
the other one stands behind a separator in the part behind the first. -/
theorem cut_later (ha : d ∈ a) (hb : d ∉ b) (h : a ++ d :: p = b ++ d :: q) :
    ∃ x, q = x ++ d :: p := by
  obtain ⟨c, x, rfl, hc⟩ := List.eq_append_cons_of_mem ha
  rw [List.append_assoc, List.cons_append] at h
  exact ⟨x, (cut_unique hc hb h).2.symm⟩

theorem authStr_eq (types : CommonTypes Url) (u : UserAuthInfo) :
    authStr types u =
      u.login ++ ':' :: (u.password ++ ':' :: types.ConvertToString u.host) := by
  rw [authStr, List.append_assoc, List.cons_append]

/-- A colon in the login or the password of the one puts its host behind a colon of the other's. -/
theorem Separated.unique (hround : ∀ h, types.IsValid h = true →
      types.hostAndPort (types.ConvertToString h) = h)
    (hs : Separated types u) (hu : u.isValid types.toNetTypes = true)
    (hv : v.isValid types.toNetTypes = true) (h : authStr types v = authStr types u) : v = u := by
  have hhost : types.IsValid u.host = true := (Bool.and_eq_true_iff.1 hu).2
  have hhost' : types.IsValid v.host = true := (Bool.and_eq_true_iff.1 hv).2
  have hlater : ∀ x, types.ConvertToString u.host ≠ x ++ ':' :: types.ConvertToString v.host :=
    hs.host v.host hhost'
  rw [authStr_eq, authStr_eq] at h
  by_cases hl : ':' ∈ v.login
  · obtain ⟨x, hx⟩ := cut_later hl hs.login h
    have hp : ':' ∈ x ++ ':' :: v.password := List.mem_append_right x List.mem_cons_self
    rw [← List.cons_append, ← List.append_assoc] at hx
    obtain ⟨y, hy⟩ := cut_later hp hs.password hx.symm
    exact absurd hy (hlater y)
  · obtain ⟨hlogin, h⟩ := cut_unique hl hs.login h
    by_cases hp : ':' ∈ v.password
    · obtain ⟨y, hy⟩ := cut_later hp hs.password h
      exact absurd hy (hlater y)
    · obtain ⟨hpassword, htext⟩ := cut_unique hp hs.password h
      have heq : v.host = u.host := by
        rw [← hround v.host hhost', htext, hround u.host hhost]
      cases u
      cases v
      dsimp only at hlogin hpassword heq
      rw [hlogin, hpassword, heq]

/-- The text of a valid info reads back and is that of no other one exactly when its fields are
separated, where the texts of valid hosts read back. -/
theorem unambiguous_iff (hround : ∀ h, types.IsValid h = true →
      types.hostAndPort (types.ConvertToString h) = h)
    (hu : u.isValid types.toNetTypes = true) : Unambiguous types u ↔ Separated types u := by
  obtain ⟨hlogin, hhost⟩ := Bool.and_eq_true_iff.1 hu
  apply Iff.intro
  · intro h
    obtain ⟨hl, hp⟩ := userAuthInfoOfString_plain h.round_trip
    refine ⟨hl, hp, ?_⟩
    intro host hv x hx
    -- the part before the other host is taken for the end of a longer password
    have hother : (⟨u.login, u.password ++ ':' :: x, host⟩ : UserAuthInfo) = u := by
      apply h.unique
      · exact Bool.and_eq_true_iff.2 ⟨hlogin, hv⟩
      · rw [authStr_eq, authStr_eq, hx]
        simp
    have hpass := congrArg UserAuthInfo.password hother
    exact absurd (List.append_right_eq_self.1 hpass) (List.cons_ne_nil _ _)
  · intro hs
    refine ⟨?_, fun v hv h => hs.unique hround hu hv h⟩
    rw [authStr_eq, userAuthInfoOfString, strchr_append hs.login]
    simp [strchr_append hs.password, hround u.host hhost]

/-- An account of the first host of `twoHosts`. -/
def plainAccount : UserAuthInfo := ⟨"u".toList, "p".toList, ⟨"localhost".toList, 80⟩⟩

theorem unambiguous_iff_plainAccount :
    Unambiguous twoHosts plainAccount ↔ Separated twoHosts plainAccount := by
  apply unambiguous_iff
  · intro h hv
    simp only [twoHosts, Bool.or_eq_true, decide_eq_true_eq] at hv
    obtain rfl | rfl := hv
    · decide
    · decide
  · decide

/-- The login `a:b` with the password `p` has the text of the login `a` with the password `b:p`. -/
theorem not_unambiguous_colon :
    ¬ Unambiguous twoHosts ⟨"a:b".toList, "p".toList, ⟨"localhost".toList, 80⟩⟩ := by
  intro h
  have hother := h.unique ⟨"a".toList, "b:p".toList, ⟨"localhost".toList, 80⟩⟩ (by decide) rfl
  have hlogin := congrArg UserAuthInfo.login hother
  exact absurd hlogin (by decide)

end SiteOnYourDevice
