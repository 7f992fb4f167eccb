import PollTunnel.Access.Error

/-!
# Access by a shared secret

A request is admitted if a header field of an agreed name has the agreed value, byte for byte.
-/

set_option autoImplicit false

namespace PollTunnel
namespace Access

/-- A secret and the field that has to carry it. -/
structure SharedSecret where
  header : HeaderName
  secret : Bytes
  nonempty : secret ≠ []

namespace SharedSecret

/-- The secret of a text in a field of that name. -/
def make (name secret : String) : Except Error SharedSecret :=
  if h : Bytes.ofString secret ≠ [] then
    match HeaderName.ofString? name with
    | some header => .ok ⟨header, Bytes.ofString secret, h⟩
    | none => .error (.configuration ("invalid secret header name '" ++ name ++ "'"))
  else .error (.configuration "secret must not be empty")

/-- The value that is compared: the first of its name, or nothing. -/
def presented (s : SharedSecret) (headers : Headers) : Bytes := (headers.first? s.header).getD []

/-- Admit a request, or refuse it. -/
def check (s : SharedSecret) (headers : Headers) : Except Error Unit :=
  if s.presented headers = s.secret then .ok () else .error .denied

theorem check_eq_ok_iff (s : SharedSecret) (headers : Headers) :
    s.check headers = .ok () ↔ headers.first? s.header = some s.secret := by
  have hs := s.nonempty
  unfold check presented
  cases h : headers.first? s.header with
  | none => simp [Ne.symm hs]
  | some v => simp

end SharedSecret
end Access
end PollTunnel
