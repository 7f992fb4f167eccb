/-!
# The shutdown signal

A `Signal` may be fired any number of times; each subscriber sees the firings since it subscribed.
Only the latest firing is kept: a subscriber that missed earlier ones is told how many, and then
sees the one that is kept.  A firing that nobody is subscribed to leaves no trace.
-/

set_option autoImplicit false

namespace PollTunnel

/-- The firings so far, and how many subscribers there are. -/
structure Signal where
  fired : Nat := 0
  receivers : Nat := 0
  deriving DecidableEq, Repr, Inhabited

/-- One subscriber's place: how many firings it has seen or missed. -/
structure Signal.Subscription where
  seen : Nat
  deriving DecidableEq, Repr, Inhabited

/-- What a subscriber finds when it looks. -/
inductive Signal.Notice where
  /-- The signal was fired. -/
  | fired
  /-- Nothing new. -/
  | empty
  /-- This many firings are lost. -/
  | lagged (missed : Nat)
  deriving DecidableEq, Repr, Inhabited

namespace Signal

/-- Subscribe from now on. -/
def subscribe (s : Signal) : Subscription × Signal :=
  (⟨s.fired⟩, { s with receivers := s.receivers + 1 })

/-- One subscriber leaves. -/
def leave (s : Signal) : Signal := { s with receivers := s.receivers - 1 }

/-- Fire the signal. -/
def trigger (s : Signal) : Signal :=
  if s.receivers = 0 then s else { s with fired := s.fired + 1 }

/-- What a subscriber sees now, and its place after that. -/
def receive (s : Signal) (sub : Subscription) : Notice × Subscription :=
  if s.fired ≤ sub.seen then (.empty, sub)
  else if sub.seen + 1 = s.fired then (.fired, ⟨s.fired⟩)
  else (.lagged (s.fired - 1 - sub.seen), ⟨s.fired - 1⟩)

theorem receive_after_lagged (s : Signal) (sub sub' : Subscription) (n : Nat)
    (h : s.receive sub = (.lagged n, sub')) : s.receive sub' = (.fired, ⟨s.fired⟩) := by
  unfold receive at h
  split at h
  · simp at h
  · split at h
    · simp at h
    · obtain ⟨_, rfl⟩ := Prod.mk.inj h
      unfold receive
      rw [if_neg (by simp only; omega), if_pos (by simp only; omega)]

end Signal
end PollTunnel
