set_option autoImplicit false

namespace TimeoutService

inductive TimerStatus
  | idle
  | pending (timeout : UInt32)
  | expired (timeout : UInt32)
  deriving DecidableEq

namespace TimerStatus

def Scheduled (timer : TimerStatus) (timeout : UInt32) : Prop :=
  timer = pending timeout ∨ timer = expired timeout

def Active (timer : TimerStatus) : Prop := ∃ timeout, timer.Scheduled timeout

def queued : TimerStatus -> Bool
  | expired _ => true
  | _ => false

def expire : TimerStatus -> TimerStatus
  -- A running timer may reach its end at any moment.
  | pending timeout => expired timeout
  | timer => timer

/-- The service runs the callback of a queued timer; its result restarts the timer unless it is
zero. -/
def reschedule (timeout : UInt32) : TimerStatus :=
  if timeout = 0 then idle else pending timeout

theorem scheduled_expire {timer : TimerStatus} {timeout : UInt32}
    (scheduled : timer.Scheduled timeout) : timer.expire.Scheduled timeout := by
  rcases scheduled with rfl | rfl
  · exact .inr rfl
  · exact .inr rfl

theorem expire_idle_iff (timer : TimerStatus) : timer.expire = idle ↔ timer = idle := by
  cases timer <;> simp [expire]

theorem active_iff (timer : TimerStatus) : timer.Active ↔ timer ≠ idle := by
  cases timer with
  | idle => simp [Active, Scheduled]
  | pending timeout => simp [Active, Scheduled]
  | expired timeout => simp [Active, Scheduled]

@[simp] theorem active_pending (timeout : UInt32) : (pending timeout).Active :=
  ⟨timeout, .inl rfl⟩

@[simp] theorem active_expire (timer : TimerStatus) : timer.expire.Active ↔ timer.Active := by
  rw [active_iff, active_iff, Ne, expire_idle_iff]

end TimerStatus

end TimeoutService
