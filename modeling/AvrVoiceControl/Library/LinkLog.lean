import AvrVoiceControl.Library.Machine

set_option autoImplicit false

namespace LinkLog

variable {Link Packet : Type} [DecidableEq Link]

inductive LinkEvent (Link Packet : Type)
  | opened (link : Link)
  | closed (link : Link)
  | carried (link : Link) (packet : Packet)
  deriving DecidableEq

/-- The packets carried since the link was opened, `none` when it is not open. -/
def record (link : Link) (log : Option (List Packet)) : LinkEvent Link Packet -> Option (List Packet)
  | .opened which => if which = link then some [] else log
  | .closed which => if which = link then none else log
  | .carried which packet => if which = link then log.map (· ++ [packet]) else log

def logOf (link : Link) (trace : List (LinkEvent Link Packet)) : Option (List Packet) :=
  trace.foldl (record link) none

def Disciplined (allowed : List Packet -> Packet -> Prop)
    (trace : List (LinkEvent Link Packet)) : Prop :=
  Machine.Justified
    (fun before event => ∀ link packet, event = .carried link packet ->
      ∀ log, logOf link before = some log -> allowed log packet) trace

theorem logOf_append (link : Link) (trace later : List (LinkEvent Link Packet)) :
    logOf link (trace ++ later) = later.foldl (record link) (logOf link trace) := by
  rw [logOf, List.foldl_append, logOf]

@[simp] theorem logOf_opened (link which : Link) (trace : List (LinkEvent Link Packet)) :
    logOf link (trace ++ [.opened which]) =
      if which = link then some [] else logOf link trace := by
  rw [logOf_append]
  rfl

@[simp] theorem logOf_closed (link which : Link) (trace : List (LinkEvent Link Packet)) :
    logOf link (trace ++ [.closed which]) = if which = link then none else logOf link trace := by
  rw [logOf_append]
  rfl

@[simp] theorem logOf_carried (link which : Link) (packet : Packet)
    (trace : List (LinkEvent Link Packet)) :
    logOf link (trace ++ [.carried which packet]) =
      if which = link then (logOf link trace).map (· ++ [packet]) else logOf link trace := by
  rw [logOf_append]
  rfl

theorem disciplined_append_carried (allowed : List Packet -> Packet -> Prop)
    (trace : List (LinkEvent Link Packet)) (link : Link) (packet : Packet) :
    Disciplined allowed (trace ++ [.carried link packet]) ↔
      Disciplined allowed trace ∧ ∀ log, logOf link trace = some log -> allowed log packet := by
  rw [Disciplined, Machine.justified_append_singleton]
  constructor
  · rintro ⟨before, last⟩
    exact ⟨before, last link packet rfl⟩
  · rintro ⟨before, last⟩
    refine ⟨before, fun which what same => ?_⟩
    obtain ⟨rfl, rfl⟩ : link = which ∧ packet = what := by simpa using same
    exact last

theorem disciplined_append_quiet (allowed : List Packet -> Packet -> Prop)
    (trace : List (LinkEvent Link Packet)) (event : LinkEvent Link Packet)
    (quiet : ∀ link packet, event ≠ .carried link packet) :
    Disciplined allowed (trace ++ [event]) ↔ Disciplined allowed trace := by
  rw [Disciplined, Machine.justified_append_singleton]
  constructor
  · exact fun holds => holds.1
  · exact fun holds => ⟨holds, fun link packet same => absurd same (quiet link packet)⟩

end LinkLog
