import AvrVoiceControl.Library.Machine

set_option autoImplicit false

namespace BusTransfer

variable {Byte : Type}

inductive Signal (Byte : Type)
  | call (reading : Bool)
  | byte (data : Byte)
  | take (data : Byte) (last : Bool)
  | stop
  | release
  deriving DecidableEq

/-- What a master hears next: the bus is lost, the other side accepts or refuses what was put on the
bus (with the byte that lies on it), or the transfer is given up. -/
inductive Event (Byte : Type)
  | lost
  | answered (refused : Bool) (data : Byte)
  | givenUp

/-- What is left of a transfer: bytes to send, then bytes to receive over those that lie stale in
the destination. -/
inductive Phase (Byte : Type)
  | calling (out stale : List Byte)
  | sending (out stale : List Byte)
  | asking (stale : List Byte)
  | taking (got : List Byte) (left : Nat)
  | done (got : List Byte)

namespace Phase

def got : Phase Byte -> List Byte
  | .taking got _ => got
  | .done got => got
  | _ => []

def takeByte (got : List Byte) (left : Nat) (data : Byte) : Phase Byte × List (Signal Byte) :=
  if left ≤ 1 then (.done (got ++ [data]), [.take data true])
  else (.taking (got ++ [data]) (left - 1), [.take data false])

def sendByte : List Byte -> List Byte -> Phase Byte × List (Signal Byte)
  | data :: out, stale => (.sending out stale, [.byte data])
  | [], [] => (.done [], [.stop])
  | [], stale => (.asking stale, [.call true])

/-- A master that insists calls again when its call is refused. It calls again as a writer, so that
a refused call for reading makes it send what lies in the destination. -/
def refusedCall (insists : Bool) (out stale : List Byte) : Phase Byte × List (Signal Byte) :=
  if insists then (.calling out stale, [.call false]) else (.done [], [.stop])

def step (insists : Bool) : Machine.Step (Phase Byte) (Event Byte) (Signal Byte)
  | .done got, _ => (.done got, [])
  | phase, .givenUp => (.done phase.got, [])
  | phase, .lost => (.done phase.got, [.release])
  | .calling out stale, .answered refused _ =>
    if refused then refusedCall insists out stale else sendByte out stale
  | .sending out stale, .answered refused _ =>
    if refused then (.done [], [.stop]) else sendByte out stale
  | .asking stale, .answered refused data =>
    if refused then refusedCall insists stale [] else takeByte [] stale.length data
  | .taking got left, .answered _ data => takeByte got left data

end Phase

section Transcripts

variable {insists : Bool} {out stale got : List Byte} {left : Nat}

def Event.accepts : Event Byte -> Bool
  | .answered false _ => true
  | _ => false

def Event.refuses : Event Byte -> Bool
  | .answered true _ => true
  | _ => false

def acceptances (events : List (Event Byte)) : Nat :=
  (events.takeWhile Event.accepts).length

def repeats (insists : Bool) (events : List (Event Byte)) : Nat :=
  if insists then (events.takeWhile Event.refuses).length else 0

def answers : List (Event Byte) -> List Byte
  | .answered _ data :: rest => data :: answers rest
  | _ => []

/-- How a transfer is left for the first of the events. -/
def ending : List (Event Byte) -> List (Signal Byte)
  | .answered _ _ :: _ => [.stop]
  | .lost :: _ => [.release]
  | _ => []

/-- A message as far as it is accepted, and what follows all of it. -/
def spoken (out : List Byte) (finish : List (Event Byte) -> List (Signal Byte))
    (events : List (Event Byte)) : List (Signal Byte) :=
  if out.length < acceptances events then out.map .byte ++ finish (events.drop (out.length + 1))
  else (out.take (acceptances events)).map .byte ++ ending (events.drop (acceptances events))

def written (insists : Bool) (out : List Byte) (events : List (Event Byte)) :
    List (Signal Byte) :=
  List.replicate (repeats insists events) (.call false) ++
    spoken out (fun _ => [.stop]) (events.drop (repeats insists events))

def takes : Nat -> List Byte -> List (Signal Byte)
  | _, [] => []
  | left, data :: rest => .take data (decide (left ≤ 1)) :: takes (left - 1) rest

def reads (left : Nat) (events : List (Event Byte)) : List (Signal Byte) :=
  takes left ((answers events).take left) ++
    if (answers events).length < left then ending (events.drop (answers events).length) else []

/-- What follows a call for reading: once it is refused, the stale bytes are written. -/
def asked (insists : Bool) (stale : List Byte) : List (Event Byte) -> List (Signal Byte)
  | .answered true _ :: again =>
    if insists then .call false :: written true stale again else [.stop]
  | events => reads stale.length events

def tried (length : Nat) : List (Event Byte) -> List (Signal Byte)
  | .answered true _ :: _ => [.stop]
  | events => reads length events

def fetched (length : Nat) : List (Event Byte) -> List Byte
  | .answered true _ :: _ => []
  | events => (answers events).take length

def exchanged (insists : Bool) (out stale : List Byte) (events : List (Event Byte)) :
    List (Signal Byte) :=
  List.replicate (repeats insists events) (.call false) ++
    spoken out (fun later => .call true :: asked insists stale later)
      (events.drop (repeats insists events))

def delivered (insists : Bool) (out stale : List Byte) (events : List (Event Byte)) : List Byte :=
  let heeded := events.drop (repeats insists events)
  if out.length < acceptances heeded then fetched stale.length (heeded.drop (out.length + 1)) else []

section Spoken

variable {finish : List (Event Byte) -> List (Signal Byte)} {data : Byte}
  {rest : List (Event Byte)}

@[simp] theorem spoken_nil : spoken out finish [] = [] := by
  simp [spoken, acceptances, ending]

@[simp] theorem spoken_refused : spoken out finish (.answered true data :: rest) = [.stop] := by
  simp [spoken, acceptances, Event.accepts, ending]

@[simp] theorem spoken_lost : spoken out finish (.lost :: rest) = [.release] := by
  simp [spoken, acceptances, Event.accepts, ending]

@[simp] theorem spoken_givenUp : spoken out finish (.givenUp :: rest) = [] := by
  simp [spoken, acceptances, Event.accepts, ending]

theorem acceptances_accepted :
    acceptances (.answered false data :: rest) = acceptances rest + 1 := by
  simp [acceptances, List.takeWhile_cons, Event.accepts]

@[simp] theorem spoken_over : spoken [] finish (.answered false data :: rest) = finish rest := by
  simp [spoken, acceptances_accepted]

@[simp] theorem spoken_accepted {byte : Byte} :
    spoken (byte :: out) finish (.answered false data :: rest) =
      .byte byte :: spoken out finish rest := by
  simp only [spoken, acceptances_accepted, List.length_cons, Nat.add_lt_add_iff_right,
    List.drop_succ_cons, List.take_succ_cons, List.map_cons, List.cons_append]
  split <;> rfl

end Spoken

end Transcripts

section Runs

variable {insists : Bool} {out stale got : List Byte} {left : Nat}

def transcript (insists : Bool) (phase : Phase Byte) (events : List (Event Byte)) :
    List (Signal Byte) :=
  (Machine.run (Phase.step insists) phase events).2

def received (insists : Bool) (phase : Phase Byte) (events : List (Event Byte)) : List Byte :=
  (Machine.run (Phase.step insists) phase events).1.got

theorem run_done (got : List Byte) (events : List (Event Byte)) :
    Machine.run (Phase.step insists) (.done got) events = (.done got, []) := by
  induction events with
  | nil => rfl
  | cons event rest ih => rw [Machine.run_cons, Phase.step, ih]; rfl

theorem transcript_cons (phase : Phase Byte) (event : Event Byte) (rest : List (Event Byte)) :
    transcript insists phase (event :: rest) =
      (Phase.step insists phase event).2 ++
        transcript insists (Phase.step insists phase event).1 rest := rfl

theorem received_cons (phase : Phase Byte) (event : Event Byte) (rest : List (Event Byte)) :
    received insists phase (event :: rest) =
      received insists (Phase.step insists phase event).1 rest := rfl

@[simp] theorem transcript_done (got : List Byte) (events : List (Event Byte)) :
    transcript insists (.done got) events = [] := by
  rw [transcript, run_done]

@[simp] theorem received_done (got : List Byte) (events : List (Event Byte)) :
    received insists (.done got) events = got := by
  rw [received, run_done]
  rfl

theorem transcript_taking (positive : 0 < left) (events : List (Event Byte)) :
    transcript insists (.taking got left) events = reads left events := by
  induction events generalizing got left with
  | nil => simp [transcript, reads, answers, takes, ending]
  | cons event rest ih =>
    rw [transcript_cons]
    cases event with
    | givenUp => simp [Phase.step, reads, answers, takes, ending]
    | lost => simp [Phase.step, reads, answers, takes, ending, positive]
    | answered refused data =>
      obtain ⟨before, rfl⟩ : ∃ before, left = before + 1 := ⟨left - 1, by omega⟩
      simp only [Phase.step, Phase.takeByte, reads, answers, List.take_succ_cons, takes,
        Nat.add_sub_cancel, List.length_cons, Nat.add_lt_add_iff_right, List.drop_succ_cons]
      by_cases last : before = 0
      next => simp [last, takes]
      next =>
        have more : ¬ before + 1 ≤ 1 := by omega
        rw [if_neg more, ih (by omega)]
        simp [more, reads]

theorem received_taking (positive : 0 < left) (events : List (Event Byte)) :
    received insists (.taking got left) events = got ++ (answers events).take left := by
  induction events generalizing got left with
  | nil => simp [received, Phase.got, answers]
  | cons event rest ih =>
    rw [received_cons]
    cases event with
    | givenUp => simp [Phase.step, Phase.got, answers]
    | lost => simp [Phase.step, Phase.got, answers]
    | answered refused data =>
      obtain ⟨before, rfl⟩ : ∃ before, left = before + 1 := ⟨left - 1, by omega⟩
      simp only [Phase.step, Phase.takeByte, answers, List.take_succ_cons, Nat.add_sub_cancel]
      by_cases last : before = 0
      next => simp [last]
      next =>
        rw [if_neg (by omega), ih (by omega)]
        simp

theorem transcript_sending (events : List (Event Byte)) :
    transcript insists (.sending out stale) events =
      spoken out (fun later => (Phase.sendByte [] stale).2 ++
        transcript insists (Phase.sendByte [] stale).1 later) events := by
  induction events generalizing out with
  | nil => simp [transcript]
  | cons event rest ih =>
    rw [transcript_cons]
    cases event with
    | givenUp => simp [Phase.step]
    | lost => simp [Phase.step]
    | answered refused data =>
      cases refused with
      | true => simp [Phase.step]
      | false =>
        cases out with
        | nil => simp [Phase.step]
        | cons byte more => simp [Phase.step, Phase.sendByte, ih]

theorem received_sending (events : List (Event Byte)) :
    received insists (.sending out stale) events =
      if out.length < acceptances events then
        received insists (Phase.sendByte [] stale).1 (events.drop (out.length + 1))
      else [] := by
  induction events generalizing out with
  | nil => simp [received, Phase.got, acceptances]
  | cons event rest ih =>
    rw [received_cons]
    cases event with
    | givenUp => simp [Phase.step, Phase.got, acceptances, Event.accepts]
    | lost => simp [Phase.step, Phase.got, acceptances, Event.accepts]
    | answered refused data =>
      cases refused with
      | true => simp [Phase.step, acceptances, Event.accepts]
      | false =>
        cases out with
        | nil => simp [Phase.step, acceptances_accepted]
        | cons byte more => simp [Phase.step, Phase.sendByte, ih, acceptances_accepted]

theorem run_calling (events : List (Event Byte))
    (heeded : ∀ data rest, events = .answered true data :: rest -> insists = false) :
    transcript insists (.calling out stale) events = transcript insists (.sending out stale) events ∧
      received insists (.calling out stale) events =
        received insists (.sending out stale) events := by
  cases events with
  | nil => exact ⟨rfl, rfl⟩
  | cons event rest =>
    simp only [transcript_cons, received_cons]
    cases event with
    | givenUp => exact ⟨rfl, rfl⟩
    | lost => exact ⟨rfl, rfl⟩
    | answered refused data =>
      cases refused with
      | false => exact ⟨rfl, rfl⟩
      | true =>
        obtain rfl := heeded data rest rfl
        exact ⟨rfl, rfl⟩

theorem calling_repeats (events : List (Event Byte)) :
    transcript insists (.calling out stale) events =
        List.replicate (repeats insists events) (.call false) ++
          transcript insists (.sending out stale) (events.drop (repeats insists events)) ∧
      received insists (.calling out stale) events =
        received insists (.sending out stale) (events.drop (repeats insists events)) := by
  induction events with
  | nil => cases insists <;> exact ⟨rfl, rfl⟩
  | cons event rest ih =>
    by_cases again : event.refuses = true ∧ insists = true
    next =>
      obtain ⟨refused, rfl⟩ := again
      obtain ⟨data, rfl⟩ : ∃ data, event = .answered true data := by
        cases event with
        | answered refused' data => cases refused' <;> simp_all [Event.refuses]
        | lost => cases refused
        | givenUp => cases refused
      have one : repeats true (.answered true data :: rest) = repeats true rest + 1 := by
        simp [repeats, List.takeWhile_cons, Event.refuses]
      rw [transcript_cons, received_cons, one, List.drop_succ_cons, List.replicate_succ]
      exact ⟨congrArg (Signal.call false :: ·) ih.1, ih.2⟩
    next =>
      have none : repeats insists (event :: rest) = 0 := by
        cases insists
        · rfl
        · have heeded : event.refuses = false := by simpa using again
          simp [repeats, heeded]
      rw [none]
      apply run_calling
      intro data later same
      obtain ⟨rfl, rfl⟩ := List.cons.inj same
      simpa [Event.refuses] using again

theorem transcript_writing (events : List (Event Byte)) :
    transcript insists (.calling out []) events = written insists out events := by
  rw [(calling_repeats events).1, transcript_sending, written]
  simp [Phase.sendByte]

theorem received_writing (events : List (Event Byte)) :
    received insists (.calling out []) events = [] := by
  rw [(calling_repeats events).2, received_sending]
  split <;> simp [Phase.sendByte]

theorem run_asking (some : stale ≠ []) (events : List (Event Byte)) :
    transcript insists (.asking stale) events = asked insists stale events ∧
      received insists (.asking stale) events = fetched stale.length events := by
  have positive : 0 < stale.length := List.length_pos_iff.mpr some
  cases events with
  | nil =>
    exact ⟨by simp [transcript, asked, reads, answers, takes, ending],
      by simp [received, Phase.got, fetched, answers]⟩
  | cons event rest =>
    rw [transcript_cons, received_cons]
    cases event with
    | givenUp =>
      exact ⟨by simp [Phase.step, asked, reads, answers, takes, ending],
        by simp [Phase.step, Phase.got, fetched, answers]⟩
    | lost =>
      exact ⟨by simp [Phase.step, asked, reads, answers, takes, ending, positive],
        by simp [Phase.step, Phase.got, fetched, answers]⟩
    | answered refused data =>
      cases refused with
      | true =>
        cases insists with
        | true =>
          exact ⟨congrArg (Signal.call false :: ·) (transcript_writing rest),
            received_writing rest⟩
        | false =>
          exact ⟨by simp [Phase.step, Phase.refusedCall, asked],
            by simp [Phase.step, Phase.refusedCall, fetched]⟩
      | false =>
        -- The first answer is taken as the later ones are.
        exact ⟨transcript_taking positive (.answered false data :: rest),
          (received_taking positive (.answered false data :: rest)).trans (List.nil_append _)⟩

theorem fetched_length (length : Nat) (events : List (Event Byte)) :
    (fetched length events).length ≤ length := by
  unfold fetched
  split
  · simp
  · exact List.length_take_le _ _

theorem asked_false (events : List (Event Byte)) :
    asked false stale events = tried stale.length events := by
  unfold asked tried
  split <;> rfl

theorem transcript_exchanging (some : stale ≠ []) (events : List (Event Byte)) :
    transcript insists (.calling out stale) events = exchanged insists out stale events := by
  obtain ⟨first, others, rfl⟩ := List.exists_cons_of_ne_nil some
  rw [(calling_repeats events).1, transcript_sending, exchanged]
  simp only [Phase.sendByte, List.cons_append, List.nil_append, (run_asking some _).1]

theorem received_exchanging (some : stale ≠ []) (events : List (Event Byte)) :
    received insists (.calling out stale) events = delivered insists out stale events := by
  obtain ⟨first, others, rfl⟩ := List.exists_cons_of_ne_nil some
  rw [(calling_repeats events).2, received_sending, delivered]
  simp only [Phase.sendByte, (run_asking some _).2]

theorem run_refused (refusals : List Byte) :
    Machine.run (Phase.step true) (.calling out stale) (refusals.map (.answered true)) =
      (.calling out stale, List.replicate refusals.length (.call false)) := by
  induction refusals with
  | nil => rfl
  | cons data rest ih =>
    rw [List.map_cons, Machine.run_cons, Phase.step, if_pos rfl, Phase.refusedCall, if_pos rfl, ih,
      List.length_cons, List.replicate_succ]
    rfl

def concluded (stale : List Byte) : Phase Byte × List (Signal Byte) :=
  Phase.sendByte [] stale

theorem run_sending (answers : List Byte) (enough : answers.length = out.length + 1) :
    Machine.run (Phase.step insists) (.sending out stale) (answers.map (.answered false)) =
      ((concluded stale).1, out.map .byte ++ (concluded stale).2) := by
  induction out generalizing answers with
  | nil =>
    obtain ⟨answer, rfl⟩ := List.length_eq_one_iff.mp enough
    simp [Machine.run_cons, Phase.step, concluded]
  | cons data out ih =>
    cases answers with
    | nil => simp at enough
    | cons answer rest =>
      rw [List.map_cons, Machine.run_cons, Phase.step, if_neg (by simp), Phase.sendByte,
        ih rest (by simpa using enough)]
      rfl

theorem run_written (refusals answers : List Byte) (enough : answers.length = out.length + 1) :
    Machine.run (Phase.step true) (.calling out stale)
        (refusals.map (.answered true) ++ answers.map (.answered false)) =
      ((concluded stale).1, List.replicate refusals.length (.call false) ++
        (out.map .byte ++ (concluded stale).2)) := by
  obtain ⟨answer, rest, rfl⟩ := List.exists_cons_of_length_eq_add_one enough
  have same : Machine.run (Phase.step true) (.calling out stale)
      ((answer :: rest).map (.answered false)) =
        Machine.run (Phase.step true) (.sending out stale)
          ((answer :: rest).map (.answered false)) := rfl
  rw [Machine.run_append, run_refused, same, run_sending _ enough]

theorem exchanged_refused (some : stale ≠ []) (refusals answers : List Byte)
    (enough : answers.length = out.length + 1) (data : Byte) (again : List (Event Byte)) :
    exchanged true out stale
        ((refusals.map (.answered true) ++ answers.map (.answered false)) ++
          .answered true data :: again) =
      List.replicate refusals.length (.call false) ++
        (out.map .byte ++ .call true :: .call false :: written true stale again) := by
  obtain ⟨first, others, rfl⟩ := List.exists_cons_of_ne_nil some
  have sent := @run_written _ out (first :: others) refusals answers enough
  have refused : transcript true (.asking (first :: others)) (.answered true data :: again) =
      .call false :: written true (first :: others) again :=
    (run_asking some (.answered true data :: again)).1
  rw [← transcript_exchanging some, transcript, Machine.run_append, sent]
  change _ ++ transcript true (.asking (first :: others)) (.answered true data :: again) = _
  rw [refused]
  simp [concluded, Phase.sendByte]

theorem run_taking (positive : 0 < left) (data : List Byte) (enough : data.length = left) :
    Machine.run (Phase.step insists) (.taking got left) (data.map (.answered false)) =
      (.done (got ++ data), takes left data) := by
  induction data generalizing got left with
  | nil => simp at enough; omega
  | cons byte rest ih =>
    rw [List.map_cons, Machine.run_cons, Phase.step, Phase.takeByte, takes]
    by_cases last : left ≤ 1
    next =>
      obtain rfl : rest = [] := List.eq_nil_of_length_eq_zero (by simp at enough; omega)
      simp [last, takes]
    next =>
      rw [if_neg last, ih (by omega) (by simp at enough; omega)]
      simp [last]

theorem run_asked (some : stale ≠ []) (data : List Byte) (enough : data.length = stale.length) :
    Machine.run (Phase.step insists) (.asking stale) (data.map (.answered false)) =
      (.done data, takes stale.length data) := by
  have positive : 0 < stale.length := List.length_pos_iff.mpr some
  obtain ⟨byte, rest, rfl⟩ := List.exists_cons_of_length_eq_add_one
    (show data.length = (stale.length - 1) + 1 by omega)
  have same : Machine.run (Phase.step insists) (.asking stale) ((byte :: rest).map (.answered false)) =
      Machine.run (Phase.step insists) (.taking [] stale.length)
        ((byte :: rest).map (.answered false)) := rfl
  rw [same, run_taking positive _ enough, List.nil_append]

end Runs
end BusTransfer
