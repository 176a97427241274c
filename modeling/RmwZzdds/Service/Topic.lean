import RmwZzdds.Library.Table
import RmwZzdds.Service.Message

/-!
# A service topic

The samples of one topic of a service, their delivery, and the takes of its
readers.  Everything handed to zzdds stays in `written`.  A delivery puts one
of these samples into the queue of one reader, at any time, so samples arrive
in any order, late, or never.

A take begins and then makes one pass after the other until it returns.  Each
pass reads the queue of its reader as it is then, so takes of one reader
interleave.

`Genuine` is what all of this keeps: no reader and no take meets a sample that
has not been written.
-/

namespace RmwZzdds.Service

/-- A call of the rmw interface. -/
abbrev CallId := Nat

/-- A call of `rmw_take_request` or `rmw_take_response`: its reader's owner,
what its arguments point to, the result of `rmw_serialized_message_init`, and
its passes. -/
structure Take (Owner M : Type*) where
  owner : Owner
  info : ServiceInfo
  message : M
  init : Ret
  outcomes : List TakeOutcome

/-- What a pass of a take meets, apart from the sample itself. -/
inductive TakeEvent where
  | noData
  | failed
  | invalidData
  | resizeFailed
  | noGuid
  | sample (info : MessageInfo)

/-- The result of the take below a pass, and the reader's queue after it. -/
def TakeEvent.outcome :
    TakeEvent → List (List UInt8) → Option (TakeOutcome × List (List UInt8))
  | .noData, queue => some (.noData, queue)
  | .failed, queue => some (.failed, queue)
  | .invalidData, queue => some (.invalidData, queue)
  | .resizeFailed, wire :: queue => some (.resizeFailed wire, queue)
  | .noGuid, wire :: queue => some (.noGuid wire, queue)
  | .sample info, wire :: queue => some (.sample wire info, queue)
  | _, [] => none

/-- The sample comes out of the queue. -/
theorem TakeEvent.mem_of_outcome {event : TakeEvent} {queue rest : List (List UInt8)}
    {o : TakeOutcome} (h : event.outcome queue = some (o, rest)) :
    (∀ wire ∈ o.wire, wire ∈ queue) ∧ ∀ wire ∈ rest, wire ∈ queue := by
  cases event with
  | noData | failed | invalidData =>
      cases h
      exact ⟨nofun, fun _ hw => hw⟩
  | resizeFailed | noGuid | sample info =>
      cases queue with
      | nil => cases h
      | cons wire queue =>
          cases h
          refine ⟨?_, fun _ hw => List.mem_cons_of_mem _ hw⟩
          rintro _ ⟨⟩
          exact List.mem_cons_self

/-- A topic with the queues and the takes of its readers. -/
structure Topic (Owner M : Type*) where
  written : List (List UInt8)
  reader : Owner → List (List UInt8)
  takes : CallId → Option (Take Owner M)

namespace Topic

variable {Owner M : Type*}

def empty : Topic Owner M where
  written := []
  reader _ := []
  takes _ := none

/-- The topic after a call of `DDS_DataWriter_write_raw`, if there was one. -/
def write (topic : Topic Owner M) (wire : Option (List UInt8)) : Topic Owner M :=
  { topic with written := topic.written ++ wire.toList }

/-- The topic after the start of a take. -/
def beginTake (topic : Topic Owner M) (call : CallId) (t : Take Owner M) :
    Option (Topic Owner M) :=
  match topic.takes call with
  | some _ => none
  | none => some { topic with takes := Function.update topic.takes call (some t) }

variable [DecidableEq Owner]

/-- The topic after the delivery of one sample to one reader. -/
def deliver (topic : Topic Owner M) (owner : Owner) (index : Nat) : Option (Topic Owner M) :=
  topic.written[index]?.map fun wire =>
    { topic with reader := Function.update topic.reader owner (topic.reader owner ++ [wire]) }

/-- The take and the topic after one pass of a take that `result` has not
ended yet. -/
def pass (topic : Topic Owner M) (result : Take Owner M → Option (TakeResult M)) (call : CallId)
    (event : TakeEvent) : Option (Take Owner M × Topic Owner M) :=
  match topic.takes call with
  | none => none
  | some t =>
      if (result t).isSome then none
      else
        (event.outcome (topic.reader t.owner)).map fun (o, queue) =>
          let t := { t with outcomes := t.outcomes ++ [o] }
          (t, { topic with
            reader := Function.update topic.reader t.owner queue
            takes := Function.update topic.takes call (some t) })

/-- What one pass does. -/
theorem pass_eq_some {topic topic' : Topic Owner M}
    {result : Take Owner M → Option (TakeResult M)} {call : CallId} {event : TakeEvent}
    {t' : Take Owner M} (h : topic.pass result call event = some (t', topic')) :
    ∃ t o queue, topic.takes call = some t ∧ result t = none ∧
      event.outcome (topic.reader t.owner) = some (o, queue) ∧
      t' = { t with outcomes := t.outcomes ++ [o] } ∧
      topic' = { topic with
        reader := Function.update topic.reader t.owner queue
        takes := Function.update topic.takes call (some t') } := by
  simp only [pass] at h
  split at h
  · cases h
  next t ht =>
    simp only [Option.ite_none_left_eq_some, Option.map_eq_some_iff] at h
    obtain ⟨hresult, ⟨o, queue⟩, hevent, heq⟩ := h
    cases heq
    exact ⟨t, o, queue, ht, by simpa using hresult, hevent, rfl, rfl⟩

omit [DecidableEq Owner] in
theorem written_of_beginTake {topic topic' : Topic Owner M} {call : CallId} {t : Take Owner M}
    (h : topic.beginTake call t = some topic') : topic'.written = topic.written := by
  simp only [beginTake] at h
  split at h <;> cases h
  rfl

theorem written_of_deliver {topic topic' : Topic Owner M} {owner : Owner} {index : Nat}
    (h : topic.deliver owner index = some topic') : topic'.written = topic.written := by
  obtain ⟨_, -, rfl⟩ := Option.map_eq_some_iff.mp h
  rfl

section

variable {topic topic' : Topic Owner M} {result : Take Owner M → Option (TakeResult M)}
  {call : CallId} {event : TakeEvent} {t' : Take Owner M}

theorem written_of_pass (h : topic.pass result call event = some (t', topic')) :
    topic'.written = topic.written := by
  obtain ⟨_, _, _, -, -, -, -, rfl⟩ := pass_eq_some h
  rfl

theorem takes_of_pass (h : topic.pass result call event = some (t', topic')) :
    topic'.takes call = some t' := by
  obtain ⟨_, _, _, -, -, -, -, rfl⟩ := pass_eq_some h
  exact Function.update_self ..

end

/-! ## Only written samples -/

/-- Readers and takes meet written samples only. -/
structure Genuine (topic : Topic Owner M) : Prop where
  reader : ∀ owner, ∀ wire ∈ topic.reader owner, wire ∈ topic.written
  takes : ∀ call t, topic.takes call = some t →
    ∀ o ∈ t.outcomes, ∀ wire ∈ o.wire, wire ∈ topic.written

namespace Genuine

variable {topic topic' : Topic Owner M}

omit [DecidableEq Owner] in
theorem empty : (Topic.empty : Topic Owner M).Genuine where
  reader := nofun
  takes := nofun

omit [DecidableEq Owner] in
theorem write (h : topic.Genuine) (wire : Option (List UInt8)) : (topic.write wire).Genuine where
  reader owner w hw := List.mem_append_left _ (h.reader owner w hw)
  takes call t ht o ho w hw := List.mem_append_left _ (h.takes call t ht o ho w hw)

omit [DecidableEq Owner] in
theorem beginTake {call : CallId} {t : Take Owner M} (h : topic.Genuine)
    (ht : t.outcomes = []) (hbegin : topic.beginTake call t = some topic') : topic'.Genuine := by
  simp only [Topic.beginTake] at hbegin
  split at hbegin
  · cases hbegin
  · cases hbegin
    refine ⟨h.reader, fun call' t' ht' => ?_⟩
    rcases Table.update_eq_some ht' with ⟨-, ⟨⟩⟩ | ⟨-, hold⟩
    · rw [ht]
      nofun
    · exact h.takes call' t' hold

theorem deliver {owner : Owner} {index : Nat} (h : topic.Genuine)
    (hdeliver : topic.deliver owner index = some topic') : topic'.Genuine := by
  simp only [Topic.deliver, Option.map_eq_some_iff] at hdeliver
  obtain ⟨wire, hwire, rfl⟩ := hdeliver
  refine ⟨fun owner' w hw => ?_, h.takes⟩
  rcases Table.mem_update hw with ⟨-, hnew⟩ | ⟨-, hold⟩
  · rw [List.mem_append, List.mem_singleton] at hnew
    rcases hnew with hold | rfl
    · exact h.reader owner w hold
    · exact List.mem_of_getElem? hwire
  · exact h.reader owner' w hold

theorem pass {result : Take Owner M → Option (TakeResult M)} {call : CallId} {event : TakeEvent}
    {t' : Take Owner M} (h : topic.Genuine)
    (hpass : topic.pass result call event = some (t', topic')) : topic'.Genuine := by
  obtain ⟨t, o, queue, ht, -, hevent, rfl, rfl⟩ := pass_eq_some hpass
  obtain ⟨hwire, hrest⟩ := event.mem_of_outcome hevent
  refine ⟨fun owner w hw => ?_, fun call' t' ht' => ?_⟩
  · rcases Table.mem_update hw with ⟨-, hnew⟩ | ⟨-, hold⟩
    · exact h.reader t.owner w (hrest w hnew)
    · exact h.reader owner w hold
  · rcases Table.update_eq_some ht' with ⟨-, ⟨⟩⟩ | ⟨-, hold⟩
    · intro o' ho' w hw
      rw [List.mem_append, List.mem_singleton] at ho'
      rcases ho' with ho' | rfl
      · exact h.takes call t ht o' ho' w hw
      · exact h.reader t.owner w (hwire w hw)
    · exact h.takes call' t' hold

end Genuine

end Topic

end RmwZzdds.Service
