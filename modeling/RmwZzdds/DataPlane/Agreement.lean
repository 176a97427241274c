import RmwZzdds.Codec.TypeSupport
import RmwZzdds.Codec.Xcdr1
import RmwZzdds.DataPlane.Take

/-!
# The take functions agree

With a generated type support, and as long as nothing fails but decoding, the
functions that take one sample find the same in the reader and read the same
value from it.  A serialized message has still to be deserialized, which fails
just if the other functions report the payload as undecodable.
-/

namespace RmwZzdds.DataPlane

open Codec (Language Members TypeSupport ZidlCdr)
open Service (Guid)

/-! ## One function -/

section

variable {M Handle : Type*} (s : Subscription M Handle) {payload : List UInt8}
  {info : SampleInfo Handle}

theorem takeSample_valid (hvalid : info.validData = true) (message : M) :
    takeSample s .ok message (.ok (payload, info)) =
      if (s.decode payload message).1 then ⟨.ok, (s.decode payload message).2, true⟩
      else ⟨.error, (s.decode payload message).2, false⟩ := by
  cases hdecoded : (s.decode payload message).1 <;> simp [takeSample, hvalid, hdecoded]

theorem takeSampleWithInfo_valid (hvalid : info.validData = true)
    (hguid : (s.publicationGuid info.publicationHandle).isSome = true) (now : Option Int)
    (message : M) (messageInfo : MessageInfo) :
    (takeSampleWithInfo s now message messageInfo (.ok (payload, info))).1 =
      if (s.decode payload message).1 then ⟨.ok, (s.decode payload message).2, true⟩
      else ⟨.error, (s.decode payload message).2, false⟩ := by
  cases hdecoded : (s.decode payload message).1 <;>
    simp [takeSampleWithInfo, fillMessageInfo, hvalid, hdecoded, hguid]

theorem takeSampleLoaned_valid (hvalid : info.validData = true) (message : M) :
    (takeSampleLoaned s .ok none true message none (.ok (payload, info))).1 =
      if (s.decode payload message).1 then ⟨.ok, some (s.decode payload message).2, true⟩
      else ⟨.error, none, false⟩ := by
  cases hdecoded : (s.decode payload message).1 <;> simp [takeSampleLoaned, hvalid, hdecoded]

/-- A buffer that is large enough has the payload after it was filled. -/
theorem content_fill {m : SerializedMessage} (hm : m.valid = true)
    (hlength : payload.length ≤ m.bufferCapacity) :
    (SerializedMessage.fill payload m).valid = true ∧
      (SerializedMessage.fill payload m).content = payload := by
  simp only [SerializedMessage.valid, Bool.and_eq_true, Bool.or_eq_true, decide_eq_true_eq] at hm
  obtain ⟨⟨hallocator, -⟩, hbuffer⟩ := hm
  constructor
  · simp [SerializedMessage.valid, SerializedMessage.fill, hallocator, hlength, hbuffer]
  · cases hmemory : m.buffer with
    | some memory => simp [SerializedMessage.content, SerializedMessage.fill, hmemory]
    | none =>
        have hcapacity : m.bufferCapacity = 0 := by simpa [hmemory] using hbuffer
        rw [hcapacity, Nat.le_zero, List.length_eq_zero_iff] at hlength
        simp [SerializedMessage.content, SerializedMessage.fill, hmemory, hlength]

/-- A serialized message is large enough once it was taken. -/
theorem takeSampleSerialized_valid [Rcutils] (payload : List UInt8) (hvalid : info.validData = true)
    {m : SerializedMessage} (hm : m.valid = true) (memory : List UInt8) :
    ∃ m', takeSampleSerialized (some memory) m (.ok (payload, info)) = ⟨.ok, m', true⟩ ∧
      m'.valid = true ∧ m'.content = payload ∧ m'.bufferLength = payload.length := by
  rw [takeSampleSerialized, if_pos hvalid]
  by_cases hgrow : m.bufferCapacity < payload.length
  · rw [if_pos hgrow, Rcutils.uint8ArrayResize_of_lt hgrow]
    have hresized : ({ m with
        buffer := some memory
        bufferLength := min m.bufferLength payload.length
        bufferCapacity := payload.length } : SerializedMessage).valid = true := by
      simp only [SerializedMessage.valid, Bool.and_eq_true] at hm
      simp [SerializedMessage.valid, hm.1.1]
    exact ⟨_, rfl, (content_fill hresized (Nat.le_refl _)).1,
      (content_fill hresized (Nat.le_refl _)).2, rfl⟩
  · rw [if_neg hgrow]
    have hlength := Nat.le_of_not_lt hgrow
    exact ⟨_, rfl, (content_fill hm hlength).1, (content_fill hm hlength).2, rfl⟩

/-- A taken message deserializes just if its payload decodes. -/
theorem rmwDeserialize_content {m : SerializedMessage} (hm : m.valid = true)
    (hcontent : m.content = payload) (hlength : m.bufferLength = payload.length)
    (hshort : payload.length < 4 → s.readerInit payload = false) (message : M) :
    if (s.decode payload message).1 then
      rmwDeserialize s.readerInit m (some s.callbacks) (some message) =
        (.ok, some (s.decode payload message).2)
    else (rmwDeserialize s.readerInit m (some s.callbacks) (some message)).1 ≠ .ok := by
  cases hinit : s.readerInit payload with
  | false =>
      rw [Subscription.decode, hinit, rmwDeserialize, hcontent, hinit]
      simp only [Bool.false_eq_true, if_false]
      split
      · intro hok
        cases hok
      · intro hok
        cases hok
  | true =>
      have hlong : ¬ m.bufferLength < 4 := by
        intro hlt
        rw [hlength] at hlt
        exact Bool.false_ne_true ((hshort hlt).symm.trans hinit)
      rw [Subscription.decode, hinit, rmwDeserialize, hcontent, hinit]
      cases hread : (s.callbacks.deserialize payload message).1 <;> simp [hm, hlong, hread]

end

/-! ## All of them -/

/-- A call ends with a value, or with an error if there is none. -/
def TakeResult.Ends {M V : Type*} (result : TakeResult M) (read : M → Option V) :
    Option V → Prop
  | some value => result.ret = .ok ∧ result.taken = true ∧ read result.message = some value
  | none => result.ret = .error ∧ result.taken = false

/-- The calls have found the same sample or none. -/
structure TakesAgree {M V : Type*} (value : M → V) (plain withInfo : TakeResult M)
    (loaned : TakeResult (Option M)) (serialized : TakeResult SerializedMessage)
    (deserialized : Ret × Option M) : Prop where
  /-- Without a sample with data they report the same. -/
  untaken : serialized.taken = false →
    (plain.ret = serialized.ret ∧ plain.taken = false) ∧
    (withInfo.ret = serialized.ret ∧ withInfo.taken = false) ∧
    (loaned.ret = serialized.ret ∧ loaned.taken = false)
  /-- With one they end with the same value, or all with an error. -/
  taken : serialized.taken = true → serialized.ret = .ok ∧ ∃ v : Option V,
    plain.Ends (some ∘ value) v ∧ withInfo.Ends (some ∘ value) v ∧
    loaned.Ends (Option.map value) v ∧
    match v with
    | some v => deserialized.1 = .ok ∧ deserialized.2.map value = some v
    | none => deserialized.1 ≠ .ok

section

variable {z : ZidlCdr} {language : Language} {members : Members} {Handle : Type*}

/-- A subscription with a generated type support, whose reader knows the GUIDs of
all writers. -/
def resolving (support : TypeSupport z language members) (ignoreLocalPublications : Bool)
    (localPublicationGuids : Finset Guid) (publicationGuid : Handle → Guid) :
    Subscription (language.Message members) Handle where
  callbacks := support.toCallbacks
  ignoreLocalPublications := ignoreLocalPublications
  localPublicationGuids := localPublicationGuids
  publicationGuid handle := some (publicationGuid handle)
  readerInit payload := (z.readerInit payload).isSome

/-- Decoding does not look at what the message held. -/
theorem decode_value (support : TypeSupport z language members) (ignoreLocalPublications : Bool)
    (localPublicationGuids : Finset Guid) (publicationGuid : Handle → Guid) (payload : List UInt8)
    (old old' : language.Message members) :
    let s := resolving support ignoreLocalPublications localPublicationGuids publicationGuid
    (s.decode payload old).1 = (s.decode payload old').1 ∧
      ((s.decode payload old).1 = true →
        language.value members (s.decode payload old).2 =
          language.value members (s.decode payload old').2) := by
  intro s
  cases hinit : (z.readerInit payload).isSome with
  | false => simp [s, Subscription.decode, resolving, hinit]
  | true =>
      have hvalue := support.deserialize_value hinit old old'
      simpa [s, Subscription.decode, resolving, hinit] using hvalue

/-- Without a sample with data the functions report the same. -/
theorem takesAgree_untaken [Rcutils] {M V Handle : Type*} (value : M → V)
    (s : Subscription M Handle) (now : Option Int) (message message' created : M)
    (messageInfo : MessageInfo)
    (m : SerializedMessage) (memory : List UInt8) (deserialized : Ret × Option M)
    {visible : Visible Handle}
    (huntaken : ∀ payload info, visible = .ok (payload, info) → info.validData = false) :
    TakesAgree value (takeSample s .ok message visible)
      (takeSampleWithInfo s now message' messageInfo visible).1
      (takeSampleLoaned s .ok none true created none visible).1
      (takeSampleSerialized (some memory) m visible) deserialized := by
  cases visible with
  | error code =>
      cases code with
      | noData => exact ⟨fun _ => ⟨⟨rfl, rfl⟩, ⟨rfl, rfl⟩, ⟨rfl, rfl⟩⟩, nofun⟩
      | ok => exact ⟨fun _ => ⟨⟨rfl, rfl⟩, ⟨rfl, rfl⟩, ⟨rfl, rfl⟩⟩, nofun⟩
      | error => exact ⟨fun _ => ⟨⟨rfl, rfl⟩, ⟨rfl, rfl⟩, ⟨rfl, rfl⟩⟩, nofun⟩
  | ok sample =>
      obtain ⟨payload, info⟩ := sample
      have hvalid := huntaken payload info rfl
      constructor
      · simp [takeSample, takeSampleWithInfo, takeSampleLoaned, takeSampleSerialized, hvalid]
      · simp [takeSampleSerialized, hvalid]

/-- With a sample with data the functions end alike. -/
theorem takesAgree_taken [Rcutils] (support : TypeSupport z language members)
    (hshort : ∀ payload : List UInt8, payload.length < 4 → z.readerInit payload = none)
    (ignoreLocalPublications : Bool) (localPublicationGuids : Finset Guid)
    (publicationGuid : Handle → Guid) (now : Option Int)
    (message message' created target : language.Message members) (messageInfo : MessageInfo)
    {m : SerializedMessage} (hm : m.valid = true) (memory : List UInt8) (payload : List UInt8)
    {info : SampleInfo Handle} (hvalid : info.validData = true) :
    let s := resolving support ignoreLocalPublications localPublicationGuids publicationGuid
    TakesAgree (language.value members) (takeSample s .ok message (.ok (payload, info)))
      (takeSampleWithInfo s now message' messageInfo (.ok (payload, info))).1
      (takeSampleLoaned s .ok none true created none (.ok (payload, info))).1
      (takeSampleSerialized (some memory) m (.ok (payload, info)))
      (rmwDeserialize s.readerInit
        (takeSampleSerialized (some memory) m (.ok (payload, info))).message
        (some s.callbacks) (some target)) := by
  intro s
  have hguid : (s.publicationGuid info.publicationHandle).isSome = true := rfl
  obtain ⟨m', hserialized, hm', hcontent, hlength⟩ :=
    takeSampleSerialized_valid payload hvalid hm memory
  have hinit : payload.length < 4 → s.readerInit payload = false := fun hlt =>
    Option.isSome_eq_false_iff.mpr (Option.isNone_iff_eq_none.mpr (hshort payload hlt))
  have hdeserialized := rmwDeserialize_content s hm' hcontent hlength hinit target
  have hvalue := fun old => decode_value support ignoreLocalPublications localPublicationGuids
    publicationGuid payload message old
  rw [takeSample_valid s hvalid, takeSampleWithInfo_valid s hvalid hguid,
    takeSampleLoaned_valid s hvalid, hserialized]
  refine ⟨nofun, fun _ => ⟨rfl, ?_⟩⟩
  rw [← (hvalue message').1, ← (hvalue created).1]
  rw [← (hvalue target).1] at hdeserialized
  cases hdecoded : (s.decode payload message).1 with
  | false =>
      rw [hdecoded] at hdeserialized
      exact ⟨none, ⟨rfl, rfl⟩, ⟨rfl, rfl⟩, ⟨rfl, rfl⟩, hdeserialized⟩
  | true =>
      rw [hdecoded, if_pos rfl] at hdeserialized
      have hsame := fun old => ((hvalue old).2 hdecoded).symm
      refine ⟨some (language.value members (s.decode payload message).2), ⟨rfl, rfl, rfl⟩,
        ⟨rfl, rfl, congrArg some (hsame message')⟩, ⟨rfl, rfl, congrArg some (hsame created)⟩, ?_⟩
      rw [hdeserialized]
      exact ⟨rfl, congrArg some (hsame target)⟩

/-- The functions that take one sample agree. -/
theorem takes_agree [Rcutils] (support : TypeSupport z language members)
    (hshort : ∀ payload : List UInt8, payload.length < 4 → z.readerInit payload = none)
    (ignoreLocalPublications : Bool) (localPublicationGuids : Finset Guid)
    (publicationGuid : Handle → Guid) (now : Option Int)
    (message message' created target : language.Message members) (messageInfo : MessageInfo)
    (m : SerializedMessage) (hm : m.valid = true) (memory : List UInt8)
    (queue : List (RawTake Handle)) :
    let s := resolving support ignoreLocalPublications localPublicationGuids publicationGuid
    let plain := rmwTake s .ok message queue
    let withInfo := rmwTakeWithInfo s .ok now message' messageInfo queue
    let loaned := rmwTakeLoanedMessage s .ok (some created) true queue
    let serialized := rmwTakeSerializedMessage s .ok (some memory) m queue
    (plain.2 = serialized.2 ∧ withInfo.2 = serialized.2 ∧ loaned.2 = serialized.2) ∧
      TakesAgree (language.value members) plain.1 withInfo.1.1 loaned.1 serialized.1
        (rmwDeserialize s.readerInit serialized.1.message (some s.callbacks) (some target)) := by
  intro s plain withInfo loaned serialized
  refine ⟨⟨rfl, rfl, rfl⟩, ?_⟩
  show TakesAgree _ (takeSample s .ok message (s.takeVisibleSample .ok queue).1)
    (takeSampleWithInfo s now message' messageInfo (s.takeVisibleSample .ok queue).1).1
    (takeSampleLoaned s .ok none true created none (s.takeVisibleSample .ok queue).1).1
    (takeSampleSerialized (some memory) m (s.takeVisibleSample .ok queue).1)
    (rmwDeserialize s.readerInit
      (takeSampleSerialized (some memory) m (s.takeVisibleSample .ok queue).1).message
      (some s.callbacks) (some target))
  generalize (s.takeVisibleSample .ok queue).1 = visible
  by_cases hdata : ∃ payload info, visible = .ok (payload, info) ∧ info.validData = true
  · obtain ⟨payload, info, rfl, hvalid⟩ := hdata
    exact takesAgree_taken support hshort _ _ _ now message message' created target messageInfo hm
      memory payload hvalid
  · apply takesAgree_untaken
    intro payload info hvisible
    exact Bool.eq_false_iff.mpr fun hvalid => hdata ⟨payload, info, hvisible, hvalid⟩

end

/-! ## A message of one octet -/

attribute [local instance] Rcutils.documented

def octetRecord : Members := .last "value" false .one (.basic .octet)

def octetSupport : TypeSupport Codec.xcdr1 .cpp octetRecord :=
  .ofCode Codec.ElementType.zero
    { hasKey := false
      getSerializedSize := fun _ => 5
      serialize := fun message _ => (true, [0, 1, 0, 0, (message : UInt8)])
      deserialize := fun _ message => (false, message) }

/-- A sample of the octet, and one without data. -/
def octetQueue : List (RawTake Unit) :=
  [⟨.ok, [[0, 1, 0, 0, 7]], [⟨true, (), 0, 0⟩]⟩, ⟨.ok, [[]], [⟨false, (), 0, 0⟩]⟩]

/-- The octet is read by all functions, whatever their messages held. -/
theorem octet_takes_agree :
    let s := resolving octetSupport false ∅ fun _ : Unit => Service.Guid.zero
    let serialized := rmwTakeSerializedMessage s .ok (some []) .empty octetQueue
    TakesAgree (V := UInt8) id (rmwTake s .ok (0 : UInt8) octetQueue).1
        (rmwTakeWithInfo s .ok none (1 : UInt8) ⟨0, 0, 0, 0, none, false⟩ octetQueue).1.1
        (rmwTakeLoanedMessage s .ok (some (2 : UInt8)) true octetQueue).1 serialized.1
        (rmwDeserialize s.readerInit serialized.1.message (some s.callbacks) (some (3 : UInt8))) ∧
      (rmwTake s .ok (0 : UInt8) octetQueue).1.message = (7 : UInt8) := by
  have hshort : ∀ payload : List UInt8, payload.length < 4 →
      Codec.xcdr1.readerInit payload = none := by
    intro payload hlt
    match payload with
    | [] | [_] | [_, _] | [_, _, _] => simp [Codec.xcdr1]
    | _ :: _ :: _ :: _ :: rest =>
        simp only [List.length_cons] at hlt
        omega
  have hagree := takes_agree octetSupport hshort false ∅ (fun _ : Unit => Service.Guid.zero) none
    (0 : UInt8) (1 : UInt8) (2 : UInt8) (3 : UInt8) ⟨0, 0, 0, 0, none, false⟩ .empty rfl []
    octetQueue
  exact ⟨hagree.2, rfl⟩

end RmwZzdds.DataPlane
