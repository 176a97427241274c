import RmwZzdds.Codec.KeyHash
import RmwZzdds.DataPlane.Agreement
import RmwZzdds.Lifecycle.Context

/-!
# Publishing

A message reaches zzdds through `rmw_publish`, through
`rmw_publish_loaned_message`, or through `rmw_serialize` and
`rmw_publish_serialized_message`.  All three end in `write_serialized`.

The paths do not use the same writer: `rmw_serialize` writes into a buffer of the
size that it has computed, and the other two into one that grows.  What they
write may differ in its bytes, but it encodes the same message
(`publication_encodes`), and every type support reads the message back from it
(`Encodes.reads`).
-/

namespace RmwZzdds.DataPlane.Publishing

open Codec (Language Members TypeSupport ZidlCdr uint32Max)

/-! ## Publishers -/

/-- A type support whose `serialize` runs the generated code too. -/
structure PublisherCallbacks (z : ZidlCdr) (language : Language) (members : Members) extends
    TypeSupport z language members where
  /-- `zidl_cdr_writer_init_fixed`. -/
  fixedWriter : Nat → z.Writer
  fixedWriter_xcdr1 : ∀ capacity, z.writerXcdr1 (fixedWriter capacity) = true
  fixedWriter_buf : ∀ capacity, z.buf (fixedWriter capacity) = []
  hasKey_eq : hasKey = members.hasKey
  serialize_eq : ∀ message capacity,
    match language.serialize z members message (fixedWriter capacity) with
    | some w => toCallbacks.serialize message capacity = (true, z.buf w)
    | none => (toCallbacks.serialize message capacity).1 = false

/-- The generated code between other callbacks.  What a failed `serialize` has
written is not looked at. -/
def PublisherCallbacks.ofCode {z : ZidlCdr} {language : Language} {members : Members}
    (support : TypeSupport z language members) (fixedWriter : Nat → z.Writer)
    (hxcdr1 : ∀ capacity, z.writerXcdr1 (fixedWriter capacity) = true)
    (hbuf : ∀ capacity, z.buf (fixedWriter capacity) = []) :
    PublisherCallbacks z language members where
  toTypeSupport :=
    { support with
      hasKey := members.hasKey
      serialize := fun message capacity =>
        match language.serialize z members message (fixedWriter capacity) with
        | some w => (true, z.buf w)
        | none => (false, []) }
  fixedWriter := fixedWriter
  fixedWriter_xcdr1 := hxcdr1
  fixedWriter_buf := hbuf
  hasKey_eq := rfl
  serialize_eq := by
    intro message capacity
    simp only
    cases language.serialize z members message (fixedWriter capacity) with
    | none => rfl
    | some w => rfl

/-- `rmw_publisher_t`. -/
structure Publisher (z : ZidlCdr) (language : Language) (members : Members) where
  implementationIdentifier : String
  /-- The callbacks of its `PublisherImpl`. -/
  data : Option (PublisherCallbacks z language members)

/-- What `DDS_DataWriter_write_raw` is given. -/
structure Written where
  key : List UInt8
  payload : List UInt8
deriving DecidableEq

section

variable {z : ZidlCdr} {language : Language} {members : Members}

/-- `validate_publisher`. -/
def validatePublisher (publisher : Option (Publisher z language members)) :
    Except Ret (PublisherCallbacks z language members) :=
  match publisher with
  | none => .error .invalidArgument
  | some publisher =>
      match publisher.data with
      | none => .error .invalidArgument
      | some callbacks =>
          if publisher.implementationIdentifier ≠ Lifecycle.identifier then
            .error .incorrectRmwImplementation
          else .ok callbacks

/-- `write_serialized`.  `written` says whether zzdds takes the sample. -/
def writeSerialized (callbacks : PublisherCallbacks z language members) (data : List UInt8)
    (rosMessage : Option (language.Message members)) (written : Bool) : Ret × Option Written :=
  let keyHash :=
    if callbacks.hasKey then rosMessage.bind (language.computeKeyHash z members)
    else some (List.replicate 16 0)
  match keyHash with
  | none => (.error, none)
  | some keyHash =>
      if data.length > uint32Max then (.error, none)
      else if written then (.ok, some ⟨keyHash, data⟩)
      else (.error, none)

/-- `rmw_publish`. -/
def rmwPublish (publisher : Option (Publisher z language members))
    (rosMessage : Option (language.Message members)) (written : Bool) : Ret × Option Written :=
  match validatePublisher publisher with
  | .error ret => (ret, none)
  | .ok callbacks =>
      match rosMessage with
      | none => (.invalidArgument, none)
      | some message =>
          match z.writerInit with
          | none => (.badAlloc, none)
          | some w =>
              match language.serialize z members message w with
              | none => (.error, none)
              | some w => writeSerialized callbacks (z.buf w) (some message) written

/-- `rmw_publish_loaned_message`.  `borrowed` says whether the message is among the
loaned messages of the publisher. -/
def rmwPublishLoanedMessage (publisher : Option (Publisher z language members))
    (rosMessage : Option (language.Message members)) (borrowed written : Bool) :
    Ret × Option Written :=
  match validatePublisher publisher with
  | .error ret => (ret, none)
  | .ok _ =>
      if rosMessage.isNone then (.invalidArgument, none)
      else if !borrowed then (.error, none)
      else rmwPublish publisher rosMessage written

/-- `rmw_publish_serialized_message`. -/
def rmwPublishSerializedMessage (publisher : Option (Publisher z language members))
    (message : Option SerializedMessage) (written : Bool) : Ret × Option Written :=
  match validatePublisher publisher with
  | .error ret => (ret, none)
  | .ok callbacks =>
      match message with
      | none => (.invalidArgument, none)
      | some message =>
          if message.buffer.isNone || message.bufferLength < 4 then (.invalidArgument, none)
          else if callbacks.hasKey then (.unsupported, none)
          else writeSerialized callbacks message.content none written

/-! ## The paths -/

/-- A message on its way to zzdds. -/
inductive Publication (language : Language) (members : Members) where
  | publish (message : language.Message members)
  | publishLoaned (message : language.Message members) (borrowed : Bool)
  /-- `rmw_serialize` into a message, which is published next.  `memory` is what the
  allocator returns if its buffer has to grow. -/
  | publishSerialized (message : language.Message members) (m : SerializedMessage)
      (memory : Option (List UInt8))

namespace Publication

/-- The message. -/
def message : Publication language members → language.Message members
  | publish message | publishLoaned message _ | publishSerialized message _ _ => message

/-- The calls.  A message that cannot be serialized is not published. -/
def run [Rcutils] (publisher : Option (Publisher z language members)) (written : Bool) :
    Publication language members → Ret × Option Written
  | publish message => rmwPublish publisher (some message) written
  | publishLoaned message borrowed =>
      rmwPublishLoanedMessage publisher (some message) borrowed written
  | publishSerialized message m memory =>
      let callbacks := (publisher.bind Publisher.data).map fun callbacks => callbacks.toCallbacks
      match rmwSerialize (some message) callbacks m memory with
      | (.ok, m) => rmwPublishSerializedMessage publisher (some m) written
      | (ret, _) => (ret, none)

end Publication

/-! ## What is written -/

/-- The payload is what the generated code writes for the value into an empty
buffer. -/
def Encodes (z : ZidlCdr) (members : Members) (value : members.Value) (payload : List UInt8) :
    Prop :=
  ∃ w w', z.writerXcdr1 w = true ∧ z.buf w = [] ∧
    Codec.Cpp.serialize z members value w = some w' ∧ payload = z.buf w'

/-- `zidl_cdr_writer_init` makes an empty writer. -/
def StartsEmpty (z : ZidlCdr) : Prop :=
  ∀ w, z.writerInit = some w → z.writerXcdr1 w = true ∧ z.buf w = []

theorem encodes_of_serialize {message : language.Message members} {w w' : z.Writer}
    (hw : z.writerXcdr1 w = true) (hbuf : z.buf w = [])
    (h : language.serialize z members message w = some w') :
    Encodes z members (language.value members message) (z.buf w') := by
  refine ⟨w, w', hw, hbuf, ?_, rfl⟩
  cases language with
  | c =>
      have hserialize : Codec.C.serialize z members message w = some w' := h
      rw [Codec.C.serialize, funext (Codec.c_serializeMembers members false message)] at hserialize
      rw [Codec.Cpp.serialize]
      exact hserialize
  | cpp => exact h

theorem PublisherCallbacks.encodes_of_serialize
    (callbacks : PublisherCallbacks z language members) {message : language.Message members}
    {capacity : Nat} {bytes : List UInt8}
    (h : callbacks.serialize message capacity = (true, bytes)) :
    Encodes z members (language.value members message) bytes := by
  have heq := callbacks.serialize_eq message capacity
  split at heq
  · next w hserialize =>
      rw [h] at heq
      obtain ⟨-, rfl⟩ := Prod.mk.inj heq
      exact Publishing.encodes_of_serialize (callbacks.fixedWriter_xcdr1 capacity)
        (callbacks.fixedWriter_buf capacity) hserialize
  · rw [h] at heq
    cases heq

theorem writeSerialized_ok {callbacks : PublisherCallbacks z language members}
    {data : List UInt8} {rosMessage : Option (language.Message members)} {written : Bool}
    {sample : Option Written}
    (h : writeSerialized callbacks data rosMessage written = (.ok, sample)) :
    ∃ key, sample = some ⟨key, data⟩ ∧
      (callbacks.hasKey = true → rosMessage.bind (language.computeKeyHash z members) = some key) ∧
      (callbacks.hasKey = false → key = List.replicate 16 0) := by
  rw [writeSerialized] at h
  split at h
  · cases h
  · next key hkey =>
      split at h
      · cases h
      · split at h
        · cases h
          refine ⟨key, rfl, ?_, ?_⟩
          · intro hkeyed
            rw [hkeyed, if_pos rfl] at hkey
            exact hkey
          · intro hunkeyed
            rw [hunkeyed, if_neg Bool.false_ne_true] at hkey
            exact (Option.some.inj hkey).symm
        · cases h

theorem validatePublisher_ok {publisher : Option (Publisher z language members)}
    {callbacks : PublisherCallbacks z language members}
    (h : validatePublisher publisher = .ok callbacks) :
    publisher.bind Publisher.data = some callbacks := by
  rw [validatePublisher.eq_def] at h
  split at h
  · cases h
  · split at h
    · cases h
    · next hdata =>
        split at h
        · cases h
        · cases h
          exact hdata

theorem validatePublisher_error {publisher : Option (Publisher z language members)} {ret : Ret}
    (h : validatePublisher publisher = .error ret) : ret ≠ .ok := by
  rw [validatePublisher.eq_def] at h
  split at h
  · cases h
    decide
  · split at h
    · cases h
      decide
    · split at h
      · cases h
        decide
      · cases h

theorem rmwPublish_ok (hz : StartsEmpty z) {publisher : Option (Publisher z language members)}
    {message : language.Message members} {written : Bool} {sample : Option Written}
    (h : rmwPublish publisher (some message) written = (.ok, sample)) :
    ∃ sent, sample = some sent ∧ Encodes z members (language.value members message) sent.payload ∧
      (members.hasKey = true → language.computeKeyHash z members message = some sent.key) := by
  rw [rmwPublish] at h
  split at h
  · next hret => exact absurd (congrArg Prod.fst h) (validatePublisher_error hret)
  · next callbacks hvalid =>
      simp only at h
      split at h
      · cases h
      · next w hinit =>
          split at h
          · cases h
          · next w' hserialize =>
              obtain ⟨hxcdr1, hbuf⟩ := hz w hinit
              obtain ⟨key, rfl, hkey, -⟩ := writeSerialized_ok h
              refine ⟨_, rfl, encodes_of_serialize hxcdr1 hbuf hserialize, fun hkeyed => ?_⟩
              exact hkey (callbacks.hasKey_eq.trans hkeyed)

/-- A message that `rmw_serialize` leaves is what the type support wrote. -/
theorem rmwSerialize_ok [Rcutils] {M : Type*} {message : M} {callbacks : Callbacks M}
    {m m' : SerializedMessage} {memory : Option (List UInt8)}
    (h : rmwSerialize (some message) (some callbacks) m memory = (.ok, m')) :
    ∃ capacity, callbacks.serialize message capacity = (true, m'.content) := by
  cases hm : m.valid with
  | false =>
      simp only [rmwSerialize, hm, Bool.not_false, if_true] at h
      cases h
  | true =>
      simp only [rmwSerialize, hm, Bool.not_true, Bool.false_eq_true, if_false] at h
      split at h
      · cases h
      · next hsize =>
          simp only [Bool.or_eq_true, decide_eq_true_eq, not_or, Nat.not_lt] at hsize
          split at h
          · next hgrow =>
              rw [Rcutils.uint8ArrayResize_of_lt hgrow] at h
              cases memory with
              | none => cases h
              | some memory => exact ⟨_, (serializeInto_ok (Option.some_ne_none _) h).1⟩
          · next hfits =>
              have hbuffer := ((SerializedMessage.valid_iff m).mp hm).2.2 (by omega)
              exact ⟨_, (serializeInto_ok (Option.isSome_iff_ne_none.mp hbuffer) h).1⟩

theorem writeSerialized_some {callbacks : PublisherCallbacks z language members}
    {data : List UInt8} {rosMessage : Option (language.Message members)} {written : Bool}
    {ret : Ret} {sent : Written}
    (h : writeSerialized callbacks data rosMessage written = (ret, some sent)) : ret = .ok := by
  rw [writeSerialized] at h
  split at h
  · cases h
  · split at h
    · cases h
    · split at h
      · exact (Prod.mk.inj h).1.symm
      · cases h

theorem rmwPublish_some {publisher : Option (Publisher z language members)}
    {rosMessage : Option (language.Message members)} {written : Bool} {ret : Ret} {sent : Written}
    (h : rmwPublish publisher rosMessage written = (ret, some sent)) : ret = .ok := by
  rw [rmwPublish] at h
  split at h
  · cases h
  · split at h
    · cases h
    · split at h
      · cases h
      · split at h
        · cases h
        · exact writeSerialized_some h

/-- Only a publication that succeeds is written. -/
theorem publication_some [Rcutils] {publisher : Option (Publisher z language members)}
    {publication : Publication language members} {written : Bool} {ret : Ret} {sent : Written}
    (h : publication.run publisher written = (ret, some sent)) : ret = .ok := by
  cases publication with
  | publish message =>
      rw [Publication.run] at h
      exact rmwPublish_some h
  | publishLoaned message borrowed =>
      simp only [Publication.run, rmwPublishLoanedMessage] at h
      split at h
      · cases h
      · split at h
        · cases h
        · split at h
          · cases h
          · exact rmwPublish_some h
  | publishSerialized message m memory =>
      simp only [Publication.run] at h
      split at h
      · simp only [rmwPublishSerializedMessage] at h
        split at h
        · cases h
        · split at h
          · cases h
          · split at h
            · cases h
            · exact writeSerialized_some h
      · cases h

/-- A publication that zzdds takes encodes its message, and has the hash of its
key. -/
theorem publication_encodes [Rcutils] (hz : StartsEmpty z)
    {publisher : Option (Publisher z language members)} {publication : Publication language members}
    {written : Bool} {sample : Option Written}
    (h : publication.run publisher written = (.ok, sample)) :
    ∃ sent, sample = some sent ∧
      Encodes z members (language.value members publication.message) sent.payload ∧
      (members.hasKey = true →
        language.computeKeyHash z members publication.message = some sent.key) := by
  cases publication with
  | publish message => exact rmwPublish_ok hz h
  | publishLoaned message borrowed =>
      simp only [Publication.run, rmwPublishLoanedMessage] at h
      split at h
      · next hret => exact absurd (congrArg Prod.fst h) (validatePublisher_error hret)
      · split at h
        · cases h
        · split at h
          · cases h
          · exact rmwPublish_ok hz h
  | publishSerialized message m memory =>
      simp only [Publication.run] at h
      split at h
      · next m' hserialize =>
          simp only [rmwPublishSerializedMessage] at h
          split at h
          · next hret => exact absurd (congrArg Prod.fst h) (validatePublisher_error hret)
          · next callbacks hvalid =>
              split at h
              · cases h
              · split at h
                · cases h
                · next hunkeyed =>
                    rw [validatePublisher_ok hvalid, Option.map_some] at hserialize
                    obtain ⟨capacity, hwrites⟩ := rmwSerialize_ok hserialize
                    obtain ⟨key, rfl, -, -⟩ := writeSerialized_ok h
                    refine ⟨_, rfl, callbacks.encodes_of_serialize hwrites, fun hkeyed => ?_⟩
                    exact absurd (callbacks.hasKey_eq.trans hkeyed) hunkeyed
      · next hne _ =>
          cases h
          exact absurd rfl hne

/-! ## Reading back -/

/-- `zidl_cdr_reader_init` accepts the payload. -/
def readable (z : ZidlCdr) (payload : List UInt8) : Bool :=
  (z.readerInit payload).isSome

/-- Any type support reads the value back. -/
theorem Encodes.reads (hz : z.Lawful) {value : members.Value} {payload : List UInt8}
    (h : Encodes z members value payload) (support : TypeSupport z language members) :
    readable z payload = true ∧ ∀ old, (support.deserialize payload old).1 = true ∧
      language.value members (support.deserialize payload old).2 = value := by
  obtain ⟨w, w', hw, hbuf, hserialize, rfl⟩ := h
  cases language with
  | cpp =>
      obtain ⟨r, hinit, hread⟩ :=
        Codec.Cpp.deserialize_of_serialize hz support.runtime members value hw hbuf hserialize
      refine ⟨Option.isSome_iff_exists.mpr ⟨r, hinit⟩, fun old => ?_⟩
      obtain ⟨r', hold, -⟩ := hread old
      have heq := support.deserialize_eq (z.buf w') r old hinit
      have hcode : Language.cpp.deserialize z members support.runtime old r = some (value, r') :=
        hold
      rw [hcode] at heq
      rw [heq]
      exact ⟨rfl, rfl⟩
  | c =>
      let fresh (type : Codec.ElementType) : type.Value :=
        type.abstract (support.runtime.fresh type)
      obtain ⟨r, hinit, hread⟩ :=
        Codec.Cpp.deserialize_of_serialize hz fresh members value hw hbuf hserialize
      refine ⟨Option.isSome_iff_exists.mpr ⟨r, hinit⟩, fun old => ?_⟩
      obtain ⟨r', hold, -⟩ := hread (members.abstract old)
      rw [← Codec.c_deserialize support.runtime fresh members old (members.abstract old) r] at hold
      obtain ⟨⟨new, r''⟩, hcode, hnew⟩ := Option.map_eq_some_iff.mp hold
      have heq := support.deserialize_eq (z.buf w') r old hinit
      have hlanguage : Language.c.deserialize z members support.runtime old r = some (new, r'') :=
        hcode
      rw [hlanguage] at heq
      rw [heq]
      exact ⟨rfl, congrArg Prod.fst hnew⟩

end

/-! ## A message of one octet -/

/-- A shape of zeros in C. -/
def zeroShape {α : Type} (x : α) : (shape : Codec.Shape) → shape.CValue α
  | .one => x
  | .array size _ => ⟨List.replicate size x, List.length_replicate⟩
  | .sequence _ => .ofList []

mutual

def zeroElement : (type : Codec.ElementType) → type.CValue
  | .basic type => type.primitive.ofBits 0
  | .string _ => (.ofList [] : Codec.CSequence UInt8)
  | .wstring _ => (.ofList [] : Codec.CSequence UInt16)
  | .namespaced members => zeroMembers members

def zeroMembers : (members : Members) → members.CValue
  | .last _ _ shape type => zeroShape (zeroElement type) shape
  | .cons _ _ shape type rest => (zeroShape (zeroElement type) shape, zeroMembers rest)

end

/-- The type supports of a message of one octet. -/
def octetSupports (language : Language) :
    PublisherCallbacks Codec.xcdr1 language octetRecord :=
  let runtime : language.Runtime :=
    match language with
    | .c => .ofFresh zeroElement
    | .cpp => Codec.ElementType.zero
  let callbacks : Callbacks (language.Message octetRecord) :=
    { hasKey := false
      getSerializedSize := fun _ => 5
      serialize := fun _ _ => (false, [])
      deserialize := fun _ message => (false, message) }
  .ofCode (.ofCode runtime callbacks) (fun _ => Codec.emptyWriter) (fun _ => rfl) fun _ => rfl

end RmwZzdds.DataPlane.Publishing
