import Mathlib.Algebra.Group.Nat.Defs
import Mathlib.Data.List.Basic
import RmwZzdds.Return

/-!
# Serialized messages

`rmw_serialize` and `rmw_deserialize` move a ROS message into and out of a
serialized message with the callbacks of its type support.  The callbacks,
`rcutils`, which resizes the buffer, and the check of a payload's head by
`zidl_cdr_reader_init` are parameters.
-/

namespace RmwZzdds

/-- The callbacks of a generated message type support.  `serialize` writes into
a fixed writer of the given capacity and returns its success and the bytes
written.  `deserialize` returns its success and the message afterwards. -/
structure Callbacks (M : Type*) where
  hasKey : Bool
  getSerializedSize : M → UInt64
  serialize : M → Nat → Bool × List UInt8
  deserialize : List UInt8 → M → Bool × M

/-- `rmw_serialized_message_t`.  The memory is `none` for a null buffer. -/
structure SerializedMessage where
  buffer : Option (List UInt8)
  bufferLength : Nat
  bufferCapacity : Nat
  allocatorValid : Bool
deriving DecidableEq

namespace SerializedMessage

/-- The bytes of the message. -/
def content (m : SerializedMessage) : List UInt8 := (m.buffer.getD []).take m.bufferLength

/-- A message that `rmw_serialized_message_init` has prepared with no memory. -/
def empty : SerializedMessage where
  buffer := none
  bufferLength := 0
  bufferCapacity := 0
  allocatorValid := true

/-- A message over the bytes of another buffer. -/
def view (bytes : List UInt8) : SerializedMessage where
  buffer := some bytes
  bufferLength := bytes.length
  bufferCapacity := bytes.length
  allocatorValid := true

/-- `valid_serialized_message`. -/
def valid (m : SerializedMessage) : Bool :=
  m.allocatorValid && m.bufferLength ≤ m.bufferCapacity &&
    (m.bufferCapacity = 0 || m.buffer.isSome)

@[simp] theorem content_view (bytes : List UInt8) : (view bytes).content = bytes :=
  List.take_length ..

@[simp] theorem valid_view (bytes : List UInt8) : (view bytes).valid = true := by
  simp [valid, view]

end SerializedMessage

/-- The results of `rcutils_uint8_array_resize`. -/
inductive RcutilsRet where
  | ok
  | badAlloc
  | invalidArgument
deriving DecidableEq

/-- The memory is released. -/
def SerializedMessage.released (m : SerializedMessage) : SerializedMessage := { m with
  buffer := none
  bufferLength := 0
  bufferCapacity := 0 }

/-- What the code uses of `rcutils`, as its documentation says.  `memory` is what the
allocator returns. -/
class Rcutils where
  /-- `rcutils_uint8_array_resize`. -/
  uint8ArrayResize (m : SerializedMessage) (newSize : Nat) (memory : Option (List UInt8)) :
    RcutilsRet × SerializedMessage
  /-- A message that has to grow gets the memory, or it is released. -/
  uint8ArrayResize_of_lt {m : SerializedMessage} {newSize : Nat} (h : m.bufferCapacity < newSize)
    (memory : Option (List UInt8)) : uint8ArrayResize m newSize memory =
      match memory with
      | none => (.badAlloc, m.released)
      | some memory =>
          (.ok, { m with
            buffer := some memory
            bufferLength := min m.bufferLength newSize
            bufferCapacity := newSize })

/-- A message that need not grow is resized all the same, but never to nothing. -/
@[reducible] def Rcutils.documented : Rcutils where
  uint8ArrayResize m newSize memory :=
    if newSize = 0 then (.invalidArgument, m)
    else if newSize = m.bufferCapacity then (.ok, m)
    else
      match memory with
      | none => (.badAlloc, m.released)
      | some memory =>
          (.ok, { m with
            buffer := some memory
            bufferLength := min m.bufferLength newSize
            bufferCapacity := newSize })
  uint8ArrayResize_of_lt {m newSize} h memory := by
    rw [if_neg (by omega), if_neg (by omega)]

variable {M : Type*}

/-- The part of `rmw_serialize` after the buffer has its size. -/
def serializeInto (callbacks : Callbacks M) (message : M) (requiredSize previousLength : Nat)
    (m : SerializedMessage) : Ret × SerializedMessage :=
  match callbacks.serialize message m.bufferCapacity with
  | (success, written) =>
      let buffer := m.buffer.map fun memory => written ++ memory.drop written.length
      if !success || written.length ≠ requiredSize then
        (.error, { m with buffer := buffer, bufferLength := previousLength })
      else (.ok, { m with buffer := buffer, bufferLength := written.length })

/-- `callbacks` is what `resolve_message_type_support` returns, and `memory`
what the allocator returns if the buffer has to grow. -/
def rmwSerialize [Rcutils] (message : Option M) (callbacks : Option (Callbacks M))
    (m : SerializedMessage) (memory : Option (List UInt8)) : Ret × SerializedMessage :=
  match message with
  | none => (.invalidArgument, m)
  | some message =>
      if !m.valid then (.invalidArgument, m)
      else
        match callbacks with
        | none => (.error, m)
        | some callbacks =>
            let requiredSize := (callbacks.getSerializedSize message).toNat
            if requiredSize = 2 ^ 64 - 1 || requiredSize < 4 then (.error, m)
            else if m.bufferCapacity < requiredSize then
              match Rcutils.uint8ArrayResize m requiredSize memory with
              | (.ok, resized) => serializeInto callbacks message requiredSize m.bufferLength resized
              | (.badAlloc, resized) =>
                  (.badAlloc, { resized with bufferLength := m.bufferLength })
              | (_, resized) => (.error, { resized with bufferLength := m.bufferLength })
            else serializeInto callbacks message requiredSize m.bufferLength m

/-- `readerInit` is the success of `zidl_cdr_reader_init`.  The message that is
returned is the target afterwards. -/
def rmwDeserialize (readerInit : List UInt8 → Bool) (m : SerializedMessage)
    (callbacks : Option (Callbacks M)) (message : Option M) : Ret × Option M :=
  match message with
  | none => (.invalidArgument, none)
  | some message =>
      if !m.valid || m.bufferLength < 4 then (.invalidArgument, some message)
      else
        match callbacks with
        | none => (.error, some message)
        | some callbacks =>
            if readerInit m.content then
              let (success, target) := callbacks.deserialize m.content message
              (if success then .ok else .error, some target)
            else (.error, some message)

/-! ## What success means -/

/-- The type support writes these bytes for the message, into a buffer of just
their number. -/
def Callbacks.Encodes (callbacks : Callbacks M) (message : M) (bytes : List UInt8) : Prop :=
  callbacks.serialize message bytes.length = (true, bytes) ∧ 4 ≤ bytes.length

/-- A payload that decodes to `new` in a message that was `old`. -/
def Callbacks.Decodes (callbacks : Callbacks M) (readerInit : List UInt8 → Bool)
    (bytes : List UInt8) (old new : M) : Prop :=
  readerInit bytes = true ∧ callbacks.deserialize bytes old = (true, new)

/-- A successful write leaves what the type support wrote, in the size asked
for. -/
theorem serializeInto_ok {callbacks : Callbacks M} {message : M} {requiredSize previous : Nat}
    {m m' : SerializedMessage} (hmem : m.buffer ≠ none)
    (h : serializeInto callbacks message requiredSize previous m = (.ok, m')) :
    callbacks.serialize message m.bufferCapacity = (true, m'.content) ∧
      m'.content.length = requiredSize := by
  obtain ⟨memory, hmemory⟩ := Option.ne_none_iff_exists'.mp hmem
  rcases hresult : callbacks.serialize message m.bufferCapacity with ⟨success, written⟩
  simp only [serializeInto, hresult, hmemory, Option.map_some] at h
  split at h
  · cases h
  next hok =>
    simp only [Bool.or_eq_true, Bool.not_eq_true', not_or, Bool.not_eq_false, decide_eq_true_eq,
      not_not] at hok
    obtain ⟨rfl, hlen⟩ := hok
    cases h
    simp [SerializedMessage.content, hlen]

/-- Serialization into a message without memory leaves an encoding in it. -/
theorem rmwSerialize_empty [Rcutils] {message : M} {callbacks : Callbacks M} {m : SerializedMessage}
    {memory : Option (List UInt8)}
    (h : rmwSerialize (some message) (some callbacks) .empty memory = (.ok, m)) :
    callbacks.Encodes message m.content := by
  have hvalid : SerializedMessage.empty.valid = true := rfl
  simp only [rmwSerialize, hvalid, Bool.not_true, Bool.false_eq_true, if_false] at h
  split at h
  · cases h
  next hsize =>
    simp only [Bool.or_eq_true, decide_eq_true_eq, not_or, Nat.not_lt] at hsize
    have hgrow : SerializedMessage.empty.bufferCapacity <
        (callbacks.getSerializedSize message).toNat := by
      show 0 < _
      omega
    rw [if_pos hgrow, Rcutils.uint8ArrayResize_of_lt hgrow] at h
    cases memory with
    | none => cases h
    | some memory =>
        obtain ⟨hwritten, hlen⟩ := serializeInto_ok (by simp) h
        rw [← hlen] at hwritten hsize
        exact ⟨hwritten, hsize.2⟩

/-- Deserialization succeeds on a payload that decodes, and on no other. -/
theorem rmwDeserialize_view {readerInit : List UInt8 → Bool} {bytes : List UInt8}
    {callbacks : Callbacks M} {old : M} {new : Option M}
    (h : rmwDeserialize readerInit (.view bytes) (some callbacks) (some old) = (.ok, new)) :
    ∃ target, new = some target ∧ callbacks.Decodes readerInit bytes old target := by
  simp only [rmwDeserialize, SerializedMessage.valid_view, SerializedMessage.content_view] at h
  split at h
  · cases h
  · split at h
    next hread =>
      simp only [Prod.mk.injEq, ite_eq_left_iff, reduceCtorEq, imp_false] at h
      obtain ⟨hok, rfl⟩ := h
      exact ⟨_, rfl, hread, Prod.ext (by simpa using hok) rfl⟩
    · cases h

/-! ## What every path leaves -/

/-- `rmw_serialize` leaves a valid serialized message, with the type support's
output in it if it succeeds. -/
def LeavesValid [Rcutils] (message : Option M) (callbacks : Option (Callbacks M))
    (m : SerializedMessage) (memory : Option (List UInt8)) : Prop :=
  (rmwSerialize message callbacks m memory).2.valid = true ∧
    ((rmwSerialize message callbacks m memory).1 = .ok → ∃ sent ∈ message, ∃ type ∈ callbacks,
      type.serialize sent (rmwSerialize message callbacks m memory).2.bufferCapacity =
        (true, (rmwSerialize message callbacks m memory).2.content))

/-- The buffer has to grow and no memory is left for it. -/
def FailsToGrow (message : Option M) (callbacks : Option (Callbacks M)) (m : SerializedMessage)
    (memory : Option (List UInt8)) : Prop :=
  memory = none ∧ ∃ sent ∈ message, ∃ type ∈ callbacks,
    4 ≤ (type.getSerializedSize sent).toNat ∧
      (type.getSerializedSize sent).toNat ≠ 2 ^ 64 - 1 ∧
      m.bufferCapacity < (type.getSerializedSize sent).toNat

theorem SerializedMessage.valid_iff (m : SerializedMessage) : m.valid = true ↔
    m.allocatorValid = true ∧ m.bufferLength ≤ m.bufferCapacity ∧
      (m.bufferCapacity ≠ 0 → m.buffer.isSome = true) := by
  simp only [valid, Bool.and_eq_true, decide_eq_true_eq, Bool.or_eq_true, and_assoc,
    ← or_iff_not_imp_left]

/-- Writing into a buffer of the size asked for, or of more. -/
theorem serializeInto_valid {callbacks : Callbacks M} {message : M} {requiredSize previous : Nat}
    {m : SerializedMessage} (hm : m.valid = true) (hsize : requiredSize ≤ m.bufferCapacity)
    (hprevious : previous ≤ m.bufferCapacity) :
    (serializeInto callbacks message requiredSize previous m).2.valid = true := by
  rw [SerializedMessage.valid_iff] at hm ⊢
  obtain ⟨hallocator, -, hbuffer⟩ := hm
  rcases hresult : callbacks.serialize message m.bufferCapacity with ⟨success, written⟩
  simp only [serializeInto, hresult]
  split
  · exact ⟨hallocator, hprevious, by simpa using hbuffer⟩
  next hok =>
    simp only [Bool.or_eq_true, decide_eq_true_eq, not_or, not_not] at hok
    exact ⟨hallocator, hok.2 ▸ hsize, by simpa using hbuffer⟩

theorem serializeInto_capacity (callbacks : Callbacks M) (message : M)
    (requiredSize previous : Nat) (m : SerializedMessage) :
    (serializeInto callbacks message requiredSize previous m).2.bufferCapacity =
      m.bufferCapacity := by
  rw [serializeInto]
  split
  split <;> rfl

/-- The last stage of `rmw_serialize`, on a buffer that is large enough. -/
theorem serializeInto_leaves (callbacks : Callbacks M) (message : M)
    {requiredSize previous : Nat} {m : SerializedMessage} (hm : m.valid = true)
    (hsize : requiredSize ≤ m.bufferCapacity) (hpositive : 0 < requiredSize)
    (hprevious : previous ≤ m.bufferCapacity) :
    (serializeInto callbacks message requiredSize previous m).2.valid = true ∧
      ((serializeInto callbacks message requiredSize previous m).1 = .ok →
        callbacks.serialize message
            (serializeInto callbacks message requiredSize previous m).2.bufferCapacity =
          (true, (serializeInto callbacks message requiredSize previous m).2.content)) := by
  refine ⟨serializeInto_valid hm hsize hprevious, fun hok => ?_⟩
  have hbuffer : m.buffer ≠ none := by
    have hsome := ((SerializedMessage.valid_iff m).mp hm).2.2 (by omega)
    exact Option.isSome_iff_ne_none.mp hsome
  rw [serializeInto_capacity]
  exact (serializeInto_ok hbuffer (Prod.ext hok rfl)).1

/-- `rmw_serialize` leaves a valid message just if the buffer need not grow, or
can, or was empty. -/
theorem rmwSerialize_leavesValid_iff [Rcutils] {m : SerializedMessage} (hm : m.valid = true)
    (message : Option M) (callbacks : Option (Callbacks M)) (memory : Option (List UInt8)) :
    LeavesValid message callbacks m memory ↔
      ¬ (FailsToGrow message callbacks m memory ∧ m.bufferLength ≠ 0) := by
  obtain ⟨hallocator, hlength, hbuffer⟩ := (SerializedMessage.valid_iff m).mp hm
  cases message with
  | none => simp [LeavesValid, FailsToGrow, rmwSerialize, hm]
  | some sent =>
    cases callbacks with
    | none => simp [LeavesValid, FailsToGrow, rmwSerialize, hm]
    | some type =>
      simp only [LeavesValid, FailsToGrow, rmwSerialize, hm, Bool.not_true, Bool.false_eq_true,
        if_false, Option.mem_def, Option.some.injEq, exists_eq_left']
      generalize (type.getSerializedSize sent).toNat = size
      by_cases hinvalid : size = 2 ^ 64 - 1 ∨ size < 4
      · rw [if_pos (by simpa using hinvalid)]
        have hsize : ¬ (4 ≤ size ∧ size ≠ 2 ^ 64 - 1 ∧ m.bufferCapacity < size) := by omega
        exact iff_of_true ⟨hm, nofun⟩ fun hfails => hsize hfails.1.2
      · have hsize : 4 ≤ size ∧ size ≠ 2 ^ 64 - 1 := by omega
        rw [if_neg (by simpa using hinvalid)]
        by_cases hgrow : m.bufferCapacity < size
        · rw [if_pos hgrow, Rcutils.uint8ArrayResize_of_lt hgrow]
          cases memory with
          | none =>
            simp only [SerializedMessage.valid_iff, SerializedMessage.released, hallocator,
              hsize.1, hsize.2, hgrow, ne_eq, not_false_eq_true, and_self, true_and, not_not]
            simp
          | some memory =>
            have hresized : ({ m with
                buffer := some memory
                bufferLength := min m.bufferLength size
                bufferCapacity := size } : SerializedMessage).valid = true :=
              (SerializedMessage.valid_iff _).mpr ⟨hallocator, Nat.min_le_right _ _, fun _ => rfl⟩
            have hleaves := serializeInto_leaves type sent hresized (Nat.le_refl size) (by omega)
              (Nat.le_trans hlength (Nat.le_of_lt hgrow))
            simpa using hleaves
        · rw [if_neg hgrow]
          have hleaves := serializeInto_leaves type sent hm
            (Nat.le_of_not_lt hgrow) (by omega) hlength
          simpa [hgrow] using hleaves

/-- Messages without fields. -/
def emptyCallbacks : Callbacks Unit where
  hasKey := false
  getSerializedSize _ := 4
  serialize _ capacity := if 4 ≤ capacity then (true, [0, 1, 0, 0]) else (false, [])
  deserialize _ old := (true, old)

attribute [local instance] Rcutils.documented

/-- A message over a buffer of two bytes that cannot grow is left invalid. -/
theorem rmwSerialize_not_leavesValid :
    ¬ ∀ (m : SerializedMessage), m.valid = true → ∀ (message : Option Unit)
      (callbacks : Option (Callbacks Unit)) (memory : Option (List UInt8)),
      LeavesValid message callbacks m memory := by
  intro h
  have hvalid := (h (.view [0, 1]) rfl (some ()) (some emptyCallbacks) none).1
  exact absurd hvalid (by decide)

theorem rmwSerialize_leavesValid_empty :
    LeavesValid (some ()) (some emptyCallbacks) .empty (some [9, 9, 9, 9]) ↔
      ¬ (FailsToGrow (some ()) (some emptyCallbacks) .empty (some [9, 9, 9, 9]) ∧
        SerializedMessage.empty.bufferLength ≠ 0) :=
  rmwSerialize_leavesValid_iff rfl (some ()) (some emptyCallbacks) (some [9, 9, 9, 9])

end RmwZzdds
