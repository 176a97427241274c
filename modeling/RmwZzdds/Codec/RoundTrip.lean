import RmwZzdds.Codec.Cpp

/-!
# Round trip of the generated code

By induction on the message type, the generated writes are those of the data of
the value, after checks that pass when the sizes are within their bounds, and
the generated reads find the value in the encoding of its data.  The check of a
sequence's size against the remaining bytes passes because every element has a
datum and every datum takes a byte.
-/

namespace RmwZzdds.Codec.Cpp

open Xcdr1 ByteStream

variable {z : ZidlCdr}

/-! ## Sizes -/

theorem fits_iff (maximumSize : Option Nat) (size : Nat) :
    (¬ size > uint32Max ∧ ¬ exceeds maximumSize size = true ∧ True) ↔
      Fits maximumSize size := by
  simp [Fits]

/-! ## Writing -/

theorem writes_writeString (maximumSize : Option Nat) (s : List UInt8) :
    z.Writes (writeString z maximumSize s) (Fits maximumSize s.length) [⟨.string, s⟩] := by
  refine (Writes.one (s := z.toByteStream) .string _).guard.guard.congr
    (fits_iff maximumSize s.length) fun hfits => ?_
  rw [toNat_size hfits.1, List.take_length]

theorem writes_writeWString (maximumSize : Option Nat) (s : List UInt16) :
    z.Writes (writeWString z maximumSize s) (Fits maximumSize s.length) [⟨.wstring, s⟩] := by
  refine (Writes.one (s := z.toByteStream) .wstring _).guard.guard.congr
    (fits_iff maximumSize s.length) fun hfits => ?_
  rw [toNat_size hfits.1, List.take_length]

theorem writes_writeShape {α : Type} {write : α → z.Writer → Option z.Writer} {p : α → Prop}
    {data : α → List Datum} (h : ∀ x, z.Writes (write x) (p x) (data x)) (shape : Shape)
    (v : shape.Value α) : z.Writes (writeShape z write shape v) (shape.Within p v)
      (shape.data data v) := by
  cases shape with
  | one => exact h v
  | array size pos => exact Writes.each h v.1
  | sequence maximumSize =>
      have hsize := Writes.one (s := z.toByteStream) (.prim .u32) (UInt32.ofNat v.length)
      refine (hsize.bind (Writes.each h v)).guard.guard.congr ?_ fun _ => rfl
      simp [Shape.Within, Fits, and_assoc]

mutual

theorem writes_writeValue : (type : ElementType) → (v : type.Value) →
    z.Writes (writeValue z type v) (type.Within v) (type.data v)
  | .basic type, v => Writes.one (s := z.toByteStream) (.prim type.primitive) v
  | .string maximumSize, s => writes_writeString maximumSize s
  | .wstring maximumSize, s => writes_writeWString maximumSize s
  | .namespaced members, v => writes_serializeMembers members v

theorem writes_serializeMembers : (members : Members) → (v : members.Value) →
    z.Writes (serializeMembers z members false v) (members.Within v) (members.data v)
  | .last _ _ shape type, v => writes_writeShape (writes_writeValue type) shape v
  | .cons _ _ shape type rest, (v, vs) =>
      (writes_writeShape (writes_writeValue type) shape v).bind (writes_serializeMembers rest vs)

end

/-! ## Reading -/

theorem readsBack_readString (hz : z.Lawful) {maximumSize : Option Nat} {s : List UInt8}
    (h : Fits maximumSize s.length) :
    z.ReadsBack (readString z maximumSize) [⟨.string, s⟩] s := by
  refine (ReadsBack.one hz.toLawful .string s).bind hz.toLawful (d := [⟨.string, s⟩]) ?_
  exact (ReadsBack.pure s).guard fun _ _ _ _ _ _ => by simp [h.2]

theorem readsBack_readWString (hz : z.Lawful) {maximumSize : Option Nat} {s : List UInt16}
    (h : Fits maximumSize s.length) :
    z.ReadsBack (readWString z maximumSize) [⟨.wstring, s⟩] s := by
  refine (ReadsBack.one hz.toLawful .wstring s).bind hz.toLawful (d := [⟨.wstring, s⟩]) ?_
  exact (ReadsBack.pure s).guard fun _ _ _ _ _ _ => by simp [h.2]

/-- A reader that stands before the elements of a sequence has at least as many
bytes left as there are elements. -/
theorem length_le_remaining (hz : z.Lawful) {α : Type} {data : α → List Datum}
    (hdata : ∀ x, data x ≠ []) {xs : List α} {w w' : z.Writer} {r : z.Reader}
    {rest : List UInt8} (hwrite : z.writeAll (xs.flatMap data) w = some w')
    (hr : z.Follows r w (z.chunks w (xs.flatMap data) ++ rest)) : xs.length ≤ z.remaining r := by
  calc xs.length ≤ (xs.flatMap data).length := length_le_flatMap_data hdata xs
    _ ≤ (z.chunks w (xs.flatMap data)).length := hz.length_le_chunks hwrite
    _ ≤ (z.chunks w (xs.flatMap data) ++ rest).length := by simp
    _ = z.remaining r := by rw [hz.remaining_eq, hr.unread]

theorem readsBack_readShape (hz : z.Lawful) {α : Type}
    {read : α → z.Reader → Option (α × z.Reader)} {p : α → Prop} {data : α → List Datum}
    (h : ∀ old x, p x → z.ReadsBack (read old) (data x) x) (hdata : ∀ x, data x ≠ [])
    (fresh : α) (shape : Shape) (old v : shape.Value α) (hv : shape.Within p v) :
    z.ReadsBack (readShape z read fresh shape old) (shape.data data v) v := by
  cases shape with
  | one => exact h old v hv
  | array size pos =>
      have heach := ReadsBack.each hz.toLawful (fun old x hx => h old x (hv x hx)) old.1
        (v.2.trans old.2.symm)
      let toArray (xs : { xs : List α // xs.length = old.1.length }) :
          { xs : List α // xs.length = size } := ⟨xs.1, xs.2.trans old.2⟩
      exact heach.map toArray
  | sequence maximumSize =>
      obtain ⟨⟨hmax, hbound⟩, hv⟩ := hv
      have hsize : (UInt32.ofNat v.length).toNat = v.length := toNat_size hmax
      have heach := ReadsBack.each hz.toLawful (fun old x hx => h old x (hv x hx))
        (resize fresh (UInt32.ofNat v.length).toNat old) (by rw [length_resize, hsize])
      have hlist := heach.map Subtype.val
      have hexceeds := hlist.guard (q := fun _ => exceeds maximumSize v.length = true)
        fun _ _ _ _ _ _ => by simp [hbound]
      have hremaining := hexceeds.guard (q := fun r => v.length > z.remaining r)
        fun _ _ _ _ hwrite hr => Nat.not_lt.mpr (length_le_remaining hz hdata hwrite hr)
      refine (ReadsBack.one hz.toLawful (.prim .u32) (UInt32.ofNat v.length)).bind hz.toLawful
        (d := [sizeDatum v.length]) ?_
      simp only [hsize]
      exact hremaining

mutual

theorem readsBack_readValue (hz : z.Lawful) (fresh : (type : ElementType) → type.Value) :
    (type : ElementType) → (old v : type.Value) → type.Within v →
      z.ReadsBack (readValue z fresh type old) (type.data v) v
  | .basic type, _, v, _ => ReadsBack.one hz.toLawful (.prim type.primitive) v
  | .string _, _, _, h => readsBack_readString hz h
  | .wstring _, _, _, h => readsBack_readWString hz h
  | .namespaced members, old, v, h => readsBack_deserializeMembers hz fresh members old v h

theorem readsBack_deserializeMembers (hz : z.Lawful)
    (fresh : (type : ElementType) → type.Value) :
    (members : Members) → (old v : members.Value) → members.Within v →
      z.ReadsBack (deserializeMembers z fresh members old) (members.data v) v
  | .last _ _ shape type, old, v, h =>
      readsBack_readShape hz (readsBack_readValue hz fresh type) type.data_ne_nil (fresh type)
        shape old v h
  | .cons _ _ shape type rest, (old, olds), (v, vs), h =>
      have hfirst := readsBack_readShape hz (readsBack_readValue hz fresh type) type.data_ne_nil
        (fresh type) shape old v h.1
      have hrest := readsBack_deserializeMembers hz fresh rest olds vs h.2
      hfirst.bind hz.toLawful (hrest.map fun vs => (v, vs))

end

/-! ## The type support -/

/-- Serialization succeeds just when the sizes are within their bounds and the
writer takes the data of the message. -/
theorem serialize_eq_some (members : Members) (message : members.Value) {w : z.Writer}
    (hw : z.writerXcdr1 w = true) (w' : z.Writer) :
    serialize z members message w = some w' ↔
      members.Within message ∧ z.writeMessage (members.data message) w = some w' := by
  have hwrites := writes_serializeMembers (z := z) members message
  simp only [serialize, hw, Bool.not_true, Bool.false_eq_true, if_false, ZidlCdr.writeMessage,
    Option.bind_eq_some_iff, hwrites _ w']
  constructor
  · rintro ⟨w1, hencap, hwithin, hdata⟩
    exact ⟨hwithin, w1, hencap, hdata⟩
  · rintro ⟨hwithin, w1, hencap, hdata⟩
    exact ⟨w1, hencap, hwithin, hdata⟩

/-- What serialization has written deserializes to the same message, into any
old one, and to the last byte. -/
theorem deserialize_of_serialize (hz : z.Lawful) (fresh : (type : ElementType) → type.Value)
    (members : Members) (message : members.Value) {w w' : z.Writer}
    (hw : z.writerXcdr1 w = true) (hbuf : z.buf w = [])
    (h : serialize z members message w = some w') :
    ∃ r, z.readerInit (z.buf w') = some r ∧ ∀ old, ∃ r',
      deserialize z fresh members old r = some (message, r') ∧ z.remaining r' = 0 := by
  obtain ⟨hwithin, hmessage⟩ := (serialize_eq_some members message hw w').mp h
  obtain ⟨w1, hencap, hdata⟩ := Option.bind_eq_some_iff.mp hmessage
  obtain ⟨r, hinit, hxcdr1, hfollows⟩ :=
    hz.encap_read hw hbuf hencap (z.chunks w1 (members.data message))
  rw [← hz.writeAll_buf hdata] at hinit
  refine ⟨r, hinit, fun old => ?_⟩
  rw [← List.append_nil (z.chunks w1 _)] at hfollows
  obtain ⟨r', hread, hr'⟩ :=
    readsBack_deserializeMembers hz fresh members old message hwithin w1 w' r [] hdata hfollows
  refine ⟨r', ?_, ?_⟩
  · rw [deserialize, hxcdr1]
    exact hread
  · rw [hz.remaining_eq, hr'.unread]
    rfl

/-- The generated serializer succeeds just when the sizes are within their
bounds and the writer does not fail, and the generated deserializer inverts
it. -/
theorem round_trip (hz : z.Lawful) (fresh : (type : ElementType) → type.Value)
    (members : Members) (message : members.Value) (w : z.Writer) (hw : z.writerXcdr1 w = true)
    (hbuf : z.buf w = []) :
    ((serialize z members message w).isSome ↔
      members.Within message ∧ (z.writeMessage (members.data message) w).isSome) ∧
    ∀ w', serialize z members message w = some w' →
      ∃ r, z.readerInit (z.buf w') = some r ∧ ∀ old, ∃ r',
        deserialize z fresh members old r = some (message, r') ∧ z.remaining r' = 0 := by
  constructor
  · simp only [Option.isSome_iff_exists, serialize_eq_some members message hw, exists_and_left]
  · intro w' h
    exact deserialize_of_serialize hz fresh members message hw hbuf h

end RmwZzdds.Codec.Cpp
