import Mathlib.Data.List.Forall2
import RmwZzdds.Codec.FilterField
import RmwZzdds.Library.PrefixCode

/-!
# Key hashes

The hash of a message's key is computed from the members with a `key`
annotation, which are written like any others.  Of a structure among them that
means all of its members, also where only some of these are keys themselves.
What is hashed tells the values of the annotated members exactly
(`keyBytes_eq_iff`), which is more than the key where such structures are
nested.
-/

namespace RmwZzdds.Codec

open Xcdr1 ByteStream

/-! ## What is hashed -/

variable (z : ZidlCdr)

/-- What `compute_key_hash_` hands to `zidl_cdr_compute_key_hash`. -/
def Cpp.keyBytes (members : Members) (message : members.Value) : Option (List UInt8) :=
  z.writerInit.bind fun w =>
    (Cpp.serializeMembers z members true message (z.writerSetBigEndian w)).map z.buf

/-- What `compute_key_hash_` hands to `zidl_cdr_compute_key_hash`. -/
def C.keyBytes (members : Members) (message : members.CValue) : Option (List UInt8) :=
  z.writerInit.bind fun w =>
    (C.serializeMembers z members true message (z.writerSetBigEndian w)).map z.buf

namespace Language

def keyBytes (members : Members) : (language : Language) → language.Message members →
    Option (List UInt8)
  | c => C.keyBytes z members
  | cpp => Cpp.keyBytes z members

/-- `compute_key_hash_` of a message. -/
def computeKeyHash (members : Members) : (language : Language) → language.Message members →
    Option (List UInt8)
  | c => C.computeKeyHash z members
  | cpp => Cpp.computeKeyHash z members

end Language

/-- Another hash function in the place of that of zidl_cdr. -/
def ZidlCdr.withHash (hash : List UInt8 → List UInt8) : ZidlCdr :=
  { z with computeKeyHash := hash }

/-! ## Keys -/

/-- `has_key`. -/
def Members.hasKey : Members → Bool
  | .last _ hasKey _ _ => hasKey
  | .cons _ hasKey _ _ rest => hasKey || rest.hasKey

def Shape.Agree {α : Type} (agree : α → α → Prop) :
    (shape : Shape) → shape.Value α → shape.Value α → Prop
  | .one, v, v' => agree v v'
  | .array _ _, v, v' => List.Forall₂ agree v.1 v'.1
  | .sequence _, v, v' => List.Forall₂ agree v v'

mutual

/-- Values that are the same as parts of a key.  A structure with keys of its own
counts by these only. -/
def ElementType.AgreeOnKey : (type : ElementType) → type.Value → type.Value → Prop
  | .basic _, v, v' => v = v'
  | .string _, v, v' => v = v'
  | .wstring _, v, v' => v = v'
  | .namespaced members, v, v' => if members.hasKey then members.AgreeOnKey v v' else v = v'

/-- Messages with the same key. -/
def Members.AgreeOnKey : (members : Members) → members.Value → members.Value → Prop
  | .last _ hasKey shape type, v, v' => hasKey = true → shape.Agree type.AgreeOnKey v v'
  | .cons _ hasKey shape type rest, (v, vs), (v', vs') =>
      (hasKey = true → shape.Agree type.AgreeOnKey v v') ∧ rest.AgreeOnKey vs vs'

end

/-- Messages whose annotated members are the same in all of their parts. -/
def Members.AgreeOnKeyMembers : (members : Members) → members.Value → members.Value → Prop
  | .last _ hasKey _ _, v, v' => hasKey = true → v = v'
  | .cons _ hasKey _ _ rest, (v, vs), (v', vs') =>
      (hasKey = true → v = v') ∧ rest.AgreeOnKeyMembers vs vs'

theorem Shape.Agree.refl {α : Type} {agree : α → α → Prop} (hagree : ∀ x, agree x x) :
    (shape : Shape) → (v : shape.Value α) → shape.Agree agree v v
  | .one, v => hagree v
  | .array _ _, _ => List.forall₂_same.mpr fun x _ => hagree x
  | .sequence _, _ => List.forall₂_same.mpr fun x _ => hagree x

mutual

theorem ElementType.AgreeOnKey.refl : (type : ElementType) → (v : type.Value) → type.AgreeOnKey v v
  | .basic _, _ => rfl
  | .string _, _ => rfl
  | .wstring _, _ => rfl
  | .namespaced members, v => by
      rw [ElementType.AgreeOnKey]
      split
      · exact Members.AgreeOnKey.refl members v
      · rfl

theorem Members.AgreeOnKey.refl : (members : Members) → (v : members.Value) →
    members.AgreeOnKey v v
  | .last _ _ shape type, v => fun _ =>
      Shape.Agree.refl (ElementType.AgreeOnKey.refl type) shape v
  | .cons _ _ shape type rest, (v, vs) =>
      ⟨fun _ => Shape.Agree.refl (ElementType.AgreeOnKey.refl type) shape v,
        Members.AgreeOnKey.refl rest vs⟩

end

/-- Messages with the same annotated members have the same key. -/
theorem Members.AgreeOnKeyMembers.agreeOnKey : (members : Members) → {v v' : members.Value} →
    members.AgreeOnKeyMembers v v' → members.AgreeOnKey v v'
  | .last _ _ shape type, v, v', h => fun hkey => by
      obtain rfl := h hkey
      exact Shape.Agree.refl (ElementType.AgreeOnKey.refl type) shape v
  | .cons _ _ shape type rest, (v, vs), (v', vs'), h => by
      refine ⟨fun hkey => ?_, agreeOnKey rest h.2⟩
      obtain rfl := h.1 hkey
      exact Shape.Agree.refl (ElementType.AgreeOnKey.refl type) shape v

/-! ## Values from bytes -/

variable {z}

theorem tells_shape (hz : z.Lawful) (hcode : z.PrefixFree) {α : Type} {p : α → Prop}
    {data : α → List Datum} (h : z.Tells p (· = ·) data) :
    (shape : Shape) → z.Tells (shape.Within p) (· = ·) (shape.data data)
  | .one => h
  | .array size pos => by
      rintro ⟨xs, hxs⟩ ⟨ys, hys⟩ w w1 w2 rest rest' hx hy hwrite hwrite' hbytes
      exact Subtype.ext (Tells.each hz.toLawful h (hxs.trans hys.symm) hx hy hwrite hwrite' hbytes)
  | .sequence maximumSize => by
      rintro xs ys w w1 w2 rest rest' ⟨hfits, hx⟩ ⟨hfits', hy⟩ hwrite hwrite' hbytes
      obtain ⟨wx, hwx, hwx'⟩ := Option.bind_eq_some_iff.mp hwrite
      obtain ⟨wy, hwy, hwy'⟩ := Option.bind_eq_some_iff.mp hwrite'
      have hchunks : ∀ {xs : List α} {w' : z.Writer}, z.write (.prim .u32) (UInt32.ofNat xs.length) w =
          some w' → z.chunks w ((Shape.sequence maximumSize).data data xs) =
            z.chunk w (.prim .u32) (UInt32.ofNat xs.length) ++ z.chunks w' (xs.flatMap data) :=
        fun hw' => hz.chunks_cons hw'
      rw [hchunks hwx, hchunks hwy, List.append_assoc, List.append_assoc] at hbytes
      have hsize := hcode hwx hwy hbytes
      have hlength : xs.length = ys.length := by
        rw [← toNat_size hfits.1, ← toNat_size hfits'.1, hsize]
      rw [hsize] at hwx hbytes
      obtain rfl := Option.some.inj (hwx.symm.trans hwy)
      exact Tells.each hz.toLawful h hlength hx hy hwx' hwy' (List.append_cancel_left hbytes)

mutual

/-- The bytes of a value tell the value. -/
theorem tells_value (hz : z.Lawful) (hcode : z.PrefixFree) :
    (type : ElementType) → z.Tells type.Within (· = ·) type.data
  | .basic type => Tells.one hcode (.prim type.primitive)
  | .string _ => Tells.one hcode .string
  | .wstring _ => Tells.one hcode .wstring
  | .namespaced members => tells_members hz hcode members

theorem tells_members (hz : z.Lawful) (hcode : z.PrefixFree) :
    (members : Members) → z.Tells members.Within (· = ·) members.data
  | .last _ _ shape type => tells_shape hz hcode (tells_value hz hcode type) shape
  | .cons _ _ shape type rest => by
      have happend := Tells.append hz.toLawful
        (tells_shape hz hcode (tells_value hz hcode type) shape) (tells_members hz hcode rest)
        fun _ _ => congrArg _
      intro v v' w w1 w2 bytes bytes' hv hv' hwrite hwrite' hbytes
      have hboth := happend hv hv' hwrite hwrite' hbytes
      exact Prod.ext hboth.1 hboth.2

end

/-! ## Key members -/

/-- What the annotated members consist of. -/
def Members.keyData : (members : Members) → members.Value → List Datum
  | .last _ hasKey shape type, v => if hasKey then shape.data type.data v else []
  | .cons _ hasKey shape type rest, (v, vs) =>
      (if hasKey then shape.data type.data v else []) ++ rest.keyData vs

/-- The sizes in the annotated members are within their bounds. -/
def Members.KeyWithin : (members : Members) → members.Value → Prop
  | .last _ hasKey shape type, v => hasKey = true → shape.Within type.Within v
  | .cons _ hasKey shape type rest, (v, vs) =>
      (hasKey = true → shape.Within type.Within v) ∧ rest.KeyWithin vs

theorem writes_keyMember (hasKey : Bool) (shape : Shape) (type : ElementType)
    (v : shape.Value type.Value) :
    z.Writes (fun w => if true && !hasKey then some w
        else Cpp.writeShape z (Cpp.writeValue z type) shape v w)
      (hasKey = true → shape.Within type.Within v)
      (if hasKey then shape.data type.data v else []) := by
  cases hasKey with
  | true =>
      refine (Cpp.writes_writeShape (Cpp.writes_writeValue type) shape v).congr ?_ fun _ => rfl
      exact ⟨fun h _ => h, fun h => h rfl⟩
  | false =>
      intro w w'
      simp [writeAll]

/-- The annotated members are written one after the other. -/
theorem writes_keys : (members : Members) → (v : members.Value) →
    z.Writes (Cpp.serializeMembers z members true v) (members.KeyWithin v) (members.keyData v)
  | .last _ hasKey shape type, v => writes_keyMember hasKey shape type v
  | .cons _ hasKey shape type rest, (v, vs) =>
      (writes_keyMember hasKey shape type v).bind (writes_keys rest vs)

theorem tells_keyMember (hz : z.Lawful) (hcode : z.PrefixFree) (hasKey : Bool) (shape : Shape)
    (type : ElementType) :
    z.Tells (fun v : shape.Value type.Value => hasKey = true → shape.Within type.Within v)
      (fun v v' => hasKey = true → v = v') fun v => if hasKey then shape.data type.data v else [] := by
  cases hasKey with
  | true =>
      intro v v' w w1 w2 rest rest' hv hv' hwrite hwrite' hbytes _
      exact tells_shape hz hcode (tells_value hz hcode type) shape (hv rfl) (hv' rfl) hwrite hwrite'
        hbytes
  | false => exact Tells.nil fun _ _ h => nomatch h

/-- The bytes of the annotated members tell them. -/
theorem tells_keys (hz : z.Lawful) (hcode : z.PrefixFree) :
    (members : Members) → z.Tells members.KeyWithin members.AgreeOnKeyMembers members.keyData
  | .last _ hasKey shape type => tells_keyMember hz hcode hasKey shape type
  | .cons _ hasKey shape type rest => by
      refine Tells.append hz.toLawful (tells_keyMember hz hcode hasKey shape type)
        (tells_keys hz hcode rest) fun v v' h => ?_
      cases hasKey with
      | true => rw [h rfl]
      | false => rfl

theorem Members.AgreeOnKeyMembers.keyData_eq : (members : Members) → {v v' : members.Value} →
    members.AgreeOnKeyMembers v v' → members.keyData v = members.keyData v'
  | .last _ hasKey _ _, _, _, h => by
      cases hasKey with
      | true => rw [h rfl]
      | false => rfl
  | .cons _ hasKey shape type rest, (v, vs), (v', vs'), h => by
      have hrest := keyData_eq rest h.2
      cases hasKey with
      | true =>
          obtain rfl := h.1 rfl
          exact congrArg (shape.data type.data v ++ ·) hrest
      | false => exact hrest

/-- What is hashed is the same just if the annotated members are. -/
theorem cpp_keyBytes_eq_iff (hz : z.Lawful) (hcode : z.PrefixFree) {members : Members}
    {v v' : members.Value} {bytes bytes' : List UInt8}
    (h : Cpp.keyBytes z members v = some bytes) (h' : Cpp.keyBytes z members v' = some bytes') :
    bytes = bytes' ↔ members.AgreeOnKeyMembers v v' := by
  obtain ⟨w, hw, hbytes⟩ := Option.bind_eq_some_iff.mp h
  obtain ⟨w', hw', hbytes'⟩ := Option.bind_eq_some_iff.mp h'
  obtain rfl := Option.some.inj (hw.symm.trans hw')
  obtain ⟨w1, hwrite, rfl⟩ := Option.map_eq_some_iff.mp hbytes
  obtain ⟨w2, hwrite', rfl⟩ := Option.map_eq_some_iff.mp hbytes'
  obtain ⟨hwithin, hdata⟩ := (writes_keys members v _ _).mp hwrite
  obtain ⟨hwithin', hdata'⟩ := (writes_keys members v' _ _).mp hwrite'
  constructor
  · intro hsame
    rw [hz.writeAll_buf hdata, hz.writeAll_buf hdata'] at hsame
    exact tells_keys hz hcode members hwithin hwithin' hdata hdata'
      (congrArg (· ++ []) (List.append_cancel_left hsame))
  · intro hagree
    rw [hagree.keyData_eq members, hdata'] at hdata
    rw [Option.some.inj hdata]

theorem c_keyBytes (members : Members) (message : members.CValue) :
    C.keyBytes z members message = Cpp.keyBytes z members (members.abstract message) := by
  simp only [C.keyBytes, Cpp.keyBytes, c_serializeMembers]

theorem keyBytes_eq_iff (hz : z.Lawful) (hcode : z.PrefixFree) {members : Members}
    {language : Language} {message message' : language.Message members}
    {bytes bytes' : List UInt8} (h : language.keyBytes z members message = some bytes)
    (h' : language.keyBytes z members message' = some bytes') :
    bytes = bytes' ↔
      members.AgreeOnKeyMembers (language.value members message)
        (language.value members message') := by
  cases language with
  | c =>
      exact cpp_keyBytes_eq_iff hz hcode ((c_keyBytes members message).symm.trans h)
        ((c_keyBytes members message').symm.trans h')
  | cpp => exact cpp_keyBytes_eq_iff hz hcode h h'

/-- The hash is that of what is handed over. -/
theorem computeKeyHash_eq (z : ZidlCdr) (members : Members) :
    (language : Language) → (message : language.Message members) →
      language.computeKeyHash z members message =
        (language.keyBytes z members message).map z.computeKeyHash
  | .c, message => by
      simp only [Language.computeKeyHash, Language.keyBytes, C.computeKeyHash, C.keyBytes,
        Option.map_bind, Function.comp_def, Option.map_map]
  | .cpp, message => by
      simp only [Language.computeKeyHash, Language.keyBytes, Cpp.computeKeyHash, Cpp.keyBytes,
        Option.map_bind, Function.comp_def, Option.map_map]

theorem cpp_keyBytes_withHash (hash : List UInt8 → List UInt8) (members : Members)
    (message : members.Value) :
    Cpp.keyBytes (z.withHash hash) members message = Cpp.keyBytes z members message := by
  have hwrites : ∀ w : z.Writer, Cpp.serializeMembers (z.withHash hash) members true message w =
      Cpp.serializeMembers z members true message w := fun w => Option.ext fun w' =>
    (writes_keys (z := z.withHash hash) members message w w').trans
      (writes_keys members message w w').symm
  exact congrArg (z.writerInit.bind ·) (funext fun w =>
    congrArg (Option.map z.buf) (hwrites (z.writerSetBigEndian w)))

/-- Another hash function is given the same bytes. -/
theorem keyBytes_withHash (hash : List UInt8 → List UInt8) (members : Members)
    (language : Language) (message : language.Message members) :
    language.keyBytes (z.withHash hash) members message =
      language.keyBytes z members message := by
  cases language with
  | c =>
      exact (c_keyBytes members message).trans ((cpp_keyBytes_withHash hash members _).trans
        (c_keyBytes members message).symm)
  | cpp => exact cpp_keyBytes_withHash hash members message

theorem computeKeyHash_withHash (hash : List UInt8 → List UInt8) {members : Members}
    {language : Language} {message : language.Message members} {bytes : List UInt8}
    (h : language.keyBytes z members message = some bytes) :
    language.computeKeyHash (z.withHash hash) members message = some (hash bytes) := by
  rw [computeKeyHash_eq, keyBytes_withHash, h]
  rfl

/-- The hash is a function of the key, and what is hashed tells keys apart, just for
messages of one key that agree on all parts of their annotated members. -/
theorem key_hash_of_key (hz : z.Lawful) (hcode : z.PrefixFree) (members : Members)
    (language : Language) (message message' : language.Message members)
    (bytes bytes' : List UInt8) (h : language.keyBytes z members message = some bytes)
    (h' : language.keyBytes z members message' = some bytes') :
    ((members.AgreeOnKey (language.value members message) (language.value members message') →
        ∀ hash, language.computeKeyHash (z.withHash hash) members message =
          language.computeKeyHash (z.withHash hash) members message') ∧
      (¬ members.AgreeOnKey (language.value members message) (language.value members message') →
        bytes ≠ bytes')) ↔
    (members.AgreeOnKey (language.value members message) (language.value members message') →
      members.AgreeOnKeyMembers (language.value members message)
        (language.value members message')) := by
  have hsame := keyBytes_eq_iff hz hcode h h'
  have hhash : (∀ hash, language.computeKeyHash (z.withHash hash) members message =
      language.computeKeyHash (z.withHash hash) members message') ↔ bytes = bytes' := by
    simp only [computeKeyHash_withHash _ h, computeKeyHash_withHash _ h', Option.some.injEq]
    exact ⟨fun hall => hall id, fun heq hash => congrArg hash heq⟩
  rw [hhash, hsame]
  refine and_iff_left ?_
  intro hkey heq
  exact hkey ((hsame.mp heq).agreeOnKey members)

/-! ## A nested key -/

/-- A structure with a key and another member. -/
def tagRecord : Members :=
  .cons "id" true .one (.basic .int32) <|
  .last "weight" false .one (.basic .int32)

/-- A message whose key is such a structure. -/
def taggedRecord : Members :=
  .cons "tag" true .one (.namespaced tagRecord) <|
  .last "count" false .one (.basic .int32)

def taggedMessage (id weight count : Int32) : taggedRecord.Value :=
  (((id, weight) : Int32 × Int32), count)

theorem xcdr1_prefixFree : xcdr1.PrefixFree := by
  intro k v v' w w1 w2 rest rest' hwrite hwrite' hbytes
  have hdecode := decode_encode w.order w.offset k v (xcdr1_write_eq_some hwrite).1 rest
  have hdecode' := decode_encode w.order w.offset k v' (xcdr1_write_eq_some hwrite').1 rest'
  have hsame : encode w.order w.offset k v ++ rest = encode w.order w.offset k v' ++ rest' := hbytes
  rw [hsame, hdecode'] at hdecode
  exact (Prod.mk.inj (Option.some.inj hdecode)).1.symm

/-- Two messages with one key and different hashes. -/
theorem tagged_key_hash_differs :
    ¬ ∀ message message' : taggedRecord.Value, taggedRecord.AgreeOnKey message message' →
      Cpp.computeKeyHash xcdr1 taggedRecord message =
        Cpp.computeKeyHash xcdr1 taggedRecord message' := by
  intro h
  have hagree : taggedRecord.AgreeOnKey (taggedMessage 1 2 0) (taggedMessage 1 3 0) :=
    ⟨fun _ => ⟨fun _ => rfl, fun hkey => nomatch hkey⟩, fun hkey => nomatch hkey⟩
  have hsame := h _ _ hagree
  revert hsame
  decide +kernel

/-- Messages with the same tag have the same hash. -/
theorem tagged_key_hash_same :
    taggedRecord.AgreeOnKey (taggedMessage 1 2 0) (taggedMessage 1 2 5) ∧
      ∀ hash, Cpp.computeKeyHash (xcdr1.withHash hash) taggedRecord (taggedMessage 1 2 0) =
        Cpp.computeKeyHash (xcdr1.withHash hash) taggedRecord (taggedMessage 1 2 5) := by
  have hbytes : Cpp.keyBytes xcdr1 taggedRecord (taggedMessage 1 2 0) =
      some [0, 0, 0, 1, 0, 0, 0, 2] := by decide +kernel
  have hbytes' : Cpp.keyBytes xcdr1 taggedRecord (taggedMessage 1 2 5) =
      some [0, 0, 0, 1, 0, 0, 0, 2] := by decide +kernel
  have hkey : taggedRecord.AgreeOnKey (taggedMessage 1 2 0) (taggedMessage 1 2 5) :=
    ⟨fun _ => ⟨fun _ => rfl, fun hkey => nomatch hkey⟩, fun hkey => nomatch hkey⟩
  have hmembers : taggedRecord.AgreeOnKeyMembers (taggedMessage 1 2 0) (taggedMessage 1 2 5) :=
    ⟨fun _ => rfl, fun hkey => nomatch hkey⟩
  have hsame := ((key_hash_of_key xcdr1_lawful xcdr1_prefixFree taggedRecord .cpp _ _ _ _ hbytes
    hbytes').mpr fun _ => hmembers).1
  exact ⟨hkey, hsame hkey⟩

end RmwZzdds.Codec
