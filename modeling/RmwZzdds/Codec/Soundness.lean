import RmwZzdds.Codec.TypeSupport
import RmwZzdds.Codec.Xcdr1
import RmwZzdds.Library.Observed

/-!
# The generated code on any bytes

The generated reading code once more, with its reads and the sizings of its
sequences observed.  Without the log it is the code of `C` and `Cpp`.

Whatever the bytes are, every sequence is sized to at most the bytes left at
that point: the check comes before the sizing.  By induction on the message
type, a member takes more bytes than it has sequence elements, since an element
takes at least one byte for itself.
-/

namespace RmwZzdds.Codec

open Xcdr1 ByteStream

/-! ## What is relied on -/

/-- What the generated reads rely on, on whatever bytes: zidl_cdr stays inside
the payload, a read takes something, and the sizes of strings are returned in
32 bits. -/
structure ZidlCdr.ReadsInside (z : ZidlCdr) : Prop where
  remaining_eq : ∀ r, z.remaining r = (z.unread r).length
  init_suffix : ∀ {payload r}, z.readerInit payload = some r → z.unread r <:+ payload
  takes : z.Takes
  string_size : ∀ {r s r'}, z.read .string r = some (s, r') → List.length s ≤ uint32Max
  wstring_size : ∀ {r s r'}, z.read .wstring r = some (s, r') → List.length s ≤ uint32Max

/-! ## Sequence elements -/

def Shape.sequenceElements {α : Type} (inner : α → Nat) : (shape : Shape) → shape.Value α → Nat
  | .one, v => inner v
  | .array _ _, v => (v.1.map inner).sum
  | .sequence _, v => v.length + (v.map inner).sum

mutual

/-- The elements of all sequences in a value. -/
def ElementType.sequenceElements : (type : ElementType) → type.Value → Nat
  | .basic _, _ => 0
  | .string _, _ => 0
  | .wstring _, _ => 0
  | .namespaced members, v => members.sequenceElements v

def Members.sequenceElements : (members : Members) → members.Value → Nat
  | .last _ _ shape type, v => shape.sequenceElements type.sequenceElements v
  | .cons _ _ shape type rest, (v, vs) =>
      shape.sequenceElements type.sequenceElements v + rest.sequenceElements vs

end

/-! ## The C++ code -/

namespace Cpp

variable (z : ZidlCdr)

def observedString (maximumSize : Option Nat) (r : z.Reader) :
    Observed z.Event (List UInt8 × z.Reader) :=
  (z.observe .string r).bind fun (s, r) =>
    if exceeds maximumSize s.length then .fail else .pure (s, r)

def observedWString (maximumSize : Option Nat) (r : z.Reader) :
    Observed z.Event (List UInt16 × z.Reader) :=
  (z.observe .wstring r).bind fun (s, r) =>
    if exceeds maximumSize s.length then .fail else .pure (s, r)

/-- `readShape`, observed. -/
def observedShape {α : Type} (read : α → z.Reader → Observed z.Event (α × z.Reader)) (fresh : α) :
    (shape : Shape) → shape.Value α → z.Reader → Observed z.Event (shape.Value α × z.Reader)
  | .one, old, r => read old r
  | .array _ _, old, r =>
      (Observed.each read old.1 r).map fun (xs, r) => (⟨xs.1, Observed.length_eq old xs⟩, r)
  | .sequence maximumSize, old, r =>
      (z.observe (.prim .u32) r).bind fun (size, r) =>
        if size.toNat > z.remaining r then .fail
        else if exceeds maximumSize size.toNat then .fail
        else
          -- The call of `resize`.
          .after (.room size.toNat r) <|
            (Observed.each read (resize fresh size.toNat old) r).map fun (xs, r) => (xs.1, r)

variable (fresh : (type : ElementType) → type.Value)

mutual

def observedValue : (type : ElementType) → type.Value → z.Reader →
    Observed z.Event (type.Value × z.Reader)
  | .basic type, _, r => z.observe (.prim type.primitive) r
  | .string maximumSize, _, r => observedString z maximumSize r
  | .wstring maximumSize, _, r => observedWString z maximumSize r
  | .namespaced members, old, r => observedMembers members old r

/-- `deserializeMembers`, observed. -/
def observedMembers : (members : Members) → members.Value → z.Reader →
    Observed z.Event (members.Value × z.Reader)
  | .last _ _ shape type, old, r => observedShape z (observedValue type) (fresh type) shape old r
  | .cons _ _ shape type rest, (old, olds), r =>
      (observedShape z (observedValue type) (fresh type) shape old r).bind fun (v, r) =>
        (observedMembers rest olds r).map fun (vs, r) => ((v, vs), r)

end

/-- `deserialize`, observed. -/
def observedDeserialize (members : Members) (message : members.Value) (r : z.Reader) :
    Observed z.Event (members.Value × z.Reader) :=
  if !z.readerXcdr1 r then .fail else observedMembers z fresh members message r

end Cpp

/-! ## The C code -/

namespace C

variable (z : ZidlCdr)

variable (runtime : Runtime)

def observedString (maximumSize : Option Nat) (r : z.Reader) :
    Observed z.Event (CSequence UInt8 × z.Reader) :=
  (z.observe .string r).bind fun (s, r) =>
    if exceeds maximumSize s.length then .fail else .pure (runtime.stringAssignn s, r)

def observedWString (maximumSize : Option Nat) (r : z.Reader) :
    Observed z.Event (CSequence UInt16 × z.Reader) :=
  (z.observe .wstring r).bind fun (s, r) =>
    if exceeds maximumSize s.length then .fail else .pure (runtime.u16StringAssignn s, r)

/-- `readShape`, observed. -/
def observedShape {α : Type} (read : α → z.Reader → Observed z.Event (α × z.Reader)) (fresh : α) :
    (shape : Shape) → shape.CValue α → z.Reader → Observed z.Event (shape.CValue α × z.Reader)
  | .one, old, r => read old r
  | .array _ _, old, r =>
      (Observed.each read old.1 r).map fun (xs, r) => (⟨xs.1, Observed.length_eq old xs⟩, r)
  | .sequence maximumSize, _, r =>
      (z.observe (.prim .u32) r).bind fun (size, r) =>
        if size.toNat > z.remaining r then .fail
        else if exceeds maximumSize size.toNat then .fail
        else
          -- The call of the `__init` function.
          .after (.room size.toNat r) <|
            (Observed.each read (List.replicate size.toNat fresh) r).map fun (xs, r) =>
              (.ofList xs.1, r)

mutual

def observedValue : (type : ElementType) → type.CValue → z.Reader →
    Observed z.Event (type.CValue × z.Reader)
  | .basic type, _, r => z.observe (.prim type.primitive) r
  | .string maximumSize, _, r => observedString z runtime maximumSize r
  | .wstring maximumSize, _, r => observedWString z runtime maximumSize r
  | .namespaced members, old, r => observedMembers members old r

/-- `deserializeMembers`, observed. -/
def observedMembers : (members : Members) → members.CValue → z.Reader →
    Observed z.Event (members.CValue × z.Reader)
  | .last _ _ shape type, old, r =>
      observedShape z (observedValue type) (runtime.fresh type) shape old r
  | .cons _ _ shape type rest, (old, olds), r =>
      (observedShape z (observedValue type) (runtime.fresh type) shape old r).bind fun (v, r) =>
        (observedMembers rest olds r).map fun (vs, r) => ((v, vs), r)

end

/-- `deserialize`, observed. -/
def observedDeserialize (members : Members) (message : members.CValue) (r : z.Reader) :
    Observed z.Event (members.CValue × z.Reader) :=
  if !z.readerXcdr1 r then .fail else observedMembers z runtime members message r

end C

/-! ## Forgetting the log -/

variable {z : ZidlCdr}

namespace Cpp

theorem result_observedString (maximumSize : Option Nat) (r : z.Reader) :
    (observedString z maximumSize r).result = readString z maximumSize r := by
  simp [observedString, readString, observe]

theorem result_observedWString (maximumSize : Option Nat) (r : z.Reader) :
    (observedWString z maximumSize r).result = readWString z maximumSize r := by
  simp [observedWString, readWString, observe]

theorem result_observedShape {α : Type} {read : α → z.Reader → Observed z.Event (α × z.Reader)}
    {read' : α → z.Reader → Option (α × z.Reader)} (h : ∀ old r, (read old r).result = read' old r)
    (fresh : α) (shape : Shape) (old : shape.Value α) (r : z.Reader) :
    (observedShape z read fresh shape old r).result = readShape z read' fresh shape old r := by
  cases shape with
  | one => exact h old r
  | array size pos => simp [observedShape, readShape, Observed.result_each h]
  | sequence maximumSize => simp [observedShape, readShape, observe, Observed.result_each h]

variable (fresh : (type : ElementType) → type.Value)

mutual

theorem result_observedValue : (type : ElementType) → (old : type.Value) → (r : z.Reader) →
    (observedValue z fresh type old r).result = readValue z fresh type old r
  | .basic _, _, _ => rfl
  | .string maximumSize, _, r => result_observedString maximumSize r
  | .wstring maximumSize, _, r => result_observedWString maximumSize r
  | .namespaced members, old, r => result_observedMembers members old r

theorem result_observedMembers : (members : Members) → (old : members.Value) → (r : z.Reader) →
    (observedMembers z fresh members old r).result = deserializeMembers z fresh members old r
  | .last _ _ shape type, old, r =>
      result_observedShape (result_observedValue type) (fresh type) shape old r
  | .cons _ _ shape type rest, (old, olds), r => by
      rw [observedMembers, deserializeMembers, Observed.result_bind,
        result_observedShape (result_observedValue type)]
      exact congrArg _ (funext fun p => by rw [Observed.result_map, result_observedMembers rest])

end

theorem result_observedDeserialize (members : Members) (message : members.Value) (r : z.Reader) :
    (observedDeserialize z fresh members message r).result =
      deserialize z fresh members message r := by
  rw [observedDeserialize, deserialize, Observed.result_ite, Observed.result_fail,
    result_observedMembers]

end Cpp

namespace C

variable (runtime : Runtime)

theorem result_observedString (maximumSize : Option Nat) (r : z.Reader) :
    (observedString z runtime maximumSize r).result = readString z runtime maximumSize r := by
  simp [observedString, readString, observe]

theorem result_observedWString (maximumSize : Option Nat) (r : z.Reader) :
    (observedWString z runtime maximumSize r).result = readWString z runtime maximumSize r := by
  simp [observedWString, readWString, observe]

theorem result_observedShape {α : Type} {read : α → z.Reader → Observed z.Event (α × z.Reader)}
    {read' : α → z.Reader → Option (α × z.Reader)} (h : ∀ old r, (read old r).result = read' old r)
    (fresh : α) (shape : Shape) (old : shape.CValue α) (r : z.Reader) :
    (observedShape z read fresh shape old r).result = readShape z read' fresh shape old r := by
  cases shape with
  | one => exact h old r
  | array size pos => simp [observedShape, readShape, Observed.result_each h]
  | sequence maximumSize => simp [observedShape, readShape, observe, Observed.result_each h]

mutual

theorem result_observedValue : (type : ElementType) → (old : type.CValue) → (r : z.Reader) →
    (observedValue z runtime type old r).result = readValue z runtime type old r
  | .basic _, _, _ => rfl
  | .string maximumSize, _, r => result_observedString runtime maximumSize r
  | .wstring maximumSize, _, r => result_observedWString runtime maximumSize r
  | .namespaced members, old, r => result_observedMembers members old r

theorem result_observedMembers : (members : Members) → (old : members.CValue) → (r : z.Reader) →
    (observedMembers z runtime members old r).result = deserializeMembers z runtime members old r
  | .last _ _ shape type, old, r =>
      result_observedShape (result_observedValue type) (runtime.fresh type) shape old r
  | .cons _ _ shape type rest, (old, olds), r => by
      rw [observedMembers, deserializeMembers, Observed.result_bind,
        result_observedShape (result_observedValue type)]
      exact congrArg _ (funext fun p => by rw [Observed.result_map, result_observedMembers rest])

end

theorem result_observedDeserialize (members : Members) (message : members.CValue) (r : z.Reader) :
    (observedDeserialize z runtime members message r).result =
      deserialize z runtime members message r := by
  rw [observedDeserialize, deserialize, Observed.result_ite, Observed.result_fail,
    result_observedMembers]

end C

/-! ## Consumption -/

/-- The elements of an array or a sequence take a byte each, and as many as
there are elements in them. -/
theorem sum_succ {α : Type} (cost : α → Nat) (xs : List α) :
    (xs.map fun x => cost x + 1).sum = (xs.map cost).sum + xs.length := by
  induction xs with
  | nil => rfl
  | cons x xs ih =>
      rw [List.map_cons, List.sum_cons, ih, List.map_cons, List.sum_cons, List.length_cons]
      omega

theorem fits_of_not_exceeds {maximumSize : Option Nat} {size : Nat} (hmax : size ≤ uint32Max)
    (h : ¬ exceeds maximumSize size = true) : Fits maximumSize size :=
  ⟨hmax, Bool.eq_false_iff.mpr h⟩

theorem toNat_le_uint32Max (size : UInt32) : size.toNat ≤ uint32Max :=
  Nat.le_sub_one_of_lt size.toNat_lt

theorem consumes_readString (hz : z.ReadsInside) (r : z.Reader) :
    Consumes r (z.observe .string r) fun s n => List.length s ≤ uint32Max ∧ 0 < n :=
  .one hz.takes .string r fun _ _ _ hread hn => ⟨hz.string_size hread, hn⟩

theorem consumes_readWString (hz : z.ReadsInside) (r : z.Reader) :
    Consumes r (z.observe .wstring r) fun s n => List.length s ≤ uint32Max ∧ 0 < n :=
  .one hz.takes .wstring r fun _ _ _ hread hn => ⟨hz.wstring_size hread, hn⟩

/-- A string that is read passes the check of its bound, however it is stored. -/
theorem consumes_bounded {α β : Type} {x : Observed z.Event (List α × z.Reader)} {r : z.Reader}
    (hx : Consumes r x fun s n => s.length ≤ uint32Max ∧ 0 < n) (maximumSize : Option Nat)
    {store : List α → β} {length : β → Nat} (hstore : ∀ s, length (store s) = s.length) :
    Consumes r
      (x.bind fun p => if exceeds maximumSize p.1.length then .fail else .pure (store p.1, p.2))
      fun v n => Fits maximumSize (length v) ∧ 0 < n := by
  refine hx.bind fun s r' n hs => .guard fun hbound => .pure ⟨?_, hs.2⟩
  rw [hstore]
  exact fits_of_not_exceeds hs.1 hbound

namespace Cpp

theorem consumes_string (hz : z.ReadsInside) (maximumSize : Option Nat) (r : z.Reader) :
    Consumes r (observedString z maximumSize r) fun s n => Fits maximumSize s.length ∧ 0 < n :=
  consumes_bounded (consumes_readString hz r) maximumSize fun _ => rfl

theorem consumes_wstring (hz : z.ReadsInside) (maximumSize : Option Nat) (r : z.Reader) :
    Consumes r (observedWString z maximumSize r) fun s n => Fits maximumSize s.length ∧ 0 < n :=
  consumes_bounded (consumes_readWString hz r) maximumSize fun _ => rfl

theorem consumes_shape (hz : z.ReadsInside) {α : Type}
    {read : α → z.Reader → Observed z.Event (α × z.Reader)} {p : α → Prop} {inner : α → Nat}
    (h : ∀ old r, Consumes r (read old r) fun v n => p v ∧ inner v + 1 ≤ n)
    (fresh : α) (shape : Shape) (old : shape.Value α) (r : z.Reader) :
    Consumes r (observedShape z read fresh shape old r) fun v n =>
      shape.Within p v ∧ shape.sequenceElements inner v + 1 ≤ n := by
  cases shape with
  | one => exact h old r
  | array size pos =>
      let toArray (xs : { xs : List α // xs.length = old.1.length }) :
          { xs : List α // xs.length = size } := ⟨xs.1, xs.2.trans old.2⟩
      refine (Consumes.each h old.1 r).map (f := toArray) fun xs n hxs => ⟨hxs.1, ?_⟩
      have hsum := sum_succ inner xs.1
      have hlength := xs.2.trans old.2
      show (xs.1.map inner).sum + 1 ≤ n
      omega
  | sequence maximumSize =>
      refine (Consumes.one hz.takes (.prim .u32) r (p := fun _ n => 0 < n)
        fun _ _ _ _ hn => hn).bind fun size r' n hn => ?_
      refine .guard fun hremaining => .guard fun hbound => .room ?_ ?_
      · rw [← hz.remaining_eq]
        exact Nat.le_of_not_lt hremaining
      · refine (Consumes.each h (resize fresh size.toNat old) r').map (f := Subtype.val)
          fun xs m hxs => ?_
        have hlength : xs.1.length = size.toNat := xs.2.trans (length_resize ..)
        refine ⟨⟨?_, hxs.1⟩, ?_⟩
        · rw [hlength]
          exact fits_of_not_exceeds (toNat_le_uint32Max size) hbound
        · have hsum := sum_succ inner xs.1
          show xs.1.length + (xs.1.map inner).sum + 1 ≤ n + m
          omega

variable (hz : z.ReadsInside) (fresh : (type : ElementType) → type.Value)
include hz

mutual

theorem consumes_value : (type : ElementType) → (old : type.Value) → (r : z.Reader) →
    Consumes r (observedValue z fresh type old r) fun v n =>
      type.Within v ∧ type.sequenceElements v + 1 ≤ n
  | .basic type, _, r =>
      Consumes.one hz.takes (.prim type.primitive) r fun _ _ _ _ hn => ⟨trivial, by exact hn⟩
  | .string maximumSize, _, r =>
      (consumes_string hz maximumSize r).mono fun _ _ h => ⟨h.1, by exact h.2⟩
  | .wstring maximumSize, _, r =>
      (consumes_wstring hz maximumSize r).mono fun _ _ h => ⟨h.1, by exact h.2⟩
  | .namespaced members, old, r => consumes_members members old r

theorem consumes_members : (members : Members) → (old : members.Value) → (r : z.Reader) →
    Consumes r (observedMembers z fresh members old r) fun v n =>
      members.Within v ∧ members.sequenceElements v + 1 ≤ n
  | .last _ _ shape type, old, r =>
      consumes_shape hz (consumes_value type) (fresh type) shape old r
  | .cons _ _ shape type rest, (old, olds), r => by
      have hfirst := consumes_shape hz (consumes_value type) (fresh type) shape old r
      refine hfirst.bind fun v r' n hv => ?_
      have hrest := consumes_members rest olds r'
      refine hrest.map fun vs m hvs => ⟨⟨hv.1, hvs.1⟩, ?_⟩
      have hcount := Nat.add_le_add hv.2 hvs.2
      show shape.sequenceElements type.sequenceElements v + rest.sequenceElements vs + 1 ≤ n + m
      omega

end

end Cpp

namespace C

theorem consumes_string (hz : z.ReadsInside) (runtime : Runtime) (maximumSize : Option Nat)
    (r : z.Reader) : Consumes r (observedString z runtime maximumSize r) fun s n =>
      Fits maximumSize s.elements.length ∧ 0 < n :=
  consumes_bounded (consumes_readString hz r) maximumSize fun s =>
    congrArg List.length (runtime.elements_stringAssignn s)

theorem consumes_wstring (hz : z.ReadsInside) (runtime : Runtime) (maximumSize : Option Nat)
    (r : z.Reader) : Consumes r (observedWString z runtime maximumSize r) fun s n =>
      Fits maximumSize s.elements.length ∧ 0 < n :=
  consumes_bounded (consumes_readWString hz r) maximumSize fun s =>
    congrArg List.length (runtime.elements_u16StringAssignn s)

theorem consumes_shape (hz : z.ReadsInside) {α β : Type}
    {read : α → z.Reader → Observed z.Event (α × z.Reader)} {f : α → β} {p : β → Prop}
    {inner : β → Nat} (h : ∀ old r, Consumes r (read old r) fun v n => p (f v) ∧ inner (f v) + 1 ≤ n)
    (fresh : α) (shape : Shape) (old : shape.CValue α) (r : z.Reader) :
    Consumes r (observedShape z read fresh shape old r) fun v n =>
      shape.Within p (shape.abstract f v) ∧
        shape.sequenceElements inner (shape.abstract f v) + 1 ≤ n := by
  have heach (olds : List α) (r : z.Reader) :
      Consumes r (Observed.each read olds r) fun xs n =>
        (∀ y ∈ xs.1.map f, p y) ∧ ((xs.1.map f).map inner).sum + olds.length ≤ n := by
    refine (Consumes.each h olds r).mono fun xs n hxs => ?_
    have hsum := sum_succ inner (xs.1.map f)
    rw [List.length_map, xs.2, List.map_map] at hsum
    exact ⟨List.forall_mem_map.mpr hxs.1, hsum ▸ hxs.2⟩
  cases shape with
  | one => exact h old r
  | array size pos =>
      let toArray (xs : { xs : List α // xs.length = old.1.length }) :
          { xs : List α // xs.length = size } := ⟨xs.1, xs.2.trans old.2⟩
      refine (heach old.1 r).map (f := toArray) fun xs n hxs => ⟨hxs.1, ?_⟩
      have hcount := hxs.2
      have hlength := old.2
      show ((xs.1.map f).map inner).sum + 1 ≤ n
      omega
  | sequence maximumSize =>
      refine (Consumes.one hz.takes (.prim .u32) r (p := fun _ n => 0 < n)
        fun _ _ _ _ hn => hn).bind fun size r' n hn => ?_
      refine .guard fun hremaining => .guard fun hbound => .room ?_ ?_
      · rw [← hz.remaining_eq]
        exact Nat.le_of_not_lt hremaining
      · let toSequence (xs : { xs : List α // xs.length =
            (List.replicate size.toNat fresh).length }) : CSequence α := .ofList xs.1
        refine (heach (List.replicate size.toNat fresh) r').map (f := toSequence) fun xs m hxs => ?_
        have habstract : (toSequence xs).elements = xs.1 := CSequence.elements_ofList xs.1
        have hlength : (xs.1.map f).length = size.toNat := by
          rw [List.length_map, xs.2, List.length_replicate]
        rw [Shape.abstract, habstract]
        refine ⟨⟨?_, hxs.1⟩, ?_⟩
        · rw [hlength]
          exact fits_of_not_exceeds (toNat_le_uint32Max size) hbound
        · have hcount := hxs.2
          have hreplicate : (List.replicate size.toNat fresh).length = size.toNat :=
            List.length_replicate
          show (xs.1.map f).length + ((xs.1.map f).map inner).sum + 1 ≤ n + m
          omega

variable (hz : z.ReadsInside) (runtime : Runtime)
include hz

mutual

theorem consumes_value : (type : ElementType) → (old : type.CValue) → (r : z.Reader) →
    Consumes r (observedValue z runtime type old r) fun v n =>
      type.Within (type.abstract v) ∧ type.sequenceElements (type.abstract v) + 1 ≤ n
  | .basic type, _, r =>
      Consumes.one hz.takes (.prim type.primitive) r fun _ _ _ _ hn => ⟨trivial, by exact hn⟩
  | .string maximumSize, _, r =>
      (consumes_string hz runtime maximumSize r).mono fun _ _ h => ⟨h.1, by exact h.2⟩
  | .wstring maximumSize, _, r =>
      (consumes_wstring hz runtime maximumSize r).mono fun _ _ h => ⟨h.1, by exact h.2⟩
  | .namespaced members, old, r => consumes_members members old r

theorem consumes_members : (members : Members) → (old : members.CValue) → (r : z.Reader) →
    Consumes r (observedMembers z runtime members old r) fun v n =>
      members.Within (members.abstract v) ∧
        members.sequenceElements (members.abstract v) + 1 ≤ n
  | .last _ _ shape type, old, r =>
      consumes_shape hz (consumes_value type) (runtime.fresh type) shape old r
  | .cons _ _ shape type rest, (old, olds), r => by
      have hfirst := consumes_shape hz (consumes_value type) (runtime.fresh type) shape old r
      refine hfirst.bind fun v r' n hv => ?_
      have hrest := consumes_members rest olds r'
      refine hrest.map fun vs m hvs => ⟨⟨hv.1, hvs.1⟩, ?_⟩
      have hcount := Nat.add_le_add hv.2 hvs.2
      show shape.sequenceElements type.sequenceElements (shape.abstract type.abstract v) +
        rest.sequenceElements (rest.abstract vs) + 1 ≤ n + m
      omega

end

end C

/-! ## Soundness -/

/-- `deserialize_` of a message, observed. -/
def Language.observedDeserialize (z : ZidlCdr) (members : Members) : (language : Language) →
    language.Runtime → language.Message members → z.Reader →
      Observed z.Event (language.Message members × z.Reader)
  | .c, runtime => C.observedDeserialize z runtime members
  | .cpp, fresh => Cpp.observedDeserialize z fresh members

theorem result_observedDeserialize (members : Members) : (language : Language) →
    (runtime : language.Runtime) →
      (message : language.Message members) → (r : z.Reader) →
      (language.observedDeserialize z members runtime message r).result =
        language.deserialize z members runtime message r
  | .c, runtime, message, r => C.result_observedDeserialize runtime members message r
  | .cpp, fresh, message, r => Cpp.result_observedDeserialize fresh members message r

theorem consumes_deserialize (hz : z.ReadsInside) (members : Members) : (language : Language) →
    (runtime : language.Runtime) →
      (message : language.Message members) → (r : z.Reader) →
      Consumes r (language.observedDeserialize z members runtime message r) fun new n =>
        members.Within (language.value members new) ∧
          members.sequenceElements (language.value members new) + 1 ≤ n
  | .c, runtime, message, r => .guard fun _ => C.consumes_members hz runtime members message r
  | .cpp, fresh, message, r => .guard fun _ => Cpp.consumes_members hz fresh members message r

/-- On any payload, the generated code reads inside of it, at most once more
than it has bytes, and sizes sequences to at most the bytes left.  What it
accepts is within the bounds, and has at most as many sequence elements as the
payload has bytes. -/
theorem deserialize_sound (hz : z.ReadsInside) (language : Language) (members : Members)
    (runtime : language.Runtime)
    (message : language.Message members) (payload : List UInt8) (r : z.Reader)
    (hinit : z.readerInit payload = some r) :
    (language.observedDeserialize z members runtime message r).result =
        language.deserialize z members runtime message r ∧
      (∀ e ∈ (language.observedDeserialize z members runtime message r).log, e.Inside payload) ∧
      reads (language.observedDeserialize z members runtime message r).log ≤ payload.length + 1 ∧
      ∀ new r', language.deserialize z members runtime message r = some (new, r') →
        members.Within (language.value members new) ∧
        (∃ front taken, payload = front ++ taken ++ z.unread r') ∧
        members.sequenceElements (language.value members new) ≤ payload.length := by
  have hresult := result_observedDeserialize members language runtime message r
  have hrun := consumes_deserialize hz members language runtime message r
  have hinside := hz.init_suffix hinit
  refine ⟨hresult, fun e he => (hrun.inside e he).mono hinside, ?_, ?_⟩
  · exact hrun.reads_le.trans (Nat.add_le_add_right hinside.length_le 1)
  · intro new r' hnew
    rw [← hresult] at hnew
    obtain ⟨taken, hunread, -, hwithin, hcount⟩ := hrun.result hnew
    obtain ⟨front, hfront⟩ := hinside
    refine ⟨hwithin, ⟨front, taken, ?_⟩, ?_⟩
    · rw [← hfront, hunread, List.append_assoc]
    · have hlength := congrArg List.length hfront
      rw [hunread, List.length_append, List.length_append] at hlength
      omega

theorem xcdr1_readsInside : xcdr1.ReadsInside where
  remaining_eq _ := rfl
  init_suffix := by
    intro payload r hinit
    simp only [xcdr1] at hinit
    split at hinit
    case h_1 a b rest =>
      cases hinit
      exact ⟨[0, 0, a, b], rfl⟩
    case h_2 a b rest =>
      cases hinit
      exact ⟨[0, 1, a, b], rfl⟩
    case h_3 a b c d rest _ _ =>
      cases hinit
      exact ⟨[a, b, c, d], rfl⟩
    case h_4 => cases hinit
  takes := by
    intro k r v r' hread
    obtain ⟨⟨v', rest⟩, hdecode, heq⟩ := Option.map_eq_some_iff.mp hread
    cases heq
    exact decode_eq_some hdecode
  string_size := by
    intro r s r' hread
    obtain ⟨⟨v', rest⟩, hdecode, heq⟩ := Option.map_eq_some_iff.mp hread
    cases heq
    exact Nat.le_sub_one_of_lt (length_lt_of_decode_string hdecode)
  wstring_size := by
    intro r s r' hread
    obtain ⟨⟨v', rest⟩, hdecode, heq⟩ := Option.map_eq_some_iff.mp hread
    cases heq
    exact Nat.le_sub_one_of_lt (length_lt_of_decode_wstring hdecode)

/-- A payload whose sequence claims more elements than it has bytes: nothing is
sized, and the message is rejected. -/
theorem deserialize_sound_truncated :
    let payload := goldenVector.set 52 0xff
    ∃ r, xcdr1.readerInit payload = some r ∧
      Cpp.deserialize xcdr1 ElementType.zero primitiveRecord primitiveMessage r = none ∧
      ∀ e ∈ (Cpp.observedDeserialize xcdr1 ElementType.zero primitiveRecord primitiveMessage r).log,
        e.Inside payload := by
  intro payload
  have hreject : ((xcdr1.readerInit payload).map fun r =>
      (Cpp.deserialize xcdr1 ElementType.zero primitiveRecord primitiveMessage r).isSome) =
      some false := by
    decide +kernel
  obtain ⟨r, hinit, hnone⟩ := Option.map_eq_some_iff.mp hreject
  obtain ⟨-, hinside, -⟩ := deserialize_sound xcdr1_readsInside .cpp primitiveRecord
    ElementType.zero primitiveMessage payload r hinit
  exact ⟨r, hinit, Option.not_isSome_iff_eq_none.mp (by simp [hnone]), hinside⟩

end RmwZzdds.Codec
