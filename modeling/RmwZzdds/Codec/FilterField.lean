import Mathlib.Data.List.Nodup
import RmwZzdds.Codec.TypeSupport
import RmwZzdds.Codec.Xcdr1
import RmwZzdds.Library.Ieee754

/-!
# Fields for content filters

A content filter asks a serialized message for the value of a field.  The
generated code deserializes the message and compares the name with those of the
members of a basic type or a string type, one after the other.  Integers of
every type are cast to 64 bits with a sign, which is the value of the member but
for an unsigned one of 64 bits in its upper half.
-/

namespace RmwZzdds.Codec

/-- `zzdds_filter_value`.  The kind tells which of the other fields is set, and the
bits of a double are kept. -/
structure FilterValue where
  kind : Nat
  i : Int64
  f : UInt64
  s : List UInt8
deriving DecidableEq

/-- A member, as the generator tells it from others. -/
inductive FieldContent where
  | basic (type : BasicType) (v : type.Value)
  | string (s : List UInt8)
  | other

/-! ## The generated code -/

/-- The bytes of a name, which is in ASCII. -/
def nameBytes (name : String) : List UInt8 := name.toList.map fun c => UInt8.ofNat c.toNat

/-- The comparison of a field with the name of a member. -/
def matchesName (name : String) (field : List UInt8) : Bool :=
  field.length == name.length && field.take name.length == (nameBytes name).take name.length

/-- `out->i = static_cast<int64_t>(value)`. -/
def FilterValue.setInt (out : FilterValue) (i : Int64) : FilterValue :=
  { out with
    kind := 0
    i := i }

/-- The case of a member of a basic type. -/
def FilterValue.setBasic (out : FilterValue) : (type : BasicType) → type.Value → FilterValue
  | .boolean, v => out.setInt (Bool.toUInt64 v).toInt64
  | .octet, v => out.setInt (UInt8.toUInt64 v).toInt64
  | .char, v => out.setInt (UInt8.toUInt64 v).toInt64
  | .wchar, v => out.setInt (UInt16.toUInt64 v).toInt64
  | .float, v =>
      { out with
        kind := 3
        f := UInt64.ofNat (Ieee754.widen (UInt32.toNat v)) }
  | .double, v =>
      { out with
        kind := 1
        f := v }
  | .int8, v => out.setInt (Int8.toInt64 v)
  | .uint8, v => out.setInt (UInt8.toUInt64 v).toInt64
  | .int16, v => out.setInt (Int16.toInt64 v)
  | .uint16, v => out.setInt (UInt16.toUInt64 v).toInt64
  | .int32, v => out.setInt (Int32.toInt64 v)
  | .uint32, v => out.setInt (UInt32.toUInt64 v).toInt64
  | .int64, v => out.setInt v
  | .uint64, v => out.setInt (UInt64.toInt64 v)

/-- The cases that `filter_field_cases` generates.  `none` is a return of `false`. -/
def filterFieldCases (field : List UInt8) (scratchLen : Nat) (out : FilterValue) :
    List (String × FieldContent) → Option FilterValue
  | [] => none
  | (name, .basic type v) :: rest =>
      if matchesName name field then some (out.setBasic type v)
      else filterFieldCases field scratchLen out rest
  | (name, .string s) :: rest =>
      if matchesName name field then
        if s.length > scratchLen then none
        else
          some { out with
            kind := 2
            s := s }
      else filterFieldCases field scratchLen out rest
  | (_, .other) :: rest => filterFieldCases field scratchLen out rest

namespace Cpp

def content : (shape : Shape) → (type : ElementType) → shape.Value type.Value → FieldContent
  | .one, .basic type, v => .basic type v
  | .one, .string _, s => .string s
  | _, _, _ => .other

/-- The members of a message, in the layout of C++. -/
def contents : (members : Members) → members.Value → List (String × FieldContent)
  | .last name _ shape type, v => [(name, content shape type v)]
  | .cons name _ shape type rest, (v, vs) => (name, content shape type v) :: contents rest vs

/-- `get_field_from_cdr_` of a message.  `initial` is a message that has been
default-constructed. -/
def getFieldFromCdr (z : ZidlCdr) (fresh : (type : ElementType) → type.Value) (members : Members)
    (initial : members.Value) (payload field : List UInt8) (scratchLen : Nat) (out : FilterValue) :
    Option FilterValue :=
  (z.readerInit payload).bind fun r =>
    (deserializeMembers z fresh members initial r).bind fun (message, _) =>
      filterFieldCases field scratchLen out (contents members message)

end Cpp

namespace C

def content : (shape : Shape) → (type : ElementType) → shape.CValue type.CValue → FieldContent
  | .one, .basic type, v => .basic type v
  | .one, .string _, s => .string (CSequence.elements s)
  | _, _, _ => .other

/-- The members of a message, in the layout of C. -/
def contents : (members : Members) → members.CValue → List (String × FieldContent)
  | .last name _ shape type, v => [(name, content shape type v)]
  | .cons name _ shape type rest, (v, vs) => (name, content shape type v) :: contents rest vs

/-- `get_field_from_cdr_` of a message, with the result of `__init`. -/
def getFieldFromCdr (z : ZidlCdr) (runtime : Runtime) (members : Members)
    (initial : Option members.CValue) (payload field : List UInt8) (scratchLen : Nat)
    (out : FilterValue) : Option FilterValue :=
  initial.bind fun initial =>
    (z.readerInit payload).bind fun r =>
      (deserializeMembers z runtime members initial r).bind fun (message, _) =>
        filterFieldCases field scratchLen out (contents members message)

end C

namespace Language

/-- `serialize_` of a message. -/
def serialize (z : ZidlCdr) (members : Members) : (language : Language) →
    language.Message members → z.Writer → Option z.Writer
  | c => C.serialize z members
  | cpp => Cpp.serialize z members

/-- `get_field_from_cdr_` of a message, over an initialized one. -/
def getFieldFromCdr (z : ZidlCdr) (members : Members) : (language : Language) →
    language.Runtime → language.Message members →
      (payload field : List UInt8) → (scratchLen : Nat) → FilterValue → Option FilterValue
  | c, runtime, initial => C.getFieldFromCdr z runtime members (some initial)
  | cpp, fresh, initial => Cpp.getFieldFromCdr z fresh members initial

end Language

/-! ## What a filter is to see -/

/-- The number that a value is, but for floating-point ones. -/
def BasicType.number : (type : BasicType) → type.Value → Option ℤ
  | .boolean, v => some (Bool.toNat v)
  | .octet, v => some (UInt8.toNat v)
  | .char, v => some (UInt8.toNat v)
  | .wchar, v => some (UInt16.toNat v)
  | .float, _ => none
  | .double, _ => none
  | .int8, v => some (Int8.toInt v)
  | .uint8, v => some (UInt8.toNat v)
  | .int16, v => some (Int16.toInt v)
  | .uint16, v => some (UInt16.toNat v)
  | .int32, v => some (Int32.toInt v)
  | .uint32, v => some (UInt32.toNat v)
  | .int64, v => some (Int64.toInt v)
  | .uint64, v => some (UInt64.toNat v)

/-- A filter value shows a member of a basic type. -/
def FilterValue.Shows (shown : FilterValue) : (type : BasicType) → type.Value → Prop
  | .float, v => shown.kind = 3 ∧ Ieee754.value Ieee754.binary64 shown.f.toNat =
      Ieee754.value Ieee754.binary32 (UInt32.toNat v)
  | .double, v => shown.kind = 1 ∧ Ieee754.value Ieee754.binary64 shown.f.toNat =
      Ieee754.value Ieee754.binary64 (UInt64.toNat v)
  | type, v => shown.kind = 0 ∧ type.number v = some shown.i.toInt

/-- The member with a name. -/
def Members.member (members : Members) (message : members.Value) (field : List UInt8) :
    Option FieldContent :=
  ((Cpp.contents members message).find? fun entry => nameBytes entry.1 == field).map (·.2)

/-- The lookup of a member gives its value, and that of any other name fails.  A
string has to fit into the buffer. -/
def LookupFaithful (scratchLen : Nat) (result : Option FilterValue) : Option FieldContent → Prop
  | some (.basic type v) => ∃ shown, result = some shown ∧ shown.Shows type v
  | some (.string s) => s.length ≤ scratchLen →
      ∃ shown, result = some shown ∧ shown.kind = 2 ∧ shown.s = s
  | some .other => result = none
  | none => result = none

def Members.names : Members → List String
  | .last name _ _ _ => [name]
  | .cons name _ _ _ rest => name :: rest.names

/-- The names of members are identifiers, and no two are the same. -/
structure Members.WellNamed (members : Members) : Prop where
  ascii : ∀ name ∈ members.names, ∀ c ∈ name.toList, c.toNat < 128
  nodup : members.names.Nodup

theorem Members.wellNamed_of_all {members : Members}
    (hascii : members.names.all (fun name => name.toList.all fun c => c.toNat < 128) = true)
    (hnodup : members.names.Nodup) : members.WellNamed where
  ascii := by simpa [List.all_eq_true] using hascii
  nodup := hnodup

/-! ## Numbers -/

/-- The cast keeps the values below the upper half. -/
theorem toInt_toInt64_iff (v : UInt64) : (v.toNat : ℤ) = v.toInt64.toInt ↔ v.toNat < 2 ^ 63 := by
  constructor
  · intro h
    have hlt := Int64.toInt_lt v.toInt64
    omega
  · intro h
    have hcast : v.toInt64 = Int64.ofNat v.toNat := by
      rw [← UInt64.toInt64_ofNat', UInt64.ofNat_toNat]
    rw [hcast, Int64.toInt_ofNat_of_lt h]

theorem number_toInt64 {v : UInt64} {n : ℕ} (hvalue : v.toNat = n) (h : n < 2 ^ 63) :
    (n : ℤ) = v.toInt64.toInt := by
  subst hvalue
  exact (toInt_toInt64_iff v).mpr h

/-- Every other type has its value in the filter value. -/
theorem FilterValue.shows_setBasic (out : FilterValue) (type : BasicType) (v : type.Value)
    (h : type ≠ .uint64) : (out.setBasic type v).Shows type v := by
  cases type with
  | boolean =>
      refine ⟨rfl, congrArg some (number_toInt64 ?_ ?_)⟩
      · cases v with
        | false => rfl
        | true => rfl
      · cases v with
        | false => decide
        | true => decide
  | octet | char | uint8 =>
      have hlt : UInt8.toNat v < 2 ^ 8 := UInt8.toNat_lt v
      exact ⟨rfl, congrArg some (number_toInt64 (UInt8.toNat_toUInt64 v) (by omega))⟩
  | wchar | uint16 =>
      have hlt : UInt16.toNat v < 2 ^ 16 := UInt16.toNat_lt v
      exact ⟨rfl, congrArg some (number_toInt64 (UInt16.toNat_toUInt64 v) (by omega))⟩
  | uint32 =>
      have hlt : UInt32.toNat v < 2 ^ 32 := UInt32.toNat_lt v
      exact ⟨rfl, congrArg some (number_toInt64 (UInt32.toNat_toUInt64 v) (by omega))⟩
  | float =>
      have hbits : (UInt64.ofNat (Ieee754.widen (UInt32.toNat v))).toNat =
          Ieee754.widen (UInt32.toNat v) := UInt64.toNat_ofNat_of_lt' (Ieee754.widen_lt _)
      refine ⟨rfl, ?_⟩
      show Ieee754.value Ieee754.binary64 (UInt64.ofNat _).toNat = _
      rw [hbits, Ieee754.value_widen]
  | double => exact ⟨rfl, rfl⟩
  | int8 => exact ⟨rfl, congrArg some (Int8.toInt_toInt64 v).symm⟩
  | int16 => exact ⟨rfl, congrArg some (Int16.toInt_toInt64 v).symm⟩
  | int32 => exact ⟨rfl, congrArg some (Int32.toInt_toInt64 v).symm⟩
  | int64 => exact ⟨rfl, rfl⟩
  | uint64 => exact (h rfl).elim

theorem FilterValue.shows_setBasic_uint64 (out : FilterValue) (v : UInt64) :
    (out.setBasic .uint64 v).Shows .uint64 v ↔ v.toNat < 2 ^ 63 := by
  rw [← toInt_toInt64_iff]
  exact ⟨fun h => Option.some.inj h.2, fun h => ⟨rfl, congrArg some h⟩⟩

theorem FilterValue.Shows.toInt_eq {shown : FilterValue} {type : BasicType} {v : type.Value} {n : ℤ}
    (h : shown.Shows type v) (hn : type.number v = some n) : shown.i.toInt = n := by
  cases type with
  | float => cases hn
  | double => cases hn
  | _ => exact Option.some.inj (h.2.symm.trans hn)

/-! ## Names -/

theorem length_nameBytes (name : String) : (nameBytes name).length = name.length := by
  rw [nameBytes, List.length_map, String.length_toList]

/-- The comparison is that of all bytes. -/
theorem matchesName_iff (name : String) (field : List UInt8) :
    matchesName name field = true ↔ nameBytes name = field := by
  have htake : (nameBytes name).take name.length = nameBytes name :=
    List.take_of_length_le (length_nameBytes name).le
  rw [matchesName, Bool.and_eq_true, beq_iff_eq, beq_iff_eq, htake]
  constructor
  · rintro ⟨hlength, hbytes⟩
    rw [List.take_of_length_le hlength.le] at hbytes
    exact hbytes.symm
  · rintro rfl
    exact ⟨length_nameBytes name, htake⟩

theorem nameBytes_injective {name name' : String} (h : ∀ c ∈ name.toList, c.toNat < 128)
    (h' : ∀ c ∈ name'.toList, c.toNat < 128) (hbytes : nameBytes name = nameBytes name') :
    name = name' := by
  have hcodes : name.toList.map Char.toNat = name'.toList.map Char.toNat := by
    have hback : ∀ {name : String}, (∀ c ∈ name.toList, c.toNat < 128) →
        (nameBytes name).map UInt8.toNat = name.toList.map Char.toNat := by
      intro name h
      rw [nameBytes, List.map_map]
      refine List.map_congr_left fun c hc => ?_
      exact UInt8.toNat_ofNat_of_lt' (Nat.lt_trans (h c hc) (by decide))
    rw [← hback h, ← hback h', hbytes]
  have hinjective : Function.Injective Char.toNat := fun _ _ => Char.toNat_inj.mp
  exact String.toList_injective (List.map_injective_iff.mpr hinjective hcodes)

theorem map_fst_contents : (members : Members) → (message : members.Value) →
    (Cpp.contents members message).map (·.1) = members.names
  | .last _ _ _ _, _ => rfl
  | .cons name _ _ _ rest, (_, vs) => congrArg (name :: ·) (map_fst_contents rest vs)

/-- No two members have a name of the same bytes. -/
theorem Members.WellNamed.nodup_bytes {members : Members} (h : members.WellNamed)
    (message : members.Value) :
    ((Cpp.contents members message).map fun entry => nameBytes entry.1).Nodup := by
  have hnames : (Cpp.contents members message).map (fun entry => nameBytes entry.1) =
      members.names.map nameBytes := by
    rw [← map_fst_contents members message, List.map_map]
    rfl
  rw [hnames]
  exact List.Nodup.map_on (fun name hname name' hname' =>
    nameBytes_injective (h.ascii name hname) (h.ascii name' hname')) h.nodup

/-! ## The lookup -/

/-- What the case of a member returns. -/
def lookupResult (scratchLen : Nat) (out : FilterValue) : Option FieldContent → Option FilterValue
  | some (.basic type v) => some (out.setBasic type v)
  | some (.string s) =>
      if s.length > scratchLen then none
      else
        some { out with
          kind := 2
          s := s }
  | some .other => none
  | none => none

theorem filterFieldCases_eq (field : List UInt8) (scratchLen : Nat) (out : FilterValue)
    {entries : List (String × FieldContent)}
    (hnodup : (entries.map fun entry => nameBytes entry.1).Nodup) :
    filterFieldCases field scratchLen out entries = lookupResult scratchLen out
      ((entries.find? fun entry => nameBytes entry.1 == field).map (·.2)) := by
  induction entries with
  | nil => rfl
  | cons entry rest ih =>
      obtain ⟨name, content⟩ := entry
      rw [List.map_cons, List.nodup_cons] at hnodup
      obtain ⟨hfirst, hrest⟩ := hnodup
      rw [List.find?_cons]
      cases hname : matchesName name field with
      | true =>
          have hbytes := (matchesName_iff name field).mp hname
          rw [beq_iff_eq.mpr hbytes]
          cases content with
          | basic type v => exact if_pos hname
          | string s => exact if_pos hname
          | other =>
              -- no other member has the name
              have hnone : rest.find? (fun entry => nameBytes entry.1 == field) = none := by
                rw [List.find?_eq_none]
                intro other hother hsame
                rw [beq_iff_eq, ← hbytes] at hsame
                exact hfirst (hsame ▸ List.mem_map_of_mem hother)
              rw [filterFieldCases, ih hrest, hnone]
              rfl
      | false =>
          have hbytes : (nameBytes name == field) = false := by
            rw [beq_eq_false_iff_ne, Ne, ← matchesName_iff, hname]
            exact Bool.false_ne_true
          rw [hbytes]
          have hskip : ¬ matchesName name field = true := by
            rw [hname]
            exact Bool.false_ne_true
          cases content with
          | basic type v => exact (if_neg hskip).trans (ih hrest)
          | string s => exact (if_neg hskip).trans (ih hrest)
          | other => exact ih hrest

/-- A lookup is faithful but for large unsigned values of 64 bits. -/
theorem lookupFaithful_iff (scratchLen : Nat) (out : FilterValue) (content : Option FieldContent) :
    LookupFaithful scratchLen (lookupResult scratchLen out content) content ↔
      ∀ v : UInt64, content = some (.basic .uint64 v) → v.toNat < 2 ^ 63 := by
  match content with
  | some (.basic type v) =>
      have hshown : LookupFaithful scratchLen (lookupResult scratchLen out (some (.basic type v)))
          (some (.basic type v)) ↔ (out.setBasic type v).Shows type v := by
        constructor
        · rintro ⟨shown, heq, hshows⟩
          cases heq
          exact hshows
        · exact fun hshows => ⟨_, rfl, hshows⟩
      rw [hshown]
      by_cases htype : type = .uint64
      · subst htype
        refine (FilterValue.shows_setBasic_uint64 out v).trans ?_
        constructor
        · rintro hv u heq
          cases heq
          exact hv
        · exact fun h => h v rfl
      · refine iff_of_true (FilterValue.shows_setBasic out type v htype) ?_
        rintro u heq
        cases heq
        exact (htype rfl).elim
  | some (.string s) =>
      refine iff_of_true (fun hfits => ?_) (fun _ h => nomatch h)
      exact ⟨_, if_neg (Nat.not_lt.mpr hfits), rfl, rfl⟩
  | some .other => exact iff_of_true rfl (fun _ h => nomatch h)
  | none => exact iff_of_true rfl (fun _ h => nomatch h)

/-! ## After serialization -/

variable {z : ZidlCdr}

theorem c_content (shape : Shape) (type : ElementType) (v : shape.CValue type.CValue) :
    C.content shape type v = Cpp.content shape type (shape.abstract type.abstract v) := by
  cases shape with
  | one => cases type <;> rfl
  | array size pos => rfl
  | sequence maximumSize => rfl

/-- The two layouts show the same members. -/
theorem c_contents : (members : Members) → (message : members.CValue) →
    C.contents members message = Cpp.contents members (members.abstract message)
  | .last name _ shape type, v => congrArg (fun content => [(name, content)])
      (c_content shape type v)
  | .cons name _ shape type rest, (v, vs) =>
      congrArg₂ (fun content contents => (name, content) :: contents) (c_content shape type v)
        (c_contents rest vs)

/-- A field of what C++ code has serialized. -/
theorem cpp_getFieldFromCdr (hz : z.Lawful) {members : Members} (hnames : members.WellNamed)
    (fresh : (type : ElementType) → type.Value) (initial message : members.Value)
    {w w' : z.Writer} (hw : z.writerXcdr1 w = true) (hbuf : z.buf w = [])
    (h : Cpp.serialize z members message w = some w') (field : List UInt8) (scratchLen : Nat)
    (out : FilterValue) :
    Cpp.getFieldFromCdr z fresh members initial (z.buf w') field scratchLen out =
      lookupResult scratchLen out (members.member message field) := by
  obtain ⟨r, hinit, hread⟩ := Cpp.deserialize_of_serialize hz fresh members message hw hbuf h
  obtain ⟨r', hmessage, -⟩ := hread initial
  rw [Cpp.deserialize] at hmessage
  split at hmessage
  · cases hmessage
  · rw [Cpp.getFieldFromCdr, hinit, Option.bind_some, hmessage, Option.bind_some]
    exact filterFieldCases_eq field scratchLen out (hnames.nodup_bytes message)

/-- A field of what C code has serialized. -/
theorem c_getFieldFromCdr (runtime : C.Runtime)
    (fresh' : (type : ElementType) → type.Value) (members : Members) (initial : members.CValue)
    (payload field : List UInt8) (scratchLen : Nat) (out : FilterValue) :
    C.getFieldFromCdr z runtime members (some initial) payload field scratchLen out =
      Cpp.getFieldFromCdr z fresh' members (members.abstract initial) payload field scratchLen
        out := by
  rw [C.getFieldFromCdr, Cpp.getFieldFromCdr, Option.bind_some]
  refine congrArg _ (funext fun r => ?_)
  rw [← c_deserializeMembers runtime fresh' members initial (members.abstract initial) r,
    Option.bind_map]
  refine congrArg _ (funext fun (message, r') => ?_)
  exact congrArg (filterFieldCases field scratchLen out) (c_contents members message)

/-- The generated lookups give the members of a serialized message, but for unsigned
values of 64 bits in their upper half, and filter values compare as the numbers they
show. -/
theorem field_lookup_faithful (hz : z.Lawful) (members : Members) (hnames : members.WellNamed)
    (language : Language) (runtime : language.Runtime)
    (initial message : language.Message members) (w w' : z.Writer)
    (hw : z.writerXcdr1 w = true) (hbuf : z.buf w = [])
    (h : language.serialize z members message w = some w') :
    (∀ (field : List UInt8) (scratchLen : Nat) (out : FilterValue),
      LookupFaithful scratchLen (language.getFieldFromCdr z members runtime initial (z.buf w') field
          scratchLen out) (members.member (language.value members message) field) ↔
        ∀ v : UInt64, members.member (language.value members message) field =
          some (.basic .uint64 v) → v.toNat < 2 ^ 63) ∧
    ∀ (type : BasicType) (v v' : type.Value) (shown shown' : FilterValue) (n n' : ℤ),
      shown.Shows type v → shown'.Shows type v' → type.number v = some n →
      type.number v' = some n' → (shown.i ≤ shown'.i ↔ n ≤ n') := by
  constructor
  · intro field scratchLen out
    rw [← lookupFaithful_iff scratchLen out]
    have hlookup : language.getFieldFromCdr z members runtime initial (z.buf w') field scratchLen
        out = lookupResult scratchLen out
          (members.member (language.value members message) field) := by
      cases language with
      | c =>
          let fresh (type : ElementType) : type.Value := type.abstract (runtime.fresh type)
          have hserialize : Cpp.serialize z members (members.abstract message) w = some w' := by
            rw [← h]
            show _ = C.serialize z members message w
            rw [C.serialize, Cpp.serialize, funext (c_serializeMembers members false message)]
          exact (c_getFieldFromCdr runtime fresh members initial _ field scratchLen out).trans
            (cpp_getFieldFromCdr hz hnames fresh _ _ hw hbuf hserialize field scratchLen out)
      | cpp => exact cpp_getFieldFromCdr hz hnames runtime _ _ hw hbuf h field scratchLen out
    rw [hlookup]
  · intro type v v' shown shown' n n' hshows hshows' hn hn'
    rw [Int64.le_iff_toInt_le, hshows.toInt_eq hn, hshows'.toInt_eq hn']

/-- A record with an unsigned field of 64 bits. -/
def counterRecord : Members := .last "total" false .one (.basic .uint64)

def counterMessage (total : UInt64) : counterRecord.Value := total

/-- A total of which the filter sees a negative number. -/
theorem total_lookup_wraps :
    ¬ ∀ (message : counterRecord.Value) (w' : Xcdr1Writer),
      Cpp.serialize xcdr1 counterRecord message emptyWriter = some w' →
      LookupFaithful 0 (Cpp.getFieldFromCdr xcdr1 ElementType.zero counterRecord
          counterRecord.zero w'.buf (nameBytes "total") 0 ⟨0, 0, 0, []⟩)
        (counterRecord.member message (nameBytes "total")) := by
  intro h
  obtain ⟨w', hwrite⟩ : ∃ w', Cpp.serialize xcdr1 counterRecord (counterMessage (2 ^ 63))
      emptyWriter = some w' := Option.isSome_iff_exists.mp (by decide +kernel)
  have hfaithful := h (counterMessage (2 ^ 63)) w' hwrite
  have hnames : counterRecord.WellNamed := Members.wellNamed_of_all (by decide) (by decide)
  have hlookup := cpp_getFieldFromCdr xcdr1_lawful hnames ElementType.zero counterRecord.zero
    (counterMessage (2 ^ 63)) rfl rfl hwrite (nameBytes "total") 0 ⟨0, 0, 0, []⟩
  have hwraps := (lookupFaithful_iff 0 ⟨0, 0, 0, []⟩ _).mp (hlookup ▸ hfaithful)
  have hmember : counterRecord.member (counterMessage (2 ^ 63)) (nameBytes "total") =
      some (.basic .uint64 (counterMessage (2 ^ 63))) := rfl
  exact absurd (hwraps _ hmember) (by decide +kernel)

/-- The fields of a test record are found. -/
theorem primitive_lookup_faithful :
    ∃ w', Cpp.serialize xcdr1 primitiveRecord primitiveMessage emptyWriter = some w' ∧
      (LookupFaithful 16 (Cpp.getFieldFromCdr xcdr1 ElementType.zero primitiveRecord
          primitiveRecord.zero (xcdr1.buf w') (nameBytes "ratio") 16 ⟨0, 0, 0, []⟩)
        (primitiveRecord.member primitiveMessage (nameBytes "ratio")) ↔
      ∀ v : UInt64, primitiveRecord.member primitiveMessage (nameBytes "ratio") =
        some (.basic .uint64 v) → v.toNat < 2 ^ 63) := by
  obtain ⟨w', hwrite⟩ : ∃ w', Cpp.serialize xcdr1 primitiveRecord primitiveMessage emptyWriter =
      some w' := Option.isSome_iff_exists.mp (by decide +kernel)
  have hnames : primitiveRecord.WellNamed := Members.wellNamed_of_all (by decide) (by decide)
  exact ⟨w', hwrite, (field_lookup_faithful xcdr1_lawful primitiveRecord hnames .cpp
    ElementType.zero primitiveRecord.zero primitiveMessage emptyWriter w' rfl rfl hwrite).1 _ 16 _⟩
end RmwZzdds.Codec
