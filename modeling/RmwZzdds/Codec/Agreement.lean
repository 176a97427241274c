import RmwZzdds.Codec.C

/-!
# The generators agree

A C structure has an abstract value, the elements up to each size.  On a
structure and its abstract value the two generated codes write the same, and
from one reader they read the same value, whatever their targets held, and stop
at the same place.  Every value is that of some structure.

Nothing is needed of zidl_cdr for this: the two codes make the same calls.
-/

namespace RmwZzdds.Codec

open Xcdr1 ByteStream

/-! ## Abstract values -/

def Shape.abstract {α β : Type} (f : α → β) : (shape : Shape) → shape.CValue α → shape.Value β
  | .one, v => f v
  | .array _ _, v => ⟨v.1.map f, (List.length_map ..).trans v.2⟩
  | .sequence _, v => v.elements.map f

mutual

/-- The value of a C structure. -/
def ElementType.abstract : (type : ElementType) → type.CValue → type.Value
  | .basic _, v => v
  | .string _, s => CSequence.elements s
  | .wstring _, s => CSequence.elements s
  | .namespaced members, v => members.abstract v

def Members.abstract : (members : Members) → members.CValue → members.Value
  | .last _ _ shape type, v => shape.abstract type.abstract v
  | .cons _ _ shape type rest, (v, vs) => (shape.abstract type.abstract v, rest.abstract vs)

end

theorem Shape.exists_abstract {α β : Type} {f : α → β} (hf : ∀ y, ∃ x, f x = y) :
    (shape : Shape) → (v : shape.Value β) → ∃ c, shape.abstract f c = v
  | .one, v => hf v
  | .array size _, ⟨ys, hlen⟩ => by
      obtain ⟨xs, hxs⟩ := List.map_surjective_iff.mpr hf ys
      subst hxs
      exact ⟨⟨xs, (List.length_map ..).symm.trans hlen⟩, rfl⟩
  | .sequence _, ys => by
      obtain ⟨xs, hxs⟩ := List.map_surjective_iff.mpr hf ys
      exact ⟨.ofList xs, by rw [Shape.abstract, CSequence.elements_ofList, hxs]⟩

mutual

/-- Every value is that of a C structure. -/
theorem ElementType.exists_abstract :
    (type : ElementType) → (v : type.Value) → ∃ c, type.abstract c = v
  | .basic _, v => ⟨v, rfl⟩
  | .string _, s => ⟨(.ofList s : CSequence UInt8), CSequence.elements_ofList s⟩
  | .wstring _, s => ⟨(.ofList s : CSequence UInt16), CSequence.elements_ofList s⟩
  | .namespaced members, v => members.exists_abstract v

theorem Members.exists_abstract :
    (members : Members) → (v : members.Value) → ∃ c, members.abstract c = v
  | .last _ _ shape type, v => shape.exists_abstract type.exists_abstract v
  | .cons _ _ shape type rest, (v, vs) => by
      obtain ⟨c, rfl⟩ := shape.exists_abstract type.exists_abstract v
      obtain ⟨cs, rfl⟩ := rest.exists_abstract vs
      exact ⟨(c, cs), rfl⟩

end

variable {z : ZidlCdr}

/-! ## Writing -/

/-- The loop over the indices is the loop over the elements. -/
theorem foldlM_writeIndex {α : Type} (write : α → z.Writer → Option z.Writer)
    (s : CSequence α) (w : z.Writer) :
    (List.range s.size).foldlM (C.writeIndex z write s.data) w =
      s.elements.foldlM (fun w element => write element w) w := by
  obtain ⟨data, size, fits⟩ := s
  simp only [CSequence.elements]
  induction size with
  | zero => rfl
  | succ size ih =>
      have hlt : size < data.length := fits
      rw [List.range_succ, List.foldlM_append, ih (Nat.le_of_lt hlt), List.take_add_one,
        List.getElem?_eq_getElem hlt, Option.toList_some, List.foldlM_append]
      refine congrArg _ (funext fun w => ?_)
      simp [C.writeIndex, List.getElem?_eq_getElem hlt]

theorem c_writeString (maximumSize : Option Nat) (s : CSequence UInt8) (w : z.Writer) :
    C.writeString z maximumSize s w = Cpp.writeString z maximumSize s.elements w := by
  rw [C.writeString, Cpp.writeString, CSequence.length_elements]
  split
  · rfl
  next hmax =>
    rw [toNat_size (Nat.le_of_not_lt hmax), CSequence.elements, List.take_take, Nat.min_self]

theorem c_writeWString (maximumSize : Option Nat) (s : CSequence UInt16) (w : z.Writer) :
    C.writeWString z maximumSize s w = Cpp.writeWString z maximumSize s.elements w := by
  rw [C.writeWString, Cpp.writeWString, CSequence.length_elements]
  split
  · rfl
  next hmax =>
    rw [toNat_size (Nat.le_of_not_lt hmax), CSequence.elements, List.take_take, Nat.min_self]

theorem c_writeShape {α β : Type} {write : α → z.Writer → Option z.Writer}
    {write' : β → z.Writer → Option z.Writer} {f : α → β}
    (h : ∀ x w, write x w = write' (f x) w) (shape : Shape) (v : shape.CValue α) (w : z.Writer) :
    C.writeShape z write shape v w = Cpp.writeShape z write' shape (shape.abstract f v) w := by
  have hloop (xs : List α) (w : z.Writer) :
      xs.foldlM (fun w element => write element w) w =
        (xs.map f).foldlM (fun w element => write' element w) w := by
    rw [List.foldlM_map]
    simp only [h]
  cases shape with
  | one => exact h v w
  | array size pos => exact hloop v.1 w
  | sequence maximumSize =>
      simp only [C.writeShape, Cpp.writeShape, Shape.abstract, List.length_map,
        CSequence.length_elements, foldlM_writeIndex write v, ← hloop]

mutual

theorem c_writeValue : (type : ElementType) → (v : type.CValue) → (w : z.Writer) →
    C.writeValue z type v w = Cpp.writeValue z type (type.abstract v) w
  | .basic _, _, _ => rfl
  | .string maximumSize, s, w => c_writeString maximumSize s w
  | .wstring maximumSize, s, w => c_writeWString maximumSize s w
  | .namespaced members, v, w => c_serializeMembers members false v w

theorem c_serializeMembers : (members : Members) → (keysOnly : Bool) → (v : members.CValue) →
    (w : z.Writer) → C.serializeMembers z members keysOnly v w =
      Cpp.serializeMembers z members keysOnly (members.abstract v) w
  | .last _ hasKey shape type, keysOnly, v, w =>
      congrArg (fun written => if keysOnly && !hasKey then some w else written)
        (c_writeShape (c_writeValue type) shape v w)
  | .cons _ hasKey shape type rest, keysOnly, (v, vs), w =>
      congrArg₂ Option.bind
        (congrArg (fun written => if keysOnly && !hasKey then some w else written)
          (c_writeShape (c_writeValue type) shape v w))
        (funext (c_serializeMembers rest keysOnly vs))

end

/-! ## Reading -/

theorem c_readString (runtime : C.Runtime) (maximumSize : Option Nat) (r : z.Reader) :
    (C.readString z runtime maximumSize r).map (Prod.map CSequence.elements id) =
      Cpp.readString z maximumSize r := by
  rw [C.readString, Cpp.readString, Option.map_bind]
  refine congrArg _ (funext fun (s, r) => ?_)
  cases hbound : exceeds maximumSize s.length with
  | true => simp [hbound]
  | false => simp [hbound, runtime.elements_stringAssignn]

theorem c_readWString (runtime : C.Runtime) (maximumSize : Option Nat) (r : z.Reader) :
    (C.readWString z runtime maximumSize r).map (Prod.map CSequence.elements id) =
      Cpp.readWString z maximumSize r := by
  rw [C.readWString, Cpp.readWString, Option.map_bind]
  refine congrArg _ (funext fun (s, r) => ?_)
  cases hbound : exceeds maximumSize s.length with
  | true => simp [hbound]
  | false => simp [hbound, runtime.elements_u16StringAssignn]

theorem c_readShape {α β : Type} {read : α → z.Reader → Option (α × z.Reader)}
    {read' : β → z.Reader → Option (β × z.Reader)} {f : α → β}
    (h : ∀ old old' r, (read old r).map (Prod.map f id) = read' old' r) (fresh : α) (fresh' : β)
    (shape : Shape) (old : shape.CValue α) (old' : shape.Value β) (r : z.Reader) :
    (C.readShape z read fresh shape old r).map (Prod.map (shape.abstract f) id) =
      Cpp.readShape z read' fresh' shape old' r := by
  cases shape with
  | one => exact h old old' r
  | array size pos =>
      have heach := readEach_map h old.1 old'.1 (old.2.trans old'.2.symm) r
      have hinjective : Function.Injective (Prod.map Subtype.val id :
          { ys : List β // ys.length = size } × z.Reader → List β × z.Reader) :=
        Subtype.val_injective.prodMap Function.injective_id
      refine Option.map_injective hinjective ?_
      simp only [C.readShape, Cpp.readShape, Option.map_map]
      exact heach
  | sequence maximumSize =>
      rw [C.readShape, Cpp.readShape, Option.map_bind]
      refine congrArg _ (funext fun (size, r) => ?_)
      have heach := readEach_map h (List.replicate size.toNat fresh)
        (Cpp.resize fresh' size.toNat old') (by simp) r
      dsimp only [Function.comp_apply]
      split_ifs
      · rfl
      · rfl
      · refine Eq.trans ?_ heach
        rw [Option.map_map]
        refine congrArg (Option.map · _) (funext fun (xs, r) => ?_)
        simp [Shape.abstract]

/-- Reads that agree up to `f`, with continuations that agree up to `g`. -/
theorem map_bind_of_map_eq {ρ α α' β β' : Type} {x : Option (α × ρ)} {x' : Option (α' × ρ)}
    {next : α × ρ → Option (β × ρ)} {next' : α' × ρ → Option (β' × ρ)} {f : α → α'} {g : β → β'}
    (h : x.map (Prod.map f id) = x')
    (hnext : ∀ v r, (next (v, r)).map (Prod.map g id) = next' (f v, r)) :
    (x.bind next).map (Prod.map g id) = x'.bind next' := by
  subst h
  cases x with
  | none => rfl
  | some p => exact hnext p.1 p.2

mutual

theorem c_readValue (runtime : C.Runtime)
    (fresh' : (type : ElementType) → type.Value) :
    (type : ElementType) → (old : type.CValue) → (old' : type.Value) → (r : z.Reader) →
      (C.readValue z runtime type old r).map (Prod.map type.abstract id) =
        Cpp.readValue z fresh' type old' r
  | .basic type, _, _, r => congrFun Option.map_id (z.read (.prim type.primitive) r)
  | .string maximumSize, _, _, r => c_readString runtime maximumSize r
  | .wstring maximumSize, _, _, r => c_readWString runtime maximumSize r
  | .namespaced members, old, old', r => c_deserializeMembers runtime fresh' members old old' r

theorem c_deserializeMembers (runtime : C.Runtime)
    (fresh' : (type : ElementType) → type.Value) :
    (members : Members) → (old : members.CValue) → (old' : members.Value) → (r : z.Reader) →
      (C.deserializeMembers z runtime members old r).map (Prod.map members.abstract id) =
        Cpp.deserializeMembers z fresh' members old' r
  | .last _ _ shape type, old, old', r =>
      c_readShape (c_readValue runtime fresh' type) (runtime.fresh type) (fresh' type) shape old
        old' r
  | .cons _ _ shape type rest, (old, olds), (old', olds'), r => by
      have hshape := c_readShape (c_readValue runtime fresh' type) (runtime.fresh type)
        (fresh' type) shape old old' r
      refine map_bind_of_map_eq hshape fun v r => ?_
      have hrest := c_deserializeMembers runtime fresh' rest olds olds' r
      have hpair := congrArg (Option.map (Prod.map (shape.abstract type.abstract v, ·) id)) hrest
      rw [Option.map_map] at hpair ⊢
      exact hpair

end

/-! ## Agreement -/

/-- The codes of the two generators agree: they write the same bytes and key
bytes for one value, and they read the same value from any payload. -/
theorem generators_agree (runtime : C.Runtime)
    (fresh' : (type : ElementType) → type.Value) (members : Members) :
    (∀ v, ∃ message, members.abstract message = v) ∧
    (∀ message w, C.serialize z members message w =
      Cpp.serialize z members (members.abstract message) w) ∧
    (∀ message w, C.serializeMembers z members true message w =
      Cpp.serializeMembers z members true (members.abstract message) w) ∧
    (∀ message, C.computeKeyHash z members message =
      Cpp.computeKeyHash z members (members.abstract message)) ∧
    (∀ payload old old',
      ((z.readerInit payload).bind (C.deserialize z runtime members old)).map
          (Prod.map members.abstract id) =
        (z.readerInit payload).bind (Cpp.deserialize z fresh' members old')) := by
  refine ⟨members.exists_abstract, ?_, c_serializeMembers members true, ?_, ?_⟩
  · intro message w
    rw [C.serialize, Cpp.serialize, funext (c_serializeMembers members false message)]
  · intro message
    simp only [C.computeKeyHash, Cpp.computeKeyHash, c_serializeMembers]
  · intro payload old old'
    rw [Option.map_bind]
    refine congrArg _ (funext fun r => ?_)
    rw [Function.comp_apply, C.deserialize, Cpp.deserialize]
    split
    · rfl
    · exact c_deserializeMembers runtime fresh' members old old' r

end RmwZzdds.Codec
