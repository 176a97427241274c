import RmwZzdds.Codec.Agreement
import RmwZzdds.Serialization

/-!
# Generated type supports

The callbacks of a message type support run the code that one of the two
generators makes.  What they read from a payload does not depend on what the
target held (`TypeSupport.deserialize_value`).
-/

namespace RmwZzdds.Codec

variable {z : ZidlCdr}

/-- The language of the generated code. -/
inductive Language where
  | c
  | cpp

namespace Language

/-- What the generated code has besides `zidl`.  In C++ that is the value of an
initialized element. -/
abbrev Runtime : Language → Type
  | c => C.Runtime
  | cpp => (type : ElementType) → type.Value

abbrev Message (members : Members) : Language → Type
  | c => members.CValue
  | cpp => members.Value

/-- The value of a message. -/
def value (members : Members) : (language : Language) → language.Message members → members.Value
  | c, message => members.abstract message
  | cpp, message => message

/-- `deserialize_` of a message. -/
def deserialize (z : ZidlCdr) (members : Members) : (language : Language) →
    language.Runtime → language.Message members → z.Reader →
      Option (language.Message members × z.Reader)
  | c, runtime => C.deserialize z runtime members
  | cpp, fresh => Cpp.deserialize z fresh members

end Language

/-- A type support whose `deserialize` runs the generated code.  What a failed
call leaves in the message is not said. -/
structure TypeSupport (z : ZidlCdr) (language : Language) (members : Members) extends
    Callbacks (language.Message members) where
  runtime : language.Runtime
  deserialize_eq : ∀ payload r old, z.readerInit payload = some r →
    match language.deserialize z members runtime old r with
    | some (new, _) => toCallbacks.deserialize payload old = (true, new)
    | none => (toCallbacks.deserialize payload old).1 = false

/-- The generated code between other callbacks.  A message it cannot read stays as
it was. -/
def TypeSupport.ofCode {language : Language} {members : Members}
    (runtime : language.Runtime)
    (callbacks : Callbacks (language.Message members)) : TypeSupport z language members where
  toCallbacks :=
    { callbacks with
      deserialize := fun payload old =>
        match (z.readerInit payload).bind (language.deserialize z members runtime old) with
        | some (new, _) => (true, new)
        | none => (false, old) }
  runtime := runtime
  deserialize_eq := by
    intro payload r old hr
    simp only [hr, Option.bind_some]
    cases language.deserialize z members runtime old r with
    | none => rfl
    | some new => rfl

theorem c_deserialize (runtime : C.Runtime)
    (fresh' : (type : ElementType) → type.Value) (members : Members) (old : members.CValue)
    (old' : members.Value) (r : z.Reader) :
    (C.deserialize z runtime members old r).map (Prod.map members.abstract id) =
      Cpp.deserialize z fresh' members old' r := by
  rw [C.deserialize, Cpp.deserialize]
  split
  · rfl
  · exact c_deserializeMembers runtime fresh' members old old' r

/-- The generated code overwrites every member of its target. -/
theorem deserialize_value (members : Members) :
    (language : Language) → (runtime : language.Runtime) →
      (old old' : language.Message members) → (r : z.Reader) →
      (language.deserialize z members runtime old r).map (Prod.map (language.value members) id) =
        (language.deserialize z members runtime old' r).map (Prod.map (language.value members) id)
  | .c, runtime, old, old', r => by
      let fresh (type : ElementType) : type.Value := type.abstract (runtime.fresh type)
      exact (c_deserialize runtime fresh members old (members.abstract old) r).trans
        (c_deserialize runtime fresh members old' (members.abstract old) r).symm
  | .cpp, fresh, old, old', r => by
      -- Both read what the C code reads into some structure.
      obtain ⟨message, -⟩ := members.exists_abstract old
      let runtime : C.Runtime :=
        .ofFresh fun type => (type.exists_abstract (fresh type)).choose
      exact congrArg _ ((c_deserialize runtime fresh members message old r).symm.trans
        (c_deserialize runtime fresh members message old' r))

/-- Success and the value read depend on the payload only. -/
theorem TypeSupport.deserialize_value {language : Language} {members : Members}
    (support : TypeSupport z language members) {payload : List UInt8}
    (hinit : (z.readerInit payload).isSome = true) (old old' : language.Message members) :
    (support.deserialize payload old).1 = (support.deserialize payload old').1 ∧
      ((support.deserialize payload old).1 = true →
        language.value members (support.deserialize payload old).2 =
          language.value members (support.deserialize payload old').2) := by
  obtain ⟨r, hr⟩ := Option.isSome_iff_exists.mp hinit
  have hold := support.deserialize_eq payload r old hr
  have hold' := support.deserialize_eq payload r old' hr
  have hvalue := Codec.deserialize_value members language support.runtime old old' r
  cases hread : language.deserialize z members support.runtime old r with
  | none =>
      rw [hread] at hold hvalue
      have hread' := Option.map_eq_none_iff.mp hvalue.symm
      rw [hread'] at hold'
      exact ⟨hold.trans hold'.symm, fun htrue => absurd (hold.symm.trans htrue) Bool.false_ne_true⟩
  | some new =>
      rw [hread] at hold hvalue
      obtain ⟨new', hread', hsame⟩ := Option.map_eq_some_iff.mp hvalue.symm
      rw [hread'] at hold'
      rw [hold, hold']
      exact ⟨rfl, fun _ => (congrArg Prod.fst hsame).symm⟩

end RmwZzdds.Codec
