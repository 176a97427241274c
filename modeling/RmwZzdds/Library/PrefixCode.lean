import RmwZzdds.Library.ByteStream

/-!
# Telling data apart

The encodings of one kind at one place are *prefix-free* if none of them begins
another.  `Tells` says of values whose data are written that they can be told
apart by the bytes: if these agree the values are the same, whatever comes behind
them.  It has a rule for one datum, for data behind others, and for lists of one
length.
-/

namespace ByteStream

variable {κ : Type} {V : κ → Type} {μ : Type} {s : ByteStream κ V μ} {α β : Type}

/-- What is written at one place differs for different data of one kind. -/
def PrefixFree (s : ByteStream κ V μ) : Prop :=
  ∀ ⦃k : κ⦄ ⦃v v' : V k⦄ ⦃w w1 w2 : s.Writer⦄ ⦃rest rest' : List UInt8⦄,
    s.write k v w = some w1 → s.write k v' w = some w2 →
      s.chunk w k v ++ rest = s.chunk w k v' ++ rest' → v = v'

/-- What is written at one place differs for values that are not the same. -/
def Tells (s : ByteStream κ V μ) (p : α → Prop) (same : α → α → Prop)
    (data : α → List ((k : κ) × V k)) : Prop :=
  ∀ ⦃x y : α⦄ ⦃w w1 w2 : s.Writer⦄ ⦃rest rest' : List UInt8⦄, p x → p y →
    s.writeAll (data x) w = some w1 → s.writeAll (data y) w = some w2 →
      s.chunks w (data x) ++ rest = s.chunks w (data y) ++ rest' → same x y

namespace Tells

variable {p : α → Prop} {q : β → Prop} {same : α → α → Prop} {same' : β → β → Prop}
  {data : α → List ((k : κ) × V k)} {data' : β → List ((k : κ) × V k)}

theorem one (hs : s.PrefixFree) (k : κ) {p : V k → Prop} :
    s.Tells p (· = ·) fun v => [⟨k, v⟩] := by
  intro v v' w w1 w2 rest rest' _ _ hwrite hwrite' hbytes
  simp only [writeAll, Option.bind_eq_some_iff, Option.some.injEq, exists_eq_right]
    at hwrite hwrite'
  have hchunks : ∀ v : V k, s.chunks w [⟨k, v⟩] = s.chunk w k v := fun _ => List.append_nil _
  rw [hchunks, hchunks] at hbytes
  exact hs hwrite hwrite' hbytes

/-- Values without data. -/
theorem nil (h : ∀ x y, same x y) : s.Tells p same fun _ => [] :=
  fun _ _ _ _ _ _ _ _ _ _ _ _ => h _ _

/-- One value behind another. -/
theorem append (hs : s.Lawful) (h : s.Tells p same data) (h' : s.Tells q same' data')
    (hsame : ∀ x y, same x y → data x = data y) :
    s.Tells (fun v : α × β => p v.1 ∧ q v.2) (fun v v' => same v.1 v'.1 ∧ same' v.2 v'.2)
      fun v => data v.1 ++ data' v.2 := by
  rintro ⟨x, x'⟩ ⟨y, y'⟩ w w1 w2 rest rest' ⟨hx, hx'⟩ ⟨hy, hy'⟩ hwrite hwrite' hbytes
  rw [writeAll_append, Option.bind_eq_some_iff] at hwrite hwrite'
  obtain ⟨wx, hwx, hwx'⟩ := hwrite
  obtain ⟨wy, hwy, hwy'⟩ := hwrite'
  rw [hs.chunks_append hwx, hs.chunks_append hwy, List.append_assoc, List.append_assoc] at hbytes
  have hfirst := h hx hy hwx hwy hbytes
  -- what is written behind the same data starts at one place
  have hdata := hsame x y hfirst
  rw [hdata] at hwx hbytes
  obtain rfl := Option.some.inj (hwx.symm.trans hwy)
  exact ⟨hfirst, h' hx' hy' hwx' hwy' (List.append_cancel_left hbytes)⟩

/-- Lists of one length. -/
theorem each (hs : s.Lawful) (h : s.Tells p (· = ·) data) {xs ys : List α}
    (hlength : xs.length = ys.length) (hxs : ∀ x ∈ xs, p x) (hys : ∀ y ∈ ys, p y)
    {w w1 w2 : s.Writer} {rest rest' : List UInt8}
    (hwrite : s.writeAll (xs.flatMap data) w = some w1)
    (hwrite' : s.writeAll (ys.flatMap data) w = some w2)
    (hbytes : s.chunks w (xs.flatMap data) ++ rest = s.chunks w (ys.flatMap data) ++ rest') :
    xs = ys := by
  induction xs generalizing ys w with
  | nil => exact (List.length_eq_zero_iff.mp hlength.symm).symm
  | cons x xs ih =>
      cases ys with
      | nil => cases hlength
      | cons y ys =>
          rw [List.flatMap_cons, writeAll_append, Option.bind_eq_some_iff] at hwrite hwrite'
          obtain ⟨wx, hwx, hwx'⟩ := hwrite
          obtain ⟨wy, hwy, hwy'⟩ := hwrite'
          rw [List.flatMap_cons, List.flatMap_cons, hs.chunks_append hwx, hs.chunks_append hwy,
            List.append_assoc, List.append_assoc] at hbytes
          obtain rfl := h (hxs x List.mem_cons_self) (hys y List.mem_cons_self) hwx hwy hbytes
          obtain rfl := Option.some.inj (hwx.symm.trans hwy)
          rw [ih (Nat.succ.inj hlength) (fun z hz => hxs z (List.mem_cons_of_mem x hz))
            (fun z hz => hys z (List.mem_cons_of_mem x hz)) hwx' hwy'
            (List.append_cancel_left hbytes)]

end Tells

end ByteStream
