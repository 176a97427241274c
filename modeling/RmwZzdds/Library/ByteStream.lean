import Mathlib.Data.List.Basic
import Mathlib.Logic.Basic

/-!
# Typed byte streams

A stream writes and reads data of several kinds.  How a datum is encoded may
depend on the mode of the stream, such as its byte order, and on the offset it
is written at, so the encodings of a list of data have to be laid out one after
the other (`encodeAll`).

*Writers.*  `Writes write p ds` says that `write` succeeds just when `p` holds
and the data `ds` can be written, and then writes them.

*Readers.*  A reader *follows* a writer if it stands where the writer did.
`ReadsBack read ds x` says that `read` finds `x` in the encoding of the data
`ds` wherever they have been written, and leaves what comes after them.

Both have a rule for one datum, for one code after the other, and for a loop.
-/

/-- The operations of a stream, with what can be observed of its writers and
readers. -/
structure ByteStream (κ : Type) (V : κ → Type) (μ : Type) where
  Writer : Type
  Reader : Type
  write : (k : κ) → V k → Writer → Option Writer
  read : (k : κ) → Reader → Option (V k × Reader)
  buf : Writer → List UInt8
  writerMode : Writer → μ
  writerOffset : Writer → Nat
  unread : Reader → List UInt8
  readerMode : Reader → μ
  readerOffset : Reader → Nat
  encode : μ → Nat → (k : κ) → V k → List UInt8

namespace ByteStream

variable {κ : Type} {V : κ → Type} {μ : Type} (s : ByteStream κ V μ)

/-- The reader stands where the writer does, with these bytes before it. -/
structure Follows (r : s.Reader) (w : s.Writer) (bytes : List UInt8) : Prop where
  mode : s.readerMode r = s.writerMode w
  offset : s.readerOffset r = s.writerOffset w
  unread : s.unread r = bytes

/-- The encoding of a datum at the place of a writer. -/
def chunk (w : s.Writer) (k : κ) (v : V k) : List UInt8 :=
  s.encode (s.writerMode w) (s.writerOffset w) k v

/-- A successful write appends an encoding, and a read at its place inverts
it. -/
structure Lawful : Prop where
  chunk_ne_nil : ∀ w k v, s.chunk w k v ≠ []
  write_buf : ∀ {k v w w'}, s.write k v w = some w' → s.buf w' = s.buf w ++ s.chunk w k v
  write_mode : ∀ {k v w w'}, s.write k v w = some w' → s.writerMode w' = s.writerMode w
  write_offset : ∀ {k v w w'}, s.write k v w = some w' →
    s.writerOffset w' = s.writerOffset w + (s.chunk w k v).length
  read_written : ∀ {k v w w' r rest}, s.write k v w = some w' →
    s.Follows r w (s.chunk w k v ++ rest) → ∃ r', s.read k r = some (v, r') ∧ s.Follows r' w' rest

/-- Write data one after the other. -/
def writeAll : List ((k : κ) × V k) → s.Writer → Option s.Writer
  | [], w => some w
  | ⟨k, v⟩ :: ds, w => (s.write k v w).bind (writeAll ds)

/-- The encodings of data laid out from an offset on. -/
def encodeAll (m : μ) : Nat → List ((k : κ) × V k) → List UInt8
  | _, [] => []
  | n, ⟨k, v⟩ :: ds => s.encode m n k v ++ encodeAll m (n + (s.encode m n k v).length) ds

/-- The encodings of data at the place of a writer. -/
def chunks (w : s.Writer) (ds : List ((k : κ) × V k)) : List UInt8 :=
  s.encodeAll (s.writerMode w) (s.writerOffset w) ds

variable {s}

theorem writeAll_append (ds es : List ((k : κ) × V k)) (w : s.Writer) :
    s.writeAll (ds ++ es) w = (s.writeAll ds w).bind (s.writeAll es) := by
  induction ds generalizing w with
  | nil => rfl
  | cons d ds ih =>
      obtain ⟨k, v⟩ := d
      simp only [List.cons_append, writeAll, Option.bind_assoc]
      exact congrArg _ (funext ih)

/-! ## Layout -/

section

variable {ds es : List ((k : κ) × V k)} {w w' : s.Writer}

theorem Lawful.chunks_cons (hs : s.Lawful) {k : κ} {v : V k} (h : s.write k v w = some w') :
    s.chunks w (⟨k, v⟩ :: ds) = s.chunk w k v ++ s.chunks w' ds := by
  rw [chunks, chunks, encodeAll, hs.write_mode h, hs.write_offset h]
  rfl

theorem Lawful.chunks_append (hs : s.Lawful) (h : s.writeAll ds w = some w') :
    s.chunks w (ds ++ es) = s.chunks w ds ++ s.chunks w' es := by
  induction ds generalizing w with
  | nil =>
      cases h
      rfl
  | cons d ds ih =>
      obtain ⟨k, v⟩ := d
      rw [writeAll, Option.bind_eq_some_iff] at h
      obtain ⟨w1, h1, h2⟩ := h
      rw [List.cons_append, hs.chunks_cons h1, hs.chunks_cons h1, ih h2, List.append_assoc]

/-- What has been written is in the buffer. -/
theorem Lawful.writeAll_buf (hs : s.Lawful) (h : s.writeAll ds w = some w') :
    s.buf w' = s.buf w ++ s.chunks w ds := by
  induction ds generalizing w with
  | nil =>
      cases h
      simp [chunks, encodeAll]
  | cons d ds ih =>
      obtain ⟨k, v⟩ := d
      rw [writeAll, Option.bind_eq_some_iff] at h
      obtain ⟨w1, h1, h2⟩ := h
      rw [ih h2, hs.write_buf h1, hs.chunks_cons h1, List.append_assoc]

/-- Every datum takes at least one byte. -/
theorem Lawful.length_le_chunks (hs : s.Lawful) (h : s.writeAll ds w = some w') :
    ds.length ≤ (s.chunks w ds).length := by
  induction ds generalizing w with
  | nil => exact Nat.zero_le _
  | cons d ds ih =>
      obtain ⟨k, v⟩ := d
      rw [writeAll, Option.bind_eq_some_iff] at h
      obtain ⟨w1, h1, h2⟩ := h
      have hpos : 0 < (s.chunk w k v).length := List.length_pos_iff.mpr (hs.chunk_ne_nil w k v)
      have := ih h2
      rw [hs.chunks_cons h1, List.length_append, List.length_cons]
      omega

end

/-! ## Writing code -/

section

variable {α : Type}

/-- The code succeeds just when `p` holds and the data can be written, and
writes them. -/
def Writes (s : ByteStream κ V μ) (write : s.Writer → Option s.Writer) (p : Prop)
    (ds : List ((k : κ) × V k)) : Prop :=
  ∀ w w', write w = some w' ↔ p ∧ s.writeAll ds w = some w'

theorem Writes.one (k : κ) (v : V k) : s.Writes (s.write k v) True [⟨k, v⟩] := by
  intro w w'
  simp [writeAll]

theorem Writes.congr {write : s.Writer → Option s.Writer} {p q : Prop}
    {ds es : List ((k : κ) × V k)} (h : s.Writes write p ds) (hpq : p ↔ q)
    (hds : q → ds = es) : s.Writes write q es := by
  intro w w'
  rw [h w w', hpq]
  exact and_congr_right fun hq => by rw [hds hq]

/-- A check before the code. -/
theorem Writes.guard {write : s.Writer → Option s.Writer} {p q : Prop} [Decidable q]
    {ds : List ((k : κ) × V k)} (h : s.Writes write p ds) :
    s.Writes (fun w => if q then none else write w) (¬ q ∧ p) ds := by
  intro w w'
  by_cases hq : q
  · simp [hq]
  · simp [hq, h w w']

/-- One code after the other. -/
theorem Writes.bind {write write' : s.Writer → Option s.Writer} {p q : Prop}
    {ds es : List ((k : κ) × V k)} (h : s.Writes write p ds) (h' : s.Writes write' q es) :
    s.Writes (fun w => (write w).bind write') (p ∧ q) (ds ++ es) := by
  intro w w'
  simp only [Option.bind_eq_some_iff, writeAll_append, h w, h' _ w']
  constructor
  · rintro ⟨w1, ⟨hp, h1⟩, hq, h2⟩
    exact ⟨⟨hp, hq⟩, w1, h1, h2⟩
  · rintro ⟨⟨hp, hq⟩, w1, h1, h2⟩
    exact ⟨w1, ⟨hp, h1⟩, hq, h2⟩

/-- A loop over the elements of a list. -/
theorem Writes.each {write : α → s.Writer → Option s.Writer} {p : α → Prop}
    {data : α → List ((k : κ) × V k)} (h : ∀ x, s.Writes (write x) (p x) (data x))
    (xs : List α) :
    s.Writes (fun w => xs.foldlM (fun w x => write x w) w) (∀ x ∈ xs, p x)
      (xs.flatMap data) := by
  induction xs with
  | nil =>
      intro w w'
      simp [writeAll]
  | cons x xs ih =>
      refine ((h x).bind ih).congr ?_ fun _ => rfl
      simp

end

/-! ## Reading code -/

section

variable {α β : Type}

/-- The code finds `x` in the encoding of the data, wherever it is. -/
def ReadsBack (s : ByteStream κ V μ) (read : s.Reader → Option (α × s.Reader))
    (ds : List ((k : κ) × V k)) (x : α) : Prop :=
  ∀ w w' r rest, s.writeAll ds w = some w' → s.Follows r w (s.chunks w ds ++ rest) →
    ∃ r', read r = some (x, r') ∧ s.Follows r' w' rest

theorem ReadsBack.one (hs : s.Lawful) (k : κ) (v : V k) :
    s.ReadsBack (s.read k) [⟨k, v⟩] v := by
  intro w w' r rest hwrite hr
  simp only [writeAll, Option.bind_eq_some_iff, Option.some.injEq, exists_eq_right] at hwrite
  have hchunks : s.chunks w [⟨k, v⟩] = s.chunk w k v := List.append_nil _
  rw [hchunks] at hr
  exact hs.read_written hwrite hr

/-- Code that reads nothing. -/
theorem ReadsBack.pure (x : α) : s.ReadsBack (fun r => some (x, r)) [] x := by
  intro w w' r rest hwrite hr
  cases hwrite
  exact ⟨r, rfl, hr⟩

/-- One code after the other. -/
theorem ReadsBack.bind (hs : s.Lawful) {read : s.Reader → Option (α × s.Reader)}
    {next : α × s.Reader → Option (β × s.Reader)} {d e : List ((k : κ) × V k)} {x : α} {y : β}
    (h : s.ReadsBack read d x) (h' : s.ReadsBack (fun r => next (x, r)) e y) :
    s.ReadsBack (fun r => (read r).bind next) (d ++ e) y := by
  intro w w' r rest hwrite hr
  rw [writeAll_append, Option.bind_eq_some_iff] at hwrite
  obtain ⟨w1, h1, h2⟩ := hwrite
  rw [hs.chunks_append h1, List.append_assoc] at hr
  obtain ⟨r1, hread, hr1⟩ := h w w1 r _ h1 hr
  obtain ⟨r2, hnext, hr2⟩ := h' w1 w' r1 rest h2 hr1
  exact ⟨r2, by simp [hread, hnext], hr2⟩

/-- The result of the code, put into another shape. -/
theorem ReadsBack.map {read : s.Reader → Option (α × s.Reader)}
    {ds : List ((k : κ) × V k)} {x : α} (h : s.ReadsBack read ds x) (f : α → β) :
    s.ReadsBack (fun r => (read r).map fun (x, r) => (f x, r)) ds (f x) := by
  intro w w' r rest hwrite hr
  obtain ⟨r', hread, hr'⟩ := h w w' r rest hwrite hr
  exact ⟨r', by simp [hread], hr'⟩

/-- A check before the code that passes at every reader with the encoding
before it. -/
theorem ReadsBack.guard {read : s.Reader → Option (α × s.Reader)}
    {ds : List ((k : κ) × V k)} {x : α} {q : s.Reader → Prop} [DecidablePred q]
    (h : s.ReadsBack read ds x)
    (hq : ∀ w w' r rest, s.writeAll ds w = some w' → s.Follows r w (s.chunks w ds ++ rest) →
      ¬ q r) :
    s.ReadsBack (fun r => if q r then none else read r) ds x := by
  intro w w' r rest hwrite hr
  show ∃ r', (if q r then none else read r) = some (x, r') ∧ s.Follows r' w' rest
  rw [if_neg (hq w w' r rest hwrite hr)]
  exact h w w' r rest hwrite hr

/-- Read into the elements of a list, one after the other. -/
def readEach {ρ : Type} (read : α → ρ → Option (β × ρ)) :
    (olds : List α) → ρ → Option ({ xs : List β // xs.length = olds.length } × ρ)
  | [], r => some (⟨[], rfl⟩, r)
  | old :: olds, r =>
      (read old r).bind fun (x, r) =>
        (readEach read olds r).map fun (xs, r) => (⟨x :: xs.1, congrArg (· + 1) xs.2⟩, r)

/-- Two loops over lists of one length, whose bodies agree up to `f` whatever
the elements were. -/
theorem readEach_map {ρ α' β' : Type} {read : α → ρ → Option (β × ρ)}
    {read' : α' → ρ → Option (β' × ρ)} {f : β → β'}
    (h : ∀ old old' r, (read old r).map (Prod.map f id) = read' old' r) (olds : List α)
    (olds' : List α') (hlen : olds.length = olds'.length) (r : ρ) :
    (readEach read olds r).map (Prod.map (fun xs => xs.1.map f) id) =
      (readEach read' olds' r).map (Prod.map Subtype.val id) := by
  induction olds generalizing olds' r with
  | nil =>
      obtain rfl := List.length_eq_zero_iff.mp hlen.symm
      rfl
  | cons old olds ih =>
      cases olds' with
      | nil => cases hlen
      | cons old' olds' =>
          rw [readEach, readEach, ← h old old' r]
          cases read old r with
          | none => rfl
          | some p =>
              obtain ⟨x, r⟩ := p
              have hcons := congrArg (Option.map (Prod.map (f x :: ·) id))
                (ih olds' (Nat.succ.inj hlen) r)
              simpa [Option.map_map, Function.comp_def, Prod.map] using hcons

/-- A loop that reads an element of the list in every turn. -/
theorem ReadsBack.each (hs : s.Lawful) {read : α → s.Reader → Option (β × s.Reader)}
    {data : β → List ((k : κ) × V k)} {xs : List β}
    (h : ∀ old, ∀ x ∈ xs, s.ReadsBack (read old) (data x) x) (olds : List α)
    (hlen : xs.length = olds.length) :
    s.ReadsBack (readEach read olds) (xs.flatMap data) ⟨xs, hlen⟩ := by
  induction xs generalizing olds with
  | nil =>
      obtain rfl := List.length_eq_zero_iff.mp hlen.symm
      exact .pure _
  | cons x xs ih =>
      cases olds with
      | nil => cases hlen
      | cons old olds =>
          have hrest := ih (fun old y hy => h old y (List.mem_cons_of_mem _ hy)) olds
            (Nat.succ.inj hlen)
          let cons (ys : { ys : List β // ys.length = olds.length }) :
              { ys : List β // ys.length = (old :: olds).length } :=
            ⟨x :: ys.1, congrArg (· + 1) ys.2⟩
          exact (h old x List.mem_cons_self).bind hs (hrest.map cons)

end

end ByteStream
