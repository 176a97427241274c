import RmwZzdds.Library.ByteStream
import RmwZzdds.Library.Xcdr1

/-!
# zidl_cdr

The generated code reads and writes through the zidl_cdr library, which is a
parameter here.  `Lawful` states what the code relies on: a write appends the
encoding of its datum, a read at the same stream offset inverts it, and a
reader opened on a buffer stands behind the encapsulation header.
-/

namespace RmwZzdds.Codec

open Xcdr1

/-- The operations of zidl_cdr.  `writerInit` makes a writer for `ZIDL_XCDR1`,
and `writerXcdr1` and `readerXcdr1` check `xcdr_version`. -/
structure ZidlCdr extends ByteStream Kind Kind.Value ByteOrder where
  writerInit : Option Writer
  writerXcdr1 : Writer → Bool
  writerSetBigEndian : Writer → Writer
  writeEncap : Writer → Option Writer
  computeKeyHash : List UInt8 → List UInt8
  readerInit : List UInt8 → Option Reader
  readerXcdr1 : Reader → Bool
  remaining : Reader → Nat

/-- Write a message's data behind an encapsulation header. -/
def ZidlCdr.writeMessage (z : ZidlCdr) (ds : List ((k : Kind) × k.Value)) (w : z.Writer) :
    Option z.Writer :=
  (z.writeEncap w).bind (z.writeAll ds)

structure ZidlCdr.Lawful (z : ZidlCdr) : Prop extends z.toByteStream.Lawful where
  remaining_eq : ∀ r, z.remaining r = (z.unread r).length
  encap_read : ∀ {w w'}, z.writerXcdr1 w = true → z.buf w = [] → z.writeEncap w = some w' →
    ∀ rest, ∃ r, z.readerInit (z.buf w' ++ rest) = some r ∧ z.readerXcdr1 r = true ∧
      z.Follows r w' rest

end RmwZzdds.Codec
