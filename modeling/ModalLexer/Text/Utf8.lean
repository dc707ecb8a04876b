import ModalLexer.Unicode.Ranges
/-!
# UTF-8

The bytes of a code point, and the bytes of a whole range of them.  A range splits into *blocks* whose members have their
leading bytes in common as ranges and run through all the values of the others, so a block is written by one range of
bytes for each place (`sequences`).  The blocks come in the order of the code points and cover the range, save the
surrogates, which have no bytes.
-/
namespace ModalLexer
namespace Utf8

open Unicode (CodeRange Ranges)

structure ByteRange where
  first : Nat
  last : Nat
  deriving DecidableEq, Repr

/-- The bytes of a code point. -/
def encode (n : Nat) : List Nat :=
  if n < 0x80 then [n]
  else if n < 0x800 then [0xc0 + n / 0x40, 0x80 + n % 0x40]
  else if n < 0x10000 then [0xe0 + n / 0x1000, 0x80 + n / 0x40 % 0x40, 0x80 + n % 0x40]
  else [0xf0 + n / 0x40000, 0x80 + n / 0x1000 % 0x40, 0x80 + n / 0x40 % 0x40, 0x80 + n % 0x40]

/-- The code points that take the same number of bytes, without the surrogates. -/
def zones : Ranges := [⟨0, 0x7f⟩, ⟨0x80, 0x7ff⟩, ⟨0x800, 0xd7ff⟩, ⟨0xe000, 0xffff⟩, ⟨0x10000, 0x10ffff⟩]

/-- The parts of a range in the zones. -/
def zoned (r : CodeRange) : Ranges :=
  zones.filterMap fun z =>
    let first := max r.first z.first
    let last := min r.last z.last
    if first ≤ last then some ⟨first, last⟩ else none

/-- Cuts a range at multiples of the sizes, given from the least, until what is left of it starts and ends with one. -/
def blocks : (sizes : List Nat) → CodeRange → Ranges
  | [], r => [r]
  | m :: ms, r =>
    if r.first / m = r.last / m then [r]
    else
      let cutFirst := r.first % m ≠ 0
      let cutLast := r.last % m ≠ m - 1
      let first := if cutFirst then (r.first / m + 1) * m else r.first
      let stop := if cutLast then r.last / m * m else r.last + 1
      (if cutFirst then [⟨r.first, first - 1⟩] else []) ++
        (if first < stop then blocks ms ⟨first, stop - 1⟩ else []) ++
        (if cutLast then [⟨stop, r.last⟩] else [])

/-- The bytes of a block, place by place. -/
def bytesOf (r : CodeRange) : List ByteRange := (encode r.first).zipWith (⟨·, ·⟩) (encode r.last)

/-- The byte sequences of a range, in increasing order.  Where a code point takes one byte there is nothing to cut. -/
def sequences (r : CodeRange) : List (List ByteRange) :=
  (zoned r).flatMap fun z => (blocks (if z.last < 0x80 then [] else [0x40, 0x1000, 0x40000]) z).map bytesOf

end Utf8
end ModalLexer
