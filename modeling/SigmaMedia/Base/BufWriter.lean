import SigmaMedia.Base.Bytes

/-!
# Buffered Writing into a Fixed Slice

`BufWriter<&mut [u8]>`: writes collect in an internal buffer and reach the
slice when the buffer is flushed, or at once when they are too large to be
buffered.

Three things about it matter to a caller that looks at `buffer()` before
flushing. The buffer holds what was written since the last flush, so a write
that goes straight to the slice is not in it. A direct write stores as much
as fits and reports that count, which is not an error. A flush that does not
fit is one.

`write_of_small` and `flush_of_fits` are the ordinary case; the other lemmas
say what happens outside it.

## Main definitions

* `IoError`: The one error a slice can report.
* `BufWriter`: The state of the writer.
* `write`, `flush`: The two operations.
* `filled`: What the slice holds afterwards.

## Theorems

* `write_of_small`: A short write is buffered.
* `write_of_large`: A write of the whole capacity or more bypasses the buffer.
* `flush_of_fits`, `flush_of_overflow`: A flush succeeds exactly when it fits.
-/

namespace SigmaMedia

/-- `ErrorKind::WriteZero`: no room was left. -/
inductive IoError where
  | writeZero
  deriving DecidableEq, Repr

/-- A buffered writer over a slice. -/
structure BufWriter where
  /-- Bytes written and not yet flushed. -/
  buffer : Bytes
  /-- Bytes already stored at the front of the slice. -/
  stored : Bytes
  /-- Length of the slice behind them. -/
  room : Nat
  deriving DecidableEq

namespace BufWriter

/-- The default capacity of the internal buffer. -/
def capacity : Nat := 8192

/-- `BufWriter::new` over a slice of the given length. -/
def new (length : Nat) : BufWriter := { buffer := [], stored := [], room := length }

/-- What the slice accepts of `bytes`: as much as fits. -/
def store (w : BufWriter) (bytes : Bytes) : BufWriter :=
  { w with stored := w.stored ++ bytes.take w.room, room := w.room - bytes.length }

/-- Empty the buffer into the slice. Stopping short is an error. -/
def flush (w : BufWriter) : Except IoError BufWriter :=
  if w.buffer.length ≤ w.room then .ok { w.store w.buffer with buffer := [] }
  else .error .writeZero

/-- `Write::write`: buffer the bytes, flushing first when they do not fit
    beside what is buffered, and bypassing the buffer when they would fill
    it. -/
def write (w : BufWriter) (bytes : Bytes) : Except IoError BufWriter :=
  if bytes.length < capacity - w.buffer.length then
    .ok { w with buffer := w.buffer ++ bytes }
  else do
    let w ← if capacity - w.buffer.length < bytes.length then w.flush else .ok w
    if capacity ≤ bytes.length then .ok (w.store bytes)
    else .ok { w with buffer := w.buffer ++ bytes }

/-- The slice afterwards: what was stored, then what it held before. -/
def filled (w : BufWriter) (slice : Bytes) : Bytes := w.stored ++ slice.drop w.stored.length

theorem write_of_small {w : BufWriter} {bytes : Bytes}
    (h : w.buffer.length + bytes.length < capacity) :
    w.write bytes = .ok { w with buffer := w.buffer ++ bytes } := by
  rw [write, if_pos (by omega)]

/-- A write of the whole capacity or more flushes and then bypasses the
    buffer, storing what fits. -/
theorem write_of_large {w w₁ : BufWriter} {bytes : Bytes} (hne : 0 < w.buffer.length)
    (h : capacity ≤ bytes.length) (hf : w.flush = .ok w₁) :
    w.write bytes = .ok (w₁.store bytes) := by
  have hcap : capacity = 8192 := rfl
  rw [write, if_neg (by omega), if_pos (by omega), hf]
  exact if_pos h

/-- A write that exactly fills the buffer stays in it. -/
theorem write_of_exact {w : BufWriter} {bytes : Bytes} (hne : 0 < w.buffer.length)
    (h : w.buffer.length + bytes.length = capacity) :
    w.write bytes = .ok { w with buffer := w.buffer ++ bytes } := by
  rw [write, if_neg (by omega), if_neg (by omega)]
  exact if_neg (by omega)

theorem flush_of_fits {w : BufWriter} (h : w.buffer.length ≤ w.room) :
    w.flush = .ok ⟨[], w.stored ++ w.buffer, w.room - w.buffer.length⟩ := by
  rw [flush, if_pos h, store, List.take_of_length_le h]

theorem flush_of_overflow {w : BufWriter} (h : w.room < w.buffer.length) :
    w.flush = .error .writeZero := by
  rw [flush, if_neg (by omega)]

end BufWriter

end SigmaMedia
