import ChannelSdk.Lib.CheckedMemory

/-!
# The growing ring buffer `cycle_buffer`

`core/include/cycle_buffer.h` and `core/src/cycle_buffer.cc`.  The fields are
the source's; its `int32_t` values are integers whose arithmetic is checked,
and `buffer_` is a block of bytes.  A caller's `char*` argument is a block as
well, so a copy past its end is a fault.

Every method runs under the buffer's own mutex.  The model executes one call
at a time, so a wait whose condition is false at the call never ends.
-/

namespace ChannelSdk

open CheckedMemory CircularWindow

structure CycleBuffer where
  /-- read position -/
  rPos : Int
  /-- write position -/
  wPos : Int
  /-- buffer size -/
  n : Int
  remainSpace : Int
  buffer : Bytes
  deriving DecidableEq, Repr

namespace CycleBuffer

/-- The constructor `cycle_buffer(int32_t n)`. -/
def create (n : Int) : Except Fault CycleBuffer := do
  let buffer ← newBlock n
  return { rPos := 0, wPos := 0, n := n, remainSpace := n, buffer := buffer }

def reset (self : CycleBuffer) : CycleBuffer :=
  { self with rPos := 0, wPos := 0, remainSpace := self.n }

def size (self : CycleBuffer) : Except Fault Int :=
  int32 (self.n - self.remainSpace)

def empty (self : CycleBuffer) : Bool :=
  self.n = self.remainSpace

/-- If `length` bytes can be read. -/
def canRead (self : CycleBuffer) (length : Int) : Except Fault Bool := do
  let stored ← int32 (self.n - self.remainSpace)
  return stored ≥ length

/-- Copy `length` bytes to `data` without deleting them. -/
def peek (self : CycleBuffer) (data : Bytes) (length : Int) :
    Except Fault (Int × Bytes) := do
  let stored ← int32 (self.n - self.remainSpace)
  if stored ≥ length then
    if self.rPos ≥ self.wPos then
      let lastStart ← int32 (self.n - length)
      if self.rPos ≤ lastStart then
        let data ← memcpy data 0 self.buffer self.rPos length
        return (length, data)
      else
        let firstN ← int32 (self.n - self.rPos)
        let data ← memcpy data 0 self.buffer self.rPos firstN
        let rest ← int32 (length - firstN)
        let data ← memcpy data firstN self.buffer 0 rest
        return (length, data)
    else
      let data ← memcpy data 0 self.buffer self.rPos length
      return (length, data)
  else
    throw .blocked

/-- `read(char* data, int32_t length)`: move `length` bytes to `data`. -/
def read (self : CycleBuffer) (data : Bytes) (length : Int) :
    Except Fault (Int × Bytes × CycleBuffer) := do
  let stored ← int32 (self.n - self.remainSpace)
  if stored ≥ length then
    if self.rPos ≥ self.wPos then
      let lastStart ← int32 (self.n - length)
      if self.rPos ≤ lastStart then
        let data ← memcpy data 0 self.buffer self.rPos length
        let rPos ← int32 (self.rPos + length)
        let remainSpace ← int32 (self.remainSpace + length)
        return (length, data,
          { self with rPos := rPos, remainSpace := remainSpace })
      else
        let firstN ← int32 (self.n - self.rPos)
        let data ← memcpy data 0 self.buffer self.rPos firstN
        let rest ← int32 (length - firstN)
        let data ← memcpy data firstN self.buffer 0 rest
        let remainSpace ← int32 (self.remainSpace + length)
        return (length, data,
          { self with rPos := rest, remainSpace := remainSpace })
    else
      let data ← memcpy data 0 self.buffer self.rPos length
      let rPos ← int32 (self.rPos + length)
      let remainSpace ← int32 (self.remainSpace + length)
      return (length, data,
        { self with rPos := rPos, remainSpace := remainSpace })
  else
    throw .blocked

/-- The length field of the message at the front, as `can_read()` and
`read(string& id, string& data)` load it.  It may lie across the end of the
ring. -/
def frontLength (self : CycleBuffer) : Except Fault Int := do
  if self.rPos < self.wPos then
    loadInt32 self.buffer self.rPos
  else
    let dataLen := List.replicate 4 0
    if toUInt64 self.rPos ≤ toUInt64 (self.n - 4) then
      let dataLen ← memcpy dataLen 0 self.buffer self.rPos 4
      loadInt32 dataLen 0
    else
      let remainLen ← int32 (self.n - self.rPos)
      let dataLen ← memcpy dataLen 0 self.buffer self.rPos remainLen
      let dataLen ← memcpy dataLen remainLen self.buffer 0 (4 - remainLen)
      loadInt32 dataLen 0

/-- `can_read()`: if a whole message can be read. -/
def canReadIdData (self : CycleBuffer) : Except Fault Bool := do
  let stored ← int32 (self.n - self.remainSpace)
  if toUInt64 stored > 5 then
    let len ← self.frontLength
    return stored ≥ len
  else
    return false

/-- The string `tmp` with the first `len` stored bytes. -/
def copyFront (self : CycleBuffer) (len : Int) : Except Fault Bytes := do
  let tmp ← resize [] len
  if self.rPos < self.wPos then
    memcpy tmp 0 self.buffer self.rPos len
  else
    let behind ← int32 (self.n - self.rPos)
    if behind ≥ len then
      memcpy tmp 0 self.buffer self.rPos len
    else
      let tmp ← memcpy tmp 0 self.buffer self.rPos behind
      let rest ← int32 (len - behind)
      memcpy tmp behind self.buffer 0 rest

/-- The id and the data of the message in `tmp`, which has more than five
bytes. -/
def unpack (tmp : Bytes) (len : Int) (id data : Bytes) :
    Except Fault (Bytes × Bytes) := do
  let len2 : Int := (tmp.getD 4 0).toNat
  let id ← resize id (len2 - 1)
  let id ← memcpy id 0 tmp 5 id.length
  let data ← resize data (len - 4 - len2)
  let data ← memcpy data 0 tmp (4 + len2) data.length
  return (id, data)

/-- `read(string& id, string& data)`: move the message at the front to the
two strings, if all of it is there. -/
def readIdData (self : CycleBuffer) (id data : Bytes) :
    Except Fault (Int × Bytes × Bytes × CycleBuffer) := do
  let stored ← int32 (self.n - self.remainSpace)
  if toUInt64 stored > 5 then
    let len ← self.frontLength
    let tmp ← if stored ≥ len then self.copyFront len else pure []
    if tmp.length > 5 then
      let (id, data) ← unpack tmp len id data
      let advanced ← int32 (self.rPos + len)
      let rPos ← remInt32 advanced self.n
      let remainSpace ← int32 (self.remainSpace + len)
      return (tmp.length, id, data,
        { self with rPos := rPos, remainSpace := remainSpace })
    else
      return (0, id, data, self)
  else
    return (0, id, data, self)

/-- The new capacity of a growing buffer, at least twice the old one. -/
def grownCapacity (self : CycleBuffer) (length : Int) :
    Except Fault Int := do
  let quotient ← divInt32 length self.n
  let factor ← int32 (quotient + 2)
  int32 (self.n * factor)

/-- Make room for `length` bytes; a growing buffer is copied to the start of
a new block. -/
def realloc (self : CycleBuffer) (length : Int) :
    Except Fault CycleBuffer := do
  if self.remainSpace ≥ length then
    return self
  else
    let newN ← self.grownCapacity length
    let newBuffer ← newBlock newN
    let haveSize ← self.size
    if self.wPos > self.rPos then
      let newBuffer ← memcpy newBuffer 0 self.buffer self.rPos haveSize
      let remainSpace ← int32 (newN - haveSize)
      return { rPos := 0, wPos := haveSize, n := newN,
               remainSpace := remainSpace, buffer := newBuffer }
    else
      let firstN ← int32 (self.n - self.rPos)
      let newBuffer ← memcpy newBuffer 0 self.buffer self.rPos firstN
      let rest ← int32 (haveSize - firstN)
      let newBuffer ←
        if rest > 0 then memcpy newBuffer firstN self.buffer 0 rest
        else pure newBuffer
      let remainSpace ← int32 (newN - haveSize)
      return { rPos := 0, wPos := haveSize, n := newN,
               remainSpace := remainSpace, buffer := newBuffer }

/-- The second critical section of `write`, behind the wait for room. -/
def store (self : CycleBuffer) (data : Bytes) (length : Int) :
    Except Fault (Int × CycleBuffer) := do
  if self.wPos ≥ self.rPos then
    let lastStart ← int32 (self.n - length)
    if self.wPos ≤ lastStart then
      let buffer ← memcpy self.buffer self.wPos data 0 length
      let wPos ← int32 (self.wPos + length)
      let remainSpace ← int32 (self.remainSpace - length)
      return (length,
        { self with wPos := wPos, remainSpace := remainSpace,
                    buffer := buffer })
    else
      let firstN ← int32 (self.n - self.wPos)
      let buffer ← memcpy self.buffer self.wPos data 0 firstN
      let rest ← int32 (length - firstN)
      let buffer ← memcpy buffer 0 data firstN rest
      let remainSpace ← int32 (self.remainSpace - length)
      return (length,
        { self with wPos := rest, remainSpace := remainSpace,
                    buffer := buffer })
  else
    let buffer ← memcpy self.buffer self.wPos data 0 length
    let wPos ← int32 (self.wPos + length)
    let remainSpace ← int32 (self.remainSpace - length)
    return (length,
      { self with wPos := wPos, remainSpace := remainSpace,
                  buffer := buffer })

/-- `write(const char* data, int32_t length)`: append `length` bytes. -/
def write (self : CycleBuffer) (data : Bytes) (length : Int) :
    Except Fault (Int × CycleBuffer) := do
  let grown ← self.realloc length
  -- The wait that the source marks "never enter here".
  if grown.remainSpace ≥ length then
    grown.store data length
  else
    throw .blocked

end CycleBuffer

end ChannelSdk
