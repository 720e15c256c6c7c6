import DnsBalancer.Database.Datum

/-!
# Decoding data

A datum begins with a byte that holds its kind and size. A pointer stands for the datum
at an offset from the start of the section. A datum is read as the shape that is expected
of it: one of another shape makes the whole unreadable, and so do bytes that are missing,
unknown kinds and ill-formed text.
-/
namespace DnsBalancer.Database

/-- A number of `count` bytes, the most significant one first. -/
def natAt? (b : ByteArray) (start : Nat) : Nat → Option Nat
  | 0 => some 0
  | count + 1 => do
    let front ← natAt? b start count
    let last ← b[start + count]?
    return front * 256 + last.toNat

def bytesAt? (b : ByteArray) (start count : Nat) : Option ByteArray :=
  if start + count ≤ b.size then some (b.extract start (start + count)) else none

/-- What a datum begins with: its kind, its size, and where its content starts. -/
structure Head where
  kind : Nat
  size : Nat
  next : Nat
  deriving DecidableEq, Repr

/-- What sizes of one, two and three further bytes are counted from. -/
def sizeBase : Nat → Nat
  | 1 => 29
  | 2 => 285
  | _ => 65821

def pointerKind : Nat := 1

def head? (b : ByteArray) (start : Nat) : Option Head := do
  let first := (← b[start]?).toNat
  let (kind, next) ← if first / 32 = 0 then do pure ((← b[start + 1]?).toNat + 7, start + 2)
    else some (first / 32, start + 1)
  let size := first % 32
  if kind = pointerKind || size < 29 then return ⟨kind, size, next⟩
  else
    let extra := size - 28
    return ⟨kind, sizeBase extra + (← natAt? b next extra), next + extra⟩

/-- Where a pointer leads, and where it ends. Its size holds the number of its bytes
and, but for the longest, the top bits of the offset. -/
def pointer? (b : ByteArray) (h : Head) : Option (Nat × Nat) := do
  let count := h.size / 8 + 1
  let low ← natAt? b h.next count
  let top := if count = 4 then 0 else h.size % 8
  let base := if count = 2 then 2048 else if count = 3 then 526336 else 0
  return (top * Nat.pow 256 count + low + base, h.next + count)

def real? (b : ByteArray) (h : Head) (size : Nat) (ofBits : Nat → Float) :
    Option (Datum × Nat) :=
  if h.size = size then (natAt? b h.next size).map fun n => (.real (ofBits n), h.next + size)
  else none

/-- An unsigned number of at most `limit` bytes. -/
def natural? (b : ByteArray) (h : Head) (limit : Nat) (make : Nat → Datum) :
    Option (Datum × Nat) :=
  if h.size ≤ limit then (natAt? b h.next h.size).map fun n => (make n, h.next + h.size)
  else none

/-- The number that `bits` bits stand for, the first of them for the sign. -/
def signed (bits n : Nat) : Int :=
  if n < Nat.pow 2 (bits - 1) then (n : Int) else (n : Int) - (Nat.pow 2 bits : Nat)

/-- The datum that `h` begins, which is neither a pointer nor a collection, and where it
ends. -/
def scalar? (b : ByteArray) (h : Head) : Option (Datum × Nat) :=
  match h.kind with
  | 2 => do
    let s ← String.fromUTF8? (← bytesAt? b h.next h.size)
    return (.text s, h.next + h.size)
  | 3 => real? b h 8 fun n => Float.ofBits n.toUInt64
  | 4 => do return (.bytes (← bytesAt? b h.next h.size), h.next + h.size)
  | 5 => natural? b h 2 .natural
  | 6 => natural? b h 4 .natural
  | 8 => natural? b h 4 fun n => .signed (signed 32 n)
  | 9 => natural? b h 8 .natural
  | 10 => natural? b h 16 .huge
  | 14 => if h.size ≤ 1 then some (.flag (h.size == 1), h.next) else none
  | 15 => real? b h 4 fun n => (Float32.ofBits n.toUInt32).toFloat
  | _ => none

/-- Reads a datum of a shape from a place, and tells where it ends. -/
abbrev ReadDatum := Shape → Nat → Option (Datum × Nat)

/-- Reads `count` of what `read` reads, one behind the other. -/
def repeat? {α : Type} (read : Nat → Option (α × Nat)) : Nat → Nat → Option (List α × Nat)
  | 0, start => some ([], start)
  | count + 1, start => do
    let (a, next) ← read start
    let (as, next) ← repeat? read count next
    return (a :: as, next)

/-- Reads a key and its value. -/
def pair? (read : ReadDatum) (keys values : Shape) (start : Nat) :
    Option ((Datum × Datum) × Nat) := do
  let (k, next) ← read keys start
  let (v, next) ← read values next
  return ((k, v), next)

/-- Reads the entries of a record. No field stands there twice. -/
def fields? (read : ReadDatum) (shapes : List (String × Shape)) :
    (count : Nat) → List (String × Datum) → Nat → Option (List (String × Datum) × Nat)
  | 0, done, start => some (done, start)
  | count + 1, done, start => do
    let (key, next) ← read .key start
    match Shape.fieldOf? shapes key with
    | none =>
      let (_, next) ← read .any next
      fields? read shapes count done next
    | some (name, shape) =>
      if (done.lookup name).isSome then none
      else
        let (d, next) ← read shape next
        fields? read shapes count ((name, d) :: done) next

/-- Reads a record that stands there as the list of its fields. What follows them in the
list is not looked at, and so belongs to what comes behind it. -/
def listed? (read : ReadDatum) :
    List (String × Shape) → (count : Nat) → Nat → Option (List (String × Datum) × Nat)
  | [], _, start => some ([], start)
  | _ :: _, 0, _ => none
  | (name, shape) :: rest, count + 1, start => do
    let (d, next) ← read shape start
    let (ds, next) ← listed? read rest count next
    return ((name, d) :: ds, next)

def map? (read : ReadDatum) (count start : Nat) : Shape → Option (Datum × Nat)
  | .record shapes => do
    let (es, next) ← fields? read shapes count [] start
    return (.record es, next)
  | .texts => do
    let (es, next) ← repeat? (pair? read .text .text) count start
    let texts ← es.mapM fun (k, v) => do return (← k.text?, ← v.text?)
    return (.texts texts.reverse, next)
  | .any => do
    let (_, next) ← repeat? (pair? read .any .any) count start
    return (.passed, next)
  | _ => none

def list? (read : ReadDatum) (count start : Nat) : Shape → Option (Datum × Nat)
  | .record shapes => do
    let (es, next) ← listed? read shapes count start
    return (.record es, next)
  | .list item => do
    let (ds, next) ← repeat? (read item) count start
    return (.list ds, next)
  | .any => do
    let (_, next) ← repeat? (read .any) count start
    return (.passed, next)
  | _ => none

/-- The datum at `start` of a section at `base`, and where it ends. Collections and
pointers may nest `depth` deep. -/
def datum? (b : ByteArray) (base : Nat) : (depth : Nat) → ReadDatum
  | 0, _, _ => none
  | depth + 1, shape, start => do
    let h ← head? b start
    match h.kind with
    | 1 =>
      let (offset, next) ← pointer? b h
      let (d, _) ← datum? b base depth shape (base + offset)
      return (d, next)
    | 7 => map? (datum? b base depth) h.size h.next shape
    | 11 => list? (datum? b base depth) h.size h.next shape
    | _ =>
      let (d, next) ← scalar? b h
      return (← shape.accept? d, next)

/-- A datum without a cycle nests no deeper than the file has bytes. -/
def decode? (b : ByteArray) (base : Nat) (shape : Shape) (start : Nat) : Option Datum :=
  (datum? b base (b.size + 1) shape start).map (·.1)

end DnsBalancer.Database
