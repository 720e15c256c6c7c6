/-!
# Distances on the globe

Great-circle distance in kilometres between two points given in degrees, and the
total order of doubles that distances are compared in.
-/
namespace DnsBalancer

structure Coordinates where
  latitude : Float
  longitude : Float
  deriving Repr, Inhabited

/-- Both numbers compare equal. -/
def Coordinates.same (a b : Coordinates) : Bool :=
  a.latitude == b.latitude && a.longitude == b.longitude

/-- A double by its bits. Also one that is no number has a sign. -/
structure Double where
  bits : BitVec 64
  deriving DecidableEq, Repr, Inhabited

namespace Double

/-- The bits of a result. `negative` is the sign of one that is no number. -/
def ofFloat (x : Float) (negative : Bool) : Double :=
  if x.isNaN then ⟨if negative then 0xfff8000000000000#64 else 0x7ff8000000000000#64⟩
  else ⟨x.toBits.toBitVec⟩

def toFloat (x : Double) : Float := Float.ofBits ⟨x.bits⟩

instance : Coe Double Float := ⟨toFloat⟩

/-- The place in the total order: the bits as a number with a sign, those behind the sign turned
over where it is set. -/
def key (x : Double) : Int := (x.bits ^^^ x.bits.sshiftRight 63 >>> 1).toInt

end Double

namespace Distance

def earthRadius : Float := 6371.0

def pi : Float := 3.14159265358979323846

def radians (degrees : Float) : Float := degrees * (pi / 180.0)

def square (x : Float) : Float := x * x

/-- The haversine formula. -/
def kilometres (a b : Coordinates) : Float :=
  let dLat := radians (b.latitude - a.latitude)
  let dLon := radians (b.longitude - a.longitude)
  let h := square (dLat / 2.0).sin +
    (radians a.latitude).cos * (radians b.latitude).cos * square (dLon / 2.0).sin
  earthRadius * (2.0 * Float.atan2 h.sqrt (1.0 - h).sqrt)

def isMeasurable (a : Coordinates) : Bool := !a.latitude.isNaN && !a.longitude.isNaN

/-- The distance with its sign. One that is no number has the sign bit clear where it comes from a
coordinate that is none, and set where an operation has no result: the root of a negative number,
as rounding can give it between points opposite to each other. -/
def haversine (a b : Coordinates) : Double :=
  .ofFloat (kilometres a b) (isMeasurable a && isMeasurable b)

end Distance

end DnsBalancer
