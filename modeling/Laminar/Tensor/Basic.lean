import Laminar.Text.Quoted

/-!
# Constant arrays

A constant array has a shape and its elements, single-precision floats in row-major order.  Two
arrays are the same when shape and stored bytes agree, so zero and minus zero differ while all
not-a-numbers agree.

* `Tensor.bytes` are the stored bytes, each element in four bytes, lowest first.
* `Tensor.hex` writes them in hexadecimal.
-/

namespace Laminar

/-- A constant array of single-precision floats, its elements in row-major order. -/
structure Tensor where
  shape : List Nat
  data : List Float32
  deriving DecidableEq

/-- The four bytes of an element, lowest first. -/
def elementBytes (x : Float32) : List UInt8 :=
  let n := x.toBits.toNat
  [n % 256, n / 256 % 256, n / 65536 % 256, n / 16777216 % 256].map UInt8.ofNat

/-- The stored bytes of an array. -/
def Tensor.bytes (t : Tensor) : List UInt8 := t.data.flatMap elementBytes

/-- The stored bytes of an array in hexadecimal. -/
def Tensor.hex (t : Tensor) : String :=
  String.ofList (t.bytes.flatMap fun b => Text.hexPadded 2 b.toNat)

/-- How many elements an array of a shape has. -/
def elementCount (shape : List Nat) : Nat := shape.foldl (· * ·) 1

end Laminar
