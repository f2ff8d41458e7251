/-! # Rotations

Machine words turned by a number of bits between zero and their width, both excluded.
-/
namespace SampleData

def rotateLeft (x n : UInt32) : UInt32 := x <<< n ||| x >>> (32 - n)

def rotateRight (x n : UInt32) : UInt32 := x >>> n ||| x <<< (32 - n)

def rotateRightWide (x n : UInt64) : UInt64 := x >>> n ||| x <<< (64 - n)

end SampleData
