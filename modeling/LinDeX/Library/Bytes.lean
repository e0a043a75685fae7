import Mathlib.Algebra.GroupWithZero.Nat
import Mathlib.Tactic.Common

/-!
# Little-endian fields of a byte buffer

A buffer is a list of bytes. Reads past its end see zero, writes past its end are dropped;
every use below checks the length of the buffer first.
-/
namespace LinDeX.Bytes
variable (p : List UInt8)
def byteAt (i : Nat) : UInt8 := p.getD i 0
variable (off : Nat)
def getU16 : UInt16 :=
  (byteAt p off).toUInt16 ||| ((byteAt p (off + 1)).toUInt16 <<< 8)

def getU32 : UInt32 :=
  (byteAt p off).toUInt32 ||| ((byteAt p (off + 1)).toUInt32 <<< 8) |||
    ((byteAt p (off + 2)).toUInt32 <<< 16) ||| ((byteAt p (off + 3)).toUInt32 <<< 24)

def getU64 : UInt64 :=
  (getU32 p off).toUInt64 ||| ((getU32 p (off + 4)).toUInt64 <<< 32)
def putByte (i : Nat) (v : UInt8) : List UInt8 := p.set i v
def putU16 (v : UInt16) : List UInt8 :=
  putByte (putByte p off v.toUInt8) (off + 1) (v >>> 8).toUInt8

def putU32 (v : UInt32) : List UInt8 :=
  putByte (putByte (putByte (putByte p off v.toUInt8) (off + 1) (v >>> 8).toUInt8)
    (off + 2) (v >>> 16).toUInt8) (off + 3) (v >>> 24).toUInt8

def putU64 (v : UInt64) : List UInt8 :=
  putU32 (putU32 p off v.toUInt32) (off + 4) (v >>> 32).toUInt32
def zeroRange (off size : Nat) : Bool :=
  (List.range size).all fun i => byteAt p (off + i) == 0
def zeros (size : Nat) : List UInt8 := List.replicate size 0
def cString : List UInt8 := p.takeWhile (· != 0)
def ascii (s : String) : List UInt8 := s.toList.map fun c => UInt8.ofNat c.toNat
end LinDeX.Bytes
