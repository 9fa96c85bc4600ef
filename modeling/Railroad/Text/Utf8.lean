namespace Railroad

inductive Utf8Cause where
  | start
  | continuation
  | ending
  deriving DecidableEq, Repr

def Utf8Cause.message : Utf8Cause → String
  | start => "invalid start byte"
  | continuation => "invalid continuation byte"
  | ending => "unexpected end of data"

inductive CharBytes where
  | whole (count : Nat)
  | broken (cause : Utf8Cause) (count : Nat)

def secondByte? (first : UInt8) : Option (UInt8 × UInt8 × Nat) :=
  if first < 0xc2 then none
  else if first < 0xe0 then some (0x80, 0xbf, 0)
  else if first = 0xe0 then some (0xa0, 0xbf, 1)
  else if first = 0xed then some (0x80, 0x9f, 1)
  else if first < 0xf0 then some (0x80, 0xbf, 1)
  else if first = 0xf0 then some (0x90, 0xbf, 2)
  else if first < 0xf4 then some (0x80, 0xbf, 2)
  else if first = 0xf4 then some (0x80, 0x8f, 2)
  else none

namespace CharBytes

def continued (taken : Nat) (low high : UInt8) (more : Nat) : List UInt8 → CharBytes
  | [] => broken .ending taken
  | b :: bs =>
    if b < low || high < b then broken .continuation taken
    else match more with
      | 0 => whole (taken + 1)
      | more + 1 => continued (taken + 1) 0x80 0xbf more bs

def ofFirst (first : UInt8) (others : List UInt8) : CharBytes :=
  if first < 0x80 then whole 1
  else match secondByte? first with
    | none => broken .start 1
    | some (low, high, more) => continued 1 low high more others

end CharBytes

/-- Bytes that begin no character: the first of them, and how many there are.  Files are read in
blocks, and `position` counts from the first byte that is decoded together with the fault. -/
structure Utf8Fault where
  cause : Utf8Cause
  position : Nat
  first : UInt8
  count : Nat
  deriving DecidableEq, Repr

def blockSize : Nat := 8192

/-- Where a reader is: the number of bytes behind it, how many of those are decoded with the next
byte, and how many bytes the blocks have that it has begun with. -/
structure BlockReader where
  done : Nat := 0
  base : Nat := 0
  limit : Nat := blockSize

namespace BlockReader

def upTo (r : BlockReader) (stop : Nat) : BlockReader :=
  if r.limit < stop then { r with base := r.done, limit := r.limit + blockSize } else r

def startsSurrogate : List UInt8 → Bool
  | b :: c :: _ => b = 0xed && 0xa0 ≤ c && c ≤ 0xbf
  | _ => false

/-- The first fault in the bytes that a reader has not seen.  Bytes at the end of a block or of the
file that something could follow are decoded again with what comes next. -/
def fault? (r : BlockReader) (bytes : List UInt8) : Option Utf8Fault :=
  match bytes with
  | [] => none
  | b :: bs =>
    match CharBytes.ofFirst b bs with
    | .whole count =>
      let r := r.upTo (r.done + count)
      fault? { r with done := r.done + count } (bs.drop (count - 1))
    | .broken .ending count => some ⟨.ending, 0, b, count⟩
    | .broken .start count => some ⟨.start, r.done - (r.upTo (r.done + 1)).base, b, count⟩
    | .broken .continuation count =>
      let first := r.upTo (r.done + 1)
      let isOpen := startsSurrogate bytes && (bs.length = 1 || first.limit = r.done + 2)
      let position := if isOpen then 0 else r.done - (r.upTo (r.done + count + 1)).base
      some ⟨.continuation, position, b, count⟩
termination_by bytes.length
decreasing_by simp only [List.length_cons, List.length_drop]; omega

end BlockReader

def hexByte (b : UInt8) : String :=
  String.ofList ['0', 'x', Nat.digitChar (b.toNat / 16), Nat.digitChar (b.toNat % 16)]

namespace Utf8Fault

def find? (content : ByteArray) : Option Utf8Fault := BlockReader.fault? {} content.toList

def message (e : Utf8Fault) : String :=
  let bytes :=
    if e.count = 1 then "byte " ++ hexByte e.first ++ " in position " ++ toString e.position
    else
      "bytes in position " ++ toString e.position ++ "-" ++ toString (e.position + e.count - 1)
  "'utf-8' codec can't decode " ++ bytes ++ ": " ++ e.cause.message

end Utf8Fault

end Railroad
