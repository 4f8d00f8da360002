import Reckon.Text.Quoted

/-!
Strict decoding of UTF-8. A file is decoded in blocks of 8192 bytes; a character
begun in one block is finished with the next, and so is the beginning of a
surrogate, which then proves to be none. The position in a report counts from the
first byte that was still to be decoded when the block was read, so what is left
at the end of the file is reported at its own start.
-/

namespace Reckon.Text.Utf8

inductive Reason where
  | invalidStart
  | invalidContinuation
  | unexpectedEnd
  deriving DecidableEq, Repr

def Reason.message : Reason → String
  | .invalidStart => "invalid start byte"
  | .invalidContinuation => "invalid continuation byte"
  | .unexpectedEnd => "unexpected end of data"

/-- The bytes that cannot be decoded: their first value, their position and number. -/
structure DecodeError where
  reason : Reason
  byte : UInt8
  position : Nat
  count : Nat
  deriving DecidableEq

def DecodeError.message (error : DecodeError) : String :=
  let place :=
    if error.count = 1 then
      "byte 0x" ++ String.ofList (hexadecimal 2 error.byte.toNat) ++ " in position "
        ++ toString error.position
    else
      "bytes in position " ++ toString error.position ++ "-"
        ++ toString (error.position + error.count - 1)
  "'utf-8' codec can't decode " ++ place ++ ": " ++ error.reason.message

/-- What stands at the front of some bytes. -/
inductive Reading where
  | char (c : Char) (width : Nat)
  | bad (reason : Reason) (width : Nat)
  | unfinished

/-- The number of bytes that a lead byte announces, and the range that the second
byte must lie in, which excludes overlong forms, surrogates and values too large. -/
def lead? (byte : Nat) : Option (Nat × Nat × Nat) :=
  if byte < 0x80 then some (1, 0, 0)
  else if byte < 0xc2 then none
  else if byte < 0xe0 then some (2, 0x80, 0xbf)
  else if byte = 0xe0 then some (3, 0xa0, 0xbf)
  else if byte = 0xed then some (3, 0x80, 0x9f)
  else if byte < 0xf0 then some (3, 0x80, 0xbf)
  else if byte = 0xf0 then some (4, 0x90, 0xbf)
  else if byte < 0xf4 then some (4, 0x80, 0xbf)
  else if byte = 0xf4 then some (4, 0x80, 0x8f)
  else none

/-- Takes the bytes that still belong to a character. `read` of them have been seen. -/
def continueWith : (missing read value low high : Nat) → List UInt8 → Reading
  | 0, read, value, _, _, _ => .char (Char.ofNat value) read
  | _ + 1, _, _, _, _, [] => .unfinished
  | missing + 1, read, value, low, high, byte :: rest =>
      if low ≤ byte.toNat ∧ byte.toNat ≤ high then
        continueWith missing (read + 1) (value * 64 + byte.toNat % 64) 0x80 0xbf rest
      else .bad .invalidContinuation read

def reading (first : UInt8) (rest : List UInt8) : Reading :=
  match lead? first.toNat with
  | none => .bad .invalidStart 1
  | some (1, _, _) => .char (Char.ofNat first.toNat) 1
  | some (width, low, high) =>
      continueWith (width - 1) 1 (first.toNat % Nat.pow 2 (7 - width)) low high rest

/-- Whether a block ends within the encoding of a surrogate. Its second byte is
already wrong, but the third is awaited. -/
def endsInSurrogate (first : UInt8) : List UInt8 → Bool
  | [second] => first == 0xed && 0xa0 ≤ second && second ≤ 0xbf
  | _ => false

/-- The characters of a block in reverse, and the bytes that wait for the next one. -/
def block : (steps position : Nat) → List Char → List UInt8 →
    Except DecodeError (List Char × List UInt8)
  | steps + 1, position, done, first :: rest =>
      match reading first rest with
      | .char c width => block steps (position + width) (c :: done) ((first :: rest).drop width)
      | .bad reason count =>
          if endsInSurrogate first rest then .ok (done, first :: rest)
          else .error ⟨reason, first, position, count⟩
      | .unfinished => .ok (done, first :: rest)
  | _, _, done, bytes => .ok (done, bytes)

/-- Why the bytes that still wait at the end of a file are no character. -/
def leftError (first : UInt8) (rest : List UInt8) : DecodeError :=
  match reading first rest with
  | .bad reason count => ⟨reason, first, 0, count⟩
  | .char _ _ | .unfinished => ⟨.unexpectedEnd, first, 0, rest.length + 1⟩

def blockSize : Nat := 8192

def blocks (done : List Char) (carried bytes : List UInt8) : Except DecodeError (List Char) :=
  match bytes with
  | [] =>
      match carried with
      | [] => .ok done.reverse
      | first :: rest => .error (leftError first rest)
  | byte :: rest => do
      let pending := carried ++ (byte :: rest).take blockSize
      let (done, carried) ← block pending.length 0 done pending
      blocks done carried ((byte :: rest).drop blockSize)
termination_by bytes.length
decreasing_by
  simp only [List.length_drop, List.length_cons, blockSize]
  omega

def decode (bytes : List UInt8) : Except DecodeError (List Char) :=
  blocks [] [] bytes

end Reckon.Text.Utf8
