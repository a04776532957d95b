/-!
# Reading UTF-8 with replacement

Bytes are read as UTF-8.  Where the bytes are not a character, the longest run that could have
started one is replaced by a single U+FFFD, and reading goes on at the byte that broke it.
-/

namespace CrossAudit
namespace Utf8

/-- Stands for bytes that are no character. -/
def replacement : Char :=
  Char.ofNat 0xfffd

/-- A byte that continues a character, within the bounds that the byte before it sets. -/
def continues (low high byte : UInt8) : Bool :=
  low ≤ byte && byte ≤ high

/-- The payload of a continuation byte. -/
def payload (byte : UInt8) : Nat :=
  byte.toNat % 64

/-- The bounds of the second byte of a character of three bytes. -/
def secondOfThree (lead : UInt8) : UInt8 × UInt8 :=
  if lead == 0xe0 then (0xa0, 0xbf) else if lead == 0xed then (0x80, 0x9f) else (0x80, 0xbf)

/-- The bounds of the second byte of a character of four bytes. -/
def secondOfFour (lead : UInt8) : UInt8 × UInt8 :=
  if lead == 0xf0 then (0x90, 0xbf) else if lead == 0xf4 then (0x80, 0x8f) else (0x80, 0xbf)

/-- The characters that the bytes encode, with a replacement for each maximal invalid part. -/
def decode : List UInt8 → List Char
  | [] => []
  | b :: rest =>
    if b < 0x80 then Char.ofNat b.toNat :: decode rest
    else if continues 0xc2 0xdf b then
      match rest with
      | c :: rest' =>
        if continues 0x80 0xbf c then
          Char.ofNat ((b.toNat - 0xc0) * 64 + payload c) :: decode rest'
        else replacement :: decode (c :: rest')
      | [] => [replacement]
    else if continues 0xe0 0xef b then
      match rest with
      | c :: rest' =>
        if continues (secondOfThree b).1 (secondOfThree b).2 c then
          match rest' with
          | d :: rest'' =>
            if continues 0x80 0xbf d then
              Char.ofNat (((b.toNat - 0xe0) * 64 + payload c) * 64 + payload d) :: decode rest''
            else replacement :: decode (d :: rest'')
          | [] => [replacement]
        else replacement :: decode (c :: rest')
      | [] => [replacement]
    else if continues 0xf0 0xf4 b then
      match rest with
      | c :: rest' =>
        if continues (secondOfFour b).1 (secondOfFour b).2 c then
          match rest' with
          | d :: rest'' =>
            if continues 0x80 0xbf d then
              match rest'' with
              | e :: rest''' =>
                if continues 0x80 0xbf e then
                  Char.ofNat
                      ((((b.toNat - 0xf0) * 64 + payload c) * 64 + payload d) * 64 + payload e) ::
                    decode rest'''
                else replacement :: decode (e :: rest''')
              | [] => [replacement]
            else replacement :: decode (d :: rest'')
          | [] => [replacement]
        else replacement :: decode (c :: rest')
      | [] => [replacement]
    else replacement :: decode rest

/-- The text of a byte sequence. -/
def toText (bytes : ByteArray) : String :=
  String.ofList (decode bytes.toList)

end Utf8
end CrossAudit
