/-! Characters and bytes in UTF-8. Reading tells where and how a byte sequence goes wrong: at the
first byte that no character starts with, or that the character begun before it does not continue
with. -/
namespace ShaderInterface.Text.Utf8

def encodeChar (c : Char) : List UInt8 :=
  let n := c.toNat
  if n < 0x80 then [.ofNat n]
  else if n < 0x800 then [.ofNat (0xc0 + n / 0x40), .ofNat (0x80 + n % 0x40)]
  else if n < 0x10000 then
    [.ofNat (0xe0 + n / 0x1000), .ofNat (0x80 + n / 0x40 % 0x40), .ofNat (0x80 + n % 0x40)]
  else
    [.ofNat (0xf0 + n / 0x40000), .ofNat (0x80 + n / 0x1000 % 0x40),
     .ofNat (0x80 + n / 0x40 % 0x40), .ofNat (0x80 + n % 0x40)]

def encodeChars (chars : List Char) : List UInt8 := chars.flatMap encodeChar

/-- The bytes of a text. -/
def encode (text : String) : List UInt8 := encodeChars text.toList

def size (text : String) : Nat := (encode text).length

/-- Where reading bytes as text fails: at `width` bytes that start no character allowed there, or
within a character that the bytes end in. -/
inductive Flaw
  | invalid (width index : Nat)
  | incomplete (index : Nat)
  deriving DecidableEq

def Flaw.text : Flaw → String
  | invalid width index =>
    "invalid utf-8 sequence of " ++ toString width ++ " bytes from index " ++ toString index
  | incomplete index => "incomplete utf-8 byte sequence from index " ++ toString index

def continues (byte : UInt8) : Bool := 0x80 ≤ byte && byte < 0xc0

def low (byte : UInt8) : Nat := byte.toNat % 0x40

/-- The second bytes that may follow the first byte of three: none that would spell a character of
two bytes, or a surrogate. -/
def secondOfThree (lead byte : UInt8) : Bool :=
  if lead = 0xe0 then 0xa0 ≤ byte && byte < 0xc0
  else if lead = 0xed then 0x80 ≤ byte && byte < 0xa0
  else continues byte

/-- The second bytes that may follow the first byte of four: none that would spell a character of
three bytes, or one past the last character. -/
def secondOfFour (lead byte : UInt8) : Bool :=
  if lead = 0xf0 then 0x90 ≤ byte && byte < 0xc0
  else if lead = 0xf4 then 0x80 ≤ byte && byte < 0x90
  else continues byte

/-- Reads bytes that stand at an index, as characters. -/
def decodeFrom (index : Nat) : List UInt8 → Except Flaw (List Char)
  | [] => .ok []
  | a :: rest =>
    if a < 0x80 then
      (decodeFrom (index + 1) rest).map (Char.ofNat a.toNat :: ·)
    else if a < 0xc2 then .error (.invalid 1 index)
    else if a < 0xe0 then
      match rest with
      | [] => .error (.incomplete index)
      | b :: rest =>
        if continues b then
          (decodeFrom (index + 2) rest).map
            (Char.ofNat (a.toNat % 0x20 * 0x40 + low b) :: ·)
        else .error (.invalid 1 index)
    else if a < 0xf0 then
      match rest with
      | [] => .error (.incomplete index)
      | [b] => if secondOfThree a b then .error (.incomplete index) else .error (.invalid 1 index)
      | b :: c :: rest =>
        if secondOfThree a b then
          if continues c then
            (decodeFrom (index + 3) rest).map
              (Char.ofNat (a.toNat % 0x10 * 0x1000 + low b * 0x40 + low c) :: ·)
          else .error (.invalid 2 index)
        else .error (.invalid 1 index)
    else if a < 0xf5 then
      match rest with
      | [] => .error (.incomplete index)
      | [b] => if secondOfFour a b then .error (.incomplete index) else .error (.invalid 1 index)
      | [b, c] =>
        if secondOfFour a b then
          if continues c then .error (.incomplete index) else .error (.invalid 2 index)
        else .error (.invalid 1 index)
      | b :: c :: d :: rest =>
        if secondOfFour a b then
          if continues c then
            if continues d then
              (decodeFrom (index + 4) rest).map
                (Char.ofNat
                  (a.toNat % 0x08 * 0x40000 + low b * 0x1000 + low c * 0x40 + low d) :: ·)
            else .error (.invalid 3 index)
          else .error (.invalid 2 index)
        else .error (.invalid 1 index)
    else .error (.invalid 1 index)

def decode (bytes : List UInt8) : Except Flaw String :=
  (decodeFrom 0 bytes).map String.ofList

end ShaderInterface.Text.Utf8
