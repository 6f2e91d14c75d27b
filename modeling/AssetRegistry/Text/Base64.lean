import AssetRegistry.Text.Bytes
import AssetRegistry.Text.Numeral

namespace AssetRegistry.Text

def base64Char (n : Nat) : Char :=
  if n < 26 then Char.ofNat (65 + n)
  else if n < 52 then Char.ofNat (97 + (n - 26))
  else if n < 62 then Char.ofNat (48 + (n - 52))
  else if n = 62 then '-'
  else '_'

def base64Value? (c : Char) : Option Nat :=
  if 'A' ≤ c && c ≤ 'Z' then some (c.toNat - 65)
  else if 'a' ≤ c && c ≤ 'z' then some (c.toNat - 71)
  else if '0' ≤ c && c ≤ '9' then some (c.toNat + 4)
  else if c = '-' then some 62
  else if c = '_' then some 63
  else none

/-- Three bytes make four characters; one or two bytes at the end make two or three. -/
def toBase64 : Bytes → List Char
  | a :: b :: c :: rest =>
    let n := (a.toNat * 256 + b.toNat) * 256 + c.toNat
    base64Char (n / 262144) :: base64Char (n / 4096 % 64) :: base64Char (n / 64 % 64) :: base64Char (n % 64) ::
      toBase64 rest
  | [a, b] =>
    let n := (a.toNat * 256 + b.toNat) * 4
    [base64Char (n / 4096), base64Char (n / 64 % 64), base64Char (n % 64)]
  | [a] =>
    let n := a.toNat * 16
    [base64Char (n / 64), base64Char (n % 64)]
  | [] => []

/-- The bytes of a text; bits left over at the end have to be zero. -/
def ofBase64? : List Char → Option Bytes
  | a :: b :: c :: d :: rest => do
    let n := ((← base64Value? a) * 64 + (← base64Value? b)) * 4096 + (← base64Value? c) * 64 + (← base64Value? d)
    let bytes ← ofBase64? rest
    some (UInt8.ofNat (n / 65536) :: UInt8.ofNat (n / 256) :: UInt8.ofNat n :: bytes)
  | [a, b, c] => do
    let n := ((← base64Value? a) * 64 + (← base64Value? b)) * 64 + (← base64Value? c)
    if n % 4 = 0 then some [UInt8.ofNat (n / 1024), UInt8.ofNat (n / 4)] else none
  | [a, b] => do
    let n := (← base64Value? a) * 64 + (← base64Value? b)
    if n % 16 = 0 then some [UInt8.ofNat (n / 16)] else none
  | [_] => none
  | [] => some []

/-- What is wrong with a text; places are counted in bytes. -/
inductive Base64Fault where
  | badSymbol (byte : UInt8) (offset : Nat)
  | badLength (length : Nat)
  /-- The last character has bits that belong to no byte. -/
  | badLastSymbol (byte : UInt8) (offset : Nat)
  /-- The text is filled up at its end, which is not wanted. -/
  | padded
  deriving DecidableEq, Repr

def Base64Fault.message : Base64Fault → String
  | .badSymbol byte offset => "Invalid symbol " ++ ofNat byte.toNat ++ ", offset " ++ ofNat offset ++ "."
  | .badLength length => "Invalid input length: " ++ ofNat length
  | .badLastSymbol byte offset => "Invalid last symbol " ++ ofNat byte.toNat ++ ", offset " ++ ofNat offset ++ "."
  | .padded => "Invalid padding"

def isBase64Byte (b : UInt8) : Bool := (base64Value? (Char.ofNat b.toNat)).isSome

/-- The byte that fills up texts of the padded form. -/
def padByte : UInt8 := 61

/-- What is wrong with the last bytes of a text, four at most, the first of them at `offset`. Two characters or three
may be followed by padding that fills up the four, and by nothing else. -/
def base64TailFault (offset : Nat) (tail : Bytes) : Base64Fault :=
  let symbols := tail.takeWhile isBase64Byte
  match tail.drop symbols.length with
  | [] =>
    if symbols.length < 2 then .badLength (offset + symbols.length)
    else .badLastSymbol (symbols.getLast?.getD 0) (offset + symbols.length - 1)
  | b :: after =>
    if b ≠ padByte || symbols.length < 2 then .badSymbol b (offset + symbols.length)
    else if after.all (· == padByte) then .padded
    else .badSymbol b (offset + symbols.length)

/-- What is wrong with a text that is no written form. The first wrong byte is told, except that a single byte behind
complete groups of four comes first. -/
def base64Fault (bytes : Bytes) : Base64Fault :=
  let tailStart := if bytes.length % 4 = 0 then bytes.length - 4 else bytes.length - bytes.length % 4
  match bytes.getLast? with
  | some last =>
    if bytes.length % 4 = 1 && last ≠ padByte && !isBase64Byte last then .badSymbol last (bytes.length - 1)
    else
      match (bytes.take tailStart).findIdx? fun b => !isBase64Byte b with
      | some i => .badSymbol (bytes[i]?.getD 0) i
      | none => base64TailFault tailStart (bytes.drop tailStart)
  | none => .badLength 0

/-- The bytes of a text, or what is wrong with it. -/
def ofBase64 (cs : List Char) : Except Base64Fault Bytes :=
  match ofBase64? cs with
  | some bytes => .ok bytes
  | none => .error (base64Fault (cs.flatMap String.utf8EncodeChar))

end AssetRegistry.Text
