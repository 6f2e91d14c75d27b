namespace AssetRegistry.Text

abbrev Bytes := List UInt8

def utf8 (s : String) : Bytes := s.toList.flatMap String.utf8EncodeChar

def utf8Length : List Char → Nat
  | [] => 0
  | c :: cs => c.utf8Size + utf8Length cs

/-- What stands at the head of a byte list: a character with the number of bytes it takes, or the number
of bytes that cannot begin or continue one and are given up together. -/
inductive Utf8Head where
  | char (c : Char) (size : Nat)
  | broken (size : Nat)

def isContinuation (b : UInt8) : Bool := 0x80 ≤ b && b < 0xC0

/-- The bounds that the second byte of a longer form keeps, so that no form is overlong, names a
surrogate or leaves the code space. -/
def secondByteRange (lead : UInt8) : UInt8 × UInt8 :=
  if lead = 0xE0 then (0xA0, 0xBF)
  else if lead = 0xED then (0x80, 0x9F)
  else if lead = 0xF0 then (0x90, 0xBF)
  else if lead = 0xF4 then (0x80, 0x8F)
  else (0x80, 0xBF)

def payload (b : UInt8) : Nat := (b &&& 0x3F).toNat

/-- Reads one character. A form that breaks off gives up its longest well-formed beginning. -/
def utf8Head (lead : UInt8) (rest : Bytes) : Utf8Head :=
  if lead < 0x80 then .char (Char.ofNat lead.toNat) 1
  else if lead < 0xC2 || 0xF4 < lead then .broken 1
  else
    let (lo, hi) := secondByteRange lead
    match rest with
    | [] => .broken 1
    | second :: rest =>
      if !(lo ≤ second && second ≤ hi) then .broken 1
      else if lead < 0xE0 then .char (Char.ofNat ((lead &&& 0x1F).toNat * 64 + payload second)) 2
      else match rest with
        | [] => .broken 2
        | third :: rest =>
          if !isContinuation third then .broken 2
          else if lead < 0xF0 then
            .char (Char.ofNat (((lead &&& 0x0F).toNat * 64 + payload second) * 64 + payload third)) 3
          else match rest with
            | [] => .broken 3
            | fourth :: _ =>
              if !isContinuation fourth then .broken 3
              else .char (Char.ofNat
                ((((lead &&& 0x07).toNat * 64 + payload second) * 64 + payload third) * 64 + payload fourth)) 4

/-- The characters of a byte list; `fuel` bounds their number. -/
def utf8CharsWithin : (fuel : Nat) → Bytes → List (Option Char)
  | 0, _ => []
  | _, [] => []
  | fuel + 1, lead :: rest =>
    match utf8Head lead rest with
    | .char c size => some c :: utf8CharsWithin fuel ((lead :: rest).drop size)
    | .broken size => none :: utf8CharsWithin fuel ((lead :: rest).drop size)

/-- The characters of a byte list in order, with `none` for each stretch that is not UTF-8. -/
def utf8Chars (bytes : Bytes) : List (Option Char) := utf8CharsWithin bytes.length bytes

/-- The text of a byte list that is UTF-8 throughout. -/
def ofUtf8? (bytes : Bytes) : Option String := ((utf8Chars bytes).mapM id).map String.ofList

/-- The text of any byte list: a replacement character stands for each stretch that is not UTF-8. -/
def ofUtf8Lossy (bytes : Bytes) : String :=
  .ofList ((utf8Chars bytes).map fun c => c.getD (Char.ofNat 0xFFFD))

/-- The value of a hexadecimal digit in either case. -/
def hexValue? (c : Char) : Option Nat :=
  if '0' ≤ c && c ≤ '9' then some (c.toNat - 48)
  else if 'a' ≤ c && c ≤ 'f' then some (c.toNat - 87)
  else if 'A' ≤ c && c ≤ 'F' then some (c.toNat - 55)
  else none

/-- The hexadecimal digit of a value below 16, in lower case. -/
def hexDigit (n : Nat) : Char := if n < 10 then Char.ofNat (48 + n) else Char.ofNat (87 + n)

/-- The low `width` hexadecimal digits of a number, the highest first. -/
def hexDigits : (width : Nat) → Nat → List Char
  | 0, _ => []
  | width + 1, n => hexDigits width (n / 16) ++ [hexDigit (n % 16)]

def ofHexDigits? (cs : List Char) : Option Nat :=
  cs.foldlM (fun n c => (hexValue? c).map (n * 16 + ·)) 0

end AssetRegistry.Text
