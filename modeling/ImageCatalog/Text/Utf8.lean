/-!
# UTF-8

Characters are written as one to four bytes. Reading runs a small machine over the bytes: a lead
byte says how many continuation bytes follow and bounds the first of them, which rules out
overlong forms, surrogates and values above U+10FFFF. Each longest broken stretch counts as one
fault, so that a strict reader refuses a text with a fault and a lenient one puts U+FFFD there.
-/

namespace ImageCatalog.Text.Utf8

/-- A byte from a number below 256. -/
def byte (value : Nat) : UInt8 :=
  UInt8.ofNat value

/-- The bytes of one character. -/
def encodeChar (char : Char) : List UInt8 :=
  let code := char.toNat
  if code < 0x80 then [byte code]
  else if code < 0x800 then [byte (0xC0 + code / 64), byte (0x80 + code % 64)]
  else if code < 0x10000 then
    [byte (0xE0 + code / 4096), byte (0x80 + code / 64 % 64), byte (0x80 + code % 64)]
  else
    [byte (0xF0 + code / 262144), byte (0x80 + code / 4096 % 64), byte (0x80 + code / 64 % 64),
      byte (0x80 + code % 64)]

/-- The bytes of a row of characters. -/
def encodeChars (chars : List Char) : List UInt8 :=
  chars.flatMap encodeChar

/-- The bytes of a text. -/
def encode (text : String) : List UInt8 :=
  encodeChars text.toList

/-- A character that is begun: how many continuation bytes it still needs, the bounds of the next
one, and the value of the bits read so far. -/
structure Pending where
  missing : Nat
  low : Nat
  high : Nat
  value : Nat

/-- What a lead byte announces. -/
def lead? (value : Nat) : Option Pending :=
  if value < 0xC2 then none
  else if value ≤ 0xDF then some ⟨1, 0x80, 0xBF, value - 0xC0⟩
  else if value = 0xE0 then some ⟨2, 0xA0, 0xBF, 0⟩
  else if value = 0xED then some ⟨2, 0x80, 0x9F, 13⟩
  else if value ≤ 0xEF then some ⟨2, 0x80, 0xBF, value - 0xE0⟩
  else if value = 0xF0 then some ⟨3, 0x90, 0xBF, 0⟩
  else if value ≤ 0xF3 then some ⟨3, 0x80, 0xBF, value - 0xF0⟩
  else if value = 0xF4 then some ⟨3, 0x80, 0x8F, 4⟩
  else none

/-- The first byte of a character: what it yields at once, and what it leaves pending. -/
def start (value : Nat) : List (Option Char) × Option Pending :=
  if value < 0x80 then ([some (Char.ofNat value)], none)
  else match lead? value with
    | some pending => ([], some pending)
    | none => ([none], none)

/-- One byte: the characters and faults that it completes, and what it leaves pending. -/
def step (pending : Option Pending) (value : Nat) : List (Option Char) × Option Pending :=
  match pending with
  | none => start value
  | some ⟨missing, low, high, bits⟩ =>
    if low ≤ value ∧ value ≤ high then
      let total := 64 * bits + (value - 0x80)
      if missing ≤ 1 then ([some (Char.ofNat total)], none)
      else ([], some ⟨missing - 1, 0x80, 0xBF, total⟩)
    else
      let (found, next) := start value
      (none :: found, next)

/-- The characters of a row of bytes, with `none` for each fault. -/
def scanFrom (pending : Option Pending) : List UInt8 → List (Option Char)
  | [] => if pending.isSome then [none] else []
  | head :: rest =>
    let (found, next) := step pending head.toNat
    found ++ scanFrom next rest

/-- The characters of a row of bytes if it has no fault. -/
def decodeChars? (bytes : List UInt8) : Option (List Char) :=
  (scanFrom none bytes).mapM id

/-- The text of a row of bytes if it has no fault. -/
def decode? (bytes : List UInt8) : Option String :=
  (decodeChars? bytes).map String.ofList

/-- The text of a row of bytes, with U+FFFD for each fault. -/
def decodeLenient (bytes : List UInt8) : String :=
  String.ofList ((scanFrom none bytes).map fun found => found.getD (Char.ofNat 0xFFFD))

end ImageCatalog.Text.Utf8
