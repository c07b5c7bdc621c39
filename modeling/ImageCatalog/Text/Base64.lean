/-!
# Base64

Bytes are written in groups of three as four digits of sixty-four, and a last shorter group is
filled up with `=`. The strict reader accepts nothing but digits and the padding that the digits
call for, and says which of the possible faults it met first; surplus padding after complete
groups is let pass. The lenient reader skips foreign characters.
-/

namespace ImageCatalog.Text.Base64

/-- The digit of a value below sixty-four. -/
def digit (value : Nat) : Char :=
  if value < 26 then Char.ofNat (65 + value)
  else if value < 52 then Char.ofNat (71 + value)
  else if value < 62 then Char.ofNat (value - 4)
  else if value = 62 then '+'
  else '/'

/-- The value of a digit. -/
def digitValue? (char : Char) : Option Nat :=
  if 'A' ≤ char ∧ char ≤ 'Z' then some (char.toNat - 65)
  else if 'a' ≤ char ∧ char ≤ 'z' then some (char.toNat - 71)
  else if '0' ≤ char ∧ char ≤ '9' then some (char.toNat + 4)
  else if char = '+' then some 62
  else if char = '/' then some 63
  else none

/-- The base64 text of some bytes. -/
def encodeBytes : List UInt8 → List Char
  | [] => []
  | [a] =>
    let word := 65536 * a.toNat
    [digit (word / 262144), digit (word / 4096 % 64), '=', '=']
  | [a, b] =>
    let word := 65536 * a.toNat + 256 * b.toNat
    [digit (word / 262144), digit (word / 4096 % 64), digit (word / 64 % 64), '=']
  | a :: b :: c :: rest =>
    let word := 65536 * a.toNat + 256 * b.toNat + c.toNat
    digit (word / 262144) :: digit (word / 4096 % 64) :: digit (word / 64 % 64) ::
      digit (word % 64) :: encodeBytes rest

/-- The base64 text of some bytes. -/
def encode (bytes : List UInt8) : String :=
  String.ofList (encodeBytes bytes)

/-- Why a text is no base64. -/
inductive Fault
  | notAscii
  | leadingPadding
  | foreignCharacter
  | splitPadding
  | excessData
  | missingPadding
  | loneDigit (digits : Nat)
deriving DecidableEq, Repr

/-- How a reader stands between two characters: the digits seen in all, the place in the current
group with the bits that it holds, the padding seen since the last digit, and whether any padding
was seen. -/
structure State where
  digits : Nat
  place : Nat
  bits : Nat
  padding : Nat
  padded : Bool

/-- The bytes that a digit completes, and the state after it. -/
def State.push (state : State) (value : Nat) : List UInt8 × State :=
  let next : State :=
    { digits := state.digits + 1, place := 0, bits := 0, padding := 0, padded := state.padded }
  match state.place with
  | 0 => ([], { next with place := 1, bits := value })
  | 1 => ([UInt8.ofNat (4 * state.bits + value / 16)], { next with place := 2, bits := value % 16 })
  | 2 => ([UInt8.ofNat (16 * state.bits + value / 4)], { next with place := 3, bits := value % 4 })
  | _ => ([UInt8.ofNat (64 * state.bits + value)], next)

/-- Whether one more `=` completes the current group. -/
def State.completes (state : State) : Bool :=
  2 ≤ state.place && 4 ≤ state.place + state.padding + 1

/-- What is wrong if the text ends here. -/
def State.atEnd (state : State) : Except Fault Unit :=
  if state.place = 0 then .ok ()
  else if state.place = 1 then .error (.loneDigit state.digits)
  else .error .missingPadding

/-- Read the rest of a text, refusing (`strict`) or skipping foreign characters. -/
def decodeFrom (strict : Bool) (state : State) : List Char → Except Fault (List UInt8)
  | [] => state.atEnd.map fun _ => []
  | char :: rest =>
    if char = '=' then
      if state.completes then
        if strict && !rest.isEmpty then .error .excessData else .ok []
      else
        let padding := if 2 ≤ state.place then state.padding + 1 else state.padding
        decodeFrom strict { state with padding := padding, padded := true } rest
    else match digitValue? char with
      | none => if strict then .error .foreignCharacter else decodeFrom strict state rest
      | some value =>
        if strict && state.padded then .error .splitPadding
        else
          let (found, next) := state.push value
          (decodeFrom strict next rest).map (found ++ ·)

/-- The state before the first character. -/
def State.initial : State :=
  { digits := 0, place := 0, bits := 0, padding := 0, padded := false }

/-- The bytes of a base64 text, or the first fault in it. -/
def decode (text : String) : Except Fault (List UInt8) :=
  let chars := text.toList
  if chars.any fun char => 0x80 ≤ char.toNat then .error .notAscii
  else if chars.head? = some '=' then .error .leadingPadding
  else decodeFrom true .initial chars

/-- The bytes of a base64 text in which foreign characters are skipped. -/
def decodeLenient (text : String) : Except Fault (List UInt8) :=
  let chars := text.toList
  if chars.any fun char => 0x80 ≤ char.toNat then .error .notAscii
  else decodeFrom false .initial chars

/-- What a fault is called. -/
def Fault.message : Fault → String
  | .notAscii => "string argument should contain only ASCII characters"
  | .leadingPadding => "Leading padding not allowed"
  | .foreignCharacter => "Only base64 data is allowed"
  | .splitPadding => "Discontinuous padding not allowed"
  | .excessData => "Excess data after padding"
  | .missingPadding => "Incorrect padding"
  | .loneDigit digits =>
    "Invalid base64-encoded string: number of data characters (" ++ toString digits ++
      ") cannot be 1 more than a multiple of 4"

end ImageCatalog.Text.Base64
