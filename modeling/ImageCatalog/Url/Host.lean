import ImageCatalog.Text.Hex
import ImageCatalog.Text.Quoted
import ImageCatalog.Text.Split

/-!
# Hosts in brackets

The authority of an address may hold a host in brackets, which must be an address of version 6, with
an optional zone, or of a future version. Characters that turn into a delimiter of addresses under
compatibility normalisation are not allowed in an authority.
-/

namespace ImageCatalog.Url

open Text

/-- What is wrong with the authority of an address. -/
inductive Fault
  | unbalancedBrackets
  | futureVersion
  | versionFour
  | noAddress (host : String)
  | unsafeCharacter (authority : String)
deriving DecidableEq, Repr

/-- What is reported about a fault. -/
def Fault.message : Fault → String
  | .unbalancedBrackets => "Invalid IPv6 URL"
  | .futureVersion => "IPvFuture address is invalid"
  | .versionFour => "An IPv4 address cannot be in brackets"
  | .noAddress host => Quoted.quote host ++ " does not appear to be an IPv4 or IPv6 address"
  | .unsafeCharacter authority =>
    "netloc '" ++ authority ++ "' contains invalid characters under NFKC normalization"

/-- Whether a text is one number of an address of version 4. -/
def isOctet (chars : List Char) : Bool :=
  !chars.isEmpty && chars.length ≤ 3 && chars.all Char.isDigit &&
    (chars == ['0'] || chars.head? != some '0') && Nat.ofDigitChars 10 chars 0 ≤ 255

/-- Whether a text is an address of version 4. -/
def isVersionFour (chars : List Char) : Bool :=
  let parts := splitAtChar '.' chars
  parts.length == 4 && parts.all isOctet

/-- Whether a text is one group of an address of version 6. -/
def isGroup (chars : List Char) : Bool :=
  !chars.isEmpty && chars.length ≤ 4 && chars.all fun char => (hexValue? char).isSome

/-- The groups of an address of version 6, with an address of version 4 at its end replaced by two
groups. -/
def expandLast? (parts : List (List Char)) : Option (List (List Char)) :=
  match parts.getLast? with
  | some last =>
    if last.contains '.' then
      if isVersionFour last then some (parts.dropLast ++ [['0'], ['0']]) else none
    else some parts
  | none => none

/-- The groups before and after the gap of an address, where a gap at an end leaves an empty group
there. -/
def besideGap? (before after : List (List Char)) : Option (List (List Char)) :=
  let front :=
    if before == [[]] then some [] else if before.head? == some [] then none else some before
  let back :=
    if after == [[]] then some [] else if after.getLast? == some [] then none else some after
  match front, back with
  | some left, some right => if left.length + right.length < 8 then some (left ++ right) else none
  | _, _ => none

/-- The positions of the empty groups that are neither first nor last. -/
def innerGaps (parts : List (List Char)) : List Nat :=
  (List.range parts.length).filter fun index =>
    0 < index && index + 1 < parts.length && parts[index]? == some []

/-- Whether a text is an address of version 6 without a zone. -/
def isVersionSixPlain (chars : List Char) : Bool :=
  let parts := splitAtChar ':' chars
  if parts.length < 3 then false
  else match expandLast? parts with
    | none => false
    | some groups =>
      if 9 < groups.length then false
      else match innerGaps groups with
        | [] => groups.length == 8 && groups.all isGroup
        | [gap] =>
          match besideGap? (groups.take gap) (groups.drop (gap + 1)) with
          | some rest => rest.all isGroup
          | none => false
        | _ => false

/-- Whether a text is an address of version 6. -/
def isVersionSix (chars : List Char) : Bool :=
  match cutAtChar '%' chars with
  | (address, none) => !chars.contains '/' && isVersionSixPlain address
  | (address, some zone) =>
    !chars.contains '/' && !zone.isEmpty && !zone.contains '%' && isVersionSixPlain address

/-- Whether a text that starts with `v` is an address of a future version. -/
def isFutureVersion (chars : List Char) : Bool :=
  let rest := chars.drop 1
  let digits := rest.takeWhile fun char => (hexValue? char).isSome
  match rest.drop digits.length with
  | '.' :: more => !digits.isEmpty && !more.isEmpty && !more.contains '\n'
  | _ => false

/-- Check a host in brackets. -/
def checkHost (host : List Char) : Except Fault Unit :=
  if host.head? = some 'v' then
    if isFutureVersion host then .ok () else .error .futureVersion
  else if isVersionFour host then .error .versionFour
  else if isVersionSix host then .ok ()
  else .error (.noAddress (String.ofList host))

/-- The characters that turn into a delimiter under compatibility normalisation. -/
def hiddenDelimiters : List Nat :=
  [
    0x2047, 0x2048, 0x2049, 0x2100, 0x2101, 0x2105, 0x2106, 0x2A74, 0xFE13, 0xFE16, 0xFE55, 0xFE56,
    0xFE5F, 0xFE6B, 0xFF03, 0xFF0F, 0xFF1A, 0xFF1F, 0xFF20
  ]

/-- Check the brackets of an authority. -/
def checkBrackets (authority : List Char) : Except Fault Unit :=
  if authority.contains '[' != authority.contains ']' then .error .unbalancedBrackets
  else if authority.contains '[' then
    checkHost (((authority.dropWhile (· != '[')).drop 1).takeWhile (· != ']'))
  else .ok ()

/-- Check the characters of an authority. -/
def checkCharacters (authority : List Char) : Except Fault Unit :=
  if authority.any fun char => hiddenDelimiters.contains char.toNat then
    .error (.unsafeCharacter (String.ofList authority))
  else .ok ()

end ImageCatalog.Url
