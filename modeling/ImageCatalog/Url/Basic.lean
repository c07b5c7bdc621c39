import ImageCatalog.Text.Case
import ImageCatalog.Url.Host

/-!
# The parts of an address

An address is split into its scheme, authority, path, query and fragment. Control characters and
spaces at its front are dropped, as are tabs and line breaks everywhere. Any text can be split,
unless its authority is faulty. `join` resolves a relative address against another one.
-/

namespace ImageCatalog.Url

open Text

/-- The parts of an address. -/
structure Parts where
  scheme : List Char
  authority : List Char
  path : List Char
  query : List Char
  fragment : List Char
deriving DecidableEq, Repr

/-- Whether a character may stand in a scheme. -/
def isSchemeChar (char : Char) : Bool :=
  char.isAlphanum || char == '+' || char == '-' || char == '.'

/-- The scheme in lower case and the rest of an address. -/
def splitScheme (chars : List Char) : List Char × List Char :=
  match cutAtChar ':' chars with
  | (scheme, some rest) =>
    if (scheme.head?.map Char.isAlpha).getD false && scheme.all isSchemeChar then
      (scheme.map Char.toLower, rest)
    else ([], chars)
  | (_, none) => ([], chars)

/-- Whether a character ends an authority. -/
def endsAuthority (char : Char) : Bool :=
  char == '/' || char == '?' || char == '#'

/-- The authority and the rest of an address whose scheme is already left out. -/
def splitAuthority : List Char → List Char × List Char
  | '/' :: '/' :: rest =>
    (rest.takeWhile fun char => !endsAuthority char, rest.dropWhile fun char => !endsAuthority char)
  | chars => ([], chars)

/-- An address without the characters that do not count. -/
def clean (chars : List Char) : List Char :=
  (chars.dropWhile fun char => char.toNat ≤ 0x20).filter fun char =>
    char != '\t' && char != '\r' && char != '\n'

/-- The parts of an address. -/
def split (address : String) : Except Fault Parts := do
  let (scheme, rest) := splitScheme (clean address.toList)
  let (authority, tail) := splitAuthority rest
  checkBrackets authority
  let (beforeFragment, fragment) := cutAtChar '#' tail
  let (path, query) := cutAtChar '?' beforeFragment
  checkCharacters authority
  return ⟨scheme, authority, path, query.getD [], fragment.getD []⟩

/-- The schemes whose paths may end in parameters. -/
def parameterSchemes : List String :=
  ["", "ftp", "hdl", "prospero", "http", "imap", "https", "shttp", "rtsp", "rtsps", "rtspu", "sip",
    "sips", "mms", "sftp", "tel"]

/-- The last segment of a path. -/
def lastSegment (path : List Char) : List Char :=
  (path.reverse.takeWhile (· != '/')).reverse

/-- The last segment of the path of an address, without its parameters. -/
def Parts.lastSegment (parts : Parts) : List Char :=
  let segment := Url.lastSegment parts.path
  if parameterSchemes.contains (String.ofList parts.scheme) then segment.takeWhile (· != ';')
  else segment

end ImageCatalog.Url
