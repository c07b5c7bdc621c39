import ImageCatalog.Url.Basic

/-!
# Relative addresses

A relative address is resolved against the address of the document that it stands in: missing parts
are taken over from there, a relative path replaces the last segment, and single and double points
in the path are steps to the same and to the upper directory. The origin of an address is its
scheme, host and port.
-/

namespace ImageCatalog.Url

open Text

/-- The schemes of addresses that relative ones may be resolved against. -/
def relativeSchemes : List String :=
  ["", "ftp", "http", "gopher", "nntp", "imap", "wais", "file", "https", "shttp", "mms", "prospero",
    "rtsp", "rtsps", "rtspu", "sftp", "svn", "svn+ssh", "ws", "wss"]

/-- The text of the parts of an address. -/
def Parts.print (parts : Parts) : String :=
  let scheme := if parts.scheme.isEmpty then [] else parts.scheme ++ [':']
  let path :=
    if !parts.authority.isEmpty && !parts.path.isEmpty && parts.path.head? != some '/' then
      '/' :: parts.path
    else parts.path
  let authority :=
    if parts.authority.isEmpty && !"//".toList.isPrefixOf parts.path then []
    else '/' :: '/' :: parts.authority
  let query := if parts.query.isEmpty then [] else '?' :: parts.query
  let fragment := if parts.fragment.isEmpty then [] else '#' :: parts.fragment
  String.ofList (scheme ++ authority ++ path ++ query ++ fragment)

/-- Take the steps of a path, with the segments so far in reverse. -/
def takeSteps (reversed : List (List Char)) : List (List Char) → List (List Char)
  | [] => reversed.reverse
  | segment :: rest =>
    if segment = ['.', '.'] then takeSteps (reversed.drop 1) rest
    else if segment = ['.'] then takeSteps reversed rest
    else takeSteps (segment :: reversed) rest

/-- A row without its empty members, but for the first and the last one. -/
def dropInnerEmpty (segments : List (List Char)) : List (List Char) :=
  match segments with
  | [] => []
  | [only] => [only]
  | first :: rest => first :: (rest.dropLast.filter (!·.isEmpty)) ++ rest.getLast?.toList

/-- The segments of a path, seen from the directory of another one. -/
def segmentsFrom (base path : List Char) : List (List Char) :=
  let own := splitAtChar '/' path
  if path.head? = some '/' then own
  else
    let whole := splitAtChar '/' base
    let directory := if whole.getLast? = some [] then whole else whole.dropLast
    dropInnerEmpty (directory ++ own)

/-- A path, seen from another one. -/
def joinPaths (base path : List Char) : List Char :=
  let segments := segmentsFrom base path
  let stays := segments.getLast? == some ['.'] || segments.getLast? == some ['.', '.']
  let joined := joinChars ['/'] (takeSteps [] segments ++ if stays then [[]] else [])
  if joined.isEmpty then ['/'] else joined

/-- An address, seen from another one. -/
def joinParts (base further : Parts) : Parts :=
  let scheme := if further.scheme.isEmpty then base.scheme else further.scheme
  if scheme != base.scheme || !relativeSchemes.contains (String.ofList scheme) then further
  else if !further.authority.isEmpty then { further with scheme }
  else if further.path.isEmpty then
    { base with
      query := if further.query.isEmpty then base.query else further.query
      fragment := further.fragment }
  else
    { further with
      scheme
      authority := base.authority
      path := joinPaths base.path further.path }

/-- The text of an address, seen from another one. -/
def join (base further : String) : Except Fault String :=
  if base.isEmpty then .ok further
  else if further.isEmpty then .ok base
  else do
    let here ← split base
    let there ← split further
    return (joinParts here there).print

/-- The origin of an address. -/
structure Origin where
  scheme : List Char
  host : List Char
  port : Option Nat
deriving DecidableEq, Repr

/-- The host and the port of an authority. -/
def hostAndPort (authority : List Char) : List Char × List Char :=
  let place := (authority.reverse.takeWhile (· != '@')).reverse
  let port := (place.reverse.takeWhile Char.isDigit).reverse
  let before := place.take (place.length - port.length)
  if before.getLast? = some ':' then (before.dropLast, port) else (place, [])

/-- The port that a scheme uses if none is given. -/
def usualPort? (scheme : List Char) : Option Nat :=
  match String.ofList scheme with
  | "http" => some 80
  | "https" => some 443
  | "ftp" => some 21
  | _ => none

/-- The origin of the parts of an address. -/
def Parts.origin (parts : Parts) : Origin :=
  let (host, port) := hostAndPort parts.authority
  { scheme := parts.scheme
    host := host.map Char.toLower
    port := if port.isEmpty then usualPort? parts.scheme else some (Nat.ofDigitChars 10 port 0) }

/-- Whether an origin is the secured form of another one. -/
def Origin.secures (secured plain : Origin) : Bool :=
  secured.host == plain.host && plain.scheme == "http".toList && plain.port == some 80 &&
    secured.scheme == "https".toList && secured.port == some 443

/-- Whether a secret that was sent to one address may be sent to another one: the origin is the same
or its secured form. -/
def keepsSecret (source target : String) : Bool :=
  match split source, split target with
  | .ok first, .ok second =>
    first.origin == second.origin || second.origin.secures first.origin
  | _, _ => false

end ImageCatalog.Url
