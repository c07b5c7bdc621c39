import ImageCatalog.Disk.Tree
import ImageCatalog.Http.Client
import ImageCatalog.Image.Reference

/-!
# Downloading images

The bytes behind a reference come from the reference itself or from its address. They are written
under the name of the reference into a directory, which is made if it is missing.
-/

namespace ImageCatalog.Image

open Disk Http Text

/-- Why an image is not downloaded: its reference holds no payload, its address brings nothing,
there is no name for it, or it cannot be written. -/
inductive DownloadFault
  | decode (fault : DecodeFault)
  | send (fault : SendFault)
  | name (fault : Url.Fault)
  | disk (fault : Disk.Fault)
deriving DecidableEq, Repr

/-- What is reported about an image that is not downloaded. -/
def DownloadFault.message : DownloadFault → String
  | .decode fault => fault.message
  | .send .unencodable => ""
  | .send (.transport fault) => fault.message
  | .name fault => fault.message
  | .disk fault => fault.message

/-- Whether a fault concerns a single image only, so that it is reported and the next image is
downloaded; it does not if the reference itself makes no sense. -/
def DownloadFault.isReported : DownloadFault → Bool
  | .decode (.base64 .notAscii) => false
  | .decode .unencodable => false
  | .decode _ => true
  | .send .unencodable => false
  | .send (.transport _) => true
  | .name _ => false
  | .disk fault => !fault.cause.isOfName

/-- The bytes behind a reference, with the requests that were made for them. -/
def fetch (network : Network) (reference : String) :
    Except DownloadFault (List UInt8) × List Request :=
  if startsWith "data:" reference then ((decode reference).mapError .decode, [])
  else
    let (result, made) := send network (.get reference [])
    ((result.map Fetched.content).mapError .send, made)

/-- Write the bytes of an image under a name into a directory. -/
def save (tree : Tree) (directory : Location) (name : String) (content : List UInt8) :
    Except Disk.Fault Location × Tree :=
  match tree.makeDirectories directory with
  | (.error fault, made) => (.error fault, made)
  | (.ok (), made) =>
    let location := directory.join name
    match made.write location content with
    | .error fault => (.error fault, made)
    | .ok final => (.ok location, final)

/-- What a download leaves behind: the location of the image or the fault, the disk, and the
requests that were made. -/
structure Download where
  result : Except DownloadFault Location
  tree : Tree
  requests : List Request

/-- Download the image of a reference into a directory. -/
def download (network : Network) (extensions : Extensions) (clock : Nat) (tree : Tree)
    (directory : Location) (reference : String) : Download :=
  match fetch network reference with
  | (.error fault, made) => ⟨.error fault, tree, made⟩
  | (.ok content, made) =>
    match fileName extensions clock reference with
    | .error fault => ⟨.error (.name fault), tree, made⟩
    | .ok name =>
      let (result, left) := save tree directory name content
      ⟨result.mapError .disk, left, made⟩

end ImageCatalog.Image
