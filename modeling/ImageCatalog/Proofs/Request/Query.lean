import ImageCatalog.Proofs.Request.Sent
import ImageCatalog.Proofs.Text.Form

/-!
# The query of a request

The named values of a request can be read back from its address: what follows the last question mark
is a form whose entries are the named values, one for every name. Before that mark stand the address
of the service and the segments of the positional values; without named values there is nothing
else. A query has no address only if one of its entries has a half in it.
-/

namespace ImageCatalog.PreparedRequest

open Config Text

theorem queryPart_of_ne_nil {entries : List (String × String)} (some : entries ≠ []) :
    queryPart entries = '?' :: (Form.encode (Entries.onePerKey entries)).toList :=
  if_neg some

/-- A service with one positional parameter and three named ones, of which two share a name. -/
def searchService : Description :=
  { title := "", intro := "", icon := none, link := "https://search.test/?/", verb := "get"
    parameters :=
      [⟨some "q", "", true, .text none⟩, ⟨none, "", true, .text none⟩,
        ⟨some "safe", "", true, .flag none⟩,
        ⟨some "q", "", true, .list ⟨[], some "; "⟩⟩]
    image := ⟨.url, none⟩ }

/-- A value for every parameter of the service. -/
def searchValues : ValueMap :=
  [(0, .text "x"), (1, .text "cats"), (2, .bool true), (3, .list [.text "é&", .text "?="])]

end ImageCatalog.PreparedRequest
