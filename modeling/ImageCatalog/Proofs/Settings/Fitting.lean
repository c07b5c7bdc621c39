import ImageCatalog.Proofs.Results
import ImageCatalog.Settings.Effective

/-!
# Saved settings that fit

Saved settings may be any values, but not all of them can be put in force. Addresses must be texts,
and so must the location for downloads, whose home directory must moreover be known; values that
count as not set give way to the settings of the environment. The switch and the token always fit.
-/

namespace ImageCatalog.Settings.Effective

open Disk

/-- Whether the saved value of an address is a text, unless it counts as not set. -/
def FitsAddress (store : Store) (name : SavedName) : Prop :=
  ∀ value, saved? store name = some value → ∃ url, value = .text url

/-- Whether the location for downloads, saved or of the environment, can be found. -/
def FitsDownloads (homes : Homes) (store : Store) (fallback : Location) : Prop :=
  match saved? store .downloads with
  | none => (fallback.expandHome? homes).isSome = true
  | some value =>
      ∃ path, value = .text path ∧ ((Location.ofText path).expandHome? homes).isSome = true

/-- Whether saved settings can be put in force over those of the environment. -/
structure Fits (homes : Homes) (store : Store) (settings : Settings) : Prop where
  staticUrl : FitsAddress store .staticUrl
  repositoryUrl : FitsAddress store .repositoryUrl
  downloads : FitsDownloads homes store settings.downloads

theorem address_ok_iff {store : Store} {name : SavedName} (fallback : String) :
    (∃ url, address store name fallback = .ok url) ↔ FitsAddress store name := by
  unfold address FitsAddress
  cases saved? store name with
  | none => simp
  | some value => cases value <;> simp

theorem downloadsOf_ok_iff {homes : Homes} {store : Store} {fallback : Location} :
    (∃ location, downloadsOf homes store fallback = .ok location) ↔
      FitsDownloads homes store fallback := by
  have expand_ok (location : Location) :
      (∃ expanded, downloadsOf.expand homes location = .ok expanded) ↔
        (location.expandHome? homes).isSome = true := by
    unfold downloadsOf.expand
    cases location.expandHome? homes <;> simp
  unfold downloadsOf FitsDownloads
  cases saved? store .downloads with
  | none => exact expand_ok fallback
  | some value => cases value <;> simp [expand_ok]

/-- Settings can be put in force exactly if the saved ones fit. -/
theorem of_ok_iff {homes : Homes} {store : Store} {settings : Settings} :
    (∃ effective, of homes store settings = .ok effective) ↔ Fits homes store settings := by
  constructor
  · rintro ⟨effective, inForce⟩
    rcases Results.bind_ok inForce with ⟨staticUrl, staticOk, others⟩
    rcases Results.bind_ok others with ⟨repositoryUrl, repositoryOk, rest⟩
    rcases Results.bind_ok rest with ⟨downloads, downloadsOk, _⟩
    exact ⟨(address_ok_iff _).mp ⟨_, staticOk⟩, (address_ok_iff _).mp ⟨_, repositoryOk⟩,
      downloadsOf_ok_iff.mp ⟨_, downloadsOk⟩⟩
  · intro fits
    rcases (address_ok_iff settings.staticUrl).mpr fits.staticUrl with ⟨staticUrl, staticOk⟩
    rcases (address_ok_iff settings.repositoryUrl).mpr fits.repositoryUrl with
      ⟨repositoryUrl, repositoryOk⟩
    rcases downloadsOf_ok_iff.mpr fits.downloads with ⟨downloads, downloadsOk⟩
    unfold of
    rw [staticOk, repositoryOk, downloadsOk]
    exact ⟨_, rfl⟩

end ImageCatalog.Settings.Effective
