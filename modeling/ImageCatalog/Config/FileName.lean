import ImageCatalog.Disk.Location

/-!
# Names of configuration files

In the catalog a configuration is a file whose name ends in `.api.json`, and the rest of the file
name is the name of the configuration. Any other file gives its name without the last suffix.
-/

namespace ImageCatalog.Config

open Text

/-- The suffix of configuration files in the catalog. -/
def fileSuffix : String := ".api.json"

/-- Whether a file of the catalog is a configuration. -/
def isConfigFile (fileName : String) : Bool :=
  endsWith fileSuffix fileName

/-- The name of the configuration in a file. -/
def nameOfFile (fileName : String) : String :=
  if isConfigFile fileName then dropEnd fileSuffix.length fileName
  else (Disk.Location.ofText fileName).stem

theorem isConfigFile_iff (fileName : String) :
    isConfigFile fileName = true ↔ ∃ name, fileName = name ++ fileSuffix := by
  rw [isConfigFile, endsWith, List.isSuffixOf_iff_suffix]
  constructor
  · rintro ⟨front, split⟩
    refine ⟨String.ofList front, String.toList_inj.mp ?_⟩
    rw [String.toList_append, String.toList_ofList, split]
  · rintro ⟨name, rfl⟩
    exact ⟨name.toList, by rw [String.toList_append]⟩

theorem nameOfFile_append (name : String) : nameOfFile (name ++ fileSuffix) = name := by
  have config : isConfigFile (name ++ fileSuffix) = true := (isConfigFile_iff _).mpr ⟨name, rfl⟩
  simp [nameOfFile, config, dropEnd, ← String.length_toList]

end ImageCatalog.Config
