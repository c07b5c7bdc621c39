import ImageCatalog.Config.Basic

/-!
# The cached catalog

The catalog that was loaded last is kept until it is invalidated.
-/

namespace ImageCatalog.Catalog

/-- The catalog that was loaded last, unless there is none or it was invalidated. -/
structure Cache where
  configs? : Option (List Config)

namespace Cache

/-- A cache without a catalog. -/
def empty : Cache := ⟨none⟩

/-- Keep a catalog. -/
def set (_cache : Cache) (configs : List Config) : Cache :=
  ⟨some configs⟩

/-- The catalog, if there is one. -/
def get? (cache : Cache) : Option (List Config) :=
  cache.configs?

/-- Forget the catalog. -/
def invalidate (_cache : Cache) : Cache :=
  empty

/-- Whether there is a catalog. -/
def isLoaded (cache : Cache) : Bool :=
  cache.configs?.isSome

end Cache

end ImageCatalog.Catalog
