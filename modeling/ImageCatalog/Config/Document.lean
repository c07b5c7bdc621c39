import ImageCatalog.Config.Basic

/-!
# Configurations as documents

A configuration is written back as a document in which every field is spelt out, also those that the
document it came from left to their defaults.
-/

namespace ImageCatalog.Config

/-- The fields of a parameter that belong to its kind. -/
def Kind.fields : Kind → List (String × Value)
  | .number field =>
    [("value", optionalValue quantityValue field.value),
      ("min_value", optionalValue quantityValue field.least),
      ("max_value", optionalValue quantityValue field.greatest)]
  | .flag value => [("value", optionalValue .bool value)]
  | .choice field =>
    [("value", .list field.options),
      ("friendly_value", optionalValue (fun texts => .list (texts.map .text)) field.labels)]
  | .text value => [("value", optionalValue .text value)]
  | .list field =>
    [("value", .list (field.items.map .text)),
      ("split_str", optionalValue .text field.separator)]

/-- The document of a parameter. -/
def Parameter.toValue (parameter : Parameter) : Value :=
  .object ([("name", optionalValue .text parameter.name), ("friendly_name", .text parameter.label),
    ("enable", .bool parameter.enabled), ("type", .text parameter.kind.name.tag)] ++
    parameter.kind.fields)

/-- The document of an image descriptor. -/
def ImageDescriptor.toValue (image : ImageDescriptor) : Value :=
  .object [("content_type", .text image.contentType.tag), ("path", optionalValue .text image.path)]

/-- The document of a description. -/
def Description.toValue (description : Description) : Value :=
  .object [("friendly_name", .text description.title), ("intro", .text description.intro),
    ("icon", optionalValue .text description.icon), ("link", .text description.link),
    ("func", .text description.verb),
    ("parameters", .list (description.parameters.map Parameter.toValue)),
    ("response", .object [("image", description.image.toValue)])]

/-- The document of a configuration. -/
def toValue (config : Config) : Value :=
  .object [("name", .text config.name), ("category", .text config.category),
    ("content", config.description.toValue)]

end ImageCatalog.Config
