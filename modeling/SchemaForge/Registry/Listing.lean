import SchemaForge.Registry.Basic
import SchemaForge.Yaml.Print

/-!
# Listings of a registry

The entries of a registry as records for other programs, in two formats. Texts of
the first are ASCII, with an escape for every other UTF-16 unit.
-/

namespace SchemaForge

/-- The fields of the record of an entry. -/
def Entry.record (entry : Entry) : List (Text × Yaml.FieldValue) :=
  [("name", .text entry.name), ("kind", .text entry.kind.label),
    ("namespace", .text entry.package), ("origin", .text entry.origin.label),
    ("has_identity_field", .flag entry.hasIdentityField), ("source", .text entry.location)]

namespace Listing

/-- How a code point is written between double quotes in ASCII. -/
def asciiUnit (c : CodePoint) : Text :=
  let unit (n : Nat) : Text := Text.concat ["\\u", Text.padded 16 4 n]
  if c = .quote || c = .backslash then [.backslash, c]
  else if c = .lineFeed then "\\n"
  else if c = .carriageReturn then "\\r"
  else if c = .tab then "\\t"
  else if c.val = 0x08 then "\\b"
  else if c.val = 0x0C then "\\f"
  else if 0x20 ≤ c.val && c.val ≤ 0x7E then [c]
  else if c.val < 0x10000 then unit c.val
  else
    let offset := c.val - 0x10000
    unit (0xD800 + offset / 0x400) ++ unit (0xDC00 + offset % 0x400)

/-- A field of a record. -/
def jsonField (field : Text × Yaml.FieldValue) : Text :=
  let value : Text :=
    match field.2 with
    | .text value => Text.concat [[.quote], value.flatMap asciiUnit, [.quote]]
    | .flag value => if value then "true" else "false"
  Text.concat ["    ", [.quote], field.1, [.quote], ": ", value]

/-- A record. -/
def jsonRecord (record : List (Text × Yaml.FieldValue)) : Text :=
  Text.concat ["  \x7b\n", Text.join ",\n" (record.map jsonField), "\n  \x7d"]

/-- The listing of some entries, with indentation. -/
def json (entries : List Entry) : Text :=
  if entries.isEmpty then "[]"
  else
    Text.concat ["[\n", Text.join ",\n" (entries.map (fun entry => jsonRecord entry.record)),
      "\n]"]

/-- The listing of some entries in block style. -/
def yaml (entries : List Entry) : Text := Yaml.writeRecords (entries.map Entry.record)

end Listing

end SchemaForge
