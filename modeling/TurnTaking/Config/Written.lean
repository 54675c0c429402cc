import TurnTaking.Config.Format
import TurnTaking.Json.Real
import TurnTaking.Json.Reader
import TurnTaking.Yaml.Document
import TurnTaking.Yaml.Reading

/-!
# Written configurations

Configurations as they stand in files, in YAML, and as they are exchanged, in JSON. A JSON array gives
the settings of a group in order.

* `Config.ofYaml?`, `Config.ofJson?` — the configuration that a text or a value stands for.
-/

namespace TurnTaking.Config

def jsonFormat : Format Json where
  group? names v := (Json.fields? names v).map fun fs name => fs.get? name (names.idxOf name)
  text? := Json.asOption? Json.asText?
  natural? limit v := (Json.asIntWithin? 0 limit v).map Int.toNat
  integer? := Json.asInt64?
  truth? := Json.asBool?
  decimals? := Json.asList? Json.asReal?

def yamlFormat (d : Yaml.Document) : Format Yaml.Node where
  group? := d.fields?
  text? := d.asOptionalText?
  natural? limit n := (d.asIntWithin? 0 limit n).map Int.toNat
  integer? := d.asIntWithin? (-0x8000000000000000) 0x7fffffffffffffff
  truth? := d.asTruth?
  decimals? := d.asList? d.asDecimal?

/-- The configuration that a JSON value stands for. -/
def ofJson? (v : Json) : Option Config := read? jsonFormat v

def ofYaml? (text : String) : Option Config := do
  let d ← Yaml.Document.read? text
  read? (yamlFormat d) d.root

end TurnTaking.Config
