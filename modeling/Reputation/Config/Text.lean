/-
**Configuration texts.**

A configuration is kept in TOML. A text is read setting by setting, what it does not say having its
usual value, and is then held against the bounds.
-/

import Reputation.Form.Config
import Reputation.Toml.Document
import Reputation.Toml.Writer

namespace Reputation

/-- The configuration that a text describes, its bounds not being checked. -/
def Config.read (text : String) : Except Error Config :=
  match (Toml.read? text).bind Form.ofDatum? with
  | some config => .ok config
  | none => .error .configText

/-- The configuration that a text describes, if it is within bounds. -/
def Config.ofText (text : String) : Except Error Config := do
  let config ← Config.read text
  config.check
  return config

/-- The text of a configuration. -/
def Config.toText (config : Config) : Except Error String :=
  match Toml.write? (Form.toDatum config) with
  | some text => .ok text
  | none => .error .configText

end Reputation
