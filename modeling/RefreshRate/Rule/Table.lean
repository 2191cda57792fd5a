import RefreshRate.Rule.Packages

namespace RefreshRate

/-!
# The rule table

A table holds a rule for a device that is offscreen, a universal rule, and rules
of packages.  `RuleTable.build` checks that the mandatory rules are given and
that the mode of switching accepts every rule; the first fault in a fixed order
is reported.
-/

/-- Why there is no usable configuration. -/
inductive ConfigError where
  /-- The file at a path cannot be read. -/
  | unreadable (path cause : String)
  /-- A mandatory rule is not given. -/
  | missingRule (key : String)
  /-- A rule does not fit the mode of switching. -/
  | invalidRule (key : String) (rule : Rule) (mode : SwitchMode)
  deriving Repr, DecidableEq

namespace ConfigError

/-- The short name of the kind of error. -/
def label : ConfigError → String
  | .unreadable .. => "config_io"
  | .missingRule .. => "config_missing_rule"
  | .invalidRule .. => "config_invalid_rule"

/-- What a mandatory rule is for. -/
def purpose (key : String) : String :=
  if key = Rule.universalKey then
    "default"
  else if key = Rule.offscreenKey then
    "offscreen"
  else
    "mandatory"

/-- The error as a sentence. -/
def message : ConfigError → String
  | .unreadable path cause =>
      "cannot open config '" ++ path ++ "': " ++ cause
  | .missingRule key =>
      purpose key ++ " rule '" ++ key ++ "' not specified in the config file"
  | .invalidRule key rule mode =>
      "rule of '" ++ key ++ "' (" ++ rule.pairText ++ ") is invalid for " ++
        mode.name ++ " switching"

end ConfigError

/-- The rules in use. -/
structure RuleTable where
  universal : Rule
  offscreen : Rule
  packages : PackageRules
  deriving DecidableEq

namespace RuleTable

/-- All rules with their keys: the offscreen one, the universal one, the packages. -/
def entries (table : RuleTable) : List (String × Rule) :=
  (Rule.offscreenKey, table.offscreen) ::
    (Rule.universalKey, table.universal) :: table.packages.entries

/-- The first rule that a mode refuses. -/
def firstRefused?
    (table : RuleTable)
    (mode : SwitchMode) :
    Option (String × Rule) :=
  table.entries.find? fun entry => !mode.accepts entry.2

/-- The table of the given rules, if it is complete and the mode accepts it. -/
def build
    (universal? offscreen? : Option Rule)
    (packages : PackageRules)
    (mode : SwitchMode) :
    Except ConfigError RuleTable :=
  match offscreen?, universal? with
  | none, _ =>
      .error (.missingRule Rule.offscreenKey)
  | some _, none =>
      .error (.missingRule Rule.universalKey)
  | some offscreen, some universal =>
      let table : RuleTable := ⟨universal, offscreen, packages⟩
      match table.firstRefused? mode with
      | some (key, rule) =>
          .error (.invalidRule key rule mode)
      | none =>
          .ok table

/-- The rule for a package or for one of the two special keys. -/
def lookup
    (table : RuleTable)
    (key : String) :
    Rule :=
  if key = Rule.offscreenKey then
    table.offscreen
  else
    (table.packages.get? key).getD table.universal

end RuleTable

end RefreshRate
