import Rehearsal.Registry

/-!
# Descriptions of registries

The texts in which a registry and the result of a lookup are shown to developers. Code cannot be
shown; its place is held by two points.
-/

namespace Rehearsal

/-- A record with the given fields of which not all are shown. -/
def describedRecord (name : String) (fields : List (String × String)) : String :=
  name ++ " \x7b " ++ .join
    (fields.map fun field => field.1 ++ ": " ++ field.2 ++ ", ") ++ ".. \x7d"

/-- The description of a term of a tag filter. -/
def TagTerm.describe (term : TagTerm) : String :=
  "TagTerm \x7b tag: " ++ quoted term.tag ++ ", negated: " ++
    (if term.negated then "true" else "false") ++
    " \x7d"

/-- The description of a tag filter. -/
def TagFilter.describe (filter : TagFilter) : String :=
  "TagFilter \x7b source: " ++ quoted filter.source ++ ", groups: " ++
    bracketed (filter.groups.map fun group => bracketed (group.map TagTerm.describe)) ++ " \x7d"

variable {W σ ν : Type}

/-- The description of a step definition. -/
def StepDefinition.describe (d : StepDefinition W σ ν) : String :=
  describedRecord "StepDefinition"
    [("keyword", describedOption (d.keyword.map Keyword.describe)), ("pattern", d.pattern.describe)]

/-- The description of a transform of captures. -/
def TransformDefinition.describe (d : TransformDefinition W σ ν) : String :=
  describedRecord "TransformDefinition" [("pattern", d.pattern.describe)]

/-- The description of a transform of tables. -/
def TableTransformDefinition.describe (d : TableTransformDefinition W σ ν) : String :=
  describedRecord "TableTransformDefinition" [("pattern", d.pattern.describe)]

/-- The description of a hook. -/
def HookDefinition.describe (h : HookDefinition W σ ν) : String :=
  describedRecord "HookDefinition"
    [("scope", h.scope.describe), ("filter", describedOption (h.filter.map TagFilter.describe))]

/-- The description of a registry. -/
def Registry.describe (r : Registry W σ ν) : String :=
  describedRecord "Registry"
    [("steps", bracketed (r.steps.map StepDefinition.describe)),
     ("transforms", bracketed (r.transforms.map TransformDefinition.describe)),
     ("table_transforms", bracketed (r.tableTransforms.map TableTransformDefinition.describe)),
     ("hooks", bracketed (r.hooks.map HookDefinition.describe))]

/-- The description of the result of a lookup. -/
def Resolution.describe : Resolution W σ ν → String
  | .noMatch => "NoMatch"
  | .unique d captures =>
    "Unique \x7b definition: " ++ d.describe ++ ", captures: " ++
      bracketed (captures.map quoted) ++ " \x7d"
  | .ambiguous ds => "Ambiguous(" ++ bracketed (ds.map StepDefinition.describe) ++ ")"

end Rehearsal
