/-!
# Framework packages

The packages that generated code uses by itself, apart from those a specification asks for.
-/

namespace ProviderCode

inductive Package
  | context
  | fmt
  | attr
  | types
  | basetypes
  | diag
  | schema
  | planmodifier
  | validator
  | booldefault
  | float64default
  | int64default
  | stringdefault
  | tftypes
deriving DecidableEq, Repr

namespace Package

/-- The path under which the package is imported. -/
def path : Package → String
  | .context => "context"
  | .fmt => "fmt"
  | .attr => "github.com/hashicorp/terraform-plugin-framework/attr"
  | .types => "github.com/hashicorp/terraform-plugin-framework/types"
  | .basetypes => "github.com/hashicorp/terraform-plugin-framework/types/basetypes"
  | .diag => "github.com/hashicorp/terraform-plugin-framework/diag"
  | .schema => "github.com/hashicorp/terraform-plugin-framework/resource/schema"
  | .planmodifier =>
    "github.com/hashicorp/terraform-plugin-framework/resource/schema/planmodifier"
  | .validator => "github.com/hashicorp/terraform-plugin-framework/schema/validator"
  | .booldefault =>
    "github.com/hashicorp/terraform-plugin-framework/resource/schema/booldefault"
  | .float64default =>
    "github.com/hashicorp/terraform-plugin-framework/resource/schema/float64default"
  | .int64default =>
    "github.com/hashicorp/terraform-plugin-framework/resource/schema/int64default"
  | .stringdefault =>
    "github.com/hashicorp/terraform-plugin-framework/resource/schema/stringdefault"
  | .tftypes => "github.com/hashicorp/terraform-plugin-go/tftypes"

/-- The name that stands before the point where something of the package is used. -/
def qualifier : Package → String
  | .context => "context"
  | .fmt => "fmt"
  | .attr => "attr"
  | .types => "types"
  | .basetypes => "basetypes"
  | .diag => "diag"
  | .schema => "schema"
  | .planmodifier => "planmodifier"
  | .validator => "validator"
  | .booldefault => "booldefault"
  | .float64default => "float64default"
  | .int64default => "int64default"
  | .stringdefault => "stringdefault"
  | .tftypes => "tftypes"

end Package

end ProviderCode
