import ProviderCode.Resource.Tree
import ProviderCode.Specification.AttributeFormat

/-!
# Generated files

One file for each resource: a header, the imports, and the sections that are not empty.
-/

namespace ProviderCode

/-- How files are generated. -/
structure FileOptions where
  packageName : String := "provider"
  fileSuffix : String := "_resource_gen.go"
  /-- Whether resources that are not supported are left out instead of being an error. -/
  skipUnsupported : Bool := false
deriving DecidableEq, Repr

def FileOptions.record : Record FileOptions where
  name := "GenerateOptions"
  blank := {}
  fields := [
    .defaulted "package_name" .string (·.packageName) fun v r => { r with packageName := v },
    .defaulted "file_suffix" .string (·.fileSuffix) fun v r => { r with fileSuffix := v },
    .defaulted "skip_unimplemented" .bool (·.skipUnsupported)
      fun v r => { r with skipUnsupported := v }]

structure GeneratedFile where
  /-- The name of the resource. -/
  name : String
  fileName : String
  imports : Imports
  schema : String
  modelFields : List ModelField
  typePairs : String
  adapters : String
  content : String

namespace GeneratedFile

def header : String := "// Code generated by schemagen; DO NOT EDIT.\n"

/-- A section after an empty line, unless there is nothing in it. -/
def section? (text : String) : String := if text.isEmpty then "" else "\n" ++ text

/-- The packages that the type pairs use. -/
def typePairPackages : List Package := [.fmt, .attr, .basetypes, .diag, .tftypes]

/-- The imports of a file: those of the nodes, and those of the sections it has. -/
def allImports (tree : ResourceTree) (typePairs adapters : String) : Imports :=
  let base := (tree.imports.insertPackage .context).insertPackage .schema
  let withPairs :=
    if typePairs.isEmpty then base else typePairPackages.foldl Imports.insertPackage base
  if adapters.isEmpty then withPairs else withPairs.insertPackage .diag

end GeneratedFile

namespace ResourceTree

/-- Generates the file of a resource. -/
def generate (tree : ResourceTree) (options : FileOptions) : Generated GeneratedFile := do
  let typePairs ← tree.typePairs
  let adapters ← tree.adapters
  let imports := GeneratedFile.allImports tree typePairs adapters
  return {
    name := tree.name
    fileName := tree.name ++ options.fileSuffix
    imports
    schema := tree.schema
    modelFields := tree.modelFields
    typePairs
    adapters
    content := GeneratedFile.header ++ "\npackage " ++ options.packageName ++ "\n\n" ++
      imports.declaration ++
      String.join ([tree.schema, tree.model, typePairs, adapters].map GeneratedFile.section?) }

end ResourceTree

/-- Builds and generates one resource. -/
def Resource.generate (options : FileOptions) (resource : Resource) : Generated GeneratedFile :=
  resource.build >>= (·.generate options)

/-- Generates resources in order, up to the first error that is not passed over. -/
def generateResources (options : FileOptions) : List Resource → Generated (List GeneratedFile)
  | [] => .ok []
  | resource :: resources =>
    match resource.generate options with
    | .ok file => (file :: ·) <$> generateResources options resources
    | .error e =>
      if options.skipUnsupported && e.isUnsupported then generateResources options resources
      else .error e

/-- Generates the files of a specification in the order of its resources. -/
def Specification.generate (specification : Specification) (options : FileOptions) :
    Generated (List GeneratedFile) :=
  generateResources options specification.resources

end ProviderCode
