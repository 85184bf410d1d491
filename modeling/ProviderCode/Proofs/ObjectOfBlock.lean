import ProviderCode.Proofs.Construction
import ProviderCode.Resource.Tree

/-!
# Objects of blocks and resources

A block's object is built on the stack of the objects that wait for it; an object that is no node's,
such as that of a resource, is built child by child, with a new stack for each child.

Main statement: from the same name, attributes and blocks both make the same children, or fail with
the same error.
-/

namespace ProviderCode

/-! ### Children by themselves -/

/-- The attributes and the blocks of an object. -/
def NestedObject.maps (object : NestedObject Node) : Children Node × Children Node :=
  (object.attributes, object.blocks)

/-- The attributes and the blocks of a resource. -/
def ResourceTree.maps (tree : ResourceTree) : Children Node × Children Node :=
  (tree.attributes, tree.blocks)

/-- The object with the children of another one. -/
def NestedObject.withMaps (object : NestedObject Node) (maps : Children Node × Children Node) :
    NestedObject Node :=
  { object with attributes := maps.1, blocks := maps.2 }

/-- An object takes what else it has along while its children are built. -/
theorem Frame.finish_withMaps (owner : String) (object facets : NestedObject Node)
    (attributes : List Attribute) (blocks : List Block) :
    Frame.finish ⟨owner, facets.withMaps object.maps, attributes, blocks⟩ =
      (fun whole => facets.withMaps whole.maps) <$>
        Frame.finish ⟨owner, object, attributes, blocks⟩ := by
  simp only [finish, map_eq_pure_bind, bind_assoc]
  refine bind_congr fun as => bind_congr fun bs => ?_
  rfl

/-- **A single block** has the object that its children make by themselves, with the external type
and the custom type of the block. -/
theorem Block.build_single (name : String) (f : BlockFacets) (external : Option ExternalType)
    (attributes : List Attribute) (blocks : List Block) :
    (Block.mk name (.single f external attributes blocks)).build =
      (fun object => Node.nested .singleBlock
        { NodeFacets.ofBlock (.nested .singleBlock) f with customType := none }
        ({ external, customType := f.customType : NestedObject Node }.withMaps object.maps)) <$>
      NestedObject.build name attributes blocks := by
  let facets : NestedObject Node := { external, customType := f.customType }
  have hobject : Frame.finish ⟨name, facets, attributes, blocks⟩ =
      (fun whole => facets.withMaps whole.maps) <$> NestedObject.build name attributes blocks := by
    rw [NestedObject.build_eq]
    exact Frame.finish_withMaps name {} facets attributes blocks
  show Node.nested _ _ <$> Frame.run ⟨name, facets, attributes, blocks⟩ [] = _
  rw [Frame.run_nil, hobject, ← comp_map]
  rfl

/-- A resource has the maps of the object that its children make. -/
theorem Resource.maps_build (name : String) (schema : Schema) :
    ResourceTree.maps <$> Resource.build ⟨name, some schema⟩ =
      NestedObject.maps <$> NestedObject.build name schema.attributes schema.blocks := by
  show ResourceTree.maps <$> (NestedObject.build name schema.attributes schema.blocks >>= _) = _
  cases NestedObject.build name schema.attributes schema.blocks <;> rfl

/-! ### The theorem -/

/-- **One object from two constructions.**  From the same name, attributes and blocks an object by
itself, a single block and a resource are built alike: all of them with the same children, or all of
them fail with the same error.  What else a block or a schema says plays no part. -/
theorem same_maps_of_build (name : String) (attributes : List Attribute) (blocks : List Block) :
    (∀ f external, (fun node => node.object?.map NestedObject.maps) <$>
        (Block.mk name (.single f external attributes blocks)).build =
      (fun object => some object.maps) <$> NestedObject.build name attributes blocks) ∧
    ∀ description deprecation, ResourceTree.maps <$>
        Resource.build ⟨name, some { attributes, blocks, description, deprecation }⟩ =
      NestedObject.maps <$> NestedObject.build name attributes blocks := by
  refine ⟨fun f external => ?_, fun description deprecation => Resource.maps_build name _⟩
  rw [Block.build_single, ← comp_map]
  rfl

end ProviderCode
