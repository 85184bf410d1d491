import ProviderCode.Proofs.CompleteSpecification
import ProviderCode.Proofs.UsedPackages

/-!
# Files of all resources

Resources are generated one after the other, each by itself.  Errors that only say that something is
not supported can be passed over; then the resource has no file.  Every other error ends the run.

Main statement: which files a specification has, and which error it fails with, told by what becomes
of each resource alone.
-/

namespace ProviderCode

/-! ### One resource -/

/-- Whether an error is passed over. -/
def FileOptions.passes (options : FileOptions) (e : GenerationError) : Bool :=
  options.skipUnsupported && e.isUnsupported

namespace Resource

/-- A resource ends the run with its error. -/
def Ends (options : FileOptions) (r : Resource) (e : GenerationError) : Prop :=
  r.generate options = .error e ∧ options.passes e = false

/-- The run goes on after a resource: it has a file, or its error is passed over. -/
def Continues (options : FileOptions) (r : Resource) : Prop :=
  ∀ e, r.generate options = .error e → options.passes e = true

/-- The file of a resource, if it has one. -/
def file? (options : FileOptions) (r : Resource) : Option GeneratedFile :=
  (r.generate options).toOption

theorem continues_or_ends (options : FileOptions) (r : Resource) :
    r.Continues options ∨ ∃ e, r.Ends options e := by
  cases hr : r.generate options with
  | ok file => exact .inl fun e he => by cases hr.symm.trans he
  | error e =>
    cases hpass : options.passes e with
    | true => exact .inl fun e' he' => by cases hr.symm.trans he'; exact hpass
    | false => exact .inr ⟨e, hr, hpass⟩

/-- What cannot be built is at fault; that is more than not to be supported. -/
theorem isUnsupported_of_build {r : Resource} {e : GenerationError} (h : r.build = .error e) :
    e.isUnsupported = false := by
  obtain ⟨-, hshows⟩ := r.reports_build.declaration
  obtain ⟨inner, -, hshows⟩ := hshows e h
  cases hshows <;> rfl

/-- What is built fails only if it is not supported. -/
theorem isUnsupported_of_generate {options : FileOptions} {r : Resource} {tree : ResourceTree}
    {e : GenerationError} (hbuild : r.build = .ok tree) (h : r.generate options = .error e) :
    e.isUnsupported = true := by
  rw [generate, hbuild] at h
  change tree.generate options = .error e at h
  cases hadapters : tree.adapters with
  | ok text =>
    obtain ⟨file, hfile⟩ := ResourceTree.exists_generate hadapters options
    cases hfile.symm.trans h
  | error e' =>
    rw [ResourceTree.generate, ResourceTree.typePairs_eq, hadapters] at h
    cases h
    cases hall : tree.nodes.mapM fun child => child.2.adapters child.1 with
    | ok texts =>
      rw [ResourceTree.adapters, hall] at hadapters
      cases hadapters
    | error e' =>
      rw [ResourceTree.adapters, hall] at hadapters
      cases hadapters
      obtain ⟨child, -, hchild⟩ := mapM_eq_error hall
      exact Node.adapters_error hchild

/-- What cannot be built ends the run, whatever is passed over. -/
theorem ends_of_build {r : Resource} {e : GenerationError} (h : r.build = .error e)
    (options : FileOptions) : r.Ends options e := by
  refine ⟨?_, ?_⟩
  · rw [generate, h]
    rfl
  · rw [FileOptions.passes, isUnsupported_of_build h, Bool.and_false]

end Resource

/-- What becomes of each resource alone, in their order. -/
def results (options : FileOptions) (resources : List Resource) : List (Generated GeneratedFile) :=
  resources.map (·.generate options)

/-! ### The run -/

section Run

variable {options : FileOptions} {r : Resource} {before rest resources : List Resource}
  {e : GenerationError} {files : List GeneratedFile}

theorem generateResources_cons_of_continues (h : r.Continues options) :
    generateResources options (r :: rest) =
      ((r.file? options).toList ++ ·) <$> generateResources options rest := by
  rw [generateResources, Resource.file?]
  cases hr : r.generate options with
  | ok file => rfl
  | error e =>
    have hpass : (options.skipUnsupported && e.isUnsupported) = true := h e hr
    show (if (options.skipUnsupported && e.isUnsupported) = true then _ else _) = _
    rw [if_pos hpass]
    exact (id_map _).symm

theorem generateResources_cons_of_ends (h : r.Ends options e) :
    generateResources options (r :: rest) = .error e := by
  obtain ⟨hr, hpass⟩ := h
  rw [FileOptions.passes] at hpass
  rw [generateResources, hr]
  show (if (options.skipUnsupported && e.isUnsupported) = true then _ else _) = _
  rw [hpass]
  rfl

/-- While the run goes on, the files that there are stand in front. -/
theorem generateResources_append (h : ∀ s ∈ before, s.Continues options) :
    generateResources options (before ++ rest) =
      (before.filterMap (·.file? options) ++ ·) <$> generateResources options rest := by
  induction before with
  | nil => exact (id_map _).symm
  | cons s before ih =>
    obtain ⟨hs, hbefore⟩ := List.forall_mem_cons.mp h
    rw [List.cons_append, generateResources_cons_of_continues hs, ih hbefore, ← comp_map]
    refine congrArg (· <$> generateResources options rest) (funext fun files => ?_)
    rw [List.filterMap_cons]
    cases s.file? options <;> rfl

/-- The run goes on to the end, or there is a first resource that ends it. -/
theorem exists_first_end (options : FileOptions) : ∀ resources : List Resource,
    (∀ r ∈ resources, r.Continues options) ∨ ∃ before r after e, resources = before ++ r :: after ∧
      (∀ s ∈ before, s.Continues options) ∧ r.Ends options e
  | [] => .inl fun _ hr => absurd hr List.not_mem_nil
  | r :: resources => by
    rcases r.continues_or_ends options with hr | ⟨e, hr⟩
    · rcases exists_first_end options resources with hall | ⟨before, s, after, e, rfl, hbefore, hs⟩
      · exact .inl (List.forall_mem_cons.mpr ⟨hr, hall⟩)
      · exact .inr ⟨r :: before, s, after, e, rfl, List.forall_mem_cons.mpr ⟨hr, hbefore⟩, hs⟩
    · exact .inr ⟨[], r, resources, e, rfl, fun _ hs => absurd hs List.not_mem_nil, hr⟩

theorem generateResources_of_continues (h : ∀ r ∈ resources, r.Continues options) :
    generateResources options resources = .ok (resources.filterMap (·.file? options)) := by
  calc
    generateResources options resources
    _ = generateResources options (resources ++ []) := by rw [List.append_nil]
    _ = .ok (resources.filterMap (·.file? options) ++ []) := generateResources_append h
    _ = .ok (resources.filterMap (·.file? options)) := by rw [List.append_nil]

theorem generateResources_of_ends {after : List Resource} (h : ∀ s ∈ before, s.Continues options)
    (hr : r.Ends options e) : generateResources options (before ++ r :: after) = .error e := by
  rw [generateResources_append h, generateResources_cons_of_ends hr]
  rfl

/-- **Files of a run.**  A run succeeds if it goes on to the end, and has the files that there
are. -/
theorem generateResources_eq_ok : generateResources options resources = .ok files ↔
    (∀ r ∈ resources, r.Continues options) ∧ resources.filterMap (·.file? options) = files := by
  constructor
  · intro h
    rcases exists_first_end options resources with hall | ⟨before, r, after, e, rfl, hbefore, hr⟩
    · exact ⟨hall, Except.ok.inj ((generateResources_of_continues hall).symm.trans h)⟩
    · cases (generateResources_of_ends hbefore hr).symm.trans h
  · rintro ⟨hall, rfl⟩
    exact generateResources_of_continues hall

/-- **The error of a run** is that of the first resource that ends it. -/
theorem generateResources_eq_error : generateResources options resources = .error e ↔
    ∃ before r after, resources = before ++ r :: after ∧ (∀ s ∈ before, s.Continues options) ∧
      r.Ends options e := by
  constructor
  · intro h
    rcases exists_first_end options resources with hall | ⟨before, r, after, e', rfl, hbefore, hr⟩
    · cases (generateResources_of_continues hall).symm.trans h
    · cases (generateResources_of_ends hbefore hr).symm.trans h
      exact ⟨before, r, after, rfl, hbefore, hr⟩
  · rintro ⟨before, r, after, rfl, hbefore, hr⟩
    exact generateResources_of_ends hbefore hr

theorem forall_continues_iff : (∀ r ∈ resources, r.Continues options) ↔
    ∀ e, .error e ∈ results options resources → options.passes e = true := by
  simp only [results, Resource.Continues, List.mem_map]
  exact ⟨fun h e ⟨r, hr, he⟩ => h r hr e he, fun h r hr e he => h e ⟨r, hr, he⟩⟩

theorem filterMap_file? :
    resources.filterMap (·.file? options) = (results options resources).filterMap Except.toOption :=
  (List.filterMap_map ..).symm

/-- The first resource that ends a run is the first result that ends it. -/
theorem exists_ends_iff :
    (∃ before r after, resources = before ++ r :: after ∧ (∀ s ∈ before, s.Continues options) ∧
      r.Ends options e) ↔
    ∃ before after, results options resources = before ++ .error e :: after ∧
      (∀ e', .error e' ∈ before → options.passes e' = true) ∧ options.passes e = false := by
  constructor
  · rintro ⟨before, r, after, rfl, hbefore, hr, hpass⟩
    refine ⟨results options before, results options after, ?_,
      forall_continues_iff.mp hbefore, hpass⟩
    rw [results, List.map_append, List.map_cons, hr]
    rfl
  · rintro ⟨first, last, hresults, hfirst, hpass⟩
    obtain ⟨before, others, rfl, rfl, hothers⟩ := List.map_eq_append_iff.mp hresults
    obtain ⟨r, after, rfl, hr, -⟩ := List.map_eq_cons_iff.mp hothers
    exact ⟨before, r, after, rfl, forall_continues_iff.mpr hfirst, hr, hpass⟩

end Run

/-- Results without an error are the files. -/
theorem eq_map_ok_iff {ε α : Type} {results : List (Except ε α)} {values : List α} :
    results = values.map .ok ↔
      (∀ e, .error e ∉ results) ∧ results.filterMap Except.toOption = values := by
  constructor
  · rintro rfl
    refine ⟨fun e he => ?_, ?_⟩
    · obtain ⟨value, -, h⟩ := List.mem_map.mp he
      cases h
    · rw [List.filterMap_map]
      exact List.filterMap_some
  · rintro ⟨hall, rfl⟩
    induction results with
    | nil => rfl
    | cons result results ih =>
      have hrest := ih fun e he => hall e (List.mem_cons_of_mem _ he)
      cases result with
      | error e => exact absurd List.mem_cons_self (hall e)
      | ok value => exact congrArg (Except.ok value :: ·) hrest

/-! ### What is left out -/

namespace FileOptions

/-- The options with which no error is passed over. -/
def strict (options : FileOptions) : FileOptions := { options with skipUnsupported := false }

/-- The options with which resources that are not supported are left out. -/
def lenient (options : FileOptions) : FileOptions := { options with skipUnsupported := true }

variable (options : FileOptions)

theorem passes_strict (e : GenerationError) : options.strict.passes e = false := rfl

theorem passes_lenient (e : GenerationError) : options.lenient.passes e = e.isUnsupported := rfl

/-- What becomes of a resource does not depend on what is passed over. -/
theorem results_strict (resources : List Resource) :
    results options.strict resources = results options resources := rfl

theorem results_lenient (resources : List Resource) :
    results options.lenient resources = results options resources := rfl

end FileOptions

namespace Specification

variable {specification : Specification} {options : FileOptions} {e : GenerationError}
  {files : List GeneratedFile}

theorem strict_eq_ok : specification.generate options.strict = .ok files ↔
    results options specification.resources = files.map .ok := by
  rw [generate, generateResources_eq_ok, forall_continues_iff, filterMap_file?,
    options.results_strict, eq_map_ok_iff]
  simp only [options.passes_strict, Bool.false_eq_true, imp_false]

theorem strict_eq_error : specification.generate options.strict = .error e ↔
    ∃ (files : List GeneratedFile) (rest : List (Generated GeneratedFile)),
      results options specification.resources = files.map .ok ++ .error e :: rest := by
  rw [generate, generateResources_eq_error, exists_ends_iff, options.results_strict]
  simp only [options.passes_strict, Bool.false_eq_true, imp_false, and_true]
  constructor
  · rintro ⟨before, rest, hresults, hbefore⟩
    rw [eq_map_ok_iff.mpr ⟨hbefore, rfl⟩] at hresults
    exact ⟨_, rest, hresults⟩
  · rintro ⟨files, rest, hresults⟩
    exact ⟨_, rest, hresults, (eq_map_ok_iff.mp rfl).1⟩

theorem lenient_eq_ok : specification.generate options.lenient = .ok files ↔
    (∀ e, .error e ∈ results options specification.resources → e.isUnsupported = true) ∧
      (results options specification.resources).filterMap Except.toOption = files := by
  rw [generate, generateResources_eq_ok, forall_continues_iff, filterMap_file?,
    options.results_lenient]
  simp only [options.passes_lenient]

theorem lenient_eq_error : specification.generate options.lenient = .error e ↔
    ∃ before rest, results options specification.resources = before ++ .error e :: rest ∧
      (∀ e', .error e' ∈ before → e'.isUnsupported = true) ∧ e.isUnsupported = false := by
  rw [generate, generateResources_eq_error, exists_ends_iff, options.results_lenient]
  simp only [options.passes_lenient]

/-- Leaving out what is not supported changes no success. -/
theorem lenient_of_strict (h : specification.generate options.strict = .ok files) :
    specification.generate options.lenient = .ok files := by
  obtain ⟨hall, hfiles⟩ := eq_map_ok_iff.mp (strict_eq_ok.mp h)
  exact lenient_eq_ok.mpr ⟨fun e he => absurd he (hall e), hfiles⟩

/-- A resource that cannot be built ends every run that comes to it. -/
theorem not_ok_of_build {r : Resource} (hr : r ∈ specification.resources) (h : r.build = .error e)
    (options : FileOptions) : specification.generate options ≠ .ok files := fun hok => by
  obtain ⟨hgenerate, hpass⟩ := Resource.ends_of_build h options
  obtain ⟨hall, -⟩ := generateResources_eq_ok.mp hok
  exact absurd (hall r hr e hgenerate) (Bool.eq_false_iff.mp hpass)

theorem error_of_build {r : Resource} (hr : r ∈ specification.resources) (h : r.build = .error e)
    (options : FileOptions) : ∃ e', specification.generate options = .error e' := by
  cases hgenerate : specification.generate options with
  | error e' => exact ⟨e', rfl⟩
  | ok files => exact absurd hgenerate (not_ok_of_build hr h options)

end Specification

/-! ### The theorem -/

/-- **Files of a specification.**  What becomes of each resource alone decides.  If nothing may be
left out, all resources have their files in order, or the first error is the error.  If what is not
supported may be left out, the resources that have files have them in order, or the first error of
another sort is the error.  So leaving out changes no success, and a resource that cannot be built
is never left out. -/
theorem generate_of_results (specification : Specification) (options : FileOptions) :
    (∀ files, specification.generate options.strict = .ok files ↔
      results options specification.resources = files.map .ok) ∧
    (∀ e, specification.generate options.strict = .error e ↔
      ∃ (files : List GeneratedFile) (rest : List (Generated GeneratedFile)),
        results options specification.resources = files.map .ok ++ .error e :: rest) ∧
    (∀ files, specification.generate options.lenient = .ok files ↔
      (∀ e, .error e ∈ results options specification.resources → e.isUnsupported = true) ∧
        (results options specification.resources).filterMap Except.toOption = files) ∧
    (∀ e, specification.generate options.lenient = .error e ↔
      ∃ before rest, results options specification.resources = before ++ .error e :: rest ∧
        (∀ e', .error e' ∈ before → e'.isUnsupported = true) ∧ e.isUnsupported = false) ∧
    (∀ files, specification.generate options.strict = .ok files →
      specification.generate options.lenient = .ok files) ∧
    ∀ r ∈ specification.resources, ∀ e, r.build = .error e →
      (∃ e', specification.generate options.strict = .error e') ∧
        ∃ e', specification.generate options.lenient = .error e' ∧ e'.isUnsupported = false := by
  refine ⟨fun _ => Specification.strict_eq_ok, fun _ => Specification.strict_eq_error,
    fun _ => Specification.lenient_eq_ok, fun _ => Specification.lenient_eq_error,
    fun _ => Specification.lenient_of_strict, fun r hr e h => ⟨?_, ?_⟩⟩
  · exact Specification.error_of_build hr h options.strict
  · obtain ⟨e', he'⟩ := Specification.error_of_build hr h options.lenient
    obtain ⟨-, -, -, -, hkind⟩ := Specification.lenient_eq_error.mp he'
    exact ⟨e', he', hkind⟩

/-- A resource with one attribute. -/
def plainResource : Resource :=
  { name := "good"
    schema := some { attributes := [.mk "enabled" (.leaf (.bool { mode := .required }))] } }

/-- A resource that can be built, but whose bound list is not supported. -/
def listResource : Resource :=
  { name := "bad"
    schema := some { blocks := [.mk "rules" (.nested .list {} (some
      { external := some { type := "*api.Rule" } }))] } }

theorem exists_plainResource_generate : ∃ file, plainResource.generate {} = .ok file := by
  have hobject : NestedObject.build "good" [.mk "enabled" (.leaf (.bool { mode := .required }))]
      [] = .ok _ := (NestedObject.build_eq _ _ _).trans rfl
  obtain ⟨tree, htree, hnodes⟩ : ∃ tree, plainResource.build = .ok tree ∧
      ∀ child ∈ tree.nodes, child.2.isBound = false := by
    simp only [plainResource, Resource.build, hobject]
    refine ⟨_, rfl, fun child hchild => ?_⟩
    obtain rfl := List.mem_singleton.mp hchild
    rfl
  obtain ⟨file, hfile⟩ := ResourceTree.exists_generate (ResourceTree.adapters_of_unbound hnodes) {}
  exact ⟨file, bind_eq_ok.mpr ⟨tree, htree, hfile⟩⟩

theorem exists_listResource_generate :
    ∃ e, listResource.generate {} = .error e ∧ e.isUnsupported = true := by
  have hobject : NestedObject.build "bad" [] [.mk "rules" (.nested .list {} (some
      { external := some { type := "*api.Rule" } }))] = .ok _ :=
    (NestedObject.build_eq _ _ _).trans rfl
  obtain ⟨tree, hbuild, child, hchild, hbound, hnot⟩ : ∃ tree, listResource.build = .ok tree ∧
      ∃ child ∈ tree.nodes, child.2.isBound = true ∧ ¬ child.2.Adaptable := by
    simp only [listResource, Resource.build, hobject]
    exact ⟨_, rfl, _, List.mem_cons_self, rfl, fun h => Bool.false_ne_true h.1⟩
  cases hgenerate : listResource.generate {} with
  | error e => exact ⟨e, rfl, Resource.isUnsupported_of_generate hbuild hgenerate⟩
  | ok file =>
    obtain ⟨tree', hbuild', hfile⟩ := bind_eq_ok.mp hgenerate
    obtain rfl : tree = tree' := Except.ok.inj (hbuild.symm.trans hbuild')
    obtain ⟨texts, htexts, -⟩ := bind_eq_ok.mp (ResourceTree.makes_of_generate hfile).adapters_ok
    have hadapters := exists_forall₂_iff.mp ⟨texts, mapM_eq_ok.mp htexts⟩ child hchild
    exact absurd ((Node.exists_adapters_iff hbound).mp hadapters) hnot

/-- A resource that is not supported comes first, then one that has a file, and last one without a
schema, which cannot be built. -/
theorem generate_of_results_plainResource :
    ∃ file e, e.isUnsupported = true ∧
      (⟨none, [plainResource]⟩ : Specification).generate (FileOptions.strict {}) = .ok [file] ∧
      (⟨none, [plainResource]⟩ : Specification).generate (FileOptions.lenient {}) = .ok [file] ∧
      (⟨none, [listResource, plainResource]⟩ : Specification).generate (FileOptions.strict {}) =
        .error e ∧
      (⟨none, [listResource, plainResource]⟩ : Specification).generate (FileOptions.lenient {}) =
        .ok [file] ∧
      (Resource.build ⟨"bare", none⟩ = .error (.missingPart "bare" "resource" "schema") ∧
      ∃ e', (⟨none, [listResource, plainResource, ⟨"bare", none⟩]⟩ : Specification).generate
        (FileOptions.lenient {}) = .error e' ∧ e'.isUnsupported = false) := by
  obtain ⟨file, hfile⟩ := exists_plainResource_generate
  obtain ⟨e, he, hunsupported⟩ := exists_listResource_generate
  obtain ⟨hone, -, -, -, hlenient, -⟩ := generate_of_results ⟨none, [plainResource]⟩ {}
  obtain ⟨-, htwo, hpassed, -⟩ := generate_of_results ⟨none, [listResource, plainResource]⟩ {}
  obtain ⟨-, -, -, -, -, hbuild⟩ :=
    generate_of_results ⟨none, [listResource, plainResource, ⟨"bare", none⟩]⟩ {}
  have hstrict := (hone [file]).mpr (by rw [results, List.map_singleton, hfile]; rfl)
  have hresults : results {} [listResource, plainResource] = [.error e, .ok file] := by
    rw [results, List.map_cons, List.map_singleton, he, hfile]
  have hbare : (⟨"bare", none⟩ : Resource) ∈ [listResource, plainResource, ⟨"bare", none⟩] :=
    List.mem_of_getLast? rfl
  refine ⟨file, e, hunsupported, hstrict, hlenient _ hstrict, (htwo e).mpr ⟨[], _, hresults⟩,
    (hpassed [file]).mpr ⟨fun e' he' => ?_, ?_⟩, rfl, (hbuild _ hbare _ rfl).2⟩
  · rw [hresults] at he'
    rcases List.mem_cons.mp he' with he' | he'
    · cases he'
      exact hunsupported
    · exact absurd (List.mem_singleton.mp he') (by simp)
  · rw [hresults]
    rfl

end ProviderCode
