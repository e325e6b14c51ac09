import Kurobara.Engine.RecipeFieldGraph
import Kurobara.Foundation.Fallible

/-! # What a field graph depends on

The compiled graph does not depend on the order of the recipes, of the fields or of the inputs
of a recipe, except that the nodes show the inputs as they are. Its fingerprint shows the whole
graph apart from the names of the recipes.
-/

namespace Kurobara.Engine

open Kernel Foundation

/-! ## Reordered inputs -/

/-- The same recipe, with its inputs in some order. -/
structure SameRecipe (left right : EnrichmentRecipe) : Prop where
  inputs : left.inputFieldIds.Perm right.inputFieldIds
  others : { left with inputFieldIds := [] } = { right with inputFieldIds := [] }

/-- The same input, with its fields, its recipes and their inputs in some order. -/
structure IsRecipeReordering (left right : CompileRecipeFieldGraphInput) : Prop where
  dataset : left.dataset = right.dataset
  limits : left.limits = right.limits
  fields : left.fields.Perm right.fields
  recipes : ∃ recipes, left.recipes.Perm recipes ∧ List.Forall₂ SameRecipe recipes right.recipes

theorem SameRecipe.symm {left right : EnrichmentRecipe} (same : SameRecipe left right) :
    SameRecipe right left :=
  ⟨same.inputs.symm, same.others.symm⟩

/-- What does not depend on the inputs of a recipe is the same. -/
theorem SameRecipe.keeps {left right : EnrichmentRecipe} (same : SameRecipe left right)
    {Value : Type} (value : EnrichmentRecipe → Value)
    (ignores : ∀ recipe inputs, value { recipe with inputFieldIds := inputs } = value recipe) :
    value left = value right := by
  rw [← ignores left [], same.others, ignores]

private theorem sameRecipes_map {Value : Type} {value : EnrichmentRecipe → Value}
    (keeps : ∀ left right, SameRecipe left right → value left = value right)
    {lefts rights : List EnrichmentRecipe} (pairs : List.Forall₂ SameRecipe lefts rights) :
    lefts.map value = rights.map value := by
  induction pairs with
  | nil => rfl
  | cons same _ ih => rw [List.map_cons, List.map_cons, keeps _ _ same, ih]

section

variable {left right : CompileRecipeFieldGraphInput}

theorem IsRecipeReordering.map (reordering : IsRecipeReordering left right) {Value : Type}
    {value : EnrichmentRecipe → Value}
    (keeps : ∀ left right, SameRecipe left right → value left = value right) :
    (left.recipes.map value).Perm (right.recipes.map value) := by
  obtain ⟨recipes, permuted, pairs⟩ := reordering.recipes
  rw [← sameRecipes_map keeps pairs]
  exact permuted.map value

theorem SameRecipe.target {left right : EnrichmentRecipe} (same : SameRecipe left right) :
    left.targetFieldId = right.targetFieldId :=
  same.keeps _ fun _ _ => rfl

theorem IsRecipeReordering.targets (reordering : IsRecipeReordering left right) :
    (left.recipes.map EnrichmentRecipe.targetFieldId).Perm
      (right.recipes.map EnrichmentRecipe.targetFieldId) :=
  reordering.map fun _ _ same => same.target

private theorem IsRecipeReordering.recipes_iff (reordering : IsRecipeReordering left right) :
    (∀ recipe ∈ left.recipes, ∃ other ∈ right.recipes, SameRecipe recipe other) ∧
      ∀ other ∈ right.recipes, ∃ recipe ∈ left.recipes, SameRecipe recipe other := by
  obtain ⟨recipes, permuted, pairs⟩ := reordering.recipes
  obtain ⟨forward, backward⟩ := forall₂_mem pairs
  refine ⟨fun recipe member => forward recipe (permuted.mem_iff.mp member), fun other member => ?_⟩
  obtain ⟨recipe, recipeMember, same⟩ := backward other member
  exact ⟨recipe, permuted.mem_iff.mpr recipeMember, same⟩

/-- Permuted recipes produce the same fields, so the inputs that they depend on are the same. -/
theorem draftNode_reordered {lefts rights : List EnrichmentRecipe}
    (targets : (lefts.map EnrichmentRecipe.targetFieldId).Perm
      (rights.map EnrichmentRecipe.targetFieldId)) {left right : EnrichmentRecipe}
    (same : SameRecipe left right) :
    (draftNode lefts left).dependsOn = (draftNode rights right).dependsOn := by
  refine sortText_eq_of_perm ((same.inputs.filter _).trans (List.Perm.of_eq ?_))
  refine List.filter_congr fun fieldId _ => ?_
  rw [Bool.eq_iff_iff, List.contains_iff_mem, List.contains_iff_mem, targets.mem_iff]

theorem IsRecipeReordering.workflow (reordering : IsRecipeReordering left right) :
    IsReordering (recipeWorkflow left.recipes) (recipeWorkflow right.recipes) := by
  obtain ⟨recipes, permuted, pairs⟩ := reordering.recipes
  refine ⟨⟨rfl, rfl, rfl⟩, recipes.map (recipeWorkflowNode left.recipes), permuted.map _, ?_⟩
  rw [recipeWorkflow, List.forall₂_map_left_iff, List.forall₂_map_right_iff]
  refine pairs.imp fun recipe other same => ⟨same.target, rfl, rfl, List.Perm.of_eq ?_⟩
  exact draftNode_reordered reordering.targets same

/-! ## Acceptance -/

private theorem FieldsAreValid.perm {dataset : Dataset} {fields others : List Field}
    (permuted : fields.Perm others) (valid : FieldsAreValid dataset fields) :
    FieldsAreValid dataset others where
  size := permuted.length_eq ▸ valid.size
  valid field member := valid.valid field (permuted.mem_iff.mpr member)
  distinct := (permuted.pairwise_iff fun differ => ⟨differ.1.symm, differ.2.symm⟩).mp valid.distinct

theorem RecipeFits.same {dataset : Dataset} {fields others : List Field}
    (permuted : fields.Perm others) {recipe other : EnrichmentRecipe}
    (same : SameRecipe recipe other) (fits : RecipeFits dataset fields recipe) :
    RecipeFits dataset others other := by
  have known : ∀ fieldId, fieldId ∈ fields.map Field.fieldId → fieldId ∈ others.map Field.fieldId :=
    fun _ member => (permuted.map _).mem_iff.mp member
  refine ⟨?_, ?_, ?_, same.inputs.nodup_iff.mp fits.distinct, ?_, fun fieldId member =>
    known _ (fits.inputs fieldId (same.inputs.mem_iff.mpr member))⟩
  · exact (same.keeps EnrichmentRecipe.workspaceId fun _ _ => rfl).symm.trans fits.workspace
  · exact (same.keeps EnrichmentRecipe.datasetId fun _ _ => rfl).symm.trans fits.dataset
  · exact known _ (same.target ▸ fits.target)
  · rw [← same.target, ← same.inputs.mem_iff]
    exact fits.other

private theorem IsRecipeReordering.recipesAreValid (reordering : IsRecipeReordering left right) :
    RecipesAreValid left.dataset left.fields left.recipes ↔
      RecipesAreValid right.dataset right.fields right.recipes := by
  have named : ∀ recipe other, SameRecipe recipe other →
      recipe.enrichmentRecipeId = other.enrichmentRecipeId :=
    fun _ _ same => same.keeps _ fun _ _ => rfl
  have identities := reordering.map named
  rw [reordering.dataset]
  constructor
  · intro valid
    refine ⟨fun other member => ?_, identities.nodup_iff.mp valid.identities,
      reordering.targets.nodup_iff.mp valid.targets⟩
    obtain ⟨recipe, recipeMember, same⟩ := reordering.recipes_iff.2 other member
    exact (valid.fits recipe recipeMember).same reordering.fields same
  · intro valid
    refine ⟨fun recipe member => ?_, identities.nodup_iff.mpr valid.identities,
      reordering.targets.nodup_iff.mpr valid.targets⟩
    obtain ⟨other, otherMember, same⟩ := reordering.recipes_iff.1 recipe member
    exact (valid.fits other otherMember).same reordering.fields.symm same.symm

private theorem IsRecipeReordering.readers (reordering : IsRecipeReordering left right)
    (fieldId : FieldId) :
    (readersOf left.recipes fieldId).length = (readersOf right.recipes fieldId).length := by
  have reads : ∀ recipe other, SameRecipe recipe other →
      recipe.inputFieldIds.contains fieldId = other.inputFieldIds.contains fieldId := by
    intro recipe other same
    rw [Bool.eq_iff_iff, List.contains_iff_mem, List.contains_iff_mem, same.inputs.mem_iff]
  have counted := (reordering.map reads).countP_eq id
  rw [List.countP_map, List.countP_map] at counted
  rw [readersOf, readersOf, ← List.countP_eq_length_filter, ← List.countP_eq_length_filter]
  exact counted

/-- The inputs as the compiler sees them differ in what it does not depend on. -/
theorem IsRecipeReordering.accepts (reordering : IsRecipeReordering left right) :
    (∃ graph, compileRecipeFieldGraph left = some (.ok graph)) ↔
      ∃ graph, compileRecipeFieldGraph right = some (.ok graph) := by
  have size : left.recipes.length = right.recipes.length := by
    simpa using reordering.targets.length_eq
  have fields : FieldsAreValid left.dataset left.fields ↔
      FieldsAreValid right.dataset right.fields := by
    rw [reordering.dataset]
    exact ⟨FieldsAreValid.perm reordering.fields, FieldsAreValid.perm reordering.fields.symm⟩
  simp only [compileRecipeFieldGraph_ordered]
  constructor
  · rintro ⟨_, limits, valid, fits, recipes, fanOut, ordered, orderedEq, _⟩
    have unique := (recipeWorkflow_sound recipes.targets).unique
    rw [reordering.workflow.orderGraph unique, reordering.limits] at orderedEq
    refine ⟨_, reordering.limits ▸ limits, fields.mp valid, ?_,
      reordering.recipesAreValid.mp recipes, fun fieldId => ?_, ordered, orderedEq, rfl⟩
    · rwa [← size, ← reordering.limits]
    · rw [← reordering.readers, ← reordering.limits]
      exact fanOut fieldId
  · rintro ⟨_, limits, valid, fits, recipes, fanOut, ordered, orderedEq, _⟩
    have leftRecipes := reordering.recipesAreValid.mpr recipes
    have unique := (recipeWorkflow_sound leftRecipes.targets).unique
    rw [← reordering.workflow.orderGraph unique, ← reordering.limits] at orderedEq
    refine ⟨_, reordering.limits ▸ limits, fields.mpr valid, ?_, leftRecipes,
      fun fieldId => ?_, ordered, orderedEq, rfl⟩
    · rwa [size, reordering.limits]
    · rw [reordering.readers, reordering.limits]
      exact fanOut fieldId

/-! ## The graph of a reordered input -/

/-- The same node, of a recipe with its inputs in some order. -/
structure SameRecipeNode (left right : CompiledRecipeFieldNode) : Prop where
  recipe : SameRecipe left.recipe right.recipe
  others : { left with recipe := right.recipe } = right

theorem IsRecipeReordering.nodes (reordering : IsRecipeReordering left right)
    (targets : (left.recipes.map EnrichmentRecipe.targetFieldId).Nodup) {ordered : OrderingState}
    (known : ∀ fieldId ∈ ordered.orderedKeys,
      fieldId ∈ left.recipes.map EnrichmentRecipe.targetFieldId) :
    List.Forall₂ SameRecipeNode (orderedRecipeNodes left.recipes ordered)
      (orderedRecipeNodes right.recipes ordered) := by
  have rightTargets := reordering.targets.nodup_iff.mp targets
  unfold orderedRecipeNodes
  generalize ordered.depths = depths
  generalize ordered.orderedKeys = keys at known
  induction keys with
  | nil => exact .nil
  | cons fieldId keys ih =>
      rw [List.forall_mem_cons] at known
      obtain ⟨recipe, member, rfl⟩ := List.mem_map.mp known.1
      obtain ⟨other, otherMember, same⟩ := reordering.recipes_iff.1 recipe member
      have rightDraft := find_target_unique rightTargets otherMember
      rw [← same.target] at rightDraft
      rw [List.filterMap_cons, List.filterMap_cons, find_target_unique targets member, rightDraft,
        Option.map_some, Option.map_some]
      refine .cons ⟨same, ?_⟩ (ih known.2)
      have dependsOn := draftNode_reordered reordering.targets same
      unfold compiledRecipeNode
      rw [dependsOn]

private theorem sourceFields_eq {lefts rights : List CompiledRecipeFieldNode}
    {leftRecipes rightRecipes : List EnrichmentRecipe}
    (targets : (leftRecipes.map EnrichmentRecipe.targetFieldId).Perm
      (rightRecipes.map EnrichmentRecipe.targetFieldId))
    (nodes : List.Forall₂ SameRecipeNode lefts rights) :
    sourceFields lefts leftRecipes = sourceFields rights rightRecipes := by
  obtain ⟨forward, backward⟩ := forall₂_mem nodes
  refine sortText_eq_of_perm ((List.perm_ext_iff_of_nodup (eraseDups_nodup _)
    (eraseDups_nodup _)).mpr fun fieldId => ?_)
  simp only [List.mem_eraseDups, List.mem_flatMap, List.mem_filter, Bool.not_eq_true',
    ← Bool.not_eq_true, List.contains_iff_mem, targets.mem_iff]
  constructor
  · rintro ⟨node, member, reads, unproduced⟩
    obtain ⟨other, otherMember, same⟩ := forward node member
    exact ⟨other, otherMember, same.recipe.inputs.mem_iff.mp reads, unproduced⟩
  · rintro ⟨other, member, reads, unproduced⟩
    obtain ⟨node, nodeMember, same⟩ := backward other member
    exact ⟨node, nodeMember, same.recipe.inputs.mem_iff.mpr reads, unproduced⟩

private theorem eq_of_forall₂ {Entry : Type} {related : Entry → Entry → Prop}
    {lefts rights : List Entry}
    (pairs : List.Forall₂ related lefts rights)
    (equal : ∀ left ∈ lefts, ∀ right ∈ rights, related left right → left = right) :
    lefts = rights := by
  induction pairs with
  | nil => rfl
  | cons same _ ih =>
      rw [equal _ List.mem_cons_self _ List.mem_cons_self same, ih fun left member right other =>
        equal left (List.mem_cons_of_mem _ member) right (List.mem_cons_of_mem _ other)]

/-- Nodes of the same recipes are equal when they stand for the same fields. -/
theorem orderedRecipeNodes_eq {lefts rights : List EnrichmentRecipe} (permuted : lefts.Perm rights)
    (targets : (lefts.map EnrichmentRecipe.targetFieldId).Nodup) {ordered : OrderingState}
    (nodes : List.Forall₂ SameRecipeNode (orderedRecipeNodes lefts ordered)
      (orderedRecipeNodes rights ordered)) :
    orderedRecipeNodes lefts ordered = orderedRecipeNodes rights ordered := by
  refine eq_of_forall₂ nodes fun left member right otherMember same => ?_
  obtain ⟨recipe, isRecipe, rfl⟩ := mem_orderedRecipeNodes member
  obtain ⟨other, isOther, rfl⟩ := mem_orderedRecipeNodes otherMember
  have equal : recipe = other := List.inj_on_of_nodup_map targets isRecipe
    (permuted.mem_iff.mpr isOther) same.recipe.target
  subst equal
  exact same.others

/-- **Order independence.** Reordering recipes, fields or the inputs of recipes changes neither
acceptance, nor the order, the depths, the dependencies and the sources of the graph. Where the
inputs of each recipe keep their order, the whole graph is the same. -/
theorem compileRecipeFieldGraph_reordering (reordering : IsRecipeReordering left right) :
    ((∃ graph, compileRecipeFieldGraph left = some (.ok graph)) ↔
        ∃ graph, compileRecipeFieldGraph right = some (.ok graph)) ∧
      ∀ leftGraph rightGraph, compileRecipeFieldGraph left = some (.ok leftGraph) →
        compileRecipeFieldGraph right = some (.ok rightGraph) →
          List.Forall₂ SameRecipeNode leftGraph.nodes rightGraph.nodes ∧
            leftGraph.sourceFieldIds = rightGraph.sourceFieldIds ∧
            (left.recipes.Perm right.recipes → leftGraph = rightGraph) := by
  refine ⟨reordering.accepts, fun leftGraph rightGraph leftAccepted rightAccepted => ?_⟩
  obtain ⟨_, _, _, recipes, _, ordered, orderedEq, rfl⟩ :=
    compileRecipeFieldGraph_ordered.mp leftAccepted
  obtain ⟨_, _, _, _, _, other, otherEq, rfl⟩ := compileRecipeFieldGraph_ordered.mp rightAccepted
  have sound := recipeWorkflow_sound recipes.targets
  rw [← reordering.workflow.orderGraph sound.unique, ← reordering.limits, orderedEq] at otherEq
  obtain rfl := Except.ok.inj otherEq
  have permuted := ((orderGraph_spec sound).2 _ orderedEq).2
  rw [recipeWorkflow_keys] at permuted
  have nodes := reordering.nodes recipes.targets fun fieldId member => permuted.mem_iff.mp member
  have sources := sourceFields_eq reordering.targets nodes
  refine ⟨nodes, sources, fun same => ?_⟩
  unfold compiledRecipeGraph fingerprintFor
  rw [sources, orderedRecipeNodes_eq same recipes.targets nodes, reordering.dataset]

end

/-! A dataset whose scores are computed from its domains and its emails. -/

private def sampleField (fieldId : FieldId) : Field :=
  ⟨"dataset-1", fieldId, fieldId, fieldId, .string, "workspace-1"⟩

def sampleRecipe (name targetFieldId : String) (inputFieldIds : List FieldId) :
    EnrichmentRecipe where
  datasetId := "dataset-1"
  enrichmentRecipeId := "recipe-" ++ targetFieldId
  inputFieldIds := inputFieldIds
  name := name
  recipeRevision := "1"
  targetFieldId := targetFieldId
  workflowContentHash := sampleHash
  workflowRevision := "1"
  workflowSpecId := "workflow-1"
  workspaceId := "workspace-1"

def sampleRecipeGraphInput (recipes : List EnrichmentRecipe) : CompileRecipeFieldGraphInput :=
  ⟨⟨"dataset-1", "Companies", "workspace-1"⟩, ["domain", "email", "score"].map sampleField,
    ⟨8, 8, 8⟩, recipes⟩

def sampleScoreFirst : CompileRecipeFieldGraphInput :=
  sampleRecipeGraphInput [sampleRecipe "Score" "score" ["email", "domain"],
    sampleRecipe "Email" "email" ["domain"]]

def sampleScoreLast : CompileRecipeFieldGraphInput :=
  sampleRecipeGraphInput [sampleRecipe "Email" "email" ["domain"],
    sampleRecipe "Score" "score" ["domain", "email"]]

private theorem sampleScore_reordering : IsRecipeReordering sampleScoreFirst sampleScoreLast where
  dataset := rfl
  limits := rfl
  fields := .rfl
  recipes := ⟨[sampleRecipe "Email" "email" ["domain"],
    sampleRecipe "Score" "score" ["email", "domain"]], .swap _ _ _,
    .cons ⟨.rfl, rfl⟩ (.cons ⟨.swap _ _ _, rfl⟩ .nil)⟩

private theorem compileRecipeFieldGraph_of_view {input : CompileRecipeFieldGraphInput} {Seen : Type}
    {view : CompiledRecipeFieldGraph → Seen} {seen : Seen}
    (viewed : (compileRecipeFieldGraph input).bind (fun compiled => compiled.toOption.map view) =
      some seen) :
    ∃ graph, compileRecipeFieldGraph input = some (.ok graph) ∧ view graph = seen := by
  obtain ⟨compiled, compiledEq, viewedEq⟩ := Option.bind_eq_some_iff.mp viewed
  obtain ⟨graph, rfl, seenEq⟩ := eq_ok_of_view viewedEq
  exact ⟨graph, compiledEq, seenEq⟩

/-- The order of the recipes and of the inputs of the score does not matter. -/
theorem compileRecipeFieldGraph_scoreFirst : ∃ first last,
    compileRecipeFieldGraph sampleScoreFirst = some (.ok first) ∧
      compileRecipeFieldGraph sampleScoreLast = some (.ok last) ∧
      first.nodes.map CompiledRecipeFieldNode.targetFieldId = ["email", "score"] ∧
      List.Forall₂ SameRecipeNode first.nodes last.nodes ∧
      first.sourceFieldIds = last.sourceFieldIds := by
  obtain ⟨accepts, same⟩ := compileRecipeFieldGraph_reordering sampleScore_reordering
  obtain ⟨first, compiled, nodes⟩ := compileRecipeFieldGraph_of_view
    (show (compileRecipeFieldGraph sampleScoreFirst).bind (fun compiled => compiled.toOption.map
      fun graph => graph.nodes.map CompiledRecipeFieldNode.targetFieldId) =
        some ["email", "score"] by decide)
  obtain ⟨last, accepted⟩ := accepts.mp ⟨first, compiled⟩
  obtain ⟨sameNodes, sources, _⟩ := same first last compiled accepted
  exact ⟨first, last, compiled, accepted, nodes, sameNodes, sources⟩

/-! ## Fingerprints -/

private theorem map_eq_of_map_eq {Entry Value Shown : Type} {value : Entry → Value}
    {shown : Entry → Shown}
    {lefts rights : List Entry} (same : lefts.map shown = rights.map shown)
    (determines : ∀ left ∈ lefts, ∀ right ∈ rights, shown left = shown right →
      value left = value right) : lefts.map value = rights.map value := by
  induction lefts generalizing rights with
  | nil => rw [List.map_eq_nil_iff.mp same.symm]
  | cons left lefts ih =>
      obtain ⟨right, rights, rfl, head, tail⟩ := List.map_eq_cons_iff.mp same.symm
      rw [List.map_cons, List.map_cons,
        determines _ List.mem_cons_self _ List.mem_cons_self head.symm,
        ih tail.symm fun left member right other =>
          determines left (List.mem_cons_of_mem _ member) right (List.mem_cons_of_mem _ other)]

private theorem textValue_inj {left right : String} (same : textValue left = textValue right) :
    left = right := by
  have units : utf16 left.toList = utf16 right.toList := by simpa [textValue] using same
  have characters := congrArg characters units
  rw [characters_utf16, characters_utf16] at characters
  exact String.toList_inj.mp characters

private theorem textValues_inj {left right : List String}
    (same : left.map textValue = right.map textValue) : left = right :=
  List.map_injective_iff.mpr (fun _ _ => textValue_inj) same

private theorem ofCount_inj {left right : ℕ} (leftExact : left ≤ greatestCount)
    (rightExact : right ≤ greatestCount) (same : Double.ofCount left = Double.ofCount right) :
    left = right := by
  have units := congrArg Double.units same
  rw [Double.ofCount, Double.ofCount] at units
  simp only [min_eq_left leftExact, min_eq_left rightExact, Nat.cast_inj] at units
  exact Nat.eq_of_mul_eq_mul_right (Nat.two_pow_pos _) units

def CompiledRecipeFieldNode.unnamed (node : CompiledRecipeFieldNode) : CompiledRecipeFieldNode :=
  { node with recipe := { node.recipe with name := "" } }

/-- A graph without its fingerprint and without the names of its recipes. -/
def CompiledRecipeFieldGraph.unnamed (graph : CompiledRecipeFieldGraph) :
    CompiledRecipeFieldGraph :=
  { graph with
    fingerprint := []
    nodes := graph.nodes.map CompiledRecipeFieldNode.unnamed }

private theorem unnamed_eq_iff {left right : CompiledRecipeFieldGraph} :
    left.unnamed = right.unnamed ↔ left.compilerVersion = right.compilerVersion ∧
      left.datasetId = right.datasetId ∧
      left.nodes.map CompiledRecipeFieldNode.unnamed =
        right.nodes.map CompiledRecipeFieldNode.unnamed ∧
      left.sourceFieldIds = right.sourceFieldIds ∧ left.workspaceId = right.workspaceId := by
  simp only [CompiledRecipeFieldGraph.unnamed, CompiledRecipeFieldGraph.mk.injEq, true_and]

/-- What the fingerprint shows is in the graph without it. -/
theorem recipeGraphValue_unnamed {left right : CompileRecipeFieldGraphInput}
    {leftGraph rightGraph : CompiledRecipeFieldGraph}
    (datasets : left.dataset.datasetId = right.dataset.datasetId)
    (workspaces : left.dataset.workspaceId = right.dataset.workspaceId)
    (same : leftGraph.unnamed = rightGraph.unnamed) :
    recipeGraphValue left.dataset leftGraph.nodes leftGraph.sourceFieldIds =
      recipeGraphValue right.dataset rightGraph.nodes rightGraph.sourceFieldIds := by
  obtain ⟨_, _, nodes, sources, _⟩ := unnamed_eq_iff.mp same
  have values := congrArg (List.map recipeNodeValue) nodes
  rw [List.map_map, List.map_map] at values
  have shown : leftGraph.nodes.map recipeNodeValue = rightGraph.nodes.map recipeNodeValue := values
  rw [recipeGraphValue, recipeGraphValue, shown, sources, datasets, workspaces]

private theorem recipeGraphValue_isJson (dataset : Dataset) (nodes : List CompiledRecipeFieldNode)
    (sourceFieldIds : List FieldId) : IsJson (recipeGraphValue dataset nodes sourceFieldIds) := by
  have texts : ∀ values : List String, IsJson (.array (values.map textValue)) := by
    refine fun values => .array _ fun entry member => ?_
    obtain ⟨value, _, rfl⟩ := List.mem_map.mp member
    exact .string _
  have node : ∀ node, IsJson (recipeNodeValue node) := by
    refine fun node => .object _ (by simp only [List.map_cons, List.map_nil]; decide) ?_
    simp only [List.forall_mem_cons, List.not_mem_nil, IsEmpty.forall_iff, implies_true, and_true]
    exact ⟨texts _, .number _, texts _, .string _, .string _, .string _, .string _, .string _,
      .string _⟩
  refine .object _ (by simp only [List.map_cons, List.map_nil]; decide) ?_
  simp only [List.forall_mem_cons, List.not_mem_nil, IsEmpty.forall_iff, implies_true, and_true]
  refine ⟨.string _, .string _, .array _ fun entry member => ?_, texts _, .string _⟩
  obtain ⟨compiled, _, rfl⟩ := List.mem_map.mp member
  exact node compiled

/-- What every node of a compiled graph has. -/
structure RecipeNodeIsScoped (graph : CompiledRecipeFieldGraph) (node : CompiledRecipeFieldNode) :
    Prop where
  dataset : node.recipe.datasetId = graph.datasetId
  workspace : node.recipe.workspaceId = graph.workspaceId
  depth : node.depth ≤ greatestCount
  target : node.targetFieldId = node.recipe.targetFieldId

private theorem compiledRecipeGraph_scoped {input : CompileRecipeFieldGraphInput}
    {graph : CompiledRecipeFieldGraph}
    (accepted : compileRecipeFieldGraph input = some (.ok graph)) :
    (∀ node ∈ graph.nodes, RecipeNodeIsScoped graph node) ∧
      (graph.compilerVersion = recipeFieldGraphCompilerVersion ∧
        graph.datasetId = input.dataset.datasetId ∧
        graph.workspaceId = input.dataset.workspaceId) ∧
      graph.fingerprint = stringify (recipeGraphValue input.dataset graph.nodes
        graph.sourceFieldIds) := by
  obtain ⟨limits, _, _, recipes, _, ordered, orderedEq, rfl⟩ :=
    compileRecipeFieldGraph_ordered.mp accepted
  refine ⟨fun node member => ?_, ⟨rfl, rfl, rfl⟩, rfl⟩
  obtain ⟨recipe, isRecipe, rfl⟩ := mem_orderedRecipeNodes member
  have fits := recipes.fits recipe isRecipe
  obtain ⟨invariant, permuted⟩ :=
    (orderGraph_spec (recipeWorkflow_sound recipes.targets)).2 ordered orderedEq
  rw [recipeWorkflow_keys] at permuted
  obtain ⟨depth, depthEq, _, bounded⟩ := invariant.depths recipe.targetFieldId
    (permuted.mem_iff.mpr (List.mem_map_of_mem isRecipe))
  have exact : input.limits.maxDepth ≤ maxSafeInteger := by
    simp only [recipeLimitsAreValid, isSafeInteger, Bool.and_eq_true, decide_eq_true_eq] at limits
    exact limits.1.1.1.2.2
  refine ⟨fits.dataset, fits.workspace, ?_, rfl⟩
  show (ordered.depths recipe.targetFieldId).getD 0 ≤ greatestCount
  rw [depthEq, Option.getD_some]
  simp only [maxSafeInteger] at exact
  simp only [greatestCount]
  omega

private theorem recipeNodeValue_inj {leftGraph rightGraph : CompiledRecipeFieldGraph}
    (datasets : leftGraph.datasetId = rightGraph.datasetId)
    (workspaces : leftGraph.workspaceId = rightGraph.workspaceId)
    {left right : CompiledRecipeFieldNode} (leftScoped : RecipeNodeIsScoped leftGraph left)
    (rightScoped : RecipeNodeIsScoped rightGraph right)
    (same : recipeNodeValue left = recipeNodeValue right) :
    left.unnamed = right.unnamed := by
  simp only [recipeNodeValue, JsonValue.object.injEq, JsonValue.array.injEq,
    JsonValue.number.injEq, Foundation.JsNumber.finite.injEq, List.cons.injEq, Prod.mk.injEq,
    true_and, and_true] at same
  obtain ⟨dependsOn, depth, inputs, recipeId, revision, target, hash, workflowRevision,
    workflowSpec⟩ := same
  have dataset := leftScoped.dataset.trans (datasets.trans rightScoped.dataset.symm)
  have workspace := leftScoped.workspace.trans (workspaces.trans rightScoped.workspace.symm)
  have depths := ofCount_inj leftScoped.depth rightScoped.depth depth
  have targets := textValue_inj target
  have recipeTarget : left.recipe.targetFieldId = right.recipe.targetFieldId :=
    leftScoped.target.symm.trans (targets.trans rightScoped.target)
  simp only [CompiledRecipeFieldNode.unnamed, CompiledRecipeFieldNode.mk.injEq,
    EnrichmentRecipe.mk.injEq, true_and]
  exact ⟨textValues_inj dependsOn, depths, ⟨dataset, textValue_inj recipeId,
    textValues_inj inputs, textValue_inj revision, recipeTarget, textValue_inj hash,
    textValue_inj workflowRevision, textValue_inj workflowSpec, workspace⟩, targets⟩

/-- **A fingerprint identifies the rest of its graph**, apart from the names of the recipes. -/
theorem recipeGraphFingerprint_identifies {left right : CompileRecipeFieldGraphInput}
    {leftGraph rightGraph : CompiledRecipeFieldGraph}
    (leftAccepted : compileRecipeFieldGraph left = some (.ok leftGraph))
    (rightAccepted : compileRecipeFieldGraph right = some (.ok rightGraph)) :
    leftGraph.fingerprint = rightGraph.fingerprint ↔ leftGraph.unnamed = rightGraph.unnamed := by
  obtain ⟨leftScoped, leftIdentity, leftPrint⟩ := compiledRecipeGraph_scoped leftAccepted
  obtain ⟨rightScoped, rightIdentity, rightPrint⟩ := compiledRecipeGraph_scoped rightAccepted
  constructor
  swap
  · intro same
    obtain ⟨_, datasets, _, _, workspaces⟩ := unnamed_eq_iff.mp same
    rw [leftIdentity.2.1, rightIdentity.2.1] at datasets
    rw [leftIdentity.2.2, rightIdentity.2.2] at workspaces
    rw [leftPrint, rightPrint, recipeGraphValue_unnamed datasets workspaces same]
  intro same
  have prints := same
  rw [leftPrint, rightPrint] at prints
  have values := congrArg parseJson prints
  rw [parseJson_stringify (recipeGraphValue_isJson _ _ _),
    parseJson_stringify (recipeGraphValue_isJson _ _ _)] at values
  simp only [recipeGraphValue, Option.some.injEq, JsonValue.object.injEq, JsonValue.array.injEq,
    List.cons.injEq, Prod.mk.injEq, true_and, and_true] at values
  obtain ⟨dataset, nodes, sources, workspace⟩ := values
  have datasets : leftGraph.datasetId = rightGraph.datasetId := by
    rw [leftIdentity.2.1, rightIdentity.2.1, textValue_inj dataset]
  have workspaces : leftGraph.workspaceId = rightGraph.workspaceId := by
    rw [leftIdentity.2.2, rightIdentity.2.2, textValue_inj workspace]
  refine unnamed_eq_iff.mpr ⟨leftIdentity.1.trans rightIdentity.1.symm, datasets, ?_,
    textValues_inj sources, workspaces⟩
  exact map_eq_of_map_eq nodes fun node member other otherMember sameValue =>
    recipeNodeValue_inj datasets workspaces (leftScoped node member)
      (rightScoped other otherMember) sameValue

/-- Reading another field gives another fingerprint. -/
theorem recipeGraphFingerprint_inputs : ∃ domain email,
    compileRecipeFieldGraph (sampleRecipeGraphInput [sampleRecipe "Score" "score" ["domain"]]) =
        some (.ok domain) ∧
      compileRecipeFieldGraph (sampleRecipeGraphInput [sampleRecipe "Score" "score" ["email"]]) =
        some (.ok email) ∧
      domain.fingerprint ≠ email.fingerprint := by
  have reads : ∀ fieldId ∈ ["domain", "email"],
      (compileRecipeFieldGraph
        (sampleRecipeGraphInput [sampleRecipe "Score" "score" [fieldId]])).bind
          (fun compiled => compiled.toOption.map fun graph =>
            graph.unnamed.nodes.map (·.recipe.inputFieldIds)) = some [[fieldId]] := by
    decide
  obtain ⟨domain, domainEq, readsDomain⟩ :=
    compileRecipeFieldGraph_of_view (reads "domain" (by decide))
  obtain ⟨email, emailEq, readsEmail⟩ :=
    compileRecipeFieldGraph_of_view (reads "email" (by decide))
  refine ⟨domain, email, domainEq, emailEq, fun same => ?_⟩
  rw [(recipeGraphFingerprint_identifies domainEq emailEq).mp same, readsEmail] at readsDomain
  exact absurd readsDomain (by decide)

end Kurobara.Engine
