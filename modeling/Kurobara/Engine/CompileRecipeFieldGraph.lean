import Kurobara.Engine.CompileWorkflow
import Kurobara.Foundation.CountText
import Kurobara.Foundation.JsonText
import Kurobara.Kernel.CellResult

/-! # Compiling the field graph of a dataset's recipes

`compileRecipeFieldGraph` of the workflow engine: the recipes of a dataset, each after
the recipes that produce its inputs. A recipe is the producer of its target field, so
the graph is one of fields.
-/

namespace Kurobara.Engine

open Foundation Kernel

/-- `RECIPE_FIELD_GRAPH_COMPILER_VERSION`. -/
def recipeFieldGraphCompilerVersion : String := "1.0.0"

/-- The limits the caller compiles under. -/
structure RecipeFieldGraphCompilationLimits where
  maxDepth : ℤ
  maxFanOut : ℤ
  maxNodes : ℤ
  deriving DecidableEq, Repr

/-- A recipe in the compiled graph, with its dependencies and its depth. -/
structure CompiledRecipeFieldNode where
  dependsOn : List FieldId
  depth : ℕ
  recipe : EnrichmentRecipe
  targetFieldId : FieldId
  deriving DecidableEq, Repr

/-- The compiled graph: nodes in execution order under one fingerprint. -/
structure CompiledRecipeFieldGraph where
  compilerVersion : String
  datasetId : DatasetId
  fingerprint : JsString
  nodes : List CompiledRecipeFieldNode
  sourceFieldIds : List FieldId
  workspaceId : WorkspaceId
  deriving DecidableEq, Repr

inductive RecipeFieldGraphCompilationFailureCode where
  | cycleDetected
  | depthLimitExceeded
  | duplicateInputField
  | duplicateRecipeIdentity
  | duplicateTargetField
  | fanOutLimitExceeded
  | fieldCollectionInvalid
  | invalidLimits
  | nodeLimitExceeded
  | recipeScopeMismatch
  | selfDependency
  | unknownInputField
  | unknownTargetField
  deriving DecidableEq, Repr

def RecipeFieldGraphCompilationFailureCode.text :
    RecipeFieldGraphCompilationFailureCode → String
  | .cycleDetected => "cycle-detected"
  | .depthLimitExceeded => "depth-limit-exceeded"
  | .duplicateInputField => "duplicate-input-field"
  | .duplicateRecipeIdentity => "duplicate-recipe-identity"
  | .duplicateTargetField => "duplicate-target-field"
  | .fanOutLimitExceeded => "fan-out-limit-exceeded"
  | .fieldCollectionInvalid => "field-collection-invalid"
  | .invalidLimits => "invalid-limits"
  | .nodeLimitExceeded => "node-limit-exceeded"
  | .recipeScopeMismatch => "recipe-scope-mismatch"
  | .selfDependency => "self-dependency"
  | .unknownInputField => "unknown-input-field"
  | .unknownTargetField => "unknown-target-field"

structure RecipeFieldGraphCompilationFailure where
  code : RecipeFieldGraphCompilationFailureCode
  message : String
  recipeId : Option String
  targetFieldId : Option String
  deriving DecidableEq, Repr

/-- The input of `compileRecipeFieldGraph`. -/
structure CompileRecipeFieldGraphInput where
  dataset : Dataset
  fields : List Field
  limits : RecipeFieldGraphCompilationLimits
  recipes : List EnrichmentRecipe
  deriving DecidableEq, Repr

def recipeLimitsAreValid (limits : RecipeFieldGraphCompilationLimits) : Bool :=
  isSafeInteger limits.maxNodes && decide (0 < limits.maxNodes) &&
    isSafeInteger limits.maxDepth && decide (0 ≤ limits.maxDepth) &&
    isSafeInteger limits.maxFanOut && decide (0 ≤ limits.maxFanOut)

/-! ## Validation -/

/-- A failure at a recipe. -/
def recipeRejected (code : RecipeFieldGraphCompilationFailureCode) (message : String)
    (recipe : EnrichmentRecipe) : RecipeFieldGraphCompilationFailure :=
  ⟨code, message, some recipe.enrichmentRecipeId, some recipe.targetFieldId⟩

/-- The checks of one recipe against the recipes before it, in their order. -/
def validateRecipe (dataset : Dataset) (fields : List Field) (earlier : List EnrichmentRecipe)
    (recipe : EnrichmentRecipe) : Except RecipeFieldGraphCompilationFailure Unit :=
  let isField := fun fieldId => (fields.map Field.fieldId).contains fieldId
  if recipe.workspaceId != dataset.workspaceId || recipe.datasetId != dataset.datasetId then
    .error (recipeRejected .recipeScopeMismatch
      "Every recipe in a field graph must belong to its dataset scope." recipe)
  else if (earlier.map EnrichmentRecipe.enrichmentRecipeId).contains
      recipe.enrichmentRecipeId then
    .error (recipeRejected .duplicateRecipeIdentity
      "A field graph can select only one revision of each recipe identity." recipe)
  else if (earlier.map EnrichmentRecipe.targetFieldId).contains recipe.targetFieldId then
    .error (recipeRejected .duplicateTargetField
      "A field graph can contain only one recipe producer for each target field." recipe)
  else if !isField recipe.targetFieldId then
    .error (recipeRejected .unknownTargetField
      "A recipe target must be a field in the graph dataset." recipe)
  else if !decide recipe.inputFieldIds.Nodup then
    .error (recipeRejected .duplicateInputField
      "A recipe input field can appear only once in the field graph." recipe)
  else if recipe.inputFieldIds.contains recipe.targetFieldId then
    .error (recipeRejected .selfDependency
      "A recipe cannot depend on its own target field." recipe)
  else if recipe.inputFieldIds.any fun fieldId => !isField fieldId then
    .error (recipeRejected .unknownInputField
      "Every recipe input must be a field in the graph dataset." recipe)
  else .ok ()

/-- The loop of `validateRecipes`, over the recipes already indexed by their target. -/
def validateRecipesFrom (dataset : Dataset) (fields : List Field)
    (recipesByTarget : List EnrichmentRecipe) :
    List EnrichmentRecipe → Except RecipeFieldGraphCompilationFailure (List EnrichmentRecipe)
  | [] => .ok recipesByTarget
  | recipe :: rest =>
      match validateRecipe dataset fields recipesByTarget recipe with
      | .error failure => .error failure
      | .ok _ => validateRecipesFrom dataset fields (recipesByTarget ++ [recipe]) rest

/-- The recipes by their target, in the order of their insertion. -/
def validateRecipes (input : CompileRecipeFieldGraphInput) :
    Except RecipeFieldGraphCompilationFailure (List EnrichmentRecipe) :=
  if input.limits.maxNodes < input.recipes.length then
    .error ⟨.nodeLimitExceeded, s!"Recipe field graph contains {input.recipes.length} nodes; " ++
      s!"limit is {input.limits.maxNodes}.", none, none⟩
  else validateRecipesFrom input.dataset input.fields [] input.recipes

/-! ## The graph -/

/-- A recipe with the target fields that it reads. -/
structure RecipeNodeDraft where
  dependsOn : List FieldId
  recipe : EnrichmentRecipe

/-- The node of a recipe: it depends on its inputs that other recipes produce. -/
def draftNode (recipes : List EnrichmentRecipe) (recipe : EnrichmentRecipe) : RecipeNodeDraft where
  dependsOn := sortText (recipe.inputFieldIds.filter fun fieldId =>
    (recipes.map EnrichmentRecipe.targetFieldId).contains fieldId)
  recipe := recipe

/-- `nodes.get`, over the drafted nodes. -/
def draftNodeOf (recipes : List EnrichmentRecipe) (targetFieldId : FieldId) :
    Option RecipeNodeDraft :=
  (recipes.find? (·.targetFieldId == targetFieldId)).map (draftNode recipes)

/-- The targets of the recipes that read a field. -/
def recipeDependants (recipes : List EnrichmentRecipe) (fieldId : FieldId) : List FieldId :=
  sortText (recipes.flatMap fun recipe =>
    (recipe.inputFieldIds.filter (· == fieldId)).map fun _ => recipe.targetFieldId)

/-- The fields with dependants, in the order in which the graph meets them. -/
def recipeGraphFields (recipes : List EnrichmentRecipe) : List FieldId :=
  (recipes.flatMap EnrichmentRecipe.inputFieldIds).eraseDups

/-- `validateFanOut`: no field is read by more recipes than the limit. -/
def validateRecipeFanOut (recipes : List EnrichmentRecipe) (maximum : ℤ) :
    Except RecipeFieldGraphCompilationFailure Unit :=
  (recipeGraphFields recipes).forM fun fieldId =>
    let fanOut := (recipeDependants recipes fieldId).length
    if maximum < fanOut then
      .error ⟨.fanOutLimitExceeded,
        s!"Recipe input field {fieldId} has fan-out {fanOut}; limit is {maximum}.", none,
        some fieldId⟩
    else .ok ()

/-- What `orderNodes` carries: the ready targets, the dependencies that each target still
waits for, the depths, and the ordered nodes. -/
structure RecipeOrderingState where
  ready : List FieldId
  remainingDependencies : FieldId → ℤ
  depths : FieldId → Option ℕ
  ordered : List CompiledRecipeFieldNode

/-- The recipes without dependencies are ready at the start. -/
def initialRecipeOrdering (recipes : List EnrichmentRecipe) : RecipeOrderingState where
  ready := sortText ((recipes.filter fun recipe =>
    (draftNode recipes recipe).dependsOn.isEmpty).map EnrichmentRecipe.targetFieldId)
  remainingDependencies fieldId :=
    ((draftNodeOf recipes fieldId).map fun node => (node.dependsOn.length : ℤ)).getD 0
  depths _ := none
  ordered := []

/-- One more than the deepest dependency, zero without any. -/
def draftDepth (node : RecipeNodeDraft) (depths : FieldId → Option ℕ) : ℕ :=
  node.dependsOn.foldl (fun maximum dependency =>
    max maximum ((depths dependency).elim 0 (· + 1))) 0

/-- One dependant of the target that was taken waits for one dependency less. -/
def releaseRecipeDependant (state : RecipeOrderingState) (dependant : FieldId) :
    RecipeOrderingState :=
  let nextRemaining := state.remainingDependencies dependant - 1
  { state with
    remainingDependencies := Function.update state.remainingDependencies dependant nextRemaining
    ready := if nextRemaining = 0 then sortText (state.ready ++ [dependant]) else state.ready }

/-- The compiled node of a draft at its depth. -/
def compiledRecipeNode (node : RecipeNodeDraft) (depth : ℕ) (targetFieldId : FieldId) :
    CompiledRecipeFieldNode :=
  ⟨node.dependsOn, depth, node.recipe, targetFieldId⟩

/-- The loop of `orderNodes`. Every target becomes ready at most once, so as many rounds
as there are recipes empty the ready list. Nothing stands for the thrown error of the
compiler invariant. -/
def orderReadyRecipes (recipes : List EnrichmentRecipe) (maximumDepth : ℤ) :
    ℕ → RecipeOrderingState →
      Option (Except RecipeFieldGraphCompilationFailure RecipeOrderingState)
  | 0, state => some (.ok state)
  | rounds + 1, state =>
      match state.ready with
      | [] => some (.ok state)
      | targetFieldId :: ready =>
          match draftNodeOf recipes targetFieldId with
          | none => none
          | some node =>
              let depth := draftDepth node state.depths
              if maximumDepth < depth then
                some (.error ⟨.depthLimitExceeded, s!"Recipe target {targetFieldId} has depth " ++
                  s!"{depth}; limit is {maximumDepth}.", some node.recipe.enrichmentRecipeId,
                  some targetFieldId⟩)
              else
                orderReadyRecipes recipes maximumDepth rounds
                  ((recipeDependants recipes targetFieldId).foldl releaseRecipeDependant {
                    state with
                    ready := ready
                    depths := Function.update state.depths targetFieldId (some depth)
                    ordered := state.ordered ++ [compiledRecipeNode node depth targetFieldId] })

/-- `orderNodes`: the nodes in the order they become ready, or the depth failure; none where the
source throws. -/
def orderNodes (recipes : List EnrichmentRecipe) (maximumDepth : ℤ) :
    Option (Except RecipeFieldGraphCompilationFailure (List CompiledRecipeFieldNode)) :=
  (orderReadyRecipes recipes maximumDepth recipes.length (initialRecipeOrdering recipes)).map
    fun result => match result with
      | .error failure => .error failure
      | .ok final =>
          if final.ordered.length != recipes.length then
            .error ⟨.cycleDetected, "Recipe field dependencies contain a cycle.", none, none⟩
          else .ok final.ordered

/-! ## The compiled graph -/

/-- The inputs that no recipe produces. -/
def sourceFields (nodes : List CompiledRecipeFieldNode) (recipes : List EnrichmentRecipe) :
    List FieldId :=
  sortText ((nodes.flatMap fun node => node.recipe.inputFieldIds.filter fun fieldId =>
    !(recipes.map EnrichmentRecipe.targetFieldId).contains fieldId).eraseDups)

def textValue (value : String) : JsonValue :=
  .string (utf16 value.toList)

/-- What the fingerprint says of a node. -/
def recipeNodeValue (node : CompiledRecipeFieldNode) : JsonValue :=
  .object [
    (ascii "dependsOn", .array (node.dependsOn.map textValue)),
    (ascii "depth", .number (.finite (.ofCount node.depth))),
    (ascii "inputFieldIds", .array (node.recipe.inputFieldIds.map textValue)),
    (ascii "recipeId", textValue node.recipe.enrichmentRecipeId),
    (ascii "recipeRevision", textValue node.recipe.recipeRevision),
    (ascii "targetFieldId", textValue node.targetFieldId),
    (ascii "workflowContentHash", textValue node.recipe.workflowContentHash),
    (ascii "workflowRevision", textValue node.recipe.workflowRevision),
    (ascii "workflowSpecId", textValue node.recipe.workflowSpecId)]

/-- What the fingerprint is the canonical text of. -/
def recipeGraphValue (dataset : Dataset) (nodes : List CompiledRecipeFieldNode)
    (sourceFieldIds : List FieldId) : JsonValue :=
  .object [
    (ascii "compilerVersion", textValue recipeFieldGraphCompilerVersion),
    (ascii "datasetId", textValue dataset.datasetId),
    (ascii "nodes", .array (nodes.map recipeNodeValue)),
    (ascii "sourceFieldIds", .array (sourceFieldIds.map textValue)),
    (ascii "workspaceId", textValue dataset.workspaceId)]

/-- The fingerprint of a graph. -/
def fingerprintFor (input : CompileRecipeFieldGraphInput) (nodes : List CompiledRecipeFieldNode)
    (sourceFieldIds : List FieldId) : JsString :=
  stringify (recipeGraphValue input.dataset nodes sourceFieldIds)

/-- The graph that a successful compilation answers. -/
def compiledRecipeGraph (input : CompileRecipeFieldGraphInput) (recipes : List EnrichmentRecipe)
    (nodes : List CompiledRecipeFieldNode) : CompiledRecipeFieldGraph where
  compilerVersion := recipeFieldGraphCompilerVersion
  datasetId := input.dataset.datasetId
  fingerprint := fingerprintFor input nodes (sourceFields nodes recipes)
  nodes := nodes
  sourceFieldIds := sourceFields nodes recipes
  workspaceId := input.dataset.workspaceId

/-- The fields are the valid fields of the dataset. -/
def recipeFieldsAreValid (input : CompileRecipeFieldGraphInput) : Bool :=
  !input.fields.any (fun field => field.workspaceId != input.dataset.workspaceId ||
      field.datasetId != input.dataset.datasetId) &&
    (validateDatasetFields input.dataset input.fields).toBool

/-- Nothing stands for the thrown error of the compiler invariant. -/
def compileRecipeFieldGraph (input : CompileRecipeFieldGraphInput) :
    Option (Except RecipeFieldGraphCompilationFailure CompiledRecipeFieldGraph) :=
  if !recipeLimitsAreValid input.limits then
    some (.error ⟨.invalidLimits, "Recipe field graph limits must be bounded non-negative " ++
      "integers with at least one allowed node.", none, none⟩)
  else if !recipeFieldsAreValid input then
    some (.error ⟨.fieldCollectionInvalid, "Recipe field graph fields must form the exact valid " ++
      "dataset field collection.", none, none⟩)
  else
    match validateRecipes input with
    | .error failure => some (.error failure)
    | .ok recipes =>
    match validateRecipeFanOut recipes input.limits.maxFanOut with
    | .error failure => some (.error failure)
    | .ok _ => (orderNodes recipes input.limits.maxDepth).map
        (Except.map (compiledRecipeGraph input recipes))

end Kurobara.Engine
