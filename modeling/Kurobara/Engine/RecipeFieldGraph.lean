import Kurobara.Engine.CompileRecipeFieldGraph
import Kurobara.Engine.WorkflowCompilation
import Kurobara.Foundation.PrintableText

/-! # What the field graph compiler accepts

The recipes that `compileRecipeFieldGraph` accepts and the graph it makes of them. Its ordering
loop refines that of the workflow compiler: a recipe is a node under the key of its target.
The inputs that no recipe produces have dependants too, but they are never taken.
-/

namespace Kurobara.Engine

open Kernel Foundation

/-! ## Fields -/

/-- Two fields with other identifiers and other keys. -/
def FieldsDiffer (left right : Field) : Prop :=
  left.fieldId ≠ right.fieldId ∧ left.key ≠ right.key

/-- The collections that `validateDatasetFields` accepts. -/
structure FieldsAreValid (dataset : Dataset) (fields : List Field) : Prop where
  size : fields.length ≤ maxDatasetFields
  valid : ∀ field ∈ fields, validateField dataset field = .ok ()
  distinct : fields.Pairwise FieldsDiffer

private theorem indexFieldsFrom_ok {dataset : Dataset} {fields : List Field}
    (indexed : List Field) :
    (indexFieldsFrom dataset indexed fields).toBool = true ↔
      (∀ field ∈ fields, validateField dataset field = .ok ()) ∧
        (∀ field ∈ fields, ∀ known ∈ indexed, FieldsDiffer known field) ∧
        fields.Pairwise FieldsDiffer := by
  induction fields generalizing indexed with
  | nil => simp [indexFieldsFrom, Except.toBool]
  | cons field fields ih =>
      rw [indexFieldsFrom]
      cases valid : validateField dataset field with
      | error failure =>
          refine iff_of_false (by simp [Except.toBool]) fun accepted => ?_
          rw [accepted.1 field List.mem_cons_self] at valid
          cases valid
      | ok value =>
          dsimp only
          have new : (indexed.any fun known => known.fieldId == field.fieldId ||
              known.key == field.key) = false ↔ ∀ known ∈ indexed, FieldsDiffer known field := by
            simp [FieldsDiffer]
          by_cases differ : ∀ known ∈ indexed, FieldsDiffer known field
          · rw [if_neg (by simp [new.mpr differ]), ih]
            simp only [List.forall_mem_cons, List.pairwise_cons, List.mem_append,
              List.mem_singleton]
            constructor
            · rintro ⟨valids, differs, distinct⟩
              exact ⟨⟨valid, valids⟩, ⟨differ, fun other member known isKnown =>
                differs other member known (.inl isKnown)⟩,
                fun other member => differs other member field (.inr rfl), distinct⟩
            · rintro ⟨⟨_, valids⟩, ⟨_, differs⟩, first, distinct⟩
              refine ⟨valids, fun other member known isKnown => ?_, distinct⟩
              rcases isKnown with isKnown | rfl
              · exact differs other member known isKnown
              · exact first other member
          · rw [if_pos (eq_true_of_ne_false fun none => differ (new.mp none))]
            refine iff_of_false (by simp [Except.toBool]) fun accepted => differ ?_
            exact accepted.2.1 field List.mem_cons_self

private theorem validateField_scope {dataset : Dataset} {field : Field}
    (valid : validateField dataset field = .ok ()) :
    field.datasetId = dataset.datasetId ∧ field.workspaceId = dataset.workspaceId := by
  unfold validateField at valid
  split at valid
  · cases valid
  split at valid
  · cases valid
  rename_i inScope
  simpa [hasDatasetScope] using inScope

private theorem recipeFieldsAreValid_iff {input : CompileRecipeFieldGraphInput} :
    recipeFieldsAreValid input = true ↔ FieldsAreValid input.dataset input.fields := by
  have checked : (validateDatasetFields input.dataset input.fields).toBool = true ↔
      FieldsAreValid input.dataset input.fields := by
    have indexed : (validateDatasetFields input.dataset input.fields).toBool =
        (indexFields input.dataset input.fields).toBool := by
      unfold validateDatasetFields
      cases indexFields input.dataset input.fields <;> rfl
    rw [indexed, indexFields]
    by_cases size : input.fields.length ≤ maxDatasetFields
    · rw [if_neg (by omega), indexFieldsFrom_ok]
      exact ⟨fun accepted => ⟨size, accepted.1, accepted.2.2⟩,
        fun valid => ⟨valid.valid, by simp, valid.distinct⟩⟩
    · rw [if_pos (by omega)]
      exact iff_of_false (by simp [Except.toBool]) fun valid => size valid.size
  rw [recipeFieldsAreValid, Bool.and_eq_true, checked, and_iff_right_of_imp]
  intro valid
  simp only [Bool.not_eq_true', List.any_eq_false, Bool.or_eq_true, bne_iff_ne, not_or, not_not]
  intro field member
  exact (validateField_scope (valid.valid field member)).symm

/-! ## Recipes -/

/-- What a recipe needs of its dataset. -/
structure RecipeFits (dataset : Dataset) (fields : List Field) (recipe : EnrichmentRecipe) :
    Prop where
  workspace : recipe.workspaceId = dataset.workspaceId
  dataset : recipe.datasetId = dataset.datasetId
  target : recipe.targetFieldId ∈ fields.map Field.fieldId
  distinct : recipe.inputFieldIds.Nodup
  other : recipe.targetFieldId ∉ recipe.inputFieldIds
  inputs : ∀ fieldId ∈ recipe.inputFieldIds, fieldId ∈ fields.map Field.fieldId

/-- The collections that `validateRecipes` accepts, apart from their size. -/
structure RecipesAreValid (dataset : Dataset) (fields : List Field)
    (recipes : List EnrichmentRecipe) : Prop where
  fits : ∀ recipe ∈ recipes, RecipeFits dataset fields recipe
  identities : (recipes.map EnrichmentRecipe.enrichmentRecipeId).Nodup
  targets : (recipes.map EnrichmentRecipe.targetFieldId).Nodup

private theorem validateRecipe_ok {dataset : Dataset} {fields : List Field}
    {earlier : List EnrichmentRecipe} {recipe : EnrichmentRecipe} :
    validateRecipe dataset fields earlier recipe = .ok () ↔
      RecipeFits dataset fields recipe ∧
        recipe.enrichmentRecipeId ∉ earlier.map EnrichmentRecipe.enrichmentRecipeId ∧
        recipe.targetFieldId ∉ earlier.map EnrichmentRecipe.targetFieldId := by
  unfold validateRecipe
  dsimp only
  constructor
  · intro accepted
    split at accepted
    · cases accepted
    rename_i scope
    split at accepted
    · cases accepted
    rename_i identity
    split at accepted
    · cases accepted
    rename_i target
    split at accepted
    · cases accepted
    rename_i known
    split at accepted
    · cases accepted
    rename_i distinct
    split at accepted
    · cases accepted
    rename_i other
    split at accepted
    · cases accepted
    rename_i inputs
    rw [Bool.or_eq_true, bne_iff_ne, bne_iff_ne, not_or, not_not, not_not] at scope
    refine ⟨⟨scope.1, scope.2, ?_, ?_, ?_, ?_⟩, ?_, ?_⟩
    · simpa using known
    · simpa using distinct
    · simpa using other
    · simpa using inputs
    · simpa using identity
    · simpa using target
  · rintro ⟨fits, identity, target⟩
    rw [if_neg (by simp [fits.workspace, fits.dataset]), if_neg (by simpa using identity),
      if_neg (by simpa using target), if_neg (by simpa using fits.target),
      if_neg (by simpa using fits.distinct), if_neg (by simpa using fits.other),
      if_neg (by simpa using fits.inputs)]

private theorem validateRecipesFrom_ok {dataset : Dataset} {fields : List Field}
    {recipes result : List EnrichmentRecipe} (earlier : List EnrichmentRecipe)
    (identities : (earlier.map EnrichmentRecipe.enrichmentRecipeId).Nodup)
    (targets : (earlier.map EnrichmentRecipe.targetFieldId).Nodup) :
    validateRecipesFrom dataset fields earlier recipes = .ok result ↔
      result = earlier ++ recipes ∧ (∀ recipe ∈ recipes, RecipeFits dataset fields recipe) ∧
        ((earlier ++ recipes).map EnrichmentRecipe.enrichmentRecipeId).Nodup ∧
        ((earlier ++ recipes).map EnrichmentRecipe.targetFieldId).Nodup := by
  induction recipes generalizing earlier with
  | nil => simp [validateRecipesFrom, identities, targets, eq_comm]
  | cons recipe recipes ih =>
      have snoc : ∀ {Value : Type} (value : EnrichmentRecipe → Value),
          (earlier.map value).Nodup → value recipe ∉ earlier.map value →
            ((earlier ++ [recipe]).map value).Nodup := by
        intro _ value distinct fresh
        rw [List.map_append]
        exact distinct.append (List.nodup_singleton _) (by simpa using fresh)
      have fresh : ∀ {Value : Type} (value : EnrichmentRecipe → Value),
          ((earlier ++ recipe :: recipes).map value).Nodup → value recipe ∉ earlier.map value := by
        intro _ value distinct member
        rw [List.map_append, List.map_cons] at distinct
        exact (List.nodup_append.mp distinct).2.2 _ member _ List.mem_cons_self rfl
      rw [validateRecipesFrom]
      cases accepted : validateRecipe dataset fields earlier recipe with
      | error failure =>
          refine iff_of_false (fun ok => nomatch ok) ?_
          rintro ⟨_, fits, identities, targets⟩
          have valid := validateRecipe_ok.mpr
            ⟨fits recipe List.mem_cons_self, fresh _ identities, fresh _ targets⟩
          rw [valid] at accepted
          cases accepted
      | ok value =>
          obtain ⟨fits, identity, target⟩ := validateRecipe_ok.mp accepted
          dsimp only
          rw [ih (earlier ++ [recipe]) (snoc _ identities identity) (snoc _ targets target),
            List.append_assoc, List.singleton_append, List.forall_mem_cons, and_iff_right fits]

private theorem validateRecipes_ok {input : CompileRecipeFieldGraphInput}
    {result : List EnrichmentRecipe} : validateRecipes input = .ok result ↔
      result = input.recipes ∧ (input.recipes.length : ℤ) ≤ input.limits.maxNodes ∧
        RecipesAreValid input.dataset input.fields input.recipes := by
  unfold validateRecipes
  by_cases size : (input.recipes.length : ℤ) ≤ input.limits.maxNodes
  · rw [if_neg (by omega), validateRecipesFrom_ok [] List.nodup_nil List.nodup_nil,
      List.nil_append, and_iff_right size]
    exact and_congr_right fun _ => ⟨fun valid => ⟨valid.1, valid.2.1, valid.2.2⟩,
      fun valid => ⟨valid.fits, valid.identities, valid.targets⟩⟩
  · rw [if_pos (by omega)]
    exact iff_of_false (fun accepted => nomatch accepted) fun valid => size valid.2.1

/-! ## Fan-out -/

/-- The recipes that read a field. -/
def readersOf (recipes : List EnrichmentRecipe) (fieldId : FieldId) : List EnrichmentRecipe :=
  recipes.filter fun recipe => recipe.inputFieldIds.contains fieldId

private theorem recipeDependants_length {recipes : List EnrichmentRecipe}
    (distinct : ∀ recipe ∈ recipes, recipe.inputFieldIds.Nodup) (fieldId : FieldId) :
    (recipeDependants recipes fieldId).length = (readersOf recipes fieldId).length := by
  unfold recipeDependants readersOf
  rw [(sortText_perm _).length_eq]
  induction recipes with
  | nil => rfl
  | cons recipe recipes ih =>
      rw [List.forall_mem_cons] at distinct
      rw [List.flatMap_cons, List.length_append, ih distinct.2, List.length_map,
        ← List.countP_eq_length_filter, ← List.count, distinct.1.count]
      by_cases reads : fieldId ∈ recipe.inputFieldIds
      · rw [if_pos reads, List.filter_cons_of_pos (by simpa using reads), List.length_cons,
          Nat.add_comm]
      · rw [if_neg reads, List.filter_cons_of_neg (by simpa using reads), Nat.zero_add]

private theorem validateRecipeFanOut_ok {recipes : List EnrichmentRecipe} {maximum : ℤ}
    (distinct : ∀ recipe ∈ recipes, recipe.inputFieldIds.Nodup) (allowed : 0 ≤ maximum) :
    validateRecipeFanOut recipes maximum = .ok () ↔
      ∀ fieldId, ((readersOf recipes fieldId).length : ℤ) ≤ maximum := by
  have checked : validateRecipeFanOut recipes maximum = .ok () ↔
      ∀ fieldId ∈ recipeGraphFields recipes,
        ((readersOf recipes fieldId).length : ℤ) ≤ maximum := by
    unfold validateRecipeFanOut
    rw [forM_eq_ok]
    refine forall₂_congr fun fieldId member => ?_
    dsimp only
    rw [recipeDependants_length distinct]
    by_cases fits : ((readersOf recipes fieldId).length : ℤ) ≤ maximum
    · rw [if_neg (by omega)]
      exact iff_of_true rfl fits
    · rw [if_pos (by omega)]
      exact iff_of_false (fun accepted => nomatch accepted) fits
  rw [checked]
  refine ⟨fun fits fieldId => ?_, fun fits fieldId _ => fits fieldId⟩
  by_cases read : fieldId ∈ recipeGraphFields recipes
  · exact fits fieldId read
  · have unread : readersOf recipes fieldId = [] := by
      refine List.filter_eq_nil_iff.mpr fun recipe member reads => read ?_
      exact List.mem_eraseDups.mpr
        (List.mem_flatMap.mpr ⟨recipe, member, List.contains_iff_mem.mp reads⟩)
    rw [unread]
    exact allowed

/-! ## A recipe as a node -/

/-- The inputs of a field's recipe that other recipes produce. -/
def recipeDependencies (recipes : List EnrichmentRecipe) (fieldId : FieldId) : List FieldId :=
  ((draftNodeOf recipes fieldId).map RecipeNodeDraft.dependsOn).getD []

def recipeWorkflowNode (recipes : List EnrichmentRecipe) (recipe : EnrichmentRecipe) :
    WorkflowNode where
  key := recipe.targetFieldId
  capability := ⟨"", ""⟩
  dependsOn := (draftNode recipes recipe).dependsOn
  humanGate := none

/-- The recipes as the nodes of a workflow. -/
def recipeWorkflow (recipes : List EnrichmentRecipe) : WorkflowSpec where
  workflowSpecId := ""
  revision := ""
  contentHash := ""
  nodes := recipes.map (recipeWorkflowNode recipes)

private theorem recipeWorkflow_find (recipes : List EnrichmentRecipe) (fieldId : FieldId) :
    (recipeWorkflow recipes).nodes.find? (·.key == fieldId) =
      (recipes.find? (·.targetFieldId == fieldId)).map (recipeWorkflowNode recipes) :=
  List.find?_map ..

private theorem recipeWorkflow_dependencies (recipes : List EnrichmentRecipe) :
    dependenciesOf (recipeWorkflow recipes) = recipeDependencies recipes := by
  funext fieldId
  unfold dependenciesOf recipeDependencies draftNodeOf
  rw [recipeWorkflow_find]
  cases recipes.find? (·.targetFieldId == fieldId) <;> rfl

theorem recipeWorkflow_keys (recipes : List EnrichmentRecipe) :
    nodeKeys (recipeWorkflow recipes) = recipes.map EnrichmentRecipe.targetFieldId := by
  rw [nodeKeys, recipeWorkflow, List.map_map]
  rfl

private theorem mem_draftNode_dependsOn {recipes : List EnrichmentRecipe}
    {recipe : EnrichmentRecipe}
    {dependency : FieldId} : dependency ∈ (draftNode recipes recipe).dependsOn ↔
      dependency ∈ recipe.inputFieldIds ∧
        dependency ∈ recipes.map EnrichmentRecipe.targetFieldId := by
  rw [draftNode, (sortText_perm _).mem_iff, List.mem_filter, List.contains_iff_mem]

/-- Recipes with distinct targets make a workflow with sound keys. -/
theorem recipeWorkflow_sound {recipes : List EnrichmentRecipe}
    (targets : (recipes.map EnrichmentRecipe.targetFieldId).Nodup) :
    KeysAreSound (recipeWorkflow recipes) := by
  refine keysAreSound (by rwa [recipeWorkflow_keys]) fun node member dependency named => ?_
  obtain ⟨recipe, _, rfl⟩ := List.mem_map.mp member
  rw [recipeWorkflow_keys]
  exact (mem_draftNode_dependsOn.mp named).2

/-- A produced field has the same dependants in both graphs. -/
theorem recipeDependants_eq {recipes : List EnrichmentRecipe} {fieldId : FieldId}
    (produced : fieldId ∈ recipes.map EnrichmentRecipe.targetFieldId) :
    recipeDependants recipes fieldId = dependantsOf (recipeWorkflow recipes) fieldId := by
  unfold recipeDependants dependantsOf
  rw [recipeWorkflow, List.flatMap_map]
  congr 1
  refine congrArg List.flatten (List.map_congr_left fun recipe _ => ?_)
  rw [List.map_const', List.map_const', ← List.countP_eq_length_filter,
    ← List.countP_eq_length_filter]
  change _ = List.replicate (List.countP _ (sortText _)) recipe.targetFieldId
  rw [(sortText_perm _).countP_eq, List.countP_filter]
  congr 1
  refine List.countP_congr fun input _ => ?_
  rw [Bool.and_eq_true, beq_iff_eq, List.contains_iff_mem]
  exact ⟨fun same => ⟨same, same ▸ produced⟩, And.left⟩

/-! ## The ordering loop -/

/-- What the loop of the workflow compiler carries at the same point. -/
def RecipeOrderingState.toOrdering (state : RecipeOrderingState) : OrderingState where
  ready := state.ready
  remainingDependencies := state.remainingDependencies
  depths := state.depths
  orderedKeys := state.ordered.map CompiledRecipeFieldNode.targetFieldId

/-- The nodes of the recipes in an order, each at its depth. -/
def orderedRecipeNodes (recipes : List EnrichmentRecipe) (ordered : OrderingState) :
    List CompiledRecipeFieldNode :=
  ordered.orderedKeys.filterMap fun fieldId => (draftNodeOf recipes fieldId).map fun node =>
    compiledRecipeNode node ((ordered.depths fieldId).getD 0) fieldId

private theorem initialRecipeOrdering_toOrdering (recipes : List EnrichmentRecipe) :
    (initialRecipeOrdering recipes).toOrdering = initialOrdering (recipeWorkflow recipes) := by
  have ready : (initialRecipeOrdering recipes).ready =
      (initialOrdering (recipeWorkflow recipes)).ready := by
    unfold initialRecipeOrdering initialOrdering
    rw [recipeWorkflow, List.filter_map, List.map_map]
    rfl
  have remaining : (initialRecipeOrdering recipes).remainingDependencies =
      (initialOrdering (recipeWorkflow recipes)).remainingDependencies := by
    funext fieldId
    unfold initialRecipeOrdering initialOrdering draftNodeOf
    dsimp only
    rw [recipeWorkflow_find]
    cases recipes.find? (·.targetFieldId == fieldId) <;> rfl
  unfold RecipeOrderingState.toOrdering
  rw [ready, remaining]
  rfl

private theorem releaseRecipeDependants_toOrdering (dependants : List FieldId)
    (state : RecipeOrderingState) :
    (dependants.foldl releaseRecipeDependant state).toOrdering =
        dependants.foldl releaseDependant state.toOrdering ∧
      (dependants.foldl releaseRecipeDependant state).ordered = state.ordered := by
  induction dependants generalizing state with
  | nil => exact ⟨rfl, rfl⟩
  | cons dependant dependants ih => exact ih (releaseRecipeDependant state dependant)

private theorem find_target {recipes : List EnrichmentRecipe} {fieldId : FieldId}
    (produced : fieldId ∈ recipes.map EnrichmentRecipe.targetFieldId) :
    ∃ recipe ∈ recipes, recipe.targetFieldId = fieldId ∧
      recipes.find? (·.targetFieldId == fieldId) = some recipe := by
  obtain ⟨recipe, member, same⟩ := List.mem_map.mp produced
  cases found : recipes.find? (·.targetFieldId == fieldId) with
  | none => exact absurd same (by simpa using List.find?_eq_none.mp found recipe member)
  | some first =>
      exact ⟨first, List.mem_of_find?_eq_some found, by simpa using List.find?_some found, rfl⟩

/-- The state after the recipe of a ready target is taken. -/
def takeRecipe (recipes : List EnrichmentRecipe) (state : RecipeOrderingState)
    (recipe : EnrichmentRecipe) (ready : List FieldId) (depth : ℕ) : RecipeOrderingState :=
  (recipeDependants recipes recipe.targetFieldId).foldl releaseRecipeDependant {
    state with
    ready := ready
    depths := Function.update state.depths recipe.targetFieldId (some depth)
    ordered := state.ordered ++
      [compiledRecipeNode (draftNode recipes recipe) depth recipe.targetFieldId] }

private theorem takeRecipe_toOrdering {recipes : List EnrichmentRecipe} {recipe : EnrichmentRecipe}
    (produced : recipe.targetFieldId ∈ recipes.map EnrichmentRecipe.targetFieldId)
    (state : RecipeOrderingState) (ready : List FieldId) (depth : ℕ) :
    (takeRecipe recipes state recipe ready depth).toOrdering =
      takeKey (recipeWorkflow recipes) state.toOrdering recipe.targetFieldId ready depth := by
  unfold takeRecipe takeKey
  rw [(releaseRecipeDependants_toOrdering _ _).1, recipeDependants_eq produced]
  simp only [RecipeOrderingState.toOrdering, List.map_append, List.map_cons, List.map_nil,
    compiledRecipeNode]

private theorem takeRecipe_nodes {recipes : List EnrichmentRecipe} {recipe : EnrichmentRecipe}
    (produced : recipe.targetFieldId ∈ recipes.map EnrichmentRecipe.targetFieldId)
    (draft : draftNodeOf recipes recipe.targetFieldId = some (draftNode recipes recipe))
    {state : RecipeOrderingState} (fresh : recipe.targetFieldId ∉ state.toOrdering.orderedKeys)
    (nodes : state.ordered = orderedRecipeNodes recipes state.toOrdering) (ready : List FieldId)
    (depth : ℕ) : (takeRecipe recipes state recipe ready depth).ordered =
      orderedRecipeNodes recipes (takeRecipe recipes state recipe ready depth).toOrdering := by
  obtain ⟨depths, ordered, _⟩ := takeKey_spec (recipeWorkflow recipes) state.toOrdering
    recipe.targetFieldId ready depth
  have earlier : (state.toOrdering.orderedKeys.filterMap fun fieldId =>
      (draftNodeOf recipes fieldId).map fun node => compiledRecipeNode node
        ((Function.update state.toOrdering.depths recipe.targetFieldId (some depth) fieldId).getD 0)
          fieldId) = orderedRecipeNodes recipes state.toOrdering := by
    refine List.filterMap_congr fun fieldId member => ?_
    have other : fieldId ≠ recipe.targetFieldId := fun same => fresh (same ▸ member)
    rw [Function.update_of_ne other]
  rw [takeRecipe_toOrdering produced, orderedRecipeNodes, depths, ordered, List.filterMap_append,
    earlier, ← nodes, List.filterMap_cons, draft, Function.update_self]
  exact (releaseRecipeDependants_toOrdering _ _).2

/-- The recipe loop takes the same keys at the same depths, and never meets a ready target
without a node. -/
theorem orderReadyRecipes_refines {recipes : List EnrichmentRecipe}
    (targets : (recipes.map EnrichmentRecipe.targetFieldId).Nodup) {maxDepth : ℕ} (rounds : ℕ)
    (state : RecipeOrderingState)
    (invariant : OrderingInvariant (recipeWorkflow recipes) maxDepth state.toOrdering)
    (nodes : state.ordered = orderedRecipeNodes recipes state.toOrdering) :
    (∃ final, orderReadyRecipes recipes maxDepth rounds state = some (.ok final) ∧
        orderReady (recipeWorkflow recipes) maxDepth rounds state.toOrdering =
          .ok final.toOrdering ∧
        final.ordered = orderedRecipeNodes recipes final.toOrdering) ∨
      ∃ failure workflowFailure,
        orderReadyRecipes recipes maxDepth rounds state = some (.error failure) ∧
        orderReady (recipeWorkflow recipes) maxDepth rounds state.toOrdering =
          .error workflowFailure := by
  have sound := recipeWorkflow_sound targets
  induction rounds generalizing state with
  | zero => exact .inl ⟨state, rfl, rfl, nodes⟩
  | succ rounds ih =>
      unfold orderReadyRecipes orderReady
      cases readyEq : state.ready with
      | nil =>
          have none : state.toOrdering.ready = [] := readyEq
          rw [none]
          exact .inl ⟨state, rfl, rfl, nodes⟩
      | cons fieldId ready =>
          have takes : state.toOrdering.ready = fieldId :: ready := readyEq
          have taken : fieldId ∈ state.toOrdering.orderedKeys ++ state.toOrdering.ready := by
            rw [takes]
            exact List.mem_append_right _ List.mem_cons_self
          have fresh : fieldId ∉ state.toOrdering.orderedKeys := fun member =>
            (List.nodup_append.mp invariant.distinct).2.2 fieldId member fieldId
              (takes ▸ List.mem_cons_self) rfl
          have known := invariant.known fieldId taken
          have free := (invariant.ready fieldId known).mp taken
          have produced := known
          rw [recipeWorkflow_keys] at produced
          obtain ⟨recipe, member, rfl, found⟩ := find_target produced
          have isNode : recipeWorkflowNode recipes recipe ∈ (recipeWorkflow recipes).nodes :=
            List.mem_map_of_mem member
          have node : (recipeWorkflow recipes).nodes.find? (·.key == recipe.targetFieldId) =
              some (recipeWorkflowNode recipes recipe) := find_key sound.unique isNode
          have draft : draftNodeOf recipes recipe.targetFieldId =
              some (draftNode recipes recipe) := by
            rw [draftNodeOf, found, Option.map_some]
          have named : dependenciesOf (recipeWorkflow recipes) recipe.targetFieldId =
              (draftNode recipes recipe).dependsOn := dependenciesOf_node sound.unique isNode
          rw [named] at free
          have isDepth := calculateDepth_isDepth invariant sound isNode free
          have depth : calculateDepth (recipeWorkflowNode recipes recipe) state.toOrdering.depths =
              draftDepth (draftNode recipes recipe) state.depths := rfl
          rw [takes]
          dsimp only
          rw [draft, node]
          dsimp only
          rw [depth] at isDepth ⊢
          generalize draftDepth (draftNode recipes recipe) state.depths = depth at isDepth ⊢
          by_cases deep : maxDepth < depth
          · rw [if_pos (by exact_mod_cast deep), if_pos deep]
            exact .inr ⟨_, _, rfl, rfl⟩
          · rw [if_neg (by exact_mod_cast deep), if_neg deep]
            have next := ih (takeRecipe recipes state recipe ready depth)
              (takeRecipe_toOrdering produced state ready depth ▸
                invariant.takeKey sound takes isDepth (by omega))
              (takeRecipe_nodes produced draft fresh nodes ready depth)
            rw [takeRecipe_toOrdering produced] at next
            exact next

/-- The recipes are ordered exactly when the workflow of their nodes is, in the same order. -/
theorem orderNodes_refines {recipes : List EnrichmentRecipe}
    (targets : (recipes.map EnrichmentRecipe.targetFieldId).Nodup) (maxDepth : ℕ) :
    (∃ ordered, orderGraph (recipeWorkflow recipes) maxDepth = .ok ordered ∧
        orderNodes recipes maxDepth = some (.ok (orderedRecipeNodes recipes ordered))) ∨
      (∃ workflowFailure, orderGraph (recipeWorkflow recipes) maxDepth = .error workflowFailure) ∧
        ∃ failure, orderNodes recipes maxDepth = some (.error failure) := by
  have start := OrderingInvariant.initial (recipeWorkflow_sound targets) maxDepth
  rw [← initialRecipeOrdering_toOrdering] at start
  have size : (recipeWorkflow recipes).nodes.length = recipes.length := List.length_map _
  unfold orderNodes orderGraph
  rw [size, ← initialRecipeOrdering_toOrdering]
  rcases orderReadyRecipes_refines targets recipes.length _ start rfl with
    ⟨final, finalEq, workflowEq, nodes⟩ | ⟨failure, workflowFailure, finalEq, workflowEq⟩
  · rw [finalEq, workflowEq, Option.map_some]
    dsimp only
    have length : final.ordered.length = final.toOrdering.orderedKeys.length :=
      (List.length_map _).symm
    rw [length]
    by_cases complete : final.toOrdering.orderedKeys.length = recipes.length
    · rw [if_neg (by simpa using complete), if_neg (by simpa using complete), nodes]
      exact .inl ⟨_, rfl, rfl⟩
    · rw [if_pos (by simpa using complete), if_pos (by simpa using complete)]
      exact .inr ⟨⟨_, rfl⟩, _, rfl⟩
  · rw [finalEq, workflowEq, Option.map_some]
    exact .inr ⟨⟨_, rfl⟩, _, rfl⟩

/-! ## The compiled graph -/

/-- The inputs that the compiler accepts. -/
structure RecipeGraphIsAdmissible (input : CompileRecipeFieldGraphInput) : Prop where
  limits : recipeLimitsAreValid input.limits = true
  fields : FieldsAreValid input.dataset input.fields
  size : (input.recipes.length : ℤ) ≤ input.limits.maxNodes
  recipes : RecipesAreValid input.dataset input.fields input.recipes
  fanOut : ∀ fieldId, ((readersOf input.recipes fieldId).length : ℤ) ≤ input.limits.maxFanOut
  depth : ∀ fieldId ∈ input.recipes.map EnrichmentRecipe.targetFieldId, ∀ length,
    DependencyPath (recipeDependencies input.recipes) fieldId length →
      (length : ℤ) ≤ input.limits.maxDepth
  acyclic : IsAcyclic (recipeDependencies input.recipes)

/-- A graph of the recipes: each once, at the length of its longest dependency path, after the
recipes that it depends on; the sources are the inputs that no recipe produces. -/
structure IsRecipeGraphOf (input : CompileRecipeFieldGraphInput)
    (graph : CompiledRecipeFieldGraph) : Prop where
  identity : graph.compilerVersion = recipeFieldGraphCompilerVersion ∧
    graph.datasetId = input.dataset.datasetId ∧ graph.workspaceId = input.dataset.workspaceId
  nodes : ∃ depthOf : FieldId → ℕ,
    (∀ recipe ∈ input.recipes, IsDepth (recipeDependencies input.recipes) recipe.targetFieldId
      (depthOf recipe.targetFieldId)) ∧
    graph.nodes.Perm (input.recipes.map fun recipe => compiledRecipeNode
      (draftNode input.recipes recipe) (depthOf recipe.targetFieldId) recipe.targetFieldId)
  order : ∀ before node after, graph.nodes = before ++ node :: after →
    ∀ dependency ∈ node.dependsOn,
      dependency ∈ before.map CompiledRecipeFieldNode.targetFieldId
  sources : graph.sourceFieldIds.Nodup ∧
    (graph.sourceFieldIds.Pairwise fun left right => textIsAtMost left right = true) ∧
    ∀ fieldId, fieldId ∈ graph.sourceFieldIds ↔
      (∃ recipe ∈ input.recipes, fieldId ∈ recipe.inputFieldIds) ∧
        fieldId ∉ input.recipes.map EnrichmentRecipe.targetFieldId

private theorem compileRecipeFieldGraph_ok {input : CompileRecipeFieldGraphInput}
    {graph : CompiledRecipeFieldGraph} : compileRecipeFieldGraph input = some (.ok graph) ↔
      recipeLimitsAreValid input.limits = true ∧ FieldsAreValid input.dataset input.fields ∧
        validateRecipes input = .ok input.recipes ∧
        validateRecipeFanOut input.recipes input.limits.maxFanOut = .ok () ∧
        ∃ nodes, orderNodes input.recipes input.limits.maxDepth = some (.ok nodes) ∧
          graph = compiledRecipeGraph input input.recipes nodes := by
  unfold compileRecipeFieldGraph
  by_cases limits : recipeLimitsAreValid input.limits = true
  · rw [if_neg (by simp [limits]), and_iff_right limits, ← recipeFieldsAreValid_iff]
    by_cases fields : recipeFieldsAreValid input = true
    · rw [if_neg (by simp [fields]), and_iff_right fields]
      cases accepted : validateRecipes input with
      | error failure => simp
      | ok recipes =>
          obtain ⟨rfl, _⟩ := validateRecipes_ok.mp accepted
          dsimp only
          cases validateRecipeFanOut input.recipes input.limits.maxFanOut with
          | error failure => simp
          | ok value =>
              rcases orderNodes input.recipes input.limits.maxDepth with _ | failure | nodes
              · simp
              · simp [Except.map]
              · simp [Except.map, eq_comm]
    · rw [if_pos (by simpa using fields)]
      simp [fields]
  · rw [if_pos (by simpa using limits)]
    simp [limits]

private theorem recipeLimits_nonneg {limits : RecipeFieldGraphCompilationLimits}
    (valid : recipeLimitsAreValid limits = true) : 0 ≤ limits.maxDepth ∧ 0 ≤ limits.maxFanOut := by
  simp only [recipeLimitsAreValid, Bool.and_eq_true, decide_eq_true_eq] at valid
  exact ⟨valid.1.1.2, valid.2⟩

/-- What the compiler accepts, with the workflow of the recipes in place of their graph. -/
theorem compileRecipeFieldGraph_ordered {input : CompileRecipeFieldGraphInput}
    {graph : CompiledRecipeFieldGraph} : compileRecipeFieldGraph input = some (.ok graph) ↔
      recipeLimitsAreValid input.limits = true ∧ FieldsAreValid input.dataset input.fields ∧
        (input.recipes.length : ℤ) ≤ input.limits.maxNodes ∧
        RecipesAreValid input.dataset input.fields input.recipes ∧
        (∀ fieldId, ((readersOf input.recipes fieldId).length : ℤ) ≤ input.limits.maxFanOut) ∧
        ∃ ordered, orderGraph (recipeWorkflow input.recipes) input.limits.maxDepth.toNat =
            .ok ordered ∧
          graph = compiledRecipeGraph input input.recipes
            (orderedRecipeNodes input.recipes ordered) := by
  rw [compileRecipeFieldGraph_ok, validateRecipes_ok, and_iff_right rfl]
  refine and_congr_right fun limits => and_congr_right fun _ => ?_
  rw [and_assoc]
  refine and_congr_right fun _ => and_congr_right fun recipes => ?_
  obtain ⟨depthAllowed, fanOutAllowed⟩ := recipeLimits_nonneg limits
  obtain ⟨maxDepth, maxDepthEq⟩ := Int.eq_ofNat_of_zero_le depthAllowed
  rw [validateRecipeFanOut_ok (fun recipe member => (recipes.fits recipe member).distinct)
    fanOutAllowed, maxDepthEq, Int.toNat_natCast]
  refine and_congr_right fun _ => ?_
  rcases orderNodes_refines recipes.targets maxDepth with
    ⟨ordered, orderedEq, nodesEq⟩ | ⟨⟨workflowFailure, orderedEq⟩, failure, nodesEq⟩
  · simp [orderedEq, nodesEq]
  · simp [orderedEq, nodesEq]

private theorem compileRecipeFieldGraph_ne_none (input : CompileRecipeFieldGraphInput) :
    compileRecipeFieldGraph input ≠ none := by
  unfold compileRecipeFieldGraph
  split
  · exact nofun
  rename_i limits
  split
  · exact nofun
  cases accepted : validateRecipes input with
  | error failure => exact nofun
  | ok recipes =>
      obtain ⟨rfl, _, valid⟩ := validateRecipes_ok.mp accepted
      dsimp only
      split
      · exact nofun
      have allowed := (recipeLimits_nonneg (by simpa using limits)).1
      obtain ⟨maxDepth, maxDepthEq⟩ := Int.eq_ofNat_of_zero_le allowed
      rw [maxDepthEq]
      rcases orderNodes_refines valid.targets maxDepth with
        ⟨ordered, _, nodesEq⟩ | ⟨_, failure, nodesEq⟩
      · rw [nodesEq]
        exact nofun
      · rw [nodesEq]
        exact nofun

theorem eraseDups_nodup {Entry : Type} [DecidableEq Entry] (entries : List Entry) :
    entries.eraseDups.Nodup := by
  induction size : entries.length using Nat.strong_induction_on generalizing entries with
  | _ size ih =>
      cases entries with
      | nil => exact List.nodup_nil
      | cons first entries =>
          rw [List.eraseDups_cons, List.nodup_cons]
          constructor
          · intro member
            simpa using List.mem_eraseDups.mp member
          · have shorter := List.length_filter_le (fun entry => !entry == first) entries
            rw [List.length_cons] at size
            exact ih _ (by omega) _ rfl

private theorem orderedRecipeNodes_keys {recipes : List EnrichmentRecipe} {ordered : OrderingState}
    (known : ∀ fieldId ∈ ordered.orderedKeys,
      fieldId ∈ recipes.map EnrichmentRecipe.targetFieldId) :
    (orderedRecipeNodes recipes ordered).map CompiledRecipeFieldNode.targetFieldId =
      ordered.orderedKeys := by
  unfold orderedRecipeNodes
  generalize ordered.depths = depths
  generalize ordered.orderedKeys = keys at known
  induction keys with
  | nil => rfl
  | cons fieldId keys ih =>
      rw [List.forall_mem_cons] at known
      obtain ⟨recipe, _, _, found⟩ := find_target known.1
      rw [List.filterMap_cons, draftNodeOf, found, Option.map_some, Option.map_some]
      dsimp only
      rw [List.map_cons, ih known.2]
      rfl

theorem mem_orderedRecipeNodes {recipes : List EnrichmentRecipe} {ordered : OrderingState}
    {node : CompiledRecipeFieldNode} (member : node ∈ orderedRecipeNodes recipes ordered) :
    ∃ recipe ∈ recipes, node = compiledRecipeNode (draftNode recipes recipe)
      ((ordered.depths recipe.targetFieldId).getD 0) recipe.targetFieldId := by
  obtain ⟨fieldId, _, isNode⟩ := List.mem_filterMap.mp member
  rw [draftNodeOf, Option.map_map] at isNode
  obtain ⟨recipe, found, rfl⟩ := Option.map_eq_some_iff.mp isNode
  have same : recipe.targetFieldId = fieldId := by simpa using List.find?_some found
  exact ⟨recipe, List.mem_of_find?_eq_some found, by subst same; rfl⟩

theorem find_target_unique {recipes : List EnrichmentRecipe}
    (targets : (recipes.map EnrichmentRecipe.targetFieldId).Nodup) {recipe : EnrichmentRecipe}
    (member : recipe ∈ recipes) :
    draftNodeOf recipes recipe.targetFieldId = some (draftNode recipes recipe) := by
  obtain ⟨other, otherMember, same, found⟩ :=
    find_target (List.mem_map_of_mem (f := EnrichmentRecipe.targetFieldId) member)
  rw [draftNodeOf, found, List.inj_on_of_nodup_map targets otherMember member same,
    Option.map_some]

private theorem compiledRecipeGraph_isRecipeGraphOf {input : CompileRecipeFieldGraphInput}
    (targets : (input.recipes.map EnrichmentRecipe.targetFieldId).Nodup) {maxDepth : ℕ}
    {ordered : OrderingState}
    (orderedEq : orderGraph (recipeWorkflow input.recipes) maxDepth = .ok ordered) :
    IsRecipeGraphOf input (compiledRecipeGraph input input.recipes
      (orderedRecipeNodes input.recipes ordered)) := by
  have sound := recipeWorkflow_sound targets
  obtain ⟨invariant, permuted⟩ := (orderGraph_spec sound).2 ordered orderedEq
  rw [recipeWorkflow_keys] at permuted
  have keys : (orderedRecipeNodes input.recipes ordered).map
      CompiledRecipeFieldNode.targetFieldId = ordered.orderedKeys :=
    orderedRecipeNodes_keys fun fieldId member => permuted.mem_iff.mp member
  let depthOf := fun fieldId => (ordered.depths fieldId).getD 0
  let nodeOf := fun recipe : EnrichmentRecipe => compiledRecipeNode
    (draftNode input.recipes recipe) (depthOf recipe.targetFieldId) recipe.targetFieldId
  have nodes : (orderedRecipeNodes input.recipes ordered).Perm (input.recipes.map nodeOf) := by
    have taken : (input.recipes.map EnrichmentRecipe.targetFieldId).filterMap
        (fun fieldId => (draftNodeOf input.recipes fieldId).map fun node =>
          compiledRecipeNode node (depthOf fieldId) fieldId) = input.recipes.map nodeOf := by
      rw [List.filterMap_map, ← List.filterMap_eq_map']
      refine List.filterMap_congr fun recipe member => ?_
      rw [Function.comp_apply, find_target_unique targets member]
      rfl
    rw [← taken]
    exact permuted.filterMap _
  refine ⟨⟨rfl, rfl, rfl⟩, ⟨depthOf, ?_, nodes⟩, ?_, ?_⟩
  · intro recipe member
    have listed := permuted.mem_iff.mpr
      (List.mem_map_of_mem (f := EnrichmentRecipe.targetFieldId) member)
    obtain ⟨depth, depthEq, isDepth, _⟩ := invariant.depths recipe.targetFieldId listed
    rw [recipeWorkflow_dependencies] at isDepth
    show IsDepth _ _ ((ordered.depths recipe.targetFieldId).getD 0)
    rw [depthEq]
    exact isDepth
  · intro before node after split dependency named
    change orderedRecipeNodes input.recipes ordered = _ at split
    rw [split, List.map_append, List.map_cons] at keys
    have free := invariant.ordered.dependencies_before keys.symm
    obtain ⟨recipe, member, rfl⟩ := mem_orderedRecipeNodes (split ▸ List.mem_append_right _
      List.mem_cons_self : node ∈ orderedRecipeNodes input.recipes ordered)
    refine free dependency ?_
    have isNode : recipeWorkflowNode input.recipes recipe ∈
        (recipeWorkflow input.recipes).nodes := List.mem_map_of_mem member
    have dependencies := dependenciesOf_node sound.unique isNode
    change dependenciesOf _ recipe.targetFieldId = _ at dependencies
    rw [show (compiledRecipeNode _ _ _).targetFieldId = recipe.targetFieldId from rfl,
      dependencies]
    exact named
  · have read : ∀ fieldId, (∃ node ∈ orderedRecipeNodes input.recipes ordered,
        fieldId ∈ node.recipe.inputFieldIds) ↔
          ∃ recipe ∈ input.recipes, fieldId ∈ recipe.inputFieldIds := by
      intro fieldId
      constructor
      · rintro ⟨node, member, reads⟩
        obtain ⟨recipe, isRecipe, rfl⟩ := mem_orderedRecipeNodes member
        exact ⟨recipe, isRecipe, reads⟩
      · rintro ⟨recipe, member, reads⟩
        exact ⟨nodeOf recipe, nodes.mem_iff.mpr (List.mem_map_of_mem member), reads⟩
    have total : Std.Total fun left right : String => textIsAtMost left right = true :=
      ⟨textIsAtMost_total⟩
    have transitive : IsTrans String fun left right => textIsAtMost left right = true :=
      ⟨fun _ _ _ => textIsAtMost_trans⟩
    refine ⟨?_, List.pairwise_insertionSort _ _, fun fieldId => ?_⟩
    · exact (sortText_perm _).nodup_iff.mpr (eraseDups_nodup _)
    · show fieldId ∈ sortText _ ↔ _
      rw [(sortText_perm _).mem_iff, List.mem_eraseDups, List.mem_flatMap, ← read]
      simp only [List.mem_filter, Bool.not_eq_true', ← Bool.not_eq_true, List.contains_iff_mem]
      exact ⟨fun ⟨node, member, reads, unproduced⟩ => ⟨⟨node, member, reads⟩, unproduced⟩,
        fun ⟨⟨node, member, reads⟩, unproduced⟩ => ⟨node, member, reads, unproduced⟩⟩

/-- **The compiler is exact.** It never throws, it accepts exactly the admissible inputs, and what
it makes of them is a graph of their recipes. -/
theorem compileRecipeFieldGraph_exact (input : CompileRecipeFieldGraphInput) :
    compileRecipeFieldGraph input ≠ none ∧
      ((∃ graph, compileRecipeFieldGraph input = some (.ok graph)) ↔
        RecipeGraphIsAdmissible input) ∧
      ∀ graph, compileRecipeFieldGraph input = some (.ok graph) → IsRecipeGraphOf input graph := by
  refine ⟨compileRecipeFieldGraph_ne_none input, ?_, fun graph accepted => ?_⟩
  · simp only [compileRecipeFieldGraph_ordered]
    have depthIff : ∀ {limits : RecipeFieldGraphCompilationLimits},
        recipeLimitsAreValid limits = true → ((DepthFits (recipeWorkflow input.recipes)
          limits.maxDepth.toNat) ↔ ∀ fieldId ∈ input.recipes.map EnrichmentRecipe.targetFieldId,
            ∀ length, DependencyPath (recipeDependencies input.recipes) fieldId length →
              (length : ℤ) ≤ limits.maxDepth) := by
      intro limits valid
      have allowed := (recipeLimits_nonneg valid).1
      unfold DepthFits
      rw [recipeWorkflow_keys, recipeWorkflow_dependencies]
      refine forall₂_congr fun fieldId _ => forall₂_congr fun length _ => ?_
      omega
    constructor
    · rintro ⟨graph, limits, fields, size, recipes, fanOut, ordered, orderedEq, rfl⟩
      obtain ⟨acyclic, depth⟩ :=
        (orderGraph_spec (recipeWorkflow_sound recipes.targets)).1.mp ⟨ordered, orderedEq⟩
      rw [recipeWorkflow_dependencies] at acyclic
      exact ⟨limits, fields, size, recipes, fanOut, (depthIff limits).mp depth, acyclic⟩
    · intro admissible
      have acyclic := admissible.acyclic
      rw [← recipeWorkflow_dependencies] at acyclic
      obtain ⟨ordered, orderedEq⟩ :=
        (orderGraph_spec (recipeWorkflow_sound admissible.recipes.targets)).1.mpr
          ⟨acyclic, (depthIff admissible.limits).mpr admissible.depth⟩
      exact ⟨_, admissible.limits, admissible.fields, admissible.size, admissible.recipes,
        admissible.fanOut, ordered, orderedEq, rfl⟩
  · obtain ⟨_, _, _, recipes, _, ordered, orderedEq, rfl⟩ :=
      compileRecipeFieldGraph_ordered.mp accepted
    exact compiledRecipeGraph_isRecipeGraphOf recipes.targets orderedEq

end Kurobara.Engine
