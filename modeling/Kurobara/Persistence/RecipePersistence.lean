import Kurobara.Kernel.CellResult
import Kurobara.Kernel.Generation.Snapshot

/-! # Recipe persistence

What the recipe stores hold and answer: applications of a recipe to the records of a
dataset, the exact input of each cell, the cache slots of cell results, and the rows of the
exact projection.
-/

namespace Kurobara.Persistence

open Kurobara.Kernel

abbrev RecipeApplicationId := String

structure RecipeApplicationAggregateBudget where
  limit : Amount
  unit : String
  deriving DecidableEq, Repr

structure RecipeApplicationGraph where
  recordIds : List RecordId
  deriving DecidableEq, Repr

/-- The immutable application of one recipe revision to records. -/
structure RecipeApplication where
  aggregateBudget : Option RecipeApplicationAggregateBudget
  createdAt : Instant
  datasetId : DatasetId
  graph : RecipeApplicationGraph
  graphHash : ContentHash
  intentHash : ContentHash
  maxCells : ℤ
  recipeApplicationId : RecipeApplicationId
  recipeId : EnrichmentRecipeId
  recipeRevision : String
  targetFieldId : FieldId
  workspaceId : WorkspaceId
  deriving DecidableEq, Repr

/-- Whether a cell was reused or executed. -/
inductive RecipeCellBinding where
  | cached
  | executed
  deriving DecidableEq, Repr

/-- A cell of an application, as an export reads it. -/
structure ExactRecipeProjectionRow where
  application : RecipeApplication
  binding : RecipeCellBinding
  cellResult : CellResult
  record : DatasetRecord
  recordContentHash : ContentHash
  deriving DecidableEq, Repr

/-- A dataset with its materialization. -/
structure StoredDataset where
  dataset : Dataset
  fields : List Field
  materialization : DatasetMaterialization
  deriving DecidableEq, Repr

end Kurobara.Persistence
