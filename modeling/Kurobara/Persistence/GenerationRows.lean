import Kurobara.Kernel.Generation.Page

/-! # Generation rows

The durable rows of one generation as a transaction sees them: the stored plans, the
generation with its materialization, and its pages. A page row is identified by its
sequence.
-/

namespace Kurobara.Persistence

open Kernel

/-- The rows of one generation: its plan, the generation and its pages. -/
structure GenerationRows where
  plans : List DatasetGenerationPlan
  creation : DatasetGenerationCreation
  pages : List DatasetGenerationPage

namespace GenerationRows

/-- The stored plan that the generation names. -/
def storedPlan (rows : GenerationRows) : Option DatasetGenerationPlan :=
  rows.plans.find? fun plan => plan.generationPlanId == rows.creation.generation.generationPlanId

/-- The stored page of a sequence. -/
def loadPage (rows : GenerationRows) (pageSequence : ℤ) : Option DatasetGenerationPage :=
  rows.pages.find? fun page => page.pageSequence == pageSequence

/-- The sequence of the page that a Run executes. -/
def findGenerationPageByRun (rows : GenerationRows) (runId : RunId) : Option ℤ :=
  (rows.pages.find? fun page => page.runId == runId).map DatasetGenerationPage.pageSequence

/-- Stores the generation and its materialization. -/
def updateGeneration (rows : GenerationRows) (creation : DatasetGenerationCreation) :
    GenerationRows :=
  { rows with creation := creation }

/-- Stores a page in the place of the one of its sequence. -/
def updatePage (rows : GenerationRows) (page : DatasetGenerationPage) : GenerationRows :=
  { rows with pages := rows.pages.map fun known =>
      if known.pageSequence == page.pageSequence then page else known }

/-- Appends a page. -/
def insertPage (rows : GenerationRows) (page : DatasetGenerationPage) : GenerationRows :=
  { rows with pages := rows.pages ++ [page] }

@[simp] theorem updateGeneration_creation (rows : GenerationRows)
    (creation : DatasetGenerationCreation) :
    (rows.updateGeneration creation).creation = creation := rfl

end GenerationRows

end Kurobara.Persistence
