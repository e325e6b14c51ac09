import Kurobara.Kernel.Generation.Page

/-! # Page artifacts

The parsed output of one generation page: the records that the source returned, in
order, with their provider identity and their source record where the capability
asks for them, and the cursor of the next page.
-/

namespace Kurobara.Kernel

/-- Who a provider says a contact is. -/
structure ContactProviderIdentity where
  providerKey : String
  providerSubjectId : String
  deriving DecidableEq, Repr

/-- The record that a derived contact record was made from. -/
structure PageArtifactSource where
  datasetId : DatasetId
  recordId : RecordId
  deriving DecidableEq, Repr

/-- A record of a page, with its hash and where it came from. -/
structure PageArtifactItem where
  contentHash : ContentHash
  providerIdentity : Option ContactProviderIdentity
  record : DatasetRecord
  source : Option PageArtifactSource
  deriving DecidableEq, Repr

/-- The version is always one. -/
structure DatasetGenerationPageArtifact where
  hasMore : Bool
  items : List PageArtifactItem
  nextCursor : Option String
  sourcePartitionCompleted : Bool
  deriving DecidableEq, Repr

/-- The first item of each content hash that is not among the known ones, with its
position in the page. -/
def acceptedItems (known : List ContentHash) (position : ℕ) :
    List PageArtifactItem → List (ℕ × PageArtifactItem)
  | [] => []
  | item :: rest =>
      if known.contains item.contentHash then acceptedItems known (position + 1) rest
      else (position, item) :: acceptedItems (item.contentHash :: known) (position + 1) rest

end Kurobara.Kernel
