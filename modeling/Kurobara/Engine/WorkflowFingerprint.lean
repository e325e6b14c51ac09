import Kurobara.Engine.WorkflowCompilation
import Kurobara.Foundation.FieldCycle
import Kurobara.Foundation.SeparatedText

/-! # Workflow fingerprints

A fingerprint joins the identifiers of the compiled nodes with separators. Which separators are
harmful in which identifier depends on the other identifiers: a human gate, which ends its node,
may contain all but the bar, and a node key may contain colons only when nothing else does. The
harmful combinations are listed here, and the fingerprints identify the workflows exactly when
none of them is admitted.
-/

namespace Kurobara.Engine

open Kernel Foundation

/-- The fields of a compiled node that its fingerprint names. -/
structure FingerprintedNode where
  key : String
  capability : CapabilityRef
  dependsOn : List String
  humanGate : Option String
  deriving DecidableEq, Repr

/-- The named fields of a compiled node. -/
def fingerprintedNode (node : CompiledWorkflowNode) : FingerprintedNode where
  key := node.key
  capability := node.capability
  dependsOn := node.dependsOn
  humanGate := node.humanGate

/-- The characters between the fields of a fingerprint. -/
def fingerprintSeparators : List Char := [':', '@', ',', '|']

/-! ## Rules on identifiers -/

/-- The kinds of identifiers. -/
inductive IdentifierField
  | key
  | capabilityId
  | capabilityVersion
  | humanGate
  deriving DecidableEq, Repr

/-- What makes an identifier one that may be misread. -/
inductive IdentifierFeature
  | isEmpty (field : IdentifierField)
  | contains (field : IdentifierField) (separator : Char)
  deriving DecidableEq, Repr

/-- A rule says which features identifiers may have, field by field. Characters that are no
separators may stand in all of them. -/
abbrev IdentifierRule := IdentifierFeature → Bool

/-- The features of the text are admitted for the field. -/
def IdentifierRule.Admits (rule : IdentifierRule) (field : IdentifierField) (text : String) :
    Prop :=
  (text = "" → rule (.isEmpty field) = true) ∧
    ∀ separator ∈ fingerprintSeparators, separator ∈ text.toList →
      rule (.contains field separator) = true

/-- The identifiers of a specified node. Its dependencies are keys of other nodes. -/
def nodeIdentifiers (node : WorkflowNode) : List (IdentifierField × String) :=
  [(.key, node.key), (.capabilityId, node.capability.capabilityId),
    (.capabilityVersion, node.capability.capabilityVersion)] ++
      node.humanGate.toList.map fun gate => (.humanGate, gate)

/-- The identifiers of every specified node are admitted. -/
def IdentifierRule.AdmitsSpec (rule : IdentifierRule) (spec : WorkflowSpec) : Prop :=
  ∀ node ∈ spec.nodes, ∀ identifier ∈ nodeIdentifiers node, rule.Admits identifier.1 identifier.2

/-- Two accepted specifications under a rule have equal fingerprints exactly when they compile
to the same nodes. -/
def FingerprintsIdentify (rule : IdentifierRule) : Prop :=
  ∀ (leftSpec rightSpec : WorkflowSpec) (leftAllowed rightAllowed : List String)
    (leftLimits rightLimits : WorkflowCompilationLimits) (leftVersion rightVersion : String)
    (left right : CompiledWorkflow),
    rule.AdmitsSpec leftSpec → rule.AdmitsSpec rightSpec →
    compileWorkflow leftSpec leftAllowed leftLimits leftVersion = .ok left →
    compileWorkflow rightSpec rightAllowed rightLimits rightVersion = .ok right →
    (left.fingerprint = right.fingerprint ↔
      left.nodes.map fingerprintedNode = right.nodes.map fingerprintedNode)

open IdentifierField IdentifierFeature in
/-- The combinations of features under which two workflows share a fingerprint; none of them
contains another. -/
def harmfulCombinations : List (List IdentifierFeature) :=
  [[isEmpty key], [isEmpty humanGate], [contains key ','],
    [contains key ':', contains key '@'],
    [contains key ':', contains key '|'],
    [contains key ':', contains capabilityId ':'],
    [contains key ':', contains capabilityVersion ':'],
    [contains key ':', contains humanGate ':'],
    [contains key '|', contains humanGate '|'],
    [contains capabilityId '@', contains capabilityVersion '@'],
    [contains capabilityVersion ':', contains humanGate ':'],
    [contains capabilityId ':', contains capabilityId '@', contains capabilityId '|'],
    [contains capabilityVersion ':', contains capabilityVersion '@',
      contains capabilityVersion '|'],
    [contains humanGate ':', contains humanGate '@', contains humanGate '|'],
    [contains key '@', contains capabilityId ':', contains capabilityId '@',
      contains humanGate ':'],
    [contains key '@', contains capabilityId '|', contains humanGate ':',
      contains humanGate '|'],
    [contains key '|', contains capabilityId ':', contains capabilityId '|',
      contains capabilityVersion ':'],
    [contains capabilityId ':', contains capabilityId '@', contains humanGate ':',
      contains humanGate '@'],
    [contains capabilityId ':', contains capabilityId '|', contains capabilityVersion ':',
      contains capabilityVersion '|'],
    [contains capabilityId ':', contains capabilityId '|', contains humanGate ':',
      contains humanGate '|'],
    [contains key '@', contains key '|', contains capabilityId '|',
      contains capabilityVersion ':', contains capabilityVersion '@']]

/-- All features of the combination are admitted. -/
def IdentifierRule.AdmitsAll (rule : IdentifierRule) (combination : List IdentifierFeature) :
    Prop :=
  ∀ feature ∈ combination, rule feature = true

/-! ## Which readings of a fingerprint stay apart -/

/-- The parts of a fingerprint, in their order. -/
inductive FingerprintPart
  | key
  | capabilityId
  | capabilityVersion
  | dependsOn
  | humanGate
  deriving DecidableEq, Repr

private def fingerprintParts : List FingerprintPart :=
  [.key, .capabilityId, .capabilityVersion, .dependsOn, .humanGate]

/-- The separators that a part may contain under a rule. -/
def IdentifierRule.partHolds (rule : IdentifierRule) (separator : Char) : FingerprintPart → Bool
  | .key => rule (.contains .key separator)
  | .capabilityId => rule (.contains .capabilityId separator)
  | .capabilityVersion => rule (.contains .capabilityVersion separator)
  | .dependsOn => separator = ',' || rule (.contains .key separator)
  | .humanGate => rule (.contains .humanGate separator)

/-- The parts of a fingerprint follow each other, node by node. -/
def fingerprintCycle (rule : IdentifierRule) : FieldCycle FingerprintPart Char where
  holds part character := character ∉ fingerprintSeparators || rule.partHolds character part
  terminator
    | .key => ':'
    | .capabilityId => '@'
    | .capabilityVersion => ':'
    | .dependsOn => ':'
    | .humanGate => '|'
  next
    | .key => .capabilityId
    | .capabilityId => .capabilityVersion
    | .capabilityVersion => .dependsOn
    | .dependsOn => .humanGate
    | .humanGate => .key

section

variable {Entry : Type} [DecidableEq Entry]

/-- The first entry of a combination that is avoided, with those that are then kept. -/
def choices : List Entry → List Entry → List (Entry × List Entry)
  | _, [] => []
  | kept, entry :: rest =>
      (if entry ∈ kept then [] else [(entry, kept)]) ++ choices (entry :: kept) rest

/-- The ways to avoid an entry of each combination. -/
def waysToAvoid : List (List Entry) → List Entry → List Entry → List (List Entry)
  | [], avoided, _ => [avoided]
  | combination :: rest, avoided, kept =>
      if combination.any (· ∈ avoided) then waysToAvoid rest avoided kept
      else (choices kept combination).flatMap fun choice =>
        waysToAvoid rest (choice.1 :: avoided) choice.2

variable {admits : Entry → Bool}

private theorem choices_complete {combination kept : List Entry}
    (keeps : ∀ entry ∈ kept, admits entry = true)
    (avoids : ∃ entry ∈ combination, admits entry = false) :
    ∃ choice ∈ choices kept combination,
      admits choice.1 = false ∧ ∀ entry ∈ choice.2, admits entry = true := by
  induction combination generalizing kept with
  | nil =>
      obtain ⟨entry, inside, _⟩ := avoids
      cases inside
  | cons first rest ih =>
      cases admitted : admits first with
      | false =>
          have unkept : first ∉ kept := fun inside => by
            have kept := keeps first inside
            rw [admitted] at kept
            cases kept
          refine ⟨(first, kept), ?_, admitted, keeps⟩
          simp [choices, unkept]
      | true =>
          obtain ⟨entry, inside, avoided⟩ := avoids
          have later : entry ∈ rest := by
            rcases List.mem_cons.mp inside with rfl | later
            · rw [admitted] at avoided
              cases avoided
            · exact later
          obtain ⟨choice, chosen, isChoice⟩ :=
            ih (List.forall_mem_cons.mpr ⟨admitted, keeps⟩) ⟨entry, later, avoided⟩
          exact ⟨choice, List.mem_append_right _ chosen, isChoice⟩

/-- What admits no whole combination avoids all entries of one of the ways. -/
theorem waysToAvoid_complete {combinations : List (List Entry)} {avoided kept : List Entry}
    (keeps : ∀ entry ∈ kept, admits entry = true)
    (avoids : ∀ entry ∈ avoided, admits entry = false)
    (harmless : ∀ combination ∈ combinations, ∃ entry ∈ combination, admits entry = false) :
    ∃ way ∈ waysToAvoid combinations avoided kept, ∀ entry ∈ way, admits entry = false := by
  induction combinations generalizing avoided kept with
  | nil => exact ⟨avoided, List.mem_singleton_self _, avoids⟩
  | cons combination rest ih =>
      obtain ⟨harmlessHere, harmless⟩ := List.forall_mem_cons.mp harmless
      rw [waysToAvoid]
      split
      · exact ih keeps avoids harmless
      · obtain ⟨choice, chosen, choiceAvoided, choiceKeeps⟩ := choices_complete keeps harmlessHere
        obtain ⟨way, isWay, wayAvoids⟩ := ih choiceKeeps
          (List.forall_mem_cons.mpr ⟨choiceAvoided, avoids⟩) harmless
        exact ⟨way, List.mem_flatMap.mpr ⟨choice, chosen, isWay⟩, wayAvoids⟩

end

/-- Whichever way the harmful combinations are avoided, differing readings stay apart. -/
theorem waysToAvoid_readUniquely : ∀ way ∈ waysToAvoid harmfulCombinations [] [],
    (fingerprintCycle fun feature => feature ∉ way).readsUniquely fingerprintParts 40 = true := by
  decide

private theorem fingerprintCycle_mono {rule wider : IdentifierRule}
    (less : ∀ feature, rule feature = true → wider feature = true) (part : FingerprintPart)
    (character : Char) (holds : (fingerprintCycle rule).holds part character = true) :
    (fingerprintCycle wider).holds part character = true := by
  simp only [fingerprintCycle, Bool.or_eq_true] at holds ⊢
  refine holds.imp_right fun holds => ?_
  cases part with
  | dependsOn =>
      simp only [IdentifierRule.partHolds, Bool.or_eq_true] at holds ⊢
      exact holds.imp_right (less _)
  | _ => exact less _ holds

/-- Under a rule that admits no harmful combination, differing readings stay apart. -/
theorem fingerprintCycle_keepsApart {rule : IdentifierRule}
    (harmless : ∀ combination ∈ harmfulCombinations, ¬ rule.AdmitsAll combination) :
    ∃ apart, (fingerprintCycle rule).KeepsApart apart := by
  obtain ⟨way, isWay, avoids⟩ := @waysToAvoid_complete _ _ rule harmfulCombinations [] []
    (fun _ none => by cases none) (fun _ none => by cases none) fun combination listed => by
      have avoided := harmless combination listed
      simp only [IdentifierRule.AdmitsAll, not_forall, Bool.not_eq_true] at avoided
      obtain ⟨feature, inside, refused⟩ := avoided
      exact ⟨feature, inside, refused⟩
  have complete : ∀ part, part ∈ fingerprintParts := fun part => by
    cases part <;> simp [fingerprintParts]
  refine ⟨_, (FieldCycle.keepsApart_of_pairs complete
    (waysToAvoid_readUniquely way isWay)).mono rfl rfl
      (fingerprintCycle_mono fun feature admitted => ?_)⟩
  refine decide_eq_true fun avoided => ?_
  rw [avoids feature avoided] at admitted
  cases admitted

/-! ## Reading a fingerprint back -/

/-- The identifiers of a compiled node are admitted. -/
structure IdentifierRule.AdmitsNode (rule : IdentifierRule) (node : FingerprintedNode) : Prop where
  key : rule.Admits .key node.key
  capabilityId : rule.Admits .capabilityId node.capability.capabilityId
  capabilityVersion : rule.Admits .capabilityVersion node.capability.capabilityVersion
  dependsOn : ∀ dependency ∈ node.dependsOn, rule.Admits .key dependency
  humanGate : ∀ gate, node.humanGate = some gate → rule.Admits .humanGate gate

/-- The texts of the parts of a node. -/
def nodeParts (node : FingerprintedNode) : List (List Char) :=
  [node.key.toList, node.capability.capabilityId.toList, node.capability.capabilityVersion.toList,
    [','].intercalate (node.dependsOn.map String.toList), (node.humanGate.getD "").toList]

private theorem nodeFingerprint_toList (rule : IdentifierRule) (node : CompiledWorkflowNode) :
    (nodeFingerprint node).toList =
      (fingerprintCycle rule).write .key (nodeParts (fingerprintedNode node)) := by
  simp [nodeFingerprint, nodeParts, fingerprintedNode, FieldCycle.write, fingerprintCycle,
    String.toList_intercalate]

/-- The fingerprints of the nodes, joined, are their parts in the cycle. -/
theorem joined_nodeFingerprints (rule : IdentifierRule) (nodes : List CompiledWorkflowNode) :
    ("|".intercalate (nodes.map nodeFingerprint)).toList =
      (fingerprintCycle rule).write .key
        ((nodes.map fingerprintedNode).flatMap nodeParts) := by
  rw [String.toList_intercalate, List.map_map]
  induction nodes with
  | nil => rfl
  | cons node rest ih =>
      cases rest with
      | nil => simpa using nodeFingerprint_toList rule node
      | cons next rest =>
          rw [List.map_cons, List.map_cons, List.intercalate_cons_cons, ← List.map_cons, ih,
            Function.comp_apply, nodeFingerprint_toList rule]
          simp [nodeParts, FieldCycle.write, fingerprintCycle]

private theorem nodeParts_last (rule : IdentifierRule) {nodes : List FingerprintedNode}
    (given : nodes ≠ []) :
    (fingerprintCycle rule).last .key (nodes.flatMap nodeParts) = .humanGate := by
  induction nodes with
  | nil => exact absurd rfl given
  | cons node rest ih =>
      cases rest with
      | nil => rfl
      | cons next rest => exact ih (List.cons_ne_nil _ _)

section

variable {rule : IdentifierRule}

private theorem held_of_admits {field : IdentifierField} {text : String} {part : FingerprintPart}
    (admitted : rule.Admits field text)
    (held : ∀ separator, rule (.contains field separator) = true →
      rule.partHolds separator part = true) :
    ∀ character ∈ text.toList, (fingerprintCycle rule).holds part character = true := by
  intro character inside
  by_cases separates : character ∈ fingerprintSeparators
  · exact Bool.or_eq_true_iff.mpr (.inr (held _ (admitted.2 character separates inside)))
  · exact Bool.or_eq_true_iff.mpr (.inl (decide_eq_true separates))

private theorem joined_held {texts : List String}
    (admitted : ∀ text ∈ texts, rule.Admits .key text) :
    ∀ character ∈ [','].intercalate (texts.map String.toList),
      (fingerprintCycle rule).holds .dependsOn character = true := by
  have held : ∀ {text : String}, rule.Admits .key text → ∀ character ∈ text.toList,
      (fingerprintCycle rule).holds .dependsOn character = true := fun admitted =>
    held_of_admits admitted fun _ contained => Bool.or_eq_true_iff.mpr (.inr contained)
  induction texts with
  | nil => simp
  | cons text rest ih =>
      obtain ⟨head, tail⟩ := List.forall_mem_cons.mp admitted
      cases rest with
      | nil => simpa using held head
      | cons next rest =>
          simp only [List.map_cons, List.intercalate_cons_cons, List.mem_append]
          rintro character ((inside | comma) | inside)
          · exact held head character inside
          · rw [List.mem_singleton.mp comma]
            rfl
          · exact ih tail character inside

private theorem nodeParts_fit {nodes : List FingerprintedNode}
    (admitted : ∀ node ∈ nodes, rule.AdmitsNode node) :
    (fingerprintCycle rule).Fits .key (nodes.flatMap nodeParts) := by
  induction nodes with
  | nil => trivial
  | cons node rest ih =>
      obtain ⟨head, tail⟩ := List.forall_mem_cons.mp admitted
      have gate : ∀ character ∈ (node.humanGate.getD "").toList,
          (fingerprintCycle rule).holds .humanGate character = true := by
        cases gateEq : node.humanGate with
        | none => simp
        | some gate => exact held_of_admits (head.humanGate gate gateEq) fun _ held => held
      exact ⟨held_of_admits head.key fun _ held => held,
        held_of_admits head.capabilityId fun _ held => held,
        held_of_admits head.capabilityVersion fun _ held => held,
        joined_held head.dependsOn, gate, ih tail⟩

variable (harmless : ∀ combination ∈ harmfulCombinations, ¬ rule.AdmitsAll combination)

include harmless

private theorem admitted_nonempty {field : IdentifierField} {text : String}
    (listed : [.isEmpty field] ∈ harmfulCombinations) (admitted : rule.Admits field text) :
    text ≠ "" := by
  intro empty
  exact harmless _ listed (List.forall_mem_singleton.mpr (admitted.1 empty))

private theorem dependsOn_inj {left right : List String}
    (leftAdmitted : ∀ text ∈ left, rule.Admits .key text)
    (rightAdmitted : ∀ text ∈ right, rule.Admits .key text)
    (same : [','].intercalate (left.map String.toList) =
      [','].intercalate (right.map String.toList)) : left = right := by
  have free : ∀ {texts : List String}, (∀ text ∈ texts, rule.Admits .key text) →
      ∀ characters ∈ texts.map String.toList, ',' ∉ characters ∧ characters ≠ [] := by
    intro texts admitted characters member
    obtain ⟨text, inside, rfl⟩ := List.mem_map.mp member
    refine ⟨fun comma => ?_, fun none => ?_⟩
    · exact harmless [.contains .key ','] (by simp [harmfulCombinations])
        (List.forall_mem_singleton.mpr
          ((admitted text inside).2 ',' (by simp [fingerprintSeparators]) comma))
    · exact admitted_nonempty harmless (by simp [harmfulCombinations]) (admitted text inside)
        (String.toList_eq_nil_iff.mp none)
  exact List.map_injective_iff.mpr (fun _ _ => String.toList_inj.mp)
    (intercalate_inj (free leftAdmitted) (free rightAdmitted) same)

private theorem humanGate_inj {left right : Option String}
    (leftAdmitted : ∀ gate, left = some gate → rule.Admits .humanGate gate)
    (rightAdmitted : ∀ gate, right = some gate → rule.Admits .humanGate gate)
    (same : left.getD "" = right.getD "") : left = right := by
  have given : ∀ {gate : String}, rule.Admits .humanGate gate → gate ≠ "" :=
    admitted_nonempty harmless (by simp [harmfulCombinations])
  cases left with
  | none =>
      cases right with
      | none => rfl
      | some gate => exact absurd same.symm (given (rightAdmitted gate rfl))
  | some gate =>
      cases right with
      | none => exact absurd same (given (leftAdmitted gate rfl))
      | some other => exact congrArg some same

/-- A node is determined by the texts of its parts. -/
theorem nodeParts_inj {left right : FingerprintedNode} (leftAdmitted : rule.AdmitsNode left)
    (rightAdmitted : rule.AdmitsNode right) (same : nodeParts left = nodeParts right) :
    left = right := by
  simp only [nodeParts, List.cons.injEq, String.toList_inj, and_true] at same
  obtain ⟨key, capabilityId, capabilityVersion, dependencies, gate⟩ := same
  have dependsOn := dependsOn_inj harmless leftAdmitted.dependsOn rightAdmitted.dependsOn
    dependencies
  have humanGate := humanGate_inj harmless leftAdmitted.humanGate rightAdmitted.humanGate gate
  obtain ⟨leftKey, ⟨leftId, leftVersion⟩, leftDependsOn, leftGate⟩ := left
  obtain ⟨rightKey, ⟨rightId, rightVersion⟩, rightDependsOn, rightGate⟩ := right
  obtain rfl : leftKey = rightKey := key
  obtain rfl : leftId = rightId := capabilityId
  obtain rfl : leftVersion = rightVersion := capabilityVersion
  obtain rfl : leftDependsOn = rightDependsOn := dependsOn
  obtain rfl : leftGate = rightGate := humanGate
  rfl

/-- The nodes are determined by their parts, one after the other. -/
theorem flatMap_nodeParts_inj {left right : List FingerprintedNode}
    (leftAdmitted : ∀ node ∈ left, rule.AdmitsNode node)
    (rightAdmitted : ∀ node ∈ right, rule.AdmitsNode node)
    (same : left.flatMap nodeParts = right.flatMap nodeParts) : left = right := by
  induction left generalizing right with
  | nil =>
      cases right with
      | nil => rfl
      | cons node rest => cases same
  | cons node rest ih =>
      cases right with
      | nil => cases same
      | cons other others =>
          obtain ⟨head, tail⟩ := List.forall_mem_cons.mp leftAdmitted
          obtain ⟨otherHead, otherTail⟩ := List.forall_mem_cons.mp rightAdmitted
          rw [List.flatMap_cons, List.flatMap_cons] at same
          obtain ⟨sameHead, sameTail⟩ := List.append_inj same rfl
          rw [nodeParts_inj harmless head otherHead sameHead, ih tail otherTail sameTail]

/-- Admitted nodes are determined by the text of their fingerprints. -/
theorem fingerprint_inj {left right : List FingerprintedNode}
    (leftAdmitted : ∀ node ∈ left, rule.AdmitsNode node)
    (rightAdmitted : ∀ node ∈ right, rule.AdmitsNode node)
    (same : (fingerprintCycle rule).write .key (left.flatMap nodeParts) =
      (fingerprintCycle rule).write .key (right.flatMap nodeParts)) : left = right := by
  have written : ∀ {nodes : List FingerprintedNode}, nodes ≠ [] →
      nodes.flatMap nodeParts ≠ [] ∧
        (fingerprintCycle rule).write .key (nodes.flatMap nodeParts) ≠ [] := by
    intro nodes given
    cases nodes with
    | nil => exact absurd rfl given
    | cons node rest => simp [nodeParts, FieldCycle.write]
  by_cases leftGiven : left = []
  · subst leftGiven
    by_contra differs
    exact (written (Ne.symm differs)).2 same.symm
  · by_cases rightGiven : right = []
    · subst rightGiven
      exact absurd same (written leftGiven).2
    · obtain ⟨apart, keeps⟩ := fingerprintCycle_keepsApart harmless
      refine flatMap_nodeParts_inj harmless leftAdmitted rightAdmitted ?_
      exact keeps.write_inj (written leftGiven).1 (written rightGiven).1
        (nodeParts_fit leftAdmitted) (nodeParts_fit rightAdmitted)
        ((nodeParts_last rule leftGiven).trans (nodeParts_last rule rightGiven).symm) same

end

private theorem compileWorkflow_admitted {rule : IdentifierRule} {spec : WorkflowSpec}
    {allowedCapabilities : List String} {limits : WorkflowCompilationLimits}
    {compilerVersion : String} {compiled : CompiledWorkflow} (admitted : rule.AdmitsSpec spec)
    (accepted : compileWorkflow spec allowedCapabilities limits compilerVersion = .ok compiled) :
    compiled.fingerprint = "|".intercalate (compiled.nodes.map nodeFingerprint) ∧
      ∀ node ∈ compiled.nodes.map fingerprintedNode, rule.AdmitsNode node := by
  obtain ⟨_, valid, _, ordered, _, rfl⟩ := compileWorkflow_ok.mp accepted
  have resolved := (validateNodes_ok.mp valid).2.2
  refine ⟨rfl, fun node member => ?_⟩
  obtain ⟨compiledNode, isNode, rfl⟩ := List.mem_map.mp member
  obtain ⟨key, _, taken⟩ := List.mem_filterMap.mp isNode
  obtain ⟨source, found, rfl⟩ := Option.map_eq_some_iff.mp taken
  have isSource := List.mem_of_find?_eq_some found
  have sourceAdmitted := admitted source isSource
  refine ⟨sourceAdmitted (.key, source.key) (by simp [nodeIdentifiers]),
    sourceAdmitted (.capabilityId, source.capability.capabilityId)
      (by simp [nodeIdentifiers]),
    sourceAdmitted (.capabilityVersion, source.capability.capabilityVersion)
      (by simp [nodeIdentifiers]), fun dependency named => ?_,
    fun gate isGate => sourceAdmitted (.humanGate, gate) ?_⟩
  · obtain ⟨other, isOther, rfl⟩ := List.mem_map.mp
      ((resolved source isSource).2 dependency ((sortText_perm _).mem_iff.mp named))
    exact admitted other isOther (.key, _) (by simp [nodeIdentifiers])
  · simp [nodeIdentifiers, show source.humanGate = some gate from isGate]

private theorem fingerprintsIdentify_of_harmless {rule : IdentifierRule}
    (harmless : ∀ combination ∈ harmfulCombinations, ¬ rule.AdmitsAll combination) :
    FingerprintsIdentify rule := by
  intro leftSpec rightSpec leftAllowed rightAllowed leftLimits rightLimits leftVersion rightVersion
    left right leftAdmitted rightAdmitted leftAccepted rightAccepted
  obtain ⟨leftPrint, leftNodes⟩ := compileWorkflow_admitted leftAdmitted leftAccepted
  obtain ⟨rightPrint, rightNodes⟩ := compileWorkflow_admitted rightAdmitted rightAccepted
  rw [leftPrint, rightPrint, ← String.toList_inj, joined_nodeFingerprints rule,
    joined_nodeFingerprints rule]
  exact ⟨fingerprint_inj harmless leftNodes rightNodes, fun same => by rw [same]⟩

/-! ## Colliding fingerprints -/

/-- For each harmful combination two specifications that have only its features. -/
def collidingNodes : List (List WorkflowNode × List WorkflowNode) :=
  [([⟨"", ⟨"i", "1"⟩, [], none⟩, ⟨"a", ⟨"i", "1"⟩, [], none⟩],
      [⟨"", ⟨"i", "1"⟩, [], none⟩, ⟨"a", ⟨"i", "1"⟩, [""], none⟩]),
    ([⟨"a", ⟨"i", "1"⟩, [], none⟩],
      [⟨"a", ⟨"i", "1"⟩, [], some ""⟩]),
    ([⟨"a", ⟨"i", "1"⟩, [], none⟩, ⟨"a,b", ⟨"i", "1"⟩, [], none⟩, ⟨"b", ⟨"i", "1"⟩, [], none⟩,
     ⟨"c", ⟨"i", "1"⟩, ["a", "b"], none⟩],
      [⟨"a", ⟨"i", "1"⟩, [], none⟩, ⟨"a,b", ⟨"i", "1"⟩, [], none⟩, ⟨"b", ⟨"i", "1"⟩, [], none⟩,
       ⟨"c", ⟨"i", "1"⟩, ["a,b"], none⟩]),
    ([⟨"d@e:", ⟨"a", "a"⟩, [], none⟩, ⟨"g:b@d", ⟨"d", "e"⟩, [], none⟩],
      [⟨"d@e:", ⟨"a", "a"⟩, [], none⟩, ⟨"g", ⟨"b", "d"⟩, ["d@e:"], none⟩]),
    ([⟨":|", ⟨"a", "a"⟩, [], none⟩, ⟨"g", ⟨"f", "g"⟩, [":|"], none⟩, ⟨"|",
     ⟨"d", "g"⟩, ["g"], none⟩],
      [⟨":|", ⟨"a", "a"⟩, [], none⟩, ⟨"g", ⟨"f", "g"⟩, [], none⟩, ⟨":||",
       ⟨"d", "g"⟩, ["g"], none⟩]),
    ([⟨"c:", ⟨"d", "c"⟩, [], none⟩],
      [⟨"c", ⟨":d", "c"⟩, [], none⟩]),
    ([⟨":", ⟨"a", "a"⟩, [], none⟩, ⟨"f", ⟨"d", "c:"⟩, [], none⟩],
      [⟨":", ⟨"a", "a"⟩, [], none⟩, ⟨"f", ⟨"d", "c"⟩, [":"], none⟩]),
    ([⟨":", ⟨"a", "a"⟩, [], none⟩, ⟨"e", ⟨"f", "f"⟩, [":"], none⟩],
      [⟨":", ⟨"a", "a"⟩, [], none⟩, ⟨"e", ⟨"f", "f"⟩, [], some ":"⟩]),
    ([⟨"g", ⟨"e", "e"⟩, [], some "|"⟩, ⟨"||", ⟨"b", "d"⟩, [], none⟩],
      [⟨"g", ⟨"e", "e"⟩, [], some "||"⟩, ⟨"|", ⟨"b", "d"⟩, [], none⟩]),
    ([⟨"g", ⟨"g@", "f"⟩, [], none⟩],
      [⟨"g", ⟨"g", "@f"⟩, [], none⟩]),
    ([⟨"b", ⟨"d", "b:"⟩, [], none⟩],
      [⟨"b", ⟨"d", "b"⟩, [], some ":"⟩]),
    ([⟨"b", ⟨"g@e::|g::", "b"⟩, [], none⟩],
      [⟨"b", ⟨"g", "e"⟩, [], none⟩, ⟨"g", ⟨":", "b"⟩, [], none⟩]),
    ([⟨"b", ⟨"e", "|"⟩, [], none⟩, ⟨"f", ⟨"f", ":"⟩, [], none⟩],
      [⟨"b", ⟨"e", "|::|f:f@:"⟩, [], none⟩]),
    ([⟨"f", ⟨"e", "e"⟩, [], none⟩, ⟨"g", ⟨"c", "c"⟩, [], none⟩],
      [⟨"f", ⟨"e", "e"⟩, [], some "|g:c@c::"⟩]),
    ([⟨"@f", ⟨"a", "a"⟩, [], none⟩, ⟨"g", ⟨"g@g:", "f"⟩, [], none⟩],
      [⟨"@f", ⟨"a", "a"⟩, [], none⟩, ⟨"g", ⟨"g", "g"⟩, ["@f"], some ":"⟩]),
    ([⟨"b@b", ⟨"a", "a"⟩, [], none⟩, ⟨"d", ⟨"|", "g"⟩, [], some "|g:"⟩, ⟨"g@d",
     ⟨"b", "b"⟩, [], none⟩],
      [⟨"b@b", ⟨"a", "a"⟩, [], none⟩, ⟨"d", ⟨"|", "g"⟩, [], none⟩, ⟨"g",
       ⟨"|g", "d"⟩, ["b@b"], some ":"⟩]),
    ([⟨"b|f", ⟨"a", "a"⟩, [], none⟩, ⟨"c", ⟨":", ":"⟩, [], some "b"⟩, ⟨"f",
     ⟨"|e:|", "f"⟩, [], none⟩],
      [⟨"b|f", ⟨"a", "a"⟩, [], none⟩, ⟨"c", ⟨":", "::"⟩, ["b|f"], none⟩, ⟨"e",
       ⟨"|", "f"⟩, [], none⟩]),
    ([⟨"b", ⟨"d@f::", "e"⟩, [], none⟩],
      [⟨"b", ⟨"d", "f"⟩, [], some "@e::"⟩]),
    ([⟨"d", ⟨"b", "|::|g"⟩, [], none⟩, ⟨"e", ⟨":", "|"⟩, [], none⟩],
      [⟨"d", ⟨"b", "|"⟩, [], none⟩, ⟨"g", ⟨":|e::", "|"⟩, [], none⟩]),
    ([⟨"c", ⟨"e", "d"⟩, [], none⟩, ⟨"f", ⟨"|f::", "e"⟩, [], none⟩],
      [⟨"c", ⟨"e", "d"⟩, [], some "|f:"⟩, ⟨"f", ⟨":", "e"⟩, [], none⟩]),
    ([⟨"e|e", ⟨"a", "a"⟩, [], none⟩, ⟨"|", ⟨"d", "@:"⟩, ["e|e"], none⟩, ⟨"@",
     ⟨"d", "c"⟩, ["|"], none⟩],
      [⟨"e|e", ⟨"a", "a"⟩, [], none⟩, ⟨"|", ⟨"d", "@"⟩, [], some "e"⟩, ⟨"e",
       ⟨"|", ":d@c"⟩, ["|"], none⟩])]

private def collidingCompilation (nodes : List WorkflowNode) :
    Except WorkflowCompilationFailure CompiledWorkflow :=
  compileWorkflow ⟨"workflow-1", "1", sampleHash, nodes⟩
    (nodes.map fun node => node.capability.capabilityId) ⟨4, 4, 4⟩ workflowCompilerVersion

/-- Both specifications compile, to other nodes with the same fingerprint. -/
def Collides (pair : List WorkflowNode × List WorkflowNode) : Bool :=
  match collidingCompilation pair.1, collidingCompilation pair.2 with
  | .ok left, .ok right => left.fingerprint == right.fingerprint &&
      left.nodes.map fingerprintedNode != right.nodes.map fingerprintedNode
  | _, _ => false

/-- The features of a text in a field. -/
def featuresOf (identifier : IdentifierField × String) : List IdentifierFeature :=
  (if identifier.2 = "" then [.isEmpty identifier.1] else []) ++
    (fingerprintSeparators.filter (· ∈ identifier.2.toList)).map (.contains identifier.1)

/-- The nodes have no features but those of the combination. -/
def HaveOnly (combination : List IdentifierFeature) (nodes : List WorkflowNode) : Bool :=
  nodes.all fun node => (nodeIdentifiers node).all fun identifier =>
    (featuresOf identifier).all (· ∈ combination)

private theorem collidingNodes_collide : ∀ combination ∈ harmfulCombinations,
    ∃ pair ∈ collidingNodes, HaveOnly combination (pair.1 ++ pair.2) = true ∧
      Collides pair = true := by
  decide

private theorem admitsSpec_of_haveOnly {rule : IdentifierRule}
    {combination : List IdentifierFeature}
    {nodes : List WorkflowNode} (admitsAll : rule.AdmitsAll combination)
    (only : HaveOnly combination nodes = true) :
    ∀ node ∈ nodes, ∀ identifier ∈ nodeIdentifiers node, rule.Admits identifier.1 identifier.2 := by
  intro node member identifier listed
  have features : ∀ feature ∈ featuresOf identifier, rule feature = true := by
    intro feature inside
    have checked := List.all_eq_true.mp (List.all_eq_true.mp (List.all_eq_true.mp only node member)
      identifier listed) feature inside
    exact admitsAll feature (of_decide_eq_true checked)
  constructor
  · intro empty
    exact features _ (by simp [featuresOf, empty])
  · intro separator separates inside
    exact features _ (by simp [featuresOf, separates, inside])

private theorem not_fingerprintsIdentify {rule : IdentifierRule}
    {combination : List IdentifierFeature}
    (harmful : combination ∈ harmfulCombinations) (admitsAll : rule.AdmitsAll combination) :
    ¬ FingerprintsIdentify rule := by
  intro identify
  obtain ⟨pair, _, only, collides⟩ := collidingNodes_collide combination harmful
  have admitted := admitsSpec_of_haveOnly admitsAll only
  unfold Collides at collides
  cases leftAccepted : collidingCompilation pair.1 with
  | error failure =>
      rw [leftAccepted] at collides
      cases collides
  | ok left =>
      cases rightAccepted : collidingCompilation pair.2 with
      | error failure =>
          rw [leftAccepted, rightAccepted] at collides
          cases collides
      | ok right =>
          rw [leftAccepted, rightAccepted] at collides
          dsimp only at collides
          rw [Bool.and_eq_true, beq_iff_eq, bne_iff_ne] at collides
          exact collides.2 ((identify _ _ _ _ _ _ _ _ left right
            (fun node member => admitted node (List.mem_append_left _ member))
            (fun node member => admitted node (List.mem_append_right _ member))
            leftAccepted rightAccepted).mp collides.1)

/-- **Fingerprints identify workflows exactly under the rules that admit no harmful
combination.** A rule says, for keys and dependencies, capability ids, capability versions and
human gates, whether they may be empty and which of the separators they may contain. -/
theorem fingerprintsIdentify_iff (rule : IdentifierRule) :
    FingerprintsIdentify rule ↔
      ∀ combination ∈ harmfulCombinations, ¬ rule.AdmitsAll combination :=
  ⟨fun identify _ harmful admitsAll => not_fingerprintsIdentify harmful admitsAll identify,
    fingerprintsIdentify_of_harmless⟩

/-- Colons, at signs and commas are harmless in gates when the other identifiers have none. -/
example : ∀ combination ∈ harmfulCombinations, ¬ IdentifierRule.AdmitsAll (fun feature =>
    feature ∈ [':', '@', ','].map (IdentifierFeature.contains .humanGate)) combination := by
  unfold IdentifierRule.AdmitsAll
  decide

/-- Two capability references with the same text: the fingerprints are equal, and the compiled
nodes are not. -/
theorem workflowFingerprint_collides :
    ¬ ∀ (leftSpec rightSpec : WorkflowSpec) (leftAllowed rightAllowed : List String)
      (limits : WorkflowCompilationLimits) (left right : CompiledWorkflow),
      compileWorkflow leftSpec leftAllowed limits workflowCompilerVersion = .ok left →
      compileWorkflow rightSpec rightAllowed limits workflowCompilerVersion = .ok right →
      (left.fingerprint = right.fingerprint ↔
        left.nodes.map fingerprintedNode = right.nodes.map fingerprintedNode) := by
  intro identify
  have collides : Collides ([⟨"g", ⟨"g@", "f"⟩, [], none⟩], [⟨"g", ⟨"g", "@f"⟩, [], none⟩]) =
      true := by decide
  unfold Collides at collides
  split at collides
  · rename_i left right leftAccepted rightAccepted
    rw [Bool.and_eq_true, beq_iff_eq, bne_iff_ne] at collides
    exact collides.2 ((identify _ _ _ _ _ left right leftAccepted rightAccepted).mp collides.1)
  · cases collides

end Kurobara.Engine
