import OperatorSource.Proofs.FlatSourceText
import OperatorSource.Proofs.RuleLoading
import OperatorSource.Proofs.SpelledReading

/-!
# Plain calls and the documents that spell them

An operator with fixed output shapes can be given by plain pairs or by a specification document.  A
document spells a call if it is a record of the same data: every name and number is written the
plain way, the fields of a record stand in any order, and an empty section may be null or left out.
Reading such a document gives the call back, except that dimensions of zero are refused at once, and
the call itself is refused for them later on.  So both ways give the same text, or none.
-/

namespace OperatorSource

open Yaml Outcome

/-- What is given to generate an operator with fixed output shapes. -/
structure PlainCall where
  operator : String
  attributes : List (String × String) := []
  inputs : List (String × String) := []
  outputs : List (String × String) := []
  shapes : List (Nat × List Nat) := []
  className : String
  header : Option String := none

namespace PlainCall

def generate (call : PlainCall) : Traced RequestError String :=
  generateFixed call.operator call.attributes call.inputs call.outputs call.shapes call.className
    call.header

def fixedRule (shape : Nat × List Nat) : ShapeRule := ⟨shape.1, .fixed shape.2⟩

def kernel (call : PlainCall) : KernelBinding where
  className := call.className
  headers := call.header.toList

def request (call : PlainCall) : Request where
  signature := {
    name := call.operator
    attributes := call.attributes.map fun pair => ⟨pair.1, .scalar pair.2⟩
    inputs := call.inputs.map fun pair => ⟨pair.1, pair.2⟩
    outputs := call.outputs.map fun pair => ⟨pair.1, pair.2⟩ }
  shapeRules := call.shapes.map fixedRule
  kernel := some call.kernel

theorem generate_eq (call : PlainCall) : call.generate = Settings.generate {} call.request := rfl

/-- A section of a list, which may be null if the list is empty. -/
inductive SpellsSection {α : Type} (spells : List α → Tree → Prop) (items : List α) : Tree → Prop
  | written {tree : Tree} (spelled : spells items tree) : SpellsSection spells items tree
  | null {mark : Mark} {text : String} (empty : items = [])
      (isNull : text = "" ∨ Scalar.isNullText text = true) :
      SpellsSection spells items (.scalar mark none .plain text)

inductive SpellsRuleField (shape : Nat × List Nat) : String → Tree → Prop
  | output {tree : Tree} (number : SpellsNumber shape.1 tree) : SpellsRuleField shape "output" tree
  | dims {tree : Tree} (numbers : SpellsList SpellsNumber shape.2 tree) :
      SpellsRuleField shape "dims" tree

def SpellsRule (shape : Nat × List Nat) (tree : Tree) : Prop :=
  ∃ names, SpellsRecord (SpellsRuleField shape) names tree ∧ "output" ∈ names ∧ "dims" ∈ names

variable (call : PlainCall)

inductive SpellsKernelField : String → Tree → Prop
  | className {tree : Tree} (text : SpellsText call.className tree) : SpellsKernelField "class" tree
  | headers {tree : Tree} (texts : SpellsList SpellsText call.header.toList tree) :
      SpellsKernelField "headers" tree

def SpellsKernel (tree : Tree) : Prop :=
  ∃ names, SpellsRecord call.SpellsKernelField names tree ∧ "class" ∈ names ∧
    ("headers" ∉ names → call.header = none)

inductive SpellsField : String → Tree → Prop
  | name {tree : Tree} (text : SpellsText call.operator tree) : SpellsField "name" tree
  | attributes {tree : Tree} (pairs : SpellsSection SpellsPairs call.attributes tree) :
      SpellsField "attributes" tree
  | inputs {tree : Tree}
      (pairs : SpellsSection (SpellsList fun pair => SpellsPairs [pair]) call.inputs tree) :
      SpellsField "inputs" tree
  | outputs {tree : Tree}
      (pairs : SpellsSection (SpellsList fun pair => SpellsPairs [pair]) call.outputs tree) :
      SpellsField "outputs" tree
  | shapes {tree : Tree} (rules : SpellsSection (SpellsList SpellsRule) call.shapes tree) :
      SpellsField "shape_rules" tree
  | kernel {tree : Tree} (kernel : call.SpellsKernel tree) : SpellsField "kernel" tree

/-- A document is a record of the call, in which only empty sections are left out. -/
structure SpelledBy (tree : Tree) (names : List String) : Prop where
  record : SpellsRecord call.SpellsField names tree
  name : "name" ∈ names
  attributes : "attributes" ∉ names → call.attributes = []
  inputs : "inputs" ∉ names → call.inputs = []
  outputs : "outputs" ∉ names → call.outputs = []
  shapes : "shape_rules" ∉ names → call.shapes = []
  kernel : "kernel" ∈ names

def textTree (text : String) : Tree := .scalar {} none .quoted text

def numberTree (number : Nat) : Tree := .scalar {} none .plain (toString number)

def pairsTree (pairs : List (String × String)) : Tree :=
  .mapping {} none (pairs.map fun pair => (some pair.1, textTree pair.1, textTree pair.2))

def recordTree (fields : List (String × Tree)) : Tree :=
  .mapping {} none (fields.map fun field => (some field.1, textTree field.1, field.2))

def ruleTree (shape : Nat × List Nat) : Tree :=
  recordTree [("output", numberTree shape.1), ("dims", .sequence {} none (shape.2.map numberTree))]

def kernelFields : List (String × Tree) :=
  [("class", textTree call.className),
    ("headers", .sequence {} none (call.header.toList.map textTree))]

def fields : List (String × Tree) :=
  [("name", textTree call.operator),
    ("attributes", pairsTree call.attributes),
    ("inputs", .sequence {} none (call.inputs.map fun pair => pairsTree [pair])),
    ("outputs", .sequence {} none (call.outputs.map fun pair => pairsTree [pair])),
    ("shape_rules", .sequence {} none (call.shapes.map ruleTree)),
    ("kernel", recordTree call.kernelFields)]

theorem spellsText_textTree (text : String) : SpellsText text (textTree text) := .scalar nofun

theorem spellsList_map {α : Type} {spells : α → Tree → Prop} {spell : α → Tree}
    (spelled : ∀ item, spells item (spell item)) (items : List α) :
    SpellsList spells items (.sequence {} none (items.map spell)) := by
  refine .sequence (List.forall₂_map_right_iff.mpr ?_)
  exact List.forall₂_same.mpr fun item _ => spelled item

theorem spellsPairs_pairsTree (pairs : List (String × String)) :
    SpellsPairs pairs (pairsTree pairs) := by
  refine .mapping (List.forall₂_map_right_iff.mpr ?_)
  exact List.forall₂_same.mpr fun pair _ =>
    ⟨spellsText_textTree pair.1, spellsText_textTree pair.2⟩

theorem spellsRecord_recordTree {spells : String → Tree → Prop} {fields : List (String × Tree)}
    (spelled : ∀ field ∈ fields, spells field.1 field.2)
    (distinct : (fields.map Prod.fst).Nodup) :
    SpellsRecord spells (fields.map Prod.fst) (recordTree fields) := by
  refine .mapping ?_
  induction fields with
  | nil => exact .nil
  | cons field rest ih =>
      rw [List.forall_mem_cons] at spelled
      rw [List.map_cons, List.nodup_cons] at distinct
      exact .cons (spellsText_textTree field.1) spelled.1 distinct.1 (ih spelled.2 distinct.2)

theorem spellsRule_ruleTree (shape : Nat × List Nat) : SpellsRule shape (ruleTree shape) := by
  have output : SpellsRuleField shape "output" (numberTree shape.1) := .output .scalar
  have dims : SpellsRuleField shape "dims" (.sequence {} none (shape.2.map numberTree)) :=
    .dims (spellsList_map (fun _ => .scalar) shape.2)
  refine ⟨_, spellsRecord_recordTree ?_ (by simp), by simp, by simp⟩
  simpa using ⟨output, dims⟩

theorem spellsKernel_kernelFields : call.SpellsKernel (recordTree call.kernelFields) := by
  have className : call.SpellsKernelField "class" (textTree call.className) :=
    .className (spellsText_textTree call.className)
  have headers : call.SpellsKernelField "headers" _ :=
    .headers (spellsList_map spellsText_textTree call.header.toList)
  refine ⟨_, spellsRecord_recordTree ?_ (by simp [kernelFields]), ?_, ?_⟩
  · simpa [kernelFields] using ⟨className, headers⟩
  · simp [kernelFields]
  · simp [kernelFields]

theorem spelledBy_recordTree :
    call.SpelledBy (recordTree call.fields) (call.fields.map Prod.fst) := by
  have name : call.SpellsField "name" (textTree call.operator) :=
    .name (spellsText_textTree call.operator)
  have attributes : call.SpellsField "attributes" (pairsTree call.attributes) :=
    .attributes (.written (spellsPairs_pairsTree call.attributes))
  have inputs : call.SpellsField "inputs" _ :=
    .inputs (.written (spellsList_map (fun pair => spellsPairs_pairsTree [pair]) call.inputs))
  have outputs : call.SpellsField "outputs" _ :=
    .outputs (.written (spellsList_map (fun pair => spellsPairs_pairsTree [pair]) call.outputs))
  have shapes : call.SpellsField "shape_rules" _ :=
    .shapes (.written (spellsList_map spellsRule_ruleTree call.shapes))
  have kernel : call.SpellsField "kernel" (recordTree call.kernelFields) :=
    .kernel call.spellsKernel_kernelFields
  constructor
  · refine spellsRecord_recordTree ?_ (by simp [fields])
    simpa [fields] using ⟨name, attributes, inputs, outputs, shapes, kernel⟩
  all_goals simp [fields]

/-! ## Reading the documents -/

def ruleEntry (shape : Nat × List Nat) : RuleEntry where
  output := shape.1
  dimensions := some (shape.2.map Int64.ofNat)

/-- What a rule is like while it is read. -/
structure RuleHolds (shape : Nat × List Nat) (seen : List String) (draft : RuleEntry.Draft) :
    Prop where
  output : draft.output = if "output" ∈ seen then some shape.1 else none
  dimensions :
    draft.dimensions = if "dims" ∈ seen then some (shape.2.map Int64.ofNat) else none
  likeInput : draft.likeInput = none

/-- The output is an unsigned integer of 64 bits, and the dimensions are signed ones. -/
structure ShapeInRange (shape : Nat × List Nat) : Prop where
  output : shape.1 ≤ Scalar.maxUnsigned
  dimensions : ∀ dimension ∈ shape.2, dimension ≤ Scalar.maxSigned

theorem readsEachField_rule {shape : Nat × List Nat} (inRange : ShapeInRange shape) :
    ReadsEachField RuleEntry.record (SpellsRuleField shape) (RuleHolds shape) := by
  intro seen draft name value before spelled unseen
  cases spelled with
  | output number =>
      refine ⟨by decide, { draft with output := some shape.1 }, ?_, ?_⟩
      · exact congrArg (Except.map _) (number.readUnsigned inRange.output)
      · exact ⟨by simp, by simp [before.dimensions], before.likeInput⟩
  | dims numbers =>
      have read := numbers.readOptional fun dimension member tree spelled =>
        SpellsNumber.readSigned spelled (inRange.dimensions dimension member)
      refine ⟨by decide, { draft with dimensions := some (shape.2.map Int64.ofNat) }, ?_, ?_⟩
      · exact congrArg (Except.map _) read
      · exact ⟨by simp [before.output], by simp, before.likeInput⟩

theorem SpellsRule.read {shape : Nat × List Nat} {tree : Tree} (spelled : SpellsRule shape tree)
    (inRange : ShapeInRange shape) : RuleEntry.ofTree tree = .ok (ruleEntry shape) := by
  obtain ⟨names, record, output, dims⟩ := spelled
  have starts : RuleHolds shape [] {} := ⟨rfl, rfl, rfl⟩
  obtain ⟨draft, holds, finishes⟩ := record.readRecord (readsEachField_rule inRange) starts
  apply finishes
  have hasOutput : draft.output = some shape.1 := by simp [holds.output, output]
  have hasDimensions : draft.dimensions = some (shape.2.map Int64.ofNat) := by
    simp [holds.dimensions, dims]
  rw [RuleEntry.ofDraft, hasOutput, hasDimensions, holds.likeInput]
  rfl

theorem eq_of_ifSeen {α : Type} {field : String} {names : List String} {found items : List α}
    (holds : found = if field ∈ names.reverse then items else [])
    (empty : field ∉ names → items = []) : found = items := by
  by_cases seen : field ∈ names
  · rw [holds, if_pos (List.mem_reverse.mpr seen)]
  · rw [holds, empty seen, ite_self]

structure KernelHolds (seen : List String) (draft : KernelBinding.Draft) : Prop where
  className : draft.className = if "class" ∈ seen then some call.className else none
  device : draft.device = .cpu
  headers : draft.headers = if "headers" ∈ seen then call.header.toList else []

theorem readsEachField_kernel :
    ReadsEachField KernelBinding.record call.SpellsKernelField call.KernelHolds := by
  intro seen draft name value before spelled unseen
  cases spelled with
  | className text =>
      refine ⟨by decide, { draft with className := some call.className }, ?_, ?_⟩
      · exact congrArg (Except.map _) text.readText
      · exact ⟨by simp, before.device, by simp [before.headers]⟩
  | headers texts =>
      have read := texts.readList fun header _ tree spelled => SpellsText.readText spelled
      refine ⟨by decide, { draft with headers := call.header.toList.map id }, ?_, ?_⟩
      · exact congrArg (Except.map _) read
      · exact ⟨by simp [before.className], before.device, by simp⟩

theorem SpellsKernel.read {call : PlainCall} {tree : Tree} (spelled : call.SpellsKernel tree) :
    KernelBinding.ofTree tree = .ok call.kernel := by
  obtain ⟨names, record, className, headers⟩ := spelled
  have starts : call.KernelHolds [] {} := ⟨rfl, rfl, rfl⟩
  obtain ⟨draft, holds, finishes⟩ := record.readRecord call.readsEachField_kernel starts
  apply finishes
  have hasClass : draft.className = some call.className := by simp [holds.className, className]
  have hasHeaders : draft.headers = call.header.toList :=
    eq_of_ifSeen holds.headers fun absent => by rw [headers absent]; rfl
  rw [KernelBinding.ofDraft, hasClass, holds.device, hasHeaders]
  rfl

theorem SpellsSection.readOptional {α β : Type} {spells : List α → Tree → Prop} {items : List α}
    {meaning : α → β} {read : Tree → Except Fault (List β)} {tree : Tree}
    (spelled : SpellsSection spells items tree)
    (reads : ∀ tree, spells items tree → tree.readOptional read = .ok (some (items.map meaning))) :
    ∃ found, tree.readOptional read = .ok found ∧ found.getD [] = items.map meaning := by
  cases spelled with
  | written spelled => exact ⟨_, reads tree spelled, rfl⟩
  | null empty isNull =>
      subst empty
      exact ⟨none, if_pos isNull, rfl⟩

def argumentValue (pair : String × String) : Value := .mapping [textPair pair]

/-- What a specification is like while it is read. -/
structure Holds (seen : List String) (draft : Specification.Draft) : Prop where
  name : draft.name = if "name" ∈ seen then some call.operator else none
  attributes :
    draft.attributes.getD [] = if "attributes" ∈ seen then call.attributes.map textPair else []
  inputs : draft.inputs.getD [] = if "inputs" ∈ seen then call.inputs.map argumentValue else []
  outputs : draft.outputs.getD [] = if "outputs" ∈ seen then call.outputs.map argumentValue else []
  shapes : draft.shapeRules.getD [] = if "shape_rules" ∈ seen then call.shapes.map ruleEntry else []
  kernel : draft.kernel = if "kernel" ∈ seen then some call.kernel else none

/-- What a call must satisfy so that a document can spell it: the names of attributes are different
keys, and the numbers are within the range of their types. -/
structure IsSpellable : Prop where
  attributes : (call.attributes.map Prod.fst).Nodup
  shapes : ∀ shape ∈ call.shapes, ShapeInRange shape

theorem readOptional_arguments {pairs : List (String × String)} (tree : Tree)
    (spelled : SpellsList (fun pair => SpellsPairs [pair]) pairs tree) :
    tree.readOptional (Tree.readList Tree.readValue) = .ok (some (pairs.map argumentValue)) :=
  spelled.readOptional fun pair _ _ spelled =>
    SpellsPairs.readValue spelled (by simp)

theorem readsEachField_specification {call : PlainCall} (spellable : call.IsSpellable) :
    ReadsEachField Specification.record call.SpellsField call.Holds := by
  intro seen draft name value before spelled unseen
  -- Each field sets one component; a null section sets it to nothing, which reads as empty.
  cases spelled with
  | name text =>
      refine ⟨by decide, { draft with name := some call.operator }, ?_, ?_⟩
      · exact congrArg (Except.map _) text.readText
      · constructor <;>
          simp [before.attributes, before.inputs, before.outputs, before.shapes, before.kernel]
  | attributes pairs =>
      obtain ⟨found, read, meaning⟩ := pairs.readOptional fun tree spelled => by
        have found := spelled.readMapping spellable.attributes
        cases spelled
        exact congrArg (some <$> ·) found
      refine ⟨by decide, { draft with attributes := found }, congrArg (Except.map _) read, ?_⟩
      constructor <;>
        simp [before.name, before.inputs, before.outputs, before.shapes, before.kernel, meaning]
  | inputs pairs =>
      obtain ⟨found, read, meaning⟩ := pairs.readOptional readOptional_arguments
      refine ⟨by decide, { draft with inputs := found }, congrArg (Except.map _) read, ?_⟩
      constructor <;>
        simp [before.name, before.attributes, before.outputs, before.shapes, before.kernel, meaning]
  | outputs pairs =>
      obtain ⟨found, read, meaning⟩ := pairs.readOptional readOptional_arguments
      refine ⟨by decide, { draft with outputs := found }, congrArg (Except.map _) read, ?_⟩
      constructor <;>
        simp [before.name, before.attributes, before.inputs, before.shapes, before.kernel, meaning]
  | shapes rules =>
      obtain ⟨found, read, meaning⟩ := rules.readOptional fun tree spelled =>
        spelled.readOptional fun shape member tree spelled =>
          SpellsRule.read spelled (spellable.shapes shape member)
      refine ⟨by decide, { draft with shapeRules := found }, congrArg (Except.map _) read, ?_⟩
      constructor <;>
        simp [before.name, before.attributes, before.inputs, before.outputs, before.kernel, meaning]
  | kernel kernel =>
      have read : value.readOptional KernelBinding.ofTree = .ok (some call.kernel) := by
        have found := kernel.read
        obtain ⟨names, ⟨each⟩, -⟩ := kernel
        exact congrArg (some <$> ·) found
      refine ⟨by decide, { draft with kernel := some call.kernel },
        congrArg (Except.map _) read, ?_⟩
      constructor <;>
        simp [before.name, before.attributes, before.inputs, before.outputs, before.shapes]

/-- A specification of the same data as a call. -/
structure Agrees (specification : Specification) : Prop where
  name : specification.name = call.operator
  attributes : specification.attributes.getD [] = call.attributes.map textPair
  inputs : specification.inputs.getD [] = call.inputs.map argumentValue
  outputs : specification.outputs.getD [] = call.outputs.map argumentValue
  shapes : specification.shapeRules.getD [] = call.shapes.map ruleEntry
  kernel : specification.kernel = some call.kernel

theorem SpelledBy.read {call : PlainCall} {tree : Tree} {names : List String}
    (spelled : call.SpelledBy tree names) (spellable : call.IsSpellable) :
    ∃ specification, Specification.ofTree tree = .ok specification ∧ call.Agrees specification := by
  have starts : call.Holds [] {} := ⟨rfl, rfl, rfl, rfl, rfl, rfl⟩
  obtain ⟨draft, holds, finishes⟩ :=
    spelled.record.readRecord (readsEachField_specification spellable) starts
  have hasName : draft.name = some call.operator := by simp [holds.name, spelled.name]
  refine ⟨⟨call.operator, draft.attributes, draft.inputs, draft.outputs, draft.shapeRules,
    draft.kernel⟩, finishes ?_, ?_⟩
  · rw [Specification.ofDraft, hasName]
    rfl
  · exact {
      name := rfl
      attributes := eq_of_ifSeen holds.attributes fun absent =>
        List.map_eq_nil_iff.mpr (spelled.attributes absent)
      inputs := eq_of_ifSeen holds.inputs fun absent =>
        List.map_eq_nil_iff.mpr (spelled.inputs absent)
      outputs := eq_of_ifSeen holds.outputs fun absent =>
        List.map_eq_nil_iff.mpr (spelled.outputs absent)
      shapes := eq_of_ifSeen holds.shapes fun absent =>
        List.map_eq_nil_iff.mpr (spelled.shapes absent)
      kernel := by simp [holds.kernel, spelled.kernel] }

theorem ofEntry_ruleEntry {shape : Nat × List Nat} (inRange : ShapeInRange shape)
    {rule : ShapeRule} :
    ShapeRule.ofEntry (ruleEntry shape) = .ok rule ↔
      (∀ dimension ∈ shape.2, dimension ≠ 0) ∧ rule = fixedRule shape := by
  have value : ∀ dimension ∈ shape.2, (Int64.ofNat dimension).toInt = dimension :=
    fun dimension member =>
      Int64.toInt_ofNat_of_lt (Nat.lt_succ_of_le (inRange.dimensions dimension member))
  have positive : (∀ dimension ∈ shape.2.map Int64.ofNat, 0 < dimension.toInt) ↔
      ∀ dimension ∈ shape.2, dimension ≠ 0 := by
    rw [List.forall_mem_map]
    refine forall₂_congr fun dimension member => ?_
    rw [value dimension member]
    omega
  have same : (shape.2.map Int64.ofNat).map (fun dimension => dimension.toInt.toNat) = shape.2 := by
    rw [List.map_map]
    refine (List.map_congr_left fun dimension member => ?_).trans (List.map_id _)
    simp only [Function.comp_apply, value dimension member, Int.toNat_natCast, id]
  rw [ruleEntry, ShapeRule.ofEntry, bind_eq_ok_iff]
  simp only [ShapeRule.dimensionsFrom_eq_ok_iff, positive, same]
  constructor
  · rintro ⟨dimensions, ⟨positives, rfl⟩, both⟩
    exact ⟨positives, (Except.ok.inj both).symm⟩
  · rintro ⟨positives, rfl⟩
    exact ⟨shape.2, ⟨positives, rfl⟩, rfl⟩

theorem mapM_ofEntry_eq_ok_iff {shapes : List (Nat × List Nat)}
    (inRange : ∀ shape ∈ shapes, ShapeInRange shape) {rules : List ShapeRule} :
    (shapes.map ruleEntry).mapM ShapeRule.ofEntry = .ok rules ↔
      (∀ shape ∈ shapes, ∀ dimension ∈ shape.2, dimension ≠ 0) ∧ rules = shapes.map fixedRule := by
  induction shapes generalizing rules with
  | nil => simp [pure, Except.pure, eq_comm]
  | cons shape rest ih =>
      rw [List.forall_mem_cons] at inRange
      simp only [List.map_cons, List.mapM_cons, bind_eq_ok_iff, ofEntry_ruleEntry inRange.1,
        ih inRange.2, List.forall_mem_cons]
      constructor
      · rintro ⟨rule, ⟨positive, rfl⟩, others, ⟨positives, rfl⟩, both⟩
        exact ⟨⟨positive, positives⟩, (Except.ok.inj both).symm⟩
      · rintro ⟨⟨positive, positives⟩, rfl⟩
        exact ⟨_, ⟨positive, rfl⟩, _, ⟨positives, rfl⟩, rfl⟩

theorem ofEntry_textPair (pair : String × String) :
    AttributeDeclaration.ofEntry (textPair pair) = .ok ⟨pair.1, .scalar pair.2⟩ := rfl

theorem ofValue_argumentValue (role : ArgumentRole) (pair : String × String) :
    Argument.ofValue role (argumentValue pair) = .ok ⟨pair.1, pair.2⟩ := rfl

def HasNoZeroDimension : Prop := ∀ shape ∈ call.shapes, ∀ dimension ∈ shape.2, dimension ≠ 0

theorem Agrees.request_eq_ok_iff {call : PlainCall} {specification : Specification}
    (agrees : call.Agrees specification) (spellable : call.IsSpellable) {request : Request} :
    specification.request = .ok request ↔ call.HasNoZeroDimension ∧ request = call.request := by
  rw [Specification.request, agrees.attributes, agrees.inputs, agrees.outputs, agrees.shapes,
    agrees.name, agrees.kernel, mapM_map_eq_ok ofEntry_textPair,
    mapM_map_eq_ok (ofValue_argumentValue .input), mapM_map_eq_ok (ofValue_argumentValue .output)]
  simp only [bind_eq_ok_iff, mapM_ofEntry_eq_ok_iff spellable.shapes, Except.ok.injEq,
    exists_eq_left']
  constructor
  · rintro ⟨rules, ⟨positives, rfl⟩, both⟩
    exact ⟨positives, (Except.ok.inj both).symm⟩
  · rintro ⟨positives, rfl⟩
    exact ⟨_, ⟨positives, rfl⟩, rfl⟩

theorem SpelledBy.ofYaml_eq_ok_iff {call : PlainCall} {document : String} {tree : Tree}
    {names : List String} (spelled : call.SpelledBy tree names) (spellable : call.IsSpellable)
    (parsed : Tree.ofText document = .ok tree) {request : Request} :
    Request.ofYaml document = .ok request ↔ call.HasNoZeroDimension ∧ request = call.request := by
  obtain ⟨specification, read, agrees⟩ := spelled.read spellable
  rw [← agrees.request_eq_ok_iff spellable, Request.ofYaml, parsed]
  simp only [read]
  cases specification.request <;> simp [Except.mapError]

theorem hasNoZeroDimension_of_generate {call : PlainCall} {text : String}
    (generated : call.generate.result = .ok text) : call.HasNoZeroDimension := by
  intro shape member dimension dimensionMember zero
  rw [generate_eq] at generated
  have wellFormed := (Settings.wellFormed_and_text_of_generate generated).1
  have fits := wellFormed.rules_fit (fixedRule shape) (List.mem_map_of_mem member)
  exact fits.dimensions_nonzero shape.2 rfl dimension dimensionMember zero

/-- Every call can be spelled, and a call and a document that spells it come to the same: they give
the same text or both none. -/
theorem generates_as_spelled (call : PlainCall) (spellable : call.IsSpellable) :
    (∃ tree names, call.SpelledBy tree names) ∧
      ∀ document tree names, Tree.ofText document = .ok tree → call.SpelledBy tree names →
        ∀ text, call.generate.result = .ok text ↔
          ∃ request, Request.ofYaml document = .ok request ∧
            (Settings.generate {} request).result = .ok text := by
  refine ⟨⟨_, _, call.spelledBy_recordTree⟩, fun document tree names parsed spelled text => ?_⟩
  have loads {request : Request} :
      Request.ofYaml document = .ok request ↔ call.HasNoZeroDimension ∧ request = call.request :=
    spelled.ofYaml_eq_ok_iff spellable parsed
  constructor
  · intro generated
    exact ⟨call.request, loads.mpr ⟨hasNoZeroDimension_of_generate generated, rfl⟩, generated⟩
  · rintro ⟨request, loaded, generated⟩
    obtain ⟨-, rfl⟩ := loads.mp loaded
    exact generated

/-- A call with two attributes, and with a header for its kernel. -/
def scaleCall : PlainCall where
  operator := "Scale"
  attributes := [("factor", "float"), ("axis", "int32")]
  inputs := [("rows", "T")]
  outputs := [("scaled", "T")]
  shapes := [(0, [4, 8])]
  className := "ScaleOp"
  header := some "scale.h"

def scaleDocument : String :=
  "name: Scale\nattributes:\n  factor: float\n  axis: int32\ninputs:\n- rows: T\n" ++
    "outputs:\n- scaled: T\nshape_rules:\n- output: 0\n  dims: [4, 8]\n" ++
    "kernel:\n  class: ScaleOp\n  headers: [scale.h]\n"

def plainScalar (offset line column : Nat) (text : String) : Tree :=
  .scalar ⟨offset, line, column⟩ none .plain text

def scaleAttributesTree : Tree := .mapping ⟨26, 2, 2⟩ none
  [(some "factor", plainScalar 26 2 2 "factor", plainScalar 34 2 10 "float"),
    (some "axis", plainScalar 42 3 2 "axis", plainScalar 48 3 8 "int32")]

def scaleInputsTree : Tree := .sequence ⟨62, 5, 0⟩ none [.mapping ⟨64, 5, 2⟩ none
  [(some "rows", plainScalar 64 5 2 "rows", plainScalar 70 5 8 "T")]]

def scaleOutputsTree : Tree := .sequence ⟨81, 7, 0⟩ none [.mapping ⟨83, 7, 2⟩ none
  [(some "scaled", plainScalar 83 7 2 "scaled", plainScalar 91 7 10 "T")]]

def scaleRuleTree : Tree := .mapping ⟨108, 9, 2⟩ none
  [(some "output", plainScalar 108 9 2 "output", plainScalar 116 9 10 "0"),
    (some "dims", plainScalar 120 10 2 "dims", .sequence ⟨126, 10, 8⟩ none
      [plainScalar 127 10 9 "4", plainScalar 130 10 12 "8"])]

def scaleKernelTree : Tree := .mapping ⟨143, 12, 2⟩ none
  [(some "class", plainScalar 143 12 2 "class", plainScalar 150 12 9 "ScaleOp"),
    (some "headers", plainScalar 160 13 2 "headers", .sequence ⟨169, 13, 11⟩ none
      [plainScalar 170 13 12 "scale.h"])]

def scaleTree : Tree := .mapping ⟨0, 0, 0⟩ none
  [(some "name", plainScalar 0 0 0 "name", plainScalar 6 0 6 "Scale"),
    (some "attributes", plainScalar 12 1 0 "attributes", scaleAttributesTree),
    (some "inputs", plainScalar 54 4 0 "inputs", scaleInputsTree),
    (some "outputs", plainScalar 72 6 0 "outputs", scaleOutputsTree),
    (some "shape_rules", plainScalar 93 8 0 "shape_rules",
      .sequence ⟨106, 9, 0⟩ none [scaleRuleTree]),
    (some "kernel", plainScalar 133 11 0 "kernel", scaleKernelTree)]

theorem spelledBy_scaleTree :
    scaleCall.SpelledBy scaleTree
      ["name", "attributes", "inputs", "outputs", "shape_rules", "kernel"] := by
  have text {text : String} (isText : Scalar.ofPlain text = .text text) {offset line column : Nat} :
      SpellsText text (plainScalar offset line column text) := .scalar fun _ => isText
  have attributes : SpellsPairs scaleCall.attributes scaleAttributesTree :=
    .mapping (.cons ⟨text (by decide +kernel), text (by decide +kernel)⟩
      (.cons ⟨text (by decide +kernel), text (by decide +kernel)⟩ .nil))
  have inputs : SpellsList (fun pair => SpellsPairs [pair]) scaleCall.inputs scaleInputsTree :=
    .sequence (.cons
      (.mapping (.cons ⟨text (by decide +kernel), text (by decide +kernel)⟩ .nil)) .nil)
  have outputs : SpellsList (fun pair => SpellsPairs [pair]) scaleCall.outputs scaleOutputsTree :=
    .sequence (.cons
      (.mapping (.cons ⟨text (by decide +kernel), text (by decide +kernel)⟩ .nil)) .nil)
  have rule : SpellsRule (0, [4, 8]) scaleRuleTree :=
    ⟨["output", "dims"], .mapping
      (.cons (text (by decide +kernel)) (.output .scalar) (by decide)
      (.cons (text (by decide +kernel))
        (.dims (.sequence (.cons .scalar (.cons .scalar .nil)))) (by decide) .nil)),
      by decide, by decide⟩
  have kernel : scaleCall.SpellsKernel scaleKernelTree :=
    ⟨["class", "headers"], .mapping
      (.cons (text (by decide +kernel)) (.className (text (by decide +kernel))) (by decide)
      (.cons (text (by decide +kernel))
        (.headers (.sequence (.cons (text (by decide +kernel)) .nil))) (by decide) .nil)),
      by decide, fun absent => absurd (by decide) absent⟩
  constructor
  · exact .mapping
      (.cons (text (by decide +kernel)) (.name (text (by decide +kernel))) (by decide)
      (.cons (text (by decide +kernel)) (.attributes (.written attributes)) (by decide)
      (.cons (text (by decide +kernel)) (.inputs (.written inputs)) (by decide)
      (.cons (text (by decide +kernel)) (.outputs (.written outputs)) (by decide)
      (.cons (text (by decide +kernel)) (.shapes (.written (.sequence (.cons rule .nil))))
        (by decide)
      (.cons (text (by decide +kernel)) (.kernel kernel) (by decide) .nil))))))
  all_goals decide

theorem scaleDocument_generates :
    ∃ text, scaleCall.generate.result = .ok text ∧ ∃ request,
      Request.ofYaml scaleDocument = .ok request ∧
        (Settings.generate {} request).result = .ok text := by
  have parsed : Tree.ofText scaleDocument = .ok scaleTree :=
    eq_ok_of_toOption (by decide +kernel)
  have shape : ShapeInRange (0, [4, 8]) := ⟨by decide, by decide⟩
  have spellable : scaleCall.IsSpellable := ⟨by decide, by simpa [scaleCall] using shape⟩
  have generates : scaleCall.generate.result.toOption.isSome = true := by decide +kernel
  obtain ⟨text, given⟩ := Option.isSome_iff_exists.mp generates
  have generated : scaleCall.generate.result = .ok text := eq_ok_of_toOption given
  obtain ⟨-, agrees⟩ := generates_as_spelled scaleCall spellable
  exact ⟨text, generated,
    (agrees scaleDocument scaleTree _ parsed spelledBy_scaleTree text).mp generated⟩

end PlainCall

end OperatorSource
