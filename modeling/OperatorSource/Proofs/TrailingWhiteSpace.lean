import OperatorSource.Proofs.ComputeBody
import OperatorSource.Proofs.SourceTextInjective
import Mathlib.Data.List.Basic

/-!
# No white space at the ends of lines

Names, tags and headers are put between quotes or brackets, and nearly every line ends on a
character of its own: a quote, a bracket, a brace, a colon or a semicolon.  Only the comment in the
skeleton of a kernel class ends on what is given for it.  Where no given text ends in white space, a
line of a source file ends in white space only if that comment is empty: the blank behind the two
slashes is then the last character of the line.
-/

namespace OperatorSource

open LineRun

/-- A character that Unicode counts as white space. -/
def isWhite (character : Char) : Bool :=
  let code := character.toNat
  (9 ≤ code && code ≤ 13) || (0x2000 ≤ code && code ≤ 0x200A) ||
    code ∈ [0x20, 0x85, 0xA0, 0x1680, 0x2028, 0x2029, 0x202F, 0x205F, 0x3000]

/-- The text has a last character, which is white space. -/
def EndsInWhite (text : String) : Prop := ∃ last ∈ text.toList.getLast?, isWhite last = true

/-- The text has a last character, which is not white space. -/
def EndsVisibly (text : String) : Prop := ∃ last ∈ text.toList.getLast?, isWhite last = false

instance (text : String) : Decidable (EndsInWhite text) :=
  decidable_of_iff (text.toList.getLast?.any isWhite = true) (Option.any_eq_true _ _)

instance (text : String) : Decidable (EndsVisibly text) :=
  decidable_of_iff (text.toList.getLast?.any (!isWhite ·) = true)
    ((Option.any_eq_true _ _).trans (by simp [EndsVisibly]))

theorem EndsVisibly.not_endsInWhite {text : String} (visible : EndsVisibly text) :
    ¬ EndsInWhite text := by
  rintro ⟨last, isLast, white⟩
  obtain ⟨other, isOther, notWhite⟩ := visible
  obtain rfl : last = other := Option.mem_unique isLast isOther
  rw [white] at notWhite
  exact Bool.noConfusion notWhite

theorem endsVisibly_of_not_endsInWhite {text : String} (nonempty : text ≠ "")
    (notWhite : ¬ EndsInWhite text) : EndsVisibly text := by
  have hasLast : text.toList ≠ [] := fun none => nonempty (String.toList_eq_nil_iff.mp none)
  have isLast := List.getLast?_eq_some_getLast hasLast
  refine ⟨_, isLast, ?_⟩
  rw [← Bool.not_eq_true]
  exact fun white => notWhite ⟨_, isLast, white⟩

theorem getLast?_behind {text : String} {last : Char} (isLast : last ∈ text.toList.getLast?)
    (before : String) : last ∈ (before ++ text).toList.getLast? := by
  rw [String.toList_append, List.getLast?_append, Option.mem_def.mp isLast]
  rfl

theorem EndsVisibly.behind {text : String} (visible : EndsVisibly text) (before : String) :
    EndsVisibly (before ++ text) := by
  obtain ⟨last, isLast, notWhite⟩ := visible
  exact ⟨last, getLast?_behind isLast before, notWhite⟩

theorem EndsInWhite.behind {text : String} (white : EndsInWhite text) (before : String) :
    EndsInWhite (before ++ text) := by
  obtain ⟨last, isLast, isWhite⟩ := white
  exact ⟨last, getLast?_behind isLast before, isWhite⟩

/-- The strings that settings give. -/
def Settings.texts (settings : Settings) : List String :=
  settings.placeholder :: settings.namespaceName :: settings.frameworkHeaders

/-- The strings that a request gives. -/
def Request.texts (request : Request) : List String :=
  FlatSource.signatureTexts request.signature ++
    request.kernel.elim [] fun kernel => kernel.className :: kernel.headers

namespace FlatSource

theorem endsVisibly_includeLine (header : String) : EndsVisibly (includeLine header) := by
  unfold includeLine
  split
  · next bracketed =>
      obtain ⟨path, rfl⟩ := bracketed
      have closing : EndsVisibly ">" := by decide
      exact (closing.behind _).behind _
  · have quote : EndsVisibly "\"" := by decide
    exact quote.behind _

theorem endsVisibly_of_mem_ruleLines {repeated : Bool} {rule : ShapeRule} {line : String}
    (member : line ∈ ruleLines repeated rule) : EndsVisibly line := by
  obtain ⟨output, shape⟩ := rule
  have called : EndsVisibly ");" := by decide
  have assigned : EndsVisibly (localAssignmentText output) := called.behind _
  cases shape with
  | likeInput input =>
      rw [ruleLines, List.mem_singleton] at member
      have calledTwice : EndsVisibly "));" := by decide
      exact member ▸ calledTwice.behind _
  | fixed dimensions =>
      have made : EndsVisibly "\x7d);" := by decide
      have bound : EndsVisibly (bindingText output dimensions) := made.behind _
      cases repeated with
      | false =>
          rw [ruleLines, if_neg (by decide), List.mem_cons, List.mem_singleton] at member
          rcases member with rfl | rfl
          · exact bound.behind _
          · exact assigned.behind _
      | true =>
          rw [ruleLines, if_pos rfl, List.mem_cons, List.mem_cons, List.mem_cons,
            List.mem_singleton] at member
          rcases member with rfl | rfl | rfl | rfl
          · decide
          · exact bound.behind _
          · exact assigned.behind _
          · decide

theorem endsVisibly_of_mem_shapeFunctionLines {rules : List ShapeRule} :
    ∀ line ∈ shapeFunctionLines rules, EndsVisibly line := by
  intro line member
  rw [shapeFunctionLines] at member
  split at member
  · exact absurd member List.not_mem_nil
  · simp only [List.mem_append, List.mem_cons, List.not_mem_nil, or_false] at member
    rcases member with ((rfl | rfl) | inRules) | rfl | rfl
    · decide
    · decide
    · obtain ⟨repeated, rule, _, inLines⟩ := exists_mem_ruleLines inRules
      exact endsVisibly_of_mem_ruleLines inLines
    · decide
    · decide

theorem endsVisibly_of_mem_registrationLines {signature : Signature} {rules : List ShapeRule} :
    ∀ line ∈ registrationLines signature rules, EndsVisibly line := by
  have semicolon : EndsVisibly ";" := by decide
  have closing : EndsVisibly "\")" := by decide
  exact forall_mem_registrationLines (fun line _ => semicolon.behind line) (closing.behind _)
    (fun clause _ name _ tag _ => closing.behind _) endsVisibly_of_mem_shapeFunctionLines

/-- The comment of a kernel class ends as its placeholder does, unless that is empty. -/
theorem trimmed_comment_iff (placeholder : String) :
    ¬ EndsInWhite ("    // " ++ placeholder) ↔ EndsVisibly placeholder := by
  by_cases empty : placeholder = ""
  · subst empty
    decide
  · constructor
    · exact fun trimmed => endsVisibly_of_not_endsInWhite empty fun white =>
        trimmed (white.behind _)
    · exact fun visible => (visible.behind _).not_endsInWhite

/-- The comment is the only line of a kernel class that may end in white space. -/
theorem trimmed_kernelLines_iff (operator placeholder : String) (kernel : KernelBinding) :
    (∀ line ∈ kernelLines operator placeholder kernel, ¬ EndsInWhite line) ↔
      EndsVisibly placeholder := by
  have base : EndsVisibly ": public OpKernel" := by decide
  have initializer : EndsVisibly "(OpKernelConstruction* context) : OpKernel(context)" := by decide
  have closing : EndsVisibly ");" := by decide
  have opened : ∀ line ∈ KernelClass.linesAbove kernel.className, ¬ EndsInWhite line := by
    simp only [KernelClass.linesAbove, List.forall_mem_cons, (base.behind _).not_endsInWhite,
      (initializer.behind _).not_endsInWhite, not_false_eq_true, true_and]
    decide
  have closed : ∀ line ∈ KernelClass.linesBelow, ¬ EndsInWhite line := by decide
  have separated : ∀ line ∈ [""], ¬ EndsInWhite line := by decide
  have registered : ∀ line ∈ ["", KernelClass.builderLine operator kernel.className],
      ¬ EndsInWhite line := by
    rw [List.forall_mem_cons, List.forall_mem_singleton]
    exact ⟨by decide, (closing.behind _).not_endsInWhite⟩
  have comment : (∀ line ∈ ["    // " ++ placeholder], ¬ EndsInWhite line) ↔
      EndsVisibly placeholder :=
    List.forall_mem_singleton.trans (trimmed_comment_iff placeholder)
  rw [KernelClass.kernelLines_eq, List.forall_mem_append, List.forall_mem_append,
    List.forall_mem_append, List.forall_mem_append, comment, and_iff_left registered,
    and_iff_right separated, and_iff_left closed, and_iff_right opened]

/-- Only a kernel puts lines into a source file that may end in white space. -/
theorem trimmed_sourceLines_iff (settings : Settings) (request : Request) :
    (∀ line ∈ sourceLines settings request, ¬ EndsInWhite line) ↔
      request.kernel = none ∨ EndsVisibly settings.placeholder := by
  have included : ∀ headers : List String, ∀ line ∈ headers.map includeLine,
      ¬ EndsInWhite line := by
    intro headers
    rw [List.forall_mem_map]
    exact fun header _ => (endsVisibly_includeLine header).not_endsInWhite
  have semicolon : EndsVisibly ";" := by decide
  have opened : ∀ line ∈ ["", "using namespace " ++ settings.namespaceName ++ ";", ""],
      ¬ EndsInWhite line := by
    simp only [List.forall_mem_cons, (semicolon.behind _).not_endsInWhite, not_false_eq_true,
      true_and]
    decide
  have registered : ∀ line ∈ registrationLines request.signature request.shapeRules,
      ¬ EndsInWhite line := fun line member =>
    (endsVisibly_of_mem_registrationLines line member).not_endsInWhite
  rw [sourceLines, List.forall_mem_append, List.forall_mem_append, List.forall_mem_append,
    List.forall_mem_append, and_iff_right ⟨⟨⟨included _, included _⟩, opened⟩, registered⟩]
  cases request.kernel with
  | none => simp
  | some kernel => simpa using trimmed_kernelLines_iff _ _ kernel

theorem isUnbroken_of_mem_kernelLines {operator placeholder : String} {kernel : KernelBinding}
    (operatorUnbroken : IsUnbroken operator) (placeholderUnbroken : IsUnbroken placeholder)
    (classUnbroken : IsUnbroken kernel.className) :
    ∀ line ∈ kernelLines operator placeholder kernel, IsUnbroken line := by
  have comment : IsUnbroken ("    // " ++ placeholder) :=
    IsUnbroken.append (by decide) placeholderUnbroken
  have builder : IsUnbroken (KernelClass.builderLine operator kernel.className) := by
    have callee : IsUnbroken "REGISTER_KERNEL_BUILDER(Name(\"" := by decide
    exact (((callee.append operatorUnbroken).append (by decide)).append classUnbroken).append
      (by decide)
  have opened := KernelClass.isUnbroken_of_mem_linesAbove classUnbroken
  rw [KernelClass.kernelLines_eq]
  simp only [List.forall_mem_append, List.forall_mem_cons, comment, builder, true_and]
  exact ⟨⟨by decide, ⟨opened, List.forall_mem_nil _⟩, by decide⟩, by decide⟩

theorem isUnbroken_of_mem_sourceLines {settings : Settings} {request : Request}
    (unbroken : ∀ text ∈ settings.texts ++ request.texts, IsUnbroken text) :
    ∀ line ∈ sourceLines settings request, IsUnbroken line := by
  rw [List.forall_mem_append] at unbroken
  obtain ⟨inSettings, inRequest⟩ := unbroken
  rw [Settings.texts, List.forall_mem_cons, List.forall_mem_cons] at inSettings
  rw [Request.texts, List.forall_mem_append] at inRequest
  obtain ⟨placeholder, namespaceName, frameworkHeaders⟩ := inSettings
  obtain ⟨inSignature, inKernel⟩ := inRequest
  have included (headers : List String) (headersUnbroken : ∀ header ∈ headers, IsUnbroken header) :
      ∀ line ∈ headers.map includeLine, IsUnbroken line := by
    rw [List.forall_mem_map]
    exact fun header member => (isFilled_includeLine (headersUnbroken header member)).2
  have opened : ∀ line ∈ ["", "using namespace " ++ settings.namespaceName ++ ";", ""],
      IsUnbroken line := by
    have directive : IsUnbroken ("using namespace " ++ settings.namespaceName ++ ";") :=
      (IsUnbroken.append (by decide) namespaceName).append (by decide)
    simp only [List.forall_mem_cons, directive, true_and]
    decide
  have registered : ∀ line ∈ registrationLines request.signature request.shapeRules,
      IsUnbroken line := fun line member =>
    (isFilled_of_mem_registrationLines inSignature line member).2
  have operator : IsUnbroken request.signature.name := inSignature _ List.mem_cons_self
  rw [sourceLines, kernelHeaders]
  simp only [List.forall_mem_append]
  cases bound : request.kernel with
  | none =>
      exact ⟨⟨⟨⟨included _ frameworkHeaders, List.forall_mem_nil _⟩, opened⟩, registered⟩,
        List.forall_mem_nil _⟩
  | some kernel =>
      rw [bound, Option.elim_some, List.forall_mem_cons] at inKernel
      exact ⟨⟨⟨⟨included _ frameworkHeaders, included _ inKernel.2⟩, opened⟩, registered⟩,
        isUnbroken_of_mem_kernelLines operator placeholder inKernel.1⟩

/-- Strings that stay on one line leave the lines of a source file as they are written. -/
theorem physicalLines_sourceText {settings : Settings} {request : Request}
    (unbroken : ∀ text ∈ settings.texts ++ request.texts, IsUnbroken text) :
    physicalLines (sourceText settings request) = sourceLines settings request ++ [""] :=
  physicalLines_unlines_of_isUnbroken (isUnbroken_of_mem_sourceLines unbroken)

end FlatSource

/-- Where no given string holds a line feed, every accepted request gets a text none of whose lines
ends in white space, exactly if it has no kernel or the placeholder has a last character which is
not white space.  A placeholder that does not end in white space has one unless it is empty. -/
theorem Settings.trimmed_iff_placeholder_visible {settings : Settings} {request : Request}
    {validated : ValidatedRequest}
    (accepted : (request.validate settings.policy).result = .ok validated)
    (unbroken : ∀ text ∈ settings.texts ++ request.texts, IsUnbroken text) :
    ∃ text, (settings.generate request).result = .ok text ∧
      ((∀ line ∈ physicalLines text, ¬ EndsInWhite line) ↔
        request.kernel = none ∨ EndsVisibly settings.placeholder) := by
  have last : ∀ line ∈ [""], ¬ EndsInWhite line := by decide
  refine ⟨_, generate_result_of_validate accepted, ?_⟩
  rw [FlatSource.physicalLines_sourceText unbroken, List.forall_mem_append, and_iff_left last,
    FlatSource.trimmed_sourceLines_iff]

/-- Settings whose other strings are empty, with a placeholder that is not. -/
theorem trimmed_of_hollow_settings :
    ∃ text, (Settings.generate { frameworkHeaders := ["", "<>"], namespaceName := "" }
        Builtin.zero.request).result = .ok text ∧
      ∀ line ∈ physicalLines text, ¬ EndsInWhite line := by
  obtain ⟨validated, accepted⟩ := Builtin.zero.exists_validate_eq_ok
    (Settings.policy { frameworkHeaders := ["", "<>"], namespaceName := "" })
  obtain ⟨text, given, trimmed⟩ :=
    Settings.trimmed_iff_placeholder_visible accepted (by decide)
  exact ⟨text, given, trimmed.mpr (.inr (by decide))⟩

/-- No string ends in white space, but behind the slashes of an empty comment stands a blank. -/
theorem untrimmed_of_empty_placeholder :
    (∀ text ∈ Settings.texts { placeholder := "" } ++ Builtin.zero.request.texts,
      IsUnbroken text ∧ ¬ EndsInWhite text) ∧
    ∃ text, (Settings.generate { placeholder := "" } Builtin.zero.request).result = .ok text ∧
      "    // " ∈ physicalLines text ∧ EndsInWhite "    // " := by
  have given : ∀ text ∈ Settings.texts { placeholder := "" } ++ Builtin.zero.request.texts,
      IsUnbroken text ∧ ¬ EndsInWhite text := by
    decide
  obtain ⟨validated, accepted⟩ := Builtin.zero.exists_validate_eq_ok .permissive
  refine ⟨given, _, Settings.generate_result_of_validate accepted, ?_, by decide⟩
  rw [FlatSource.physicalLines_sourceText fun text member => (given text member).1]
  exact List.mem_append_left _ (List.mem_append_right _ (by decide))

end OperatorSource
