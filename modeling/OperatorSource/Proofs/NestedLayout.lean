import OperatorSource.Proofs.BracketNesting
import OperatorSource.Proofs.FragmentLines
import OperatorSource.Proofs.FragmentNodes

/-!
# Layout follows nesting

A fragment whose texts are tidy is laid out by its brackets: every line that is not empty is moved
to the right by two blanks for each curly bracket that is open before it, and by two blanks fewer if
it begins by closing one.

The lines of a part are relative to where the part stands, and other parts are spliced to their ends
after they were indented.  This works out because all curly brackets that a part opens are closed in
it again: its first line stands at the left, and what is spliced behind its last line either goes on
a line that has begun, or begins one where no bracket of the part is open.
-/

namespace OperatorSource.Fragment

open OperatorSource.Bracket

/-- A line is empty, or it is moved to the right by two blanks for each of some open brackets, of
which it closes one if that is how it begins. -/
def StandsAt (depth : Nat) (line : String) : Prop :=
  line = "" ∨ ∃ margin first rest, line.toList = List.replicate (2 * margin) ' ' ++ first :: rest ∧
    first ≠ ' ' ∧ margin + (if first = '\x7d' then 1 else 0) = depth

/-- Each line stands where the brackets put it, from the number of those open before the lines to
the number of those open behind them. -/
inductive LaidOut : Nat → List String → Nat → Prop
  | nil {depth : Nat} : LaidOut depth [] depth
  | cons {depth next final : Nat} {line : String} {rest : List String}
      (stands : StandsAt depth line)
      (counted : depth + line.toList.count '\x7b' = next + line.toList.count '\x7d')
      (restLaidOut : LaidOut next rest final) : LaidOut depth (line :: rest) final

theorem LaidOut.append {depth middle final : Nat} {first second : List String}
    (firstLaidOut : LaidOut depth first middle) (secondLaidOut : LaidOut middle second final) :
    LaidOut depth (first ++ second) final := by
  induction firstLaidOut with
  | nil => exact secondLaidOut
  | cons stands counted _ ih => exact .cons stands counted (ih secondLaidOut)

theorem LaidOut.stands_at {depth final : Nat} {before after : List String} {line : String}
    (laidOut : LaidOut depth (before ++ line :: after) final) :
    ∃ here, depth + (before.flatMap String.toList).count '\x7b' =
      here + (before.flatMap String.toList).count '\x7d' ∧ StandsAt here line := by
  induction before generalizing depth with
  | nil =>
      obtain _ | ⟨stands, _, _⟩ := laidOut
      exact ⟨depth, rfl, stands⟩
  | cons earlier before ih =>
      obtain _ | ⟨_, counted, rest⟩ := laidOut
      obtain ⟨here, restCounted, stands⟩ := ih rest
      refine ⟨here, ?_, stands⟩
      rw [List.flatMap_cons, List.count_append, List.count_append]
      omega

theorem StandsAt.indent {depth : Nat} {line : String} (stands : StandsAt depth line) :
    StandsAt (depth + 1) (indent line) := by
  obtain rfl | ⟨margin, first, rest, written, noBlank, counted⟩ := stands
  · exact .inl rfl
  · have nonempty : line ≠ "" := by
      rintro rfl
      simp at written
    refine .inr ⟨margin + 1, first, rest, ?_, noBlank, by omega⟩
    rw [indent_of_ne_empty nonempty, String.toList_append, written]
    rfl

theorem LaidOut.indent {depth final : Nat} {lines : List String}
    (laidOut : LaidOut depth lines final) :
    LaidOut (depth + 1) (lines.map indent) (final + 1) := by
  induction laidOut with
  | nil => exact .nil
  | @cons depth next final line rest stands counted _ ih =>
      refine .cons stands.indent ?_ ih
      have opening : (Fragment.indent line).toList.count '\x7b' = line.toList.count '\x7b' := by
        rw [Fragment.indent]
        split <;> simp
      have closing : (Fragment.indent line).toList.count '\x7d' = line.toList.count '\x7d' := by
        rw [Fragment.indent]
        split <;> simp
      omega

theorem StandsAt.append {depth : Nat} {line more : String} (stands : StandsAt depth line)
    (moreStands : line = "" → StandsAt depth more) : StandsAt depth (line ++ more) := by
  obtain rfl | ⟨margin, first, rest, written, noBlank, counted⟩ := stands
  · rw [String.empty_append]
    exact moreStands rfl
  · refine .inr ⟨margin, first, rest ++ more.toList, ?_, noBlank, counted⟩
    rw [String.toList_append, written, List.append_assoc, List.cons_append]

theorem LaidOut.splice {depth final : Nat} {lines more : List String}
    (laidOut : LaidOut depth lines 0) (moreLaidOut : LaidOut 0 more final) :
    LaidOut depth (splice lines more) final := by
  fun_induction Fragment.splice lines more generalizing depth with
  | case1 more =>
      obtain ⟨⟩ := laidOut
      exact moreLaidOut
  | case2 last =>
      obtain ⟨⟩ := moreLaidOut
      exact laidOut
  | case3 last first rest =>
      obtain _ | ⟨stands, counted, ⟨⟩⟩ := laidOut
      obtain _ | ⟨moreStands, moreCounted, restLaidOut⟩ := moreLaidOut
      refine .cons (stands.append ?_) ?_ restLaidOut
      · -- Behind an empty line no bracket is open, as there was none before it.
        rintro rfl
        obtain rfl : depth = 0 := counted
        exact moreStands
      · rw [String.toList_append, List.count_append, List.count_append]
        omega
  | case4 head next rest more ih =>
      obtain _ | ⟨stands, counted, restLaidOut⟩ := laidOut
      exact .cons stands counted (ih restLaidOut moreLaidOut)

theorem LaidOut.spliceAll {depth : Nat} {start : List String} {pieces : List (List String)}
    (laidOut : LaidOut depth start 0) (piecesLaidOut : ∀ piece ∈ pieces, LaidOut 0 piece 0) :
    LaidOut depth (spliceAll start pieces) 0 := by
  induction pieces generalizing start with
  | nil => exact laidOut
  | cons piece rest ih =>
      rw [List.forall_mem_cons] at piecesLaidOut
      exact ih (laidOut.splice piecesLaidOut.1) piecesLaidOut.2

theorem characters_splice (lines more : List String) :
    (splice lines more).flatMap String.toList =
      lines.flatMap String.toList ++ more.flatMap String.toList := by
  rw [← String.toList_join, join_splice, String.toList_append, String.toList_join,
    String.toList_join]

theorem characters_spliceAll (start : List String) (pieces : List (List String)) :
    (spliceAll start pieces).flatMap String.toList =
      start.flatMap String.toList ++ pieces.flatten.flatMap String.toList := by
  rw [← String.toList_join, join_spliceAll, ← join_flatten, String.toList_append,
    String.toList_join, String.toList_join]

theorem LaidOut.dotted {lines : List String} (laidOut : LaidOut 0 lines 0) :
    LaidOut 0 (dotted lines) 0 := by
  have stands (line : String) : StandsAt 0 ("." ++ line) :=
    .inr ⟨0, '.', line.toList, by rw [String.toList_append]; rfl, by decide, rfl⟩
  cases laidOut with
  | nil => exact .cons (stands "") rfl .nil
  | @cons _ next _ line rest _ counted restLaidOut =>
      refine .cons (stands line) ?_ restLaidOut
      simpa using counted

theorem characters_dotted (lines : List String) :
    (dotted lines).flatMap String.toList = '.' :: lines.flatMap String.toList := by
  rw [← String.toList_join, join_dotted, String.toList_append, String.toList_join]
  rfl

/-! ## Tidy fragments -/

/-- The brackets of a text are nested, and it does not begin with a blank. -/
structure IsTidyText (text : String) : Prop where
  nested : Nested text.toList
  noBlank : text.toList.head? ≠ some ' '

instance (text : String) : Decidable (IsTidyText text) :=
  decidable_of_iff (Nested text.toList ∧ text.toList.head? ≠ some ' ')
    ⟨fun both => ⟨both.1, both.2⟩, fun tidy => ⟨tidy.nested, tidy.noBlank⟩⟩

theorem IsTidyText.append {first second : String} (tidy : IsTidyText first)
    (nonempty : first ≠ "") (nested : Nested second.toList) : IsTidyText (first ++ second) := by
  have begun : first.toList ≠ [] := String.toList_eq_nil_iff.not.mpr nonempty
  constructor
  · rw [String.toList_append]
    exact tidy.nested.append nested
  · rw [String.toList_append, List.head?_append_of_ne_nil _ begun]
    exact tidy.noBlank

theorem LaidOut.single {line : String} (noBlank : line.toList.head? ≠ some ' ')
    (noClosing : line.toList.head? ≠ some '\x7d')
    (counted : line.toList.count '\x7b' = line.toList.count '\x7d') : LaidOut 0 [line] 0 := by
  refine .cons ?_ (by rw [counted]) .nil
  cases written : line.toList with
  | nil => exact .inl (String.toList_eq_nil_iff.mp written)
  | cons first rest =>
      rw [written, List.head?_cons, ne_eq, Option.some_inj] at noBlank noClosing
      exact .inr ⟨0, first, rest, written, noBlank, by rw [if_neg noClosing]⟩

/-- Lines that stand where the brackets put them, and whose brackets are nested. -/
structure TidyLines (lines : List String) : Prop where
  laidOut : LaidOut 0 lines 0
  nested : Nested (lines.flatMap String.toList)

theorem TidyLines.nil : TidyLines [] := ⟨.nil, .nil⟩

theorem TidyLines.single {text : String} (tidy : IsTidyText text) : TidyLines [text] where
  laidOut := .single tidy.noBlank tidy.nested.head_ne_closing tidy.nested.count_curly
  nested := by simpa using tidy.nested

theorem TidyLines.append {first second : List String} (firstTidy : TidyLines first)
    (secondTidy : TidyLines second) : TidyLines (first ++ second) := by
  refine ⟨firstTidy.laidOut.append secondTidy.laidOut, ?_⟩
  rw [List.flatMap_append]
  exact firstTidy.nested.append secondTidy.nested

theorem TidyLines.flatten {pieces : List (List String)}
    (tidy : ∀ piece ∈ pieces, TidyLines piece) : TidyLines pieces.flatten := by
  induction pieces with
  | nil => exact .nil
  | cons piece rest ih =>
      rw [List.forall_mem_cons] at tidy
      exact tidy.1.append (ih tidy.2)

theorem TidyLines.splice {lines more : List String} (tidy : TidyLines lines)
    (moreTidy : TidyLines more) : TidyLines (splice lines more) := by
  refine ⟨tidy.laidOut.splice moreTidy.laidOut, ?_⟩
  rw [characters_splice]
  exact tidy.nested.append moreTidy.nested

theorem TidyLines.spliceAll {start : List String} {pieces : List (List String)}
    (tidy : TidyLines start) (piecesTidy : ∀ piece ∈ pieces, TidyLines piece) :
    TidyLines (spliceAll start pieces) := by
  refine ⟨tidy.laidOut.spliceAll fun piece member => (piecesTidy piece member).laidOut, ?_⟩
  rw [characters_spliceAll]
  exact tidy.nested.append (TidyLines.flatten piecesTidy).nested

theorem TidyLines.dotted {lines : List String} (tidy : TidyLines lines) :
    TidyLines (dotted lines) := by
  refine ⟨tidy.laidOut.dotted, ?_⟩
  rw [characters_dotted]
  exact .plain rfl tidy.nested

theorem TidyLines.chainLines {links : List (List String)}
    (tidy : ∀ link ∈ links, TidyLines link) : TidyLines (chainLines links) := by
  cases links with
  | nil => exact .nil
  | cons first later =>
      rw [List.forall_mem_cons] at tidy
      rw [Fragment.chainLines, ← List.flatten_cons]
      refine .flatten (List.forall_mem_cons.mpr ⟨tidy.1, ?_⟩)
      rw [List.forall_mem_map]
      exact fun link member => (tidy.2 link member).dotted

theorem TidyLines.block {header : Option String} (headerTidy : ∀ text ∈ header, IsTidyText text)
    {body : List String} (tidy : TidyLines body) :
    TidyLines (header.toList ++ ["\x7b"] ++ body.map indent ++ ["\x7d"]) := by
  have headerLines : TidyLines header.toList := by
    cases header with
    | none => exact .nil
    | some text => exact .single (headerTidy text rfl)
  have opens : LaidOut 0 ["\x7b"] 1 :=
    .cons (.inr ⟨0, '\x7b', [], rfl, by decide, rfl⟩) rfl .nil
  have closes : LaidOut 1 ["\x7d"] 0 :=
    .cons (.inr ⟨0, '\x7d', [], rfl, by decide, rfl⟩) rfl .nil
  refine ⟨((headerLines.laidOut.append opens).append tidy.laidOut.indent).append closes, ?_⟩
  have indented : Nested ((body.map indent).flatMap String.toList) := by
    rw [← String.toList_join]
    refine tidy.nested.congr ?_
    rw [filter_join_indent rfl, String.toList_join]
  have enclosed := headerLines.nested.append (.enclosed .curly indented .nil)
  simpa using enclosed

theorem TidyLines.call {callee : String} (calleeTidy : IsTidyText callee)
    {pieces : List (List String)} (tidy : ∀ piece ∈ pieces, TidyLines piece) :
    TidyLines (Fragment.splice (Fragment.spliceAll [callee ++ "("] pieces) [")"]) := by
  constructor
  · have begins : LaidOut 0 [callee ++ "("] 0 := by
      have counted := calleeTidy.nested.count_curly
      have begun {character : Char} (other : character ≠ '(')
          (unread : callee.toList.head? ≠ some character) :
          (callee ++ "(").toList.head? ≠ some character := by
        rw [String.toList_append]
        cases written : callee.toList with
        | nil => simpa using other.symm
        | cons first rest => simpa [written] using unread
      exact .single (begun (by decide) calleeTidy.noBlank)
        (begun (by decide) calleeTidy.nested.head_ne_closing) (by simpa using counted)
    have arguments := begins.spliceAll fun piece member => (tidy piece member).laidOut
    exact arguments.splice (.single (by decide) (by decide) (by decide))
  · rw [characters_splice, characters_spliceAll]
    have enclosed : Nested _ :=
      calleeTidy.nested.append (.enclosed .round (TidyLines.flatten tidy).nested .nil)
    simpa using enclosed

/-- A node whose own texts are tidy.  What it assigns to has a name. -/
def IsTidyNode (node : Fragment) : Prop :=
  (∀ text ∈ node.texts, IsTidyText text) ∧ node.assigned? ≠ some ""

instance : DecidablePred IsTidyNode := fun node =>
  inferInstanceAs (Decidable ((∀ text ∈ node.texts, IsTidyText text) ∧ node.assigned? ≠ some ""))

theorem tidyLines_lines {fragment : Fragment} (tidy : fragment.AllNodes IsTidyNode) :
    TidyLines fragment.lines := by
  have eachTidy {children : List Fragment}
      (tidyChildren : ∀ child ∈ children, TidyLines child.lines) :
      ∀ piece ∈ linesOfEach children, TidyLines piece := by
    rw [linesOfEach_eq_map, List.forall_mem_map]
    exact tidyChildren
  induction fragment with
  | quotedInclude path =>
      have pathTidy : IsTidyText path := tidy.self.1 path (by simp [texts])
      rw [lines, String.append_assoc]
      refine .single (.append (by decide) (by decide) ?_)
      rw [String.toList_append]
      exact pathTidy.nested.append (by decide)
  | systemInclude path =>
      have pathTidy : IsTidyText path := tidy.self.1 path (by simp [texts])
      rw [lines, String.append_assoc]
      refine .single (.append (by decide) (by decide) ?_)
      rw [String.toList_append]
      exact pathTidy.nested.append (by decide)
  | line text =>
      rw [lines]
      exact .single (tidy.self.1 text (by simp [texts]))
  | comment text =>
      have textTidy : IsTidyText text := tidy.self.1 text (by simp [texts])
      rw [lines]
      exact .single (.append (by decide) (by decide) textTidy.nested)
  | statement inner ih =>
      rw [lines, terminate]
      exact (ih (tidy.child (by simp [children]))).splice (.single (by decide))
  | assignment target value =>
      have targetTidy : IsTidyText target := tidy.self.1 target (by simp [texts])
      have valueTidy : IsTidyText value := tidy.self.1 value (by simp [texts])
      have named : target ≠ "" := by
        rintro rfl
        exact tidy.self.2 rfl
      rw [lines, String.append_assoc, String.append_assoc]
      refine .single (targetTidy.append named ?_)
      rw [String.toList_append, String.toList_append]
      exact .append (by decide) (valueTidy.nested.append (by decide))
  | block header body ih =>
      have headerTidy : ∀ text ∈ header, IsTidyText text := fun text given =>
        tidy.self.1 text (by simpa [texts] using given)
      rw [lines]
      refine .block headerTidy (.flatten ?_)
      exact eachTidy fun child member => ih child member (tidy.child member)
  | call callee arguments ih =>
      rw [lines]
      refine .call (tidy.self.1 callee (by simp [texts])) ?_
      refine forall_mem_separated (.single (by decide)) ?_
      exact eachTidy fun child member => ih child member (tidy.child member)
  | joined parts separator ih =>
      rw [lines]
      refine .spliceAll (.single (by decide)) ?_
      refine forall_mem_separated (.single (tidy.self.1 separator (by simp [texts]))) ?_
      exact eachTidy fun child member => ih child member (tidy.child member)
  | chain links ih =>
      rw [lines]
      exact .chainLines (eachTidy fun child member => ih child member (tidy.child member))
  | group children ih =>
      rw [lines]
      exact .flatten (eachTidy fun child member => ih child member (tidy.child member))

/-- The lines of a tidy fragment, put one behind the other, have nested brackets, and every line
that is not empty is moved to the right as far as the curly brackets say that are open before it.
A line is an entry of the list, also if a text with line feeds is part of it. -/
theorem lines_follow_nesting (fragment : Fragment) (tidy : fragment.AllNodes IsTidyNode) :
    Nested (fragment.lines.flatMap String.toList) ∧
      ∀ before line after, fragment.lines = before ++ line :: after → line ≠ "" →
        ∃ depth margin first rest,
          (before.flatMap String.toList).count '\x7b' =
            depth + (before.flatMap String.toList).count '\x7d' ∧
          line.toList = List.replicate (2 * margin) ' ' ++ first :: rest ∧ first ≠ ' ' ∧
          margin + (if first = '\x7d' then 1 else 0) = depth := by
  have tidyLines := tidyLines_lines tidy
  refine ⟨tidyLines.nested, fun before line after split nonempty => ?_⟩
  have laidOut := tidyLines.laidOut
  rw [split] at laidOut
  obtain ⟨depth, counted, stands⟩ := laidOut.stands_at
  obtain ⟨margin, first, rest, written, noBlank, placed⟩ := stands.resolve_left nonempty
  exact ⟨depth, margin, first, rest, by omega, written, noBlank, placed⟩

/-- A call with a block as its argument inside another one. -/
def nestedCall : Fragment :=
  .statement (.call "each" [
    .block (some "[](auto& rows)") [
      .call "rows.apply" [.block none [.line "pick(\x7b1, 2\x7d)", .blank, .assignment "k" "v"]]],
    .line "rest"])

theorem nestedCall_lines_follow_nesting :
    nestedCall.AllNodes IsTidyNode ∧
      nestedCall.lines = ["each([](auto& rows)", "\x7b", "  rows.apply(\x7b",
        "    pick(\x7b1, 2\x7d)", "", "    k = v;"] ++ "  \x7d)" :: ["\x7d, rest);"] ∧
      Nested (nestedCall.lines.flatMap String.toList) ∧
      ∃ margin first rest, "  \x7d)".toList = List.replicate (2 * margin) ' ' ++ first :: rest ∧
        first ≠ ' ' ∧ margin + (if first = '\x7d' then 1 else 0) = 2 := by
  have tidy : nestedCall.AllNodes IsTidyNode := by decide +kernel
  have split : nestedCall.lines = ["each([](auto& rows)", "\x7b", "  rows.apply(\x7b",
      "    pick(\x7b1, 2\x7d)", "", "    k = v;"] ++ "  \x7d)" :: ["\x7d, rest);"] := by
    decide +kernel
  obtain ⟨nested, placed⟩ := lines_follow_nesting nestedCall tidy
  obtain ⟨depth, margin, first, rest, counted, stands⟩ := placed _ _ _ split (by decide)
  obtain rfl : depth = 2 := Nat.add_right_cancel (counted.symm.trans (by decide +kernel))
  exact ⟨tidy, split, nested, margin, first, rest, stands⟩

end OperatorSource.Fragment
