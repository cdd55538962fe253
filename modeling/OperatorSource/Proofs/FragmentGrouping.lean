import OperatorSource.Proofs.FragmentLines
import Mathlib.Data.List.Basic

/-!
# Grouping does not show

Fragments may be put together one by one or first into groups of their own.  Where a group is one of
the same kind as what it stands in, with the same separator if there is one, its members could as
well stand there themselves: the lines are the same.

This rests on splicing being associative.  No lines at all change nothing on either side; one empty
line changes nothing in front of any line, nor behind one.
-/

namespace OperatorSource.Fragment

theorem splice_ne_nil {lines : List String} (linesSome : lines ≠ []) (more : List String) :
    splice lines more ≠ [] := by
  fun_cases splice lines more with
  | case1 => exact absurd rfl linesSome
  | case2 last => exact List.cons_ne_nil _ _
  | case3 last first rest => exact List.cons_ne_nil _ _
  | case4 head next rest => exact List.cons_ne_nil _ _

theorem splice_cons_of_ne_nil {rest : List String} (restSome : rest ≠ []) (head : String)
    (more : List String) : splice (head :: rest) more = head :: splice rest more := by
  cases rest with
  | nil => exact absurd rfl restSome
  | cons next rest => rw [splice]

theorem splice_assoc (first second third : List String) :
    splice (splice first second) third = splice first (splice second third) := by
  fun_induction splice first second with
  | case1 second => rfl
  | case2 last => rfl
  | case3 last line rest =>
      -- The line that goes behind `last` may itself be continued by the third piece.
      cases rest with
      | cons next rest => simp [splice]
      | nil => cases third <;> simp [splice, String.append_assoc]
  | case4 head next rest second ih =>
      rw [splice_cons_of_ne_nil (splice_ne_nil (List.cons_ne_nil next rest) second), ih, splice]

instance : Std.Associative splice := ⟨splice_assoc⟩

theorem splice_spliceAll (before start : List String) (pieces : List (List String)) :
    splice before (spliceAll start pieces) = spliceAll (splice before start) pieces :=
  List.foldl_assoc.symm

theorem spliceAll_append (start : List String) (first second : List (List String)) :
    spliceAll start (first ++ second) = spliceAll (spliceAll start first) second :=
  List.foldl_append

/-- Between two runs of pieces stands one more separator. -/
theorem separated_append {first second : List (List String)} (firstSome : first ≠ [])
    (secondSome : second ≠ []) (separator : String) :
    separated separator (first ++ second) =
      separated separator first ++ [separator] :: separated separator second := by
  induction first with
  | nil => exact absurd rfl firstSome
  | cons piece rest ih =>
      cases rest with
      | nil =>
          cases second with
          | nil => exact absurd rfl secondSome
          | cons next second => rfl
      | cons next rest =>
          have later := ih (List.cons_ne_nil next rest)
          simp only [separated, List.cons_append, List.intersperse_cons_cons] at later ⊢
          rw [later]

theorem lines_joined (parts : List Fragment) (separator : String) :
    (joined parts separator).lines = spliceAll [""] (separated separator (parts.map lines)) := by
  rw [lines, linesOfEach_eq_map]

theorem lines_chain (links : List Fragment) :
    (chain links).lines = chainLines (links.map lines) := by
  rw [lines, linesOfEach_eq_map]

theorem lines_group (children : List Fragment) :
    (group children).lines = children.flatMap lines := by
  rw [lines, linesOfEach_eq_map, List.flatMap_def]

theorem lines_group_in_group (before inner after : List Fragment) :
    (group (before ++ [group inner] ++ after)).lines =
      (group (before ++ inner ++ after)).lines := by
  simp only [lines_group, List.flatMap_append, List.flatMap_singleton]

/-- Behind another line a join goes on with its pieces, as if it had no line of its own to begin
with. -/
theorem splice_lines_joined (before : List String) (line : String) (parts : List Fragment)
    (separator : String) :
    splice (splice before [line]) (joined parts separator).lines =
      spliceAll (splice before [line]) (separated separator (parts.map lines)) := by
  rw [lines_joined, splice_spliceAll, splice_assoc, splice_singleton_cons, String.append_empty]

theorem lines_joined_of_joined {first second : List Fragment} (firstSome : first ≠ [])
    (secondSome : second ≠ []) (separator : String) :
    (joined [joined first separator, joined second separator] separator).lines =
      (joined (first ++ second) separator).lines := by
  have mapSome {parts : List Fragment} (partsSome : parts ≠ []) : parts.map lines ≠ [] :=
    fun none => partsSome (List.map_eq_nil_iff.mp none)
  have begun : splice [""] (joined first separator).lines = (joined first separator).lines := by
    rw [lines_joined, splice_spliceAll, splice_singleton_cons, String.append_empty]
  calc (joined [joined first separator, joined second separator] separator).lines
      = splice (splice (splice [""] (joined first separator).lines) [separator])
          (joined second separator).lines := by
        rw [lines_joined]
        rfl
    _ = spliceAll (splice (joined first separator).lines [separator])
          (separated separator (second.map lines)) := by
        rw [begun, splice_lines_joined]
    _ = spliceAll [""] (separated separator (first.map lines) ++
          [separator] :: separated separator (second.map lines)) := by
        rw [spliceAll_append, ← lines_joined]
        rfl
    _ = (joined (first ++ second) separator).lines := by
        rw [lines_joined, List.map_append,
          separated_append (mapSome firstSome) (mapSome secondSome)]

theorem lines_chain_begun_by_chain {first : List Fragment} (firstSome : first ≠ [])
    (later : List Fragment) :
    (chain ([chain first] ++ later)).lines = (chain (first ++ later)).lines := by
  obtain ⟨link, links, rfl⟩ := List.exists_cons_of_ne_nil firstSome
  simp only [lines_chain, List.cons_append, List.nil_append, List.map_cons, List.map_append,
    chainLines_cons, List.flatMap_append, List.append_assoc]

/-- Only the first line of a link gets a dot, if there is one. -/
theorem dotted_append {first : List String} (firstSome : first ≠ []) (second : List String) :
    dotted (first ++ second) = dotted first ++ second := by
  obtain ⟨line, rest, rfl⟩ := List.exists_cons_of_ne_nil firstSome
  rfl

theorem lines_chain_ended_by_chain {first : List Fragment} (firstSome : first ≠ [])
    {link : Fragment} (occupies : link.lines ≠ []) (links : List Fragment) :
    (chain (first ++ [chain (link :: links)])).lines =
      (chain (first ++ link :: links)).lines := by
  obtain ⟨begun, middle, rfl⟩ := List.exists_cons_of_ne_nil firstSome
  simp only [lines_chain, List.cons_append, List.map_cons, List.map_append, List.map_nil,
    chainLines_cons, List.flatMap_append, List.flatMap_cons, List.flatMap_nil, List.append_nil,
    dotted_append occupies]

theorem render_group (children : List Fragment) :
    (group children).render = String.join (children.map render) := by
  rw [render, lines_group]
  induction children with
  | nil => rfl
  | cons child rest ih =>
      rw [List.flatMap_cons, unlines_append, ih, List.map_cons, String.join_cons, render]

/-- Groups in groups, joins in joins with the same separator, and chains at the beginning or the end
of chains give the lines of their members; and a sequence is rendered as a group of its members or
one by one. -/
theorem grouping_keeps_lines (first second third : List Fragment) (separator : String) :
    (group (first ++ [group second] ++ third)).lines =
        (group (first ++ second ++ third)).lines ∧
      renderAll first = (group first).render ∧
      renderAll first = String.join (first.map render) ∧
      (first ≠ [] → second ≠ [] →
        (joined [joined first separator, joined second separator] separator).lines =
          (joined (first ++ second) separator).lines) ∧
      (first ≠ [] →
        (chain ([chain first] ++ second)).lines = (chain (first ++ second)).lines) ∧
      (first ≠ [] → (∃ link ∈ second.head?, link.lines ≠ []) →
        (chain (first ++ [chain second])).lines = (chain (first ++ second)).lines) := by
  refine ⟨lines_group_in_group first second third, (render_group first).symm, rfl,
    fun firstSome secondSome => lines_joined_of_joined firstSome secondSome separator,
    fun firstSome => lines_chain_begun_by_chain firstSome second, ?_⟩
  rintro firstSome ⟨link, begins, occupies⟩
  obtain ⟨links, rfl⟩ := List.head?_eq_some_iff.mp begins
  exact lines_chain_ended_by_chain firstSome occupies links

/-- Parts that end on a block. -/
def blockLast : List Fragment := [.line "rows", .block none []]

/-- Parts that begin with a block, with one that occupies no line behind it. -/
def blockFirst : List Fragment := [.block (some "each()") [.line "k"], .group [], .line "end"]

theorem grouping_keeps_lines_of_blocks :
    (blockLast ≠ [] ∧ blockFirst ≠ [] ∧ ∃ link ∈ blockFirst.head?, link.lines ≠ []) ∧
      (joined [joined blockLast " + ", joined blockFirst " + "] " + ").lines =
        (joined (blockLast ++ blockFirst) " + ").lines ∧
      (joined (blockLast ++ blockFirst) " + ").lines =
        ["rows + \x7b", "\x7d + each()", "\x7b", "  k", "\x7d +  + end"] ∧
      (chain ([chain blockLast] ++ blockFirst)).lines = (chain (blockLast ++ blockFirst)).lines ∧
      (chain (blockLast ++ [chain blockFirst])).lines = (chain (blockLast ++ blockFirst)).lines ∧
      (chain (blockLast ++ blockFirst)).lines =
        ["rows", ".\x7b", "\x7d", ".each()", "\x7b", "  k", "\x7d", ".", ".end"] := by
  have begins : ∃ link ∈ blockFirst.head?, link.lines ≠ [] := ⟨_, rfl, by decide +kernel⟩
  have lastSome : blockLast ≠ [] := List.cons_ne_nil _ _
  have firstSome : blockFirst ≠ [] := List.cons_ne_nil _ _
  obtain ⟨_, _, _, join, begun, ended⟩ := grouping_keeps_lines blockLast blockFirst [] " + "
  exact ⟨⟨lastSome, firstSome, begins⟩, join lastSome firstSome, by decide +kernel,
    begun lastSome, ended lastSome begins, by decide +kernel⟩

/-- An inner chain that begins with a link of no lines does show. -/
example :
    (chain [.line "rows", chain [.group [], .line "end"]]).lines = ["rows", "..end"] ∧
      (chain [.line "rows", .group [], .line "end"]).lines = ["rows", ".", ".end"] := by
  decide +kernel

end OperatorSource.Fragment
