import OperatorSource.Proofs.RegistryHistory
import Mathlib.Data.Finset.Card
import Mathlib.Data.List.Basic

/-!
# The order of linked operators

Linked operators come in no particular order.  As long as their names differ, the registry that
they are collected into is the same for every order, and collecting them again changes nothing.
Each of them is then found under its name, whatever was registered under it before.

A registry in order is determined by what is found under each name, which its history tells.  So it
is enough to see what registrations with different names add to a history.
-/

namespace OperatorSource

namespace Registry

theorem mem_items_iff {registry : Registry} (ordered : Ordered registry.items) {item : Item} :
    item ∈ registry.items ↔ registry.get? item.1 = some item.2 := by
  refine ⟨get?_of_mem ordered, fun found => ?_⟩
  obtain ⟨other, isFound, sameEntry⟩ := Option.map_eq_some_iff.mp found
  have sameName : other.1 = item.1 := by simpa using List.find?_some isFound
  have same : other = item := Prod.ext sameName sameEntry
  exact same ▸ List.mem_of_find?_eq_some isFound

theorem eq_of_get?_eq {first second : Registry} (firstOrdered : Ordered first.items)
    (secondOrdered : Ordered second.items) (same : ∀ name, first.get? name = second.get? name) :
    first = second := by
  have nodup {items : List Item} (ordered : Ordered items) : items.Nodup :=
    ordered.imp fun less equal => String.ne_of_lt less (congrArg Prod.fst equal)
  have permuted : first.items.Perm second.items := by
    rw [List.perm_ext_iff_of_nodup (nodup firstOrdered) (nodup secondOrdered)]
    intro item
    rw [mem_items_iff firstOrdered, mem_items_iff secondOrdered, same]
  have items_eq : first.items = second.items := by
    refine permuted.eq_of_pairwise ?_ firstOrdered secondOrdered
    intro one other _ _ less greater
    exact absurd (String.lt_trans less greater) (String.lt_irrefl one.1)
  cases first
  cases second
  exact congrArg Registry.mk items_eq

theorem Remembers.eq_of_lastUnder_iff {first second : Registry}
    {firstHistory secondHistory : List Item} (firstRemembers : first.Remembers firstHistory)
    (secondRemembers : second.Remembers secondHistory)
    (same : ∀ name entry,
      LastUnder firstHistory name entry ↔ LastUnder secondHistory name entry) :
    first = second := by
  refine eq_of_get?_eq firstRemembers.ordered secondRemembers.ordered fun name => ?_
  ext entry
  rw [firstRemembers.get?_eq_some_iff, secondRemembers.get?_eq_some_iff, same]

/-- Registrations with different names are all last under theirs; under any other name the history
before them decides. -/
theorem lastUnder_append_iff {linked : List Item} (distinct : (linked.map Prod.fst).Nodup)
    (history : List Item) {name : String} {entry : CatalogEntry} :
    LastUnder (history ++ linked) name entry ↔
      (name, entry) ∈ linked ∨ name ∉ linked.map Prod.fst ∧ LastUnder history name entry := by
  induction linked using List.reverseRecOn with
  | nil => simp
  | append_singleton earlier item ih =>
      rw [List.map_append, List.nodup_append] at distinct
      obtain ⟨earlierDistinct, _, notEarlier⟩ := distinct
      rw [← List.append_assoc, lastUnder_concat_iff, ih earlierDistinct]
      obtain ⟨itemName, itemEntry⟩ := item
      by_cases sameName : itemName = name
      · subst sameName
        have absent : ∀ other, (itemName, other) ∉ earlier := fun other member =>
          notEarlier itemName (List.mem_map_of_mem member) itemName (by simp) rfl
        simp [absent, eq_comm]
      · simp [sameName, Ne.symm sameName]

variable {registry : Registry} {history : List Item}

/-- Linked operators are collected into the same registry in every order. -/
theorem Remembers.registerAll_eq_of_perm (remembers : registry.Remembers history)
    {linked permuted : List Item} (distinct : (linked.map Prod.fst).Nodup)
    (permutation : permuted.Perm linked) :
    registry.registerAll permuted = registry.registerAll linked := by
  refine (remembers.registerAll permuted).eq_of_lastUnder_iff (remembers.registerAll linked) ?_
  have permutedDistinct : (permuted.map Prod.fst).Nodup :=
    (permutation.map Prod.fst).nodup_iff.mpr distinct
  intro name entry
  rw [lastUnder_append_iff permutedDistinct, lastUnder_append_iff distinct, permutation.mem_iff,
    (permutation.map Prod.fst).mem_iff]

/-- Linked operators that have been collected are collected again without effect. -/
theorem Remembers.registerAll_registerAll (remembers : registry.Remembers history)
    {linked : List Item} (distinct : (linked.map Prod.fst).Nodup) :
    (registry.registerAll linked).registerAll linked = registry.registerAll linked := by
  have once := remembers.registerAll linked
  refine (once.registerAll linked).eq_of_lastUnder_iff once fun name entry => ?_
  rw [lastUnder_append_iff distinct, lastUnder_append_iff distinct]
  tauto

theorem Remembers.get?_registerAll_of_mem (remembers : registry.Remembers history)
    {linked : List Item} (distinct : (linked.map Prod.fst).Nodup) {item : Item}
    (member : item ∈ linked) : (registry.registerAll linked).get? item.1 = some item.2 := by
  rw [(remembers.registerAll linked).get?_eq_some_iff, lastUnder_append_iff distinct]
  exact .inl member

theorem Remembers.get?_registerAll_of_notMem (remembers : registry.Remembers history)
    {linked : List Item} (distinct : (linked.map Prod.fst).Nodup) {name : String}
    (unlinked : name ∉ linked.map Prod.fst) :
    (registry.registerAll linked).get? name = registry.get? name := by
  have absent : ∀ entry, (name, entry) ∉ linked := fun entry member =>
    unlinked (List.mem_map_of_mem member)
  ext entry
  rw [(remembers.registerAll linked).get?_eq_some_iff, lastUnder_append_iff distinct,
    remembers.get?_eq_some_iff]
  exact ⟨fun last => last.resolve_left (absent entry) |>.2, fun last => .inr ⟨unlinked, last⟩⟩

/-- Every name counts once, whether it was there before, is linked, or both. -/
theorem Remembers.size_registerAll (remembers : registry.Remembers history)
    {linked : List Item} (distinct : (linked.map Prod.fst).Nodup) :
    (registry.registerAll linked).size =
      (registry.names.toFinset ∪ (linked.map Prod.fst).toFinset).card := by
  have ordered := (remembers.registerAll linked).ordered
  have nodup : (registry.registerAll linked).names.Nodup :=
    List.pairwise_map.mpr (ordered.imp String.ne_of_lt)
  have names_eq : (registry.registerAll linked).names.toFinset =
      registry.names.toFinset ∪ (linked.map Prod.fst).toFinset := by
    ext name
    rw [Finset.mem_union, List.mem_toFinset, List.mem_toFinset, List.mem_toFinset,
      ← isSome_get?_iff, ← isSome_get?_iff]
    by_cases isLinked : name ∈ linked.map Prod.fst
    · obtain ⟨item, member, rfl⟩ := List.mem_map.mp isLinked
      rw [remembers.get?_registerAll_of_mem distinct member]
      simp [isLinked]
    · rw [remembers.get?_registerAll_of_notMem distinct isLinked]
      simp only [isLinked, or_false]
  rw [size, ← List.length_map (f := Prod.fst), ← names_eq, List.toFinset_card_of_nodup nodup, names]

variable {ε : Type} {linked permuted : List Item}

theorem Remembers.collect_eq_of_perm (remembers : registry.Remembers history)
    (distinct : (linked.map Prod.fst).Nodup) (permutation : permuted.Perm linked) :
    (registry.collect permuted : Traced ε Registry) = registry.collect linked := by
  rw [collect, collect, remembers.registerAll_eq_of_perm distinct permutation]

theorem Remembers.perform_eq_of_perm (remembers : registry.Remembers history)
    (distinct : (linked.map Prod.fst).Nodup) (permutation : permuted.Perm linked)
    (operation : Operation) :
    (operation.perform permuted registry : Traced ε Registry) =
      operation.perform linked registry := by
  cases operation with
  | new => rfl
  | withInventory => exact remembers_empty.collect_eq_of_perm distinct permutation
  | collectInventory => exact remembers.collect_eq_of_perm distinct permutation
  | registerBuiltin builtin => rfl
  | register name entry => rfl

theorem Remembers.run_eq_of_perm (remembers : registry.Remembers history)
    (distinct : (linked.map Prod.fst).Nodup) (permutation : permuted.Perm linked)
    (operations : List Operation) :
    (registry.run permuted operations : Traced ε Registry) = registry.run linked operations := by
  induction operations generalizing registry history with
  | nil => rfl
  | cons operation rest ih =>
      obtain ⟨next, performed, remembersNext⟩ := remembers.perform (ε := ε) linked operation
      rw [Registry.run, Registry.run, remembers.perform_eq_of_perm distinct permutation,
        Traced.bind_of_ok performed, Traced.bind_of_ok performed, ih remembersNext]

/-- The order in which operators with different names are linked does not show.  Whatever was done
with a registry before, and whichever operators were linked then, collecting them in any order
gives the same registry, which collecting them once more leaves as it is: each linked operator is
under its name, every other name keeps its operator, and each name counts once.  Nor can any run of
operations tell one order from another. -/
theorem collect_in_any_order (distinct : (linked.map Prod.fst).Nodup)
    (permutation : permuted.Perm linked) (linkedBefore : List Item)
    (operations : List Operation) :
    ∃ registry collected,
      (empty.run linkedBefore operations : Traced ε Registry).result = .ok registry ∧
      (registry.collect linked : Traced ε Registry).result = .ok collected ∧
      (registry.collect permuted : Traced ε Registry) = registry.collect linked ∧
      (collected.collect linked : Traced ε Registry).result = .ok collected ∧
      (∀ item ∈ linked, collected.get? item.1 = some item.2) ∧
      (∀ name, name ∉ linked.map Prod.fst → collected.get? name = registry.get? name) ∧
      collected.size = (registry.names.toFinset ∪ (linked.map Prod.fst).toFinset).card ∧
      (empty.run permuted operations : Traced ε Registry) = empty.run linked operations := by
  obtain ⟨registry, ran, remembers⟩ := remembers_empty.run (ε := ε) linkedBefore operations
  refine ⟨registry, registry.registerAll linked, ran, result_collect registry linked,
    remembers.collect_eq_of_perm distinct permutation, ?_,
    fun item member => remembers.get?_registerAll_of_mem distinct member,
    fun name unlinked => remembers.get?_registerAll_of_notMem distinct unlinked,
    remembers.size_registerAll distinct,
    remembers_empty.run_eq_of_perm distinct permutation operations⟩
  rw [result_collect, remembers.registerAll_registerAll distinct]

/-- The builtin operators, collected backwards where another operator has one of their names. -/
theorem inventory_in_reverse_order :
    (inventory.map Prod.fst).Nodup ∧ inventory.reverse.Perm inventory ∧
      ∃ registry collected,
        (empty.run [("Zero", Builtin.batchNorm.entry)]
          [.withInventory, .register "Zoé" Builtin.layerNorm.entry] :
            Traced Empty Registry).result = .ok registry ∧
        registry.get? "Zero" = some Builtin.batchNorm.entry ∧
        (registry.collect inventory.reverse : Traced Empty Registry).result = .ok collected ∧
        (collected.collect inventory : Traced Empty Registry).result = .ok collected ∧
        collected.get? "Zero" = some Builtin.zero.entry ∧
        collected.get? "Zoé" = some Builtin.layerNorm.entry ∧ collected.size = 5 := by
  have distinct : (inventory.map Prod.fst).Nodup := by decide
  have reversed : inventory.reverse.Perm inventory := List.reverse_perm inventory
  have ranTo : (empty.run [("Zero", Builtin.batchNorm.entry)]
      [.withInventory, .register "Zoé" Builtin.layerNorm.entry] : Traced Empty Registry).result =
        .ok ⟨[("Zero", Builtin.batchNorm.entry), ("Zoé", Builtin.layerNorm.entry)]⟩ := by
    decide
  obtain ⟨registry, collected, ran, once, backwards, twice, bound, kept, counted, _⟩ :=
    collect_in_any_order (ε := Empty) distinct reversed [("Zero", Builtin.batchNorm.entry)]
      [.withInventory, .register "Zoé" Builtin.layerNorm.entry]
  obtain rfl := Except.ok.inj (ranTo.symm.trans ran)
  refine ⟨distinct, reversed, _, collected, ran, by decide,
    (congrArg Traced.result backwards).trans once, twice,
    bound ("Zero", Builtin.zero.entry) (by decide), ?_, counted.trans (by decide)⟩
  rw [kept "Zoé" (by decide)]
  decide

/-- Where two linked operators have one name their order does show. -/
example :
    empty.registerAll [("Zero", Builtin.zero.entry), ("Zero", Builtin.batchNorm.entry)] ≠
      empty.registerAll [("Zero", Builtin.batchNorm.entry), ("Zero", Builtin.zero.entry)] := by
  decide

end Registry

end OperatorSource
