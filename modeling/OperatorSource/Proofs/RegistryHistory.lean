import OperatorSource.Catalog.Registry
import OperatorSource.Proofs.OctetOrder

/-!
# What a registry remembers of its history

A registry is made anew, filled with all linked operators or given single ones, in any order and any
number of times.  What is registered last under a name since the registry was made is what the
registry has under it, and there is nothing else.  The names stand in increasing order of their
octets.  Each operation is proved to keep this, and then every run of operations does, whichever
operators are linked.
-/

namespace OperatorSource

namespace Registry

/-- An operator with the name that it is registered under. -/
abbrev Item := String × CatalogEntry

/-- The names increase, so that no name is there twice. -/
def Ordered (items : List Item) : Prop := items.Pairwise fun earlier later => earlier.1 < later.1

theorem mem_insert {name : String} {entry : CatalogEntry} {items : List Item} {item : Item}
    (member : item ∈ insert name entry items) : item = (name, entry) ∨ item ∈ items := by
  induction items with
  | nil => exact .inl (List.mem_singleton.mp member)
  | cons first rest ih =>
      rw [insert] at member
      split at member
      · exact List.mem_cons.mp member
      · split at member
        · exact (List.mem_cons.mp member).imp_right (List.mem_cons_of_mem first)
        · rcases List.mem_cons.mp member with same | later
          · exact .inr (same ▸ List.mem_cons_self)
          · exact (ih later).imp_right (List.mem_cons_of_mem first)

theorem ordered_insert (name : String) (entry : CatalogEntry) {items : List Item}
    (ordered : Ordered items) : Ordered (insert name entry items) := by
  induction items with
  | nil => exact List.pairwise_singleton _ _
  | cons first rest ih =>
      obtain ⟨firstLeast, restOrdered⟩ := List.pairwise_cons.mp ordered
      rw [insert]
      split
      · rename_i less
        refine List.pairwise_cons.mpr ⟨fun later member => ?_, ordered⟩
        rcases List.mem_cons.mp member with rfl | member
        · exact less
        · exact String.lt_trans less (firstLeast later member)
      · rename_i notLess
        split
        · rename_i same
          exact List.pairwise_cons.mpr ⟨fun later member => same ▸ firstLeast later member,
            restOrdered⟩
        · rename_i different
          refine List.pairwise_cons.mpr ⟨fun later member => ?_, ih restOrdered⟩
          rcases mem_insert member with rfl | member
          · by_contra notGreater
            exact different (String.le_antisymm notGreater notLess)
          · exact firstLeast later member

theorem find?_insert (name other : String) (entry : CatalogEntry) (items : List Item) :
    (insert name entry items).find? (fun item => item.1 == other) =
      if name = other then some (name, entry) else items.find? (fun item => item.1 == other) := by
  induction items with
  | nil => by_cases same : name = other <;> simp [insert, same]
  | cons first rest ih =>
      rw [insert]
      split
      · by_cases same : name = other <;> simp [List.find?_cons, same]
      · split
        · rename_i taken
          by_cases same : name = other <;> simp [← taken, same]
        · rename_i different
          by_cases found : first.1 = other
          · have another : name ≠ other := found ▸ different
            simp [found, another]
          · simp [found, ih]

/-- A registered operator takes its name, and every other name keeps its operator. -/
theorem get?_register (registry : Registry) (name other : String) (entry : CatalogEntry) :
    (registry.register name entry).get? other =
      if name = other then some entry else registry.get? other := by
  rw [get?, get?, register, find?_insert]
  split <;> rfl

/-- The last of some registrations under a name is of this operator. -/
def LastUnder (history : List Item) (name : String) (entry : CatalogEntry) : Prop :=
  ∃ before after, history = before ++ (name, entry) :: after ∧ ∀ item ∈ after, item.1 ≠ name

theorem not_lastUnder_nil {name : String} {entry : CatalogEntry} : ¬ LastUnder [] name entry := by
  rintro ⟨before, after, split, _⟩
  simp at split

theorem lastUnder_concat_iff {history : List Item} {item : Item} {name : String}
    {entry : CatalogEntry} :
    LastUnder (history ++ [item]) name entry ↔
      if item.1 = name then item.2 = entry else LastUnder history name entry := by
  constructor
  · rintro ⟨before, after, split, untouched⟩
    rcases List.eq_nil_or_concat after with rfl | ⟨others, last, rfl⟩
    · obtain ⟨_, same⟩ := List.append_inj' split rfl
      cases same
      rw [if_pos rfl]
    · have regrouped : history ++ [item] = (before ++ (name, entry) :: others) ++ [last] := by
        rw [split, List.concat_eq_append, List.append_assoc, List.cons_append]
      obtain ⟨rfl, same⟩ := List.append_inj' regrouped rfl
      cases same
      rw [if_neg (untouched item (by simp))]
      exact ⟨before, others, rfl, fun other member => untouched other (by simp [member])⟩
  · split
    · rename_i same
      rintro rfl
      exact ⟨history, [], by rw [← same], fun _ member => absurd member List.not_mem_nil⟩
    · rename_i different
      rintro ⟨before, after, rfl, untouched⟩
      refine ⟨before, after ++ [item], by simp, fun other member => ?_⟩
      rcases List.mem_append.mp member with old | new
      · exact untouched other old
      · exact List.mem_singleton.mp new ▸ different

/-- The registry is in order, and under each name it has the operator registered last. -/
structure Remembers (registry : Registry) (history : List Item) : Prop where
  ordered : Ordered registry.items
  get?_eq_some_iff : ∀ name entry, registry.get? name = some entry ↔ LastUnder history name entry

theorem remembers_empty : empty.Remembers [] :=
  ⟨List.Pairwise.nil, fun _ _ => ⟨nofun, fun last => absurd last not_lastUnder_nil⟩⟩

theorem Remembers.register {registry : Registry} {history : List Item}
    (remembers : registry.Remembers history) (name : String) (entry : CatalogEntry) :
    (registry.register name entry).Remembers (history ++ [(name, entry)]) := by
  refine ⟨ordered_insert name entry remembers.ordered, fun other found => ?_⟩
  rw [get?_register, lastUnder_concat_iff, ← remembers.get?_eq_some_iff]
  split
  · exact Option.some_inj
  · exact Iff.rfl

theorem Remembers.registerAll {registry : Registry} {history : List Item}
    (remembers : registry.Remembers history) (entries : List Item) :
    (registry.registerAll entries).Remembers (history ++ entries) := by
  induction entries generalizing registry history with
  | nil => rwa [List.append_nil]
  | cons item rest ih =>
      have later := ih (remembers.register item.1 item.2)
      rwa [List.append_assoc, List.singleton_append] at later

/-! ## Runs of operations -/

/-- Something that is done with a registry. -/
inductive Operation where
  /-- Goes on with a registry that holds no operator. -/
  | new
  /-- Goes on with a registry of all linked operators. -/
  | withInventory
  /-- Registers all linked operators. -/
  | collectInventory
  /-- Registers a builtin operator under its own name. -/
  | registerBuiltin (builtin : Builtin)
  /-- Registers any operator under any name. -/
  | register (name : String) (entry : CatalogEntry)

variable {ε : Type} (linked : List Item)

/-- The registry after one operation; `linked` are the linked operators, in the order in which they
are collected. -/
def Operation.perform (registry : Registry) : Operation → Traced ε Registry
  | .new => pure empty
  | .withInventory => empty.collect linked
  | .collectInventory => registry.collect linked
  | .registerBuiltin builtin => pure (registry.registerBuiltin builtin)
  | .register name entry => pure (registry.register name entry)

/-- The registrations since the registry was made, one operation later. -/
def Operation.recorded (history : List Item) : Operation → List Item
  | .new => []
  | .withInventory => linked
  | .collectInventory => history ++ linked
  | .registerBuiltin builtin => history ++ [(builtin.name, builtin.entry)]
  | .register name entry => history ++ [(name, entry)]

/-- The registry after some operations. -/
def run (registry : Registry) : List Operation → Traced ε Registry
  | [] => pure registry
  | operation :: rest => do
    let next ← operation.perform linked registry
    run next rest

/-- The registrations since the last registry was made, after some operations. -/
def historyOf (operations : List Operation) : List Item :=
  operations.foldl (Operation.recorded linked) []

theorem result_collect (registry : Registry) (entries : List Item) :
    (registry.collect entries : Traced ε Registry).result = .ok (registry.registerAll entries) :=
  rfl

/-- One operation leaves a registry that remembers one more step of the history. -/
theorem Remembers.perform {registry : Registry} {history : List Item}
    (remembers : registry.Remembers history) (operation : Operation) :
    ∃ next, (operation.perform linked registry : Traced ε Registry).result = .ok next ∧
      next.Remembers (operation.recorded linked history) := by
  cases operation with
  | new => exact ⟨_, rfl, remembers_empty⟩
  | withInventory => exact ⟨_, result_collect empty linked, remembers_empty.registerAll linked⟩
  | collectInventory => exact ⟨_, result_collect registry linked, remembers.registerAll linked⟩
  | registerBuiltin builtin => exact ⟨_, rfl, remembers.register builtin.name builtin.entry⟩
  | register name entry => exact ⟨_, rfl, remembers.register name entry⟩

theorem Remembers.run {registry : Registry} {history : List Item}
    (remembers : registry.Remembers history) (operations : List Operation) :
    ∃ final, (registry.run linked operations : Traced ε Registry).result = .ok final ∧
      final.Remembers (operations.foldl (Operation.recorded linked) history) := by
  induction operations generalizing registry history with
  | nil => exact ⟨registry, rfl, remembers⟩
  | cons operation rest ih =>
      obtain ⟨next, performed, remembersNext⟩ := remembers.perform (ε := ε) linked operation
      obtain ⟨final, ran, remembersFinal⟩ := ih remembersNext
      exact ⟨final, Traced.result_bind_eq_ok_iff.mpr ⟨next, performed, ran⟩, remembersFinal⟩

theorem get?_of_mem {registry : Registry} (ordered : Ordered registry.items) {item : Item}
    (member : item ∈ registry.items) : registry.get? item.1 = some item.2 := by
  obtain ⟨before, after, split⟩ := List.append_of_mem member
  have earlier : ∀ other ∈ before, (other.1 == item.1) = false := by
    intro other inFront
    rw [Ordered, split, List.pairwise_append] at ordered
    have less := ordered.2.2 other inFront item List.mem_cons_self
    exact beq_false_of_ne (String.ne_of_lt less)
  rw [get?, split, List.find?_append, List.find?_eq_none.mpr (by simpa using earlier)]
  simp

theorem items_eq_map_names {registry : Registry} (ordered : Ordered registry.items) :
    registry.items.map (fun item => (item.1, some item.2)) =
      registry.names.map fun name => (name, registry.get? name) := by
  rw [names, List.map_map]
  apply List.map_congr_left
  intro item member
  rw [Function.comp_apply, get?_of_mem ordered member]

theorem isSome_get?_iff {registry : Registry} {name : String} :
    (registry.get? name).isSome ↔ name ∈ registry.names := by
  simp [get?, names]

theorem Remembers.names_increase {registry : Registry} {history : List Item}
    (remembers : registry.Remembers history) :
    registry.names.Pairwise fun earlier later => Text.octets earlier < Text.octets later :=
  List.pairwise_map.mpr (remembers.ordered.imp fun less => Text.octets_lt_of_lt less)

/-- Every run of operations succeeds, whichever operators are linked.  The names of the registry it
leaves increase octet by octet; they are counted right; an operator is found exactly under them, and
it is the one registered last under its name since the registry was made; the items are the names
with what is found under them; and one more registration changes what is found under its name
alone. -/
theorem run_remembers_last_registrations (operations : List Operation) :
    ∃ registry, (empty.run linked operations : Traced ε Registry).result = .ok registry ∧
      (registry.names.Pairwise fun earlier later => Text.octets earlier < Text.octets later) ∧
      registry.size = registry.names.length ∧
      (registry.isEmpty = true ↔ registry.names = []) ∧
      (∀ name, (registry.get? name).isSome ↔ name ∈ registry.names) ∧
      (∀ name entry, registry.get? name = some entry ↔
        LastUnder (historyOf linked operations) name entry) ∧
      registry.items.map (fun item => (item.1, some item.2)) =
        registry.names.map (fun name => (name, registry.get? name)) ∧
      ∀ name other entry, (registry.register name entry).get? other =
        if name = other then some entry else registry.get? other := by
  obtain ⟨registry, ran, remembers⟩ := remembers_empty.run (ε := ε) linked operations
  refine ⟨registry, ran, remembers.names_increase, by rw [size, names, List.length_map],
    by rw [isEmpty, names, List.isEmpty_iff, List.map_eq_nil_iff], fun name => isSome_get?_iff,
    remembers.get?_eq_some_iff, items_eq_map_names remembers.ordered, ?_⟩
  intro name other entry
  exact get?_register registry name other entry

/-- Registering again under a taken name replaces the operator where it stands. -/
example :
    ((empty.run inventory [.withInventory, .register "Zoé" Builtin.zero.entry,
        .register "Zero" Builtin.batchNorm.entry] : Traced Empty Registry).result.map
      fun registry => (registry.names, registry.get? "Zero")) =
      .ok (["Bnorm", "Lnorm", "PeriodicShuffle", "Zero", "Zoé"], some Builtin.batchNorm.entry) := by
  decide

end Registry

end OperatorSource
