import Mathlib

/-!
# Rows by groups

`GROUP BY` lists each key once, in the order of the keys; what is summed over the groups is what
is summed over the rows. A mapping built entry by entry keeps one entry a key, the last.
-/

namespace Bugalizer.Store

set_option autoImplicit false

section Groups

variable {Row Key : Type} [DecidableEq Key]

/-- The keys of a `GROUP BY`, each once and sorted. -/
def groupKeys (below : Key → Key → Bool) (key : Row → Key) (rows : List Row) : List Key :=
  (rows.map key).dedup.mergeSort below

theorem group_keys_nodup (below : Key → Key → Bool) (key : Row → Key) (rows : List Row) :
    (groupKeys below key rows).Nodup :=
  (List.mergeSort_perm _ below).nodup_iff.mpr (List.nodup_dedup _)

theorem mem_group_keys {below : Key → Key → Bool} {key : Row → Key} {rows : List Row} {wanted : Key} :
    wanted ∈ groupKeys below key rows ↔ ∃ row ∈ rows, key row = wanted := by
  rw [groupKeys, List.mem_mergeSort, List.mem_dedup, List.mem_map]

def group (key : Row → Key) (rows : List Row) (wanted : Key) : List Row :=
  rows.filter fun row => key row = wanted

theorem sum_single (keys : List Key) (distinct : keys.Nodup) (here : Key) (amount : Nat) :
    (keys.map fun wanted => if here = wanted then amount else 0).sum =
      if here ∈ keys then amount else 0 := by
  induction keys with
  | nil => simp
  | cons head keys ih =>
      rw [List.nodup_cons] at distinct
      have rest := ih distinct.2
      rw [List.map_cons, List.sum_cons, rest]
      by_cases same : here = head
      · subst same
        simp [distinct.1]
      · simp [same]

theorem sum_groups (key : Row → Key) (amount : Row → Nat) {keys : List Key} (distinct : keys.Nodup)
    {rows : List Row} (covered : ∀ row ∈ rows, key row ∈ keys) :
    (keys.map fun wanted => ((group key rows wanted).map amount).sum).sum = (rows.map amount).sum := by
  induction rows with
  | nil => simp [group]
  | cons head rows ih =>
      have rest := ih fun row member => covered row (List.mem_cons_of_mem _ member)
      have split : ∀ wanted, ((group key (head :: rows) wanted).map amount).sum =
          (if key head = wanted then amount head else 0) + ((group key rows wanted).map amount).sum := by
        intro wanted
        by_cases here : key head = wanted
        · simp [group, here]
        · simp [group, here]
      have first := sum_single keys distinct (key head) (amount head)
      rw [if_pos (covered head List.mem_cons_self)] at first
      simp only [split, List.sum_map_add, first, rest, List.map_cons, List.sum_cons]

theorem length_groups (key : Row → Key) {keys : List Key} (distinct : keys.Nodup) {rows : List Row}
    (covered : ∀ row ∈ rows, key row ∈ keys) :
    (keys.map fun wanted => (group key rows wanted).length).sum = rows.length := by
  have ones := sum_groups key (fun _ => 1) distinct covered
  simpa using ones

/-- The groups' sum by `GROUP BY` itself. -/
theorem sum_group_by (below : Key → Key → Bool) (key : Row → Key) (amount : Row → Nat) (rows : List Row) :
    ((groupKeys below key rows).map fun wanted => ((group key rows wanted).map amount).sum).sum =
      (rows.map amount).sum := by
  apply sum_groups key amount (group_keys_nodup below key rows)
  intro row member
  exact mem_group_keys.mpr ⟨row, member, rfl⟩

end Groups

/-- A `dict`: its items in the order of their keys' first insertion. -/
abbrev Mapping (Key Value : Type) := List (Key × Value)

namespace Mapping

variable {Key Value : Type} [DecidableEq Key]

/-- `mapping[key] = value`. -/
def set (mapping : Mapping Key Value) (key : Key) (value : Value) : Mapping Key Value :=
  if key ∈ mapping.map Prod.fst then
    mapping.map fun item => if item.1 = key then (key, value) else item
  else mapping ++ [(key, value)]

def collect (entries : List (Key × Value)) : Mapping Key Value :=
  entries.foldl (fun mapping entry => mapping.set entry.1 entry.2) []

theorem keys_set (mapping : Mapping Key Value) (key : Key) (value : Value) :
    (mapping.set key value).map Prod.fst =
      if key ∈ mapping.map Prod.fst then mapping.map Prod.fst else mapping.map Prod.fst ++ [key] := by
  unfold set
  split
  · rw [List.map_map]
    apply List.map_congr_left
    intro item member
    by_cases here : item.1 = key
    · simp [here]
    · simp [here]
  · simp

theorem mem_set {mapping : Mapping Key Value} {key : Key} {value : Value} {item : Key × Value}
    (member : item ∈ mapping.set key value) : item = (key, value) ∨ item ∈ mapping := by
  unfold set at member
  split at member
  · obtain ⟨before, present, same⟩ := List.mem_map.mp member
    by_cases here : before.1 = key
    · rw [if_pos here] at same
      exact .inl same.symm
    · rw [if_neg here] at same
      exact .inr (same ▸ present)
  · rcases List.mem_append.mp member with present | last
    · exact .inr present
    · exact .inl (List.mem_singleton.mp last)

def get (mapping : Mapping Key Value) (key : Key) : Option Value := mapping.lookup key

theorem get_absent {mapping : Mapping Key Value} {wanted : Key} :
    mapping.get wanted = none ↔ wanted ∉ mapping.map Prod.fst := by
  rw [get, List.lookup_eq_none_iff]
  constructor
  · intro apart member
    obtain ⟨item, present, rfl⟩ := List.mem_map.mp member
    simpa using apart item present
  · intro absent item present
    rw [bne_iff_ne]
    intro same
    exact absent (List.mem_map.mpr ⟨item, present, same.symm⟩)

/-- An assignment is what the key is looked up to, and no other key's business. -/
theorem get_set (mapping : Mapping Key Value) (key : Key) (value : Value) (wanted : Key) :
    (mapping.set key value).get wanted = if wanted = key then some value else mapping.get wanted := by
  unfold set get
  split
  · rename_i present
    induction mapping with
    | nil => cases present
    | cons item mapping ih =>
        rw [List.map_cons, List.lookup_cons, List.lookup_cons]
        by_cases here : item.1 = key
        · rw [if_pos here]
          by_cases same : wanted = key
          · simp [same]
          · have other : wanted ≠ item.1 := fun equal => same (equal.trans here)
            simp only [beq_eq_false_iff_ne.mpr same, beq_eq_false_iff_ne.mpr other, if_neg same]
            by_cases later : key ∈ mapping.map Prod.fst
            · rw [ih later, if_neg same]
            · congr 1
              calc
                _ = mapping.map id := by
                  apply List.map_congr_left
                  intro entry member
                  exact if_neg fun equal => later (List.mem_map.mpr ⟨entry, member, equal⟩)
                _ = mapping := List.map_id mapping
        · rw [if_neg here]
          have later : key ∈ mapping.map Prod.fst := by
            rw [List.map_cons, List.mem_cons] at present
            exact present.resolve_left fun equal => here equal.symm
          rw [ih later]
          by_cases same : wanted = item.1
          · have other : wanted ≠ key := fun equal => here (same.symm.trans equal)
            simp [same, here]
          · simp only [beq_eq_false_iff_ne.mpr same]
  · rename_i new
    rw [List.lookup_append]
    by_cases same : wanted = key
    · subst same
      have none : mapping.lookup wanted = none := get_absent.mpr new
      simp [none]
    · simp [List.lookup_cons, beq_eq_false_iff_ne.mpr same, same]

theorem keys_set_nodup {mapping : Mapping Key Value} (distinct : (mapping.map Prod.fst).Nodup) (key : Key)
    (value : Value) : ((mapping.set key value).map Prod.fst).Nodup := by
  rw [keys_set]
  split
  · exact distinct
  · rename_i new
    rw [List.nodup_append_comm, List.singleton_append, List.nodup_cons]
    exact ⟨new, distinct⟩

theorem mem_of_get {mapping : Mapping Key Value} {key : Key} {value : Value}
    (found : mapping.get key = some value) : (key, value) ∈ mapping := by
  obtain ⟨front, back, rfl, -⟩ := List.lookup_eq_some_iff.mp found
  simp

theorem get_of_mem {mapping : Mapping Key Value} (distinct : (mapping.map Prod.fst).Nodup)
    {item : Key × Value} (member : item ∈ mapping) : mapping.get item.1 = some item.2 := by
  cases found : mapping.get item.1 with
  | none => exact absurd (List.mem_map.mpr ⟨item, member, rfl⟩) (get_absent.mp found)
  | some value =>
      have same := List.inj_on_of_nodup_map distinct member (mem_of_get found) rfl
      rw [same]

/-- What a loop of assignments has built: each key once, all of them, each with a value it was
given. -/
structure Built (entries : List (Key × Value)) (mapping : Mapping Key Value) : Prop where
  distinct : (mapping.map Prod.fst).Nodup
  keys : ∀ key, key ∈ mapping.map Prod.fst ↔ key ∈ entries.map Prod.fst
  given : ∀ item ∈ mapping, item ∈ entries

theorem built_set {entries : List (Key × Value)} {mapping : Mapping Key Value}
    (built : Built entries mapping) (entry : Key × Value) :
    Built (entries ++ [entry]) (mapping.set entry.1 entry.2) := by
  constructor
  · rw [keys_set]
    split
    · exact built.distinct
    · rename_i new
      rw [List.nodup_append]
      refine ⟨built.distinct, List.nodup_singleton _, ?_⟩
      intro key present other last same
      rw [List.mem_singleton] at last
      exact new (last ▸ same ▸ present)
  · intro key
    rw [keys_set, List.map_append, List.mem_append, ← built.keys]
    split
    · rename_i old
      simp only [List.map_cons, List.map_nil, List.mem_singleton]
      constructor
      · exact .inl
      · rintro (present | rfl)
        · exact present
        · exact old
    · simp
  · intro item member
    rcases mem_set member with rfl | before
    · simp
    · exact List.mem_append_left _ (built.given item before)

theorem collect_built (entries : List (Key × Value)) : Built entries (collect entries) := by
  have whole : ∀ (rest before : List (Key × Value)) (mapping : Mapping Key Value), Built before mapping →
      Built (before ++ rest) (rest.foldl (fun mapping entry => mapping.set entry.1 entry.2) mapping) := by
    intro rest
    induction rest with
    | nil =>
        intro before mapping built
        rwa [List.append_nil]
    | cons entry rest ih =>
        intro before mapping built
        have next := ih (before ++ [entry]) _ (built_set built entry)
        rwa [List.append_assoc] at next
  exact whole entries [] [] ⟨List.nodup_nil, fun _ => Iff.rfl, fun _ member => member⟩

section Named

variable {Item : Type} {items : List Item} (distinct : items.Nodup) (name : Item → Key)
  (value : Item → Value)

def named (items : List Item) : Mapping Key Value :=
  collect (items.map fun item => (name item, value item))

theorem named_value {key : Key} {kept : Value} (member : (key, kept) ∈ named name value items) :
    ∃ item ∈ items, name item = key ∧ value item = kept := by
  have given := (collect_built (items.map fun item => (name item, value item))).given _ member
  obtain ⟨item, present, same⟩ := List.mem_map.mp given
  exact ⟨item, present, congrArg Prod.fst same, congrArg Prod.snd same⟩

theorem named_single {key : Key} {kept other : Value} (member : (key, kept) ∈ named name value items)
    (also : (key, other) ∈ named name value items) : kept = other := by
  have same := List.inj_on_of_nodup_map (collect_built (items.map fun item => (name item, value item))).distinct
    member also rfl
  exact congrArg Prod.snd same

theorem named_present {item : Item} (member : item ∈ items) :
    ∃ kept, (name item, kept) ∈ named name value items := by
  have listed : name item ∈ (named name value items).map Prod.fst := by
    rw [named, (collect_built _).keys, List.map_map]
    exact List.mem_map.mpr ⟨item, member, rfl⟩
  obtain ⟨⟨key, kept⟩, present, rfl⟩ := List.mem_map.mp listed
  exact ⟨kept, present⟩

/-- Every item is found under its name just where items of one name have one value. -/
theorem named_keeps_iff :
    (∀ item ∈ items, (name item, value item) ∈ named name value items) ↔
      ∀ first ∈ items, ∀ second ∈ items, name first = name second → value first = value second := by
  constructor
  · intro keeps first here second there same
    have present := keeps second there
    rw [← same] at present
    exact named_single name value (keeps first here) present
  · intro alike item member
    obtain ⟨kept, present⟩ := named_present name value member
    obtain ⟨other, there, same, rfl⟩ := named_value name value present
    rwa [alike item member other there same.symm]

theorem named_sum (amount : Value → Nat) :
    (items.map fun item => amount (value item)).sum =
      ((named name value items).map fun entry =>
        ((group name items entry.1).map fun item => amount (value item)).sum).sum := by
  have covered : ∀ item ∈ items, name item ∈ (named name value items).map Prod.fst := by
    intro item member
    obtain ⟨kept, present⟩ := named_present name value member
    exact List.mem_map.mpr ⟨_, present, rfl⟩
  have grouped := sum_groups name (fun item => amount (value item))
    (collect_built (items.map fun item => (name item, value item))).distinct covered
  rw [← grouped, List.map_map]
  rfl

theorem sum_le_each {Entry : Type} {entries : List Entry} {low high : Entry → Nat}
    (below : ∀ entry ∈ entries, low entry ≤ high entry)
    (same : (entries.map low).sum = (entries.map high).sum) :
    ∀ entry ∈ entries, low entry = high entry := by
  induction entries with
  | nil => simp
  | cons head entries ih =>
      have first := below head List.mem_cons_self
      have rest := fun entry member => below entry (List.mem_cons_of_mem head member)
      have bound := List.sum_le_sum rest
      simp only [List.map_cons, List.sum_cons] at same
      intro entry member
      rcases List.mem_cons.mp member with rfl | later
      · omega
      · exact ih rest (by omega) entry later

theorem sum_erase [DecidableEq Item] {list : List Item} {item : Item} (member : item ∈ list)
    (amount : Item → Nat) :
    (list.map amount).sum = amount item + ((list.erase item).map amount).sum := by
  have rearranged := ((List.perm_cons_erase member).map amount).sum_eq
  simpa using rearranged

include distinct in
/-- The sums agree just where items that share their name are worth nothing. -/
theorem named_sum_iff [DecidableEq Item] (amount : Value → Nat)
    (keeps : ∀ item ∈ items, (name item, value item) ∈ named name value items) :
    ((named name value items).map fun entry => amount entry.2).sum =
        (items.map fun item => amount (value item)).sum ↔
      ∀ first ∈ items, ∀ second ∈ items, first ≠ second → name first = name second →
        amount (value first) = 0 := by
  have alike := (named_keeps_iff name value).mp keeps
  have in_group : ∀ {item : Item} {key : Key}, item ∈ group name items key ↔ item ∈ items ∧ name item = key := by
    intro item key
    simp [group]
  have once : ∀ key, (group name items key).Nodup := fun key => distinct.filter _
  rw [named_sum name value amount]
  constructor
  · intro same first here second there apart shared
    have below : ∀ entry ∈ named name value items, amount entry.2 ≤
        ((group name items entry.1).map fun item => amount (value item)).sum := by
      intro entry member
      obtain ⟨item, present, at_name, at_value⟩ := named_value name value member
      rw [sum_erase (in_group.mpr ⟨present, at_name⟩) fun item => amount (value item), at_value]
      omega
    have each : amount (value first) = _ := sum_le_each below same _ (keeps first here)
    have second_left : second ∈ (group name items (name first)).erase first :=
      (List.mem_erase_of_ne apart.symm).mpr (in_group.mpr ⟨there, shared.symm⟩)
    rw [sum_erase (in_group.mpr ⟨here, rfl⟩) fun item => amount (value item),
      sum_erase second_left fun item => amount (value item), alike first here second there shared] at each
    rw [alike first here second there shared]
    omega
  · intro worthless
    congr 1
    apply List.map_congr_left
    intro entry member
    obtain ⟨item, present, at_name, at_value⟩ := named_value name value member
    rw [sum_erase (in_group.mpr ⟨present, at_name⟩) fun item => amount (value item), at_value]
    have others : (((group name items entry.1).erase item).map fun item => amount (value item)).sum = 0 := by
      rw [List.sum_eq_zero]
      intro number listed
      obtain ⟨other, left, rfl⟩ := List.mem_map.mp listed
      have apart : other ≠ item := by
        rintro rfl
        exact (once entry.1).not_mem_erase left
      obtain ⟨among, shared⟩ := in_group.mp (List.mem_of_mem_erase left)
      exact worthless other among item present apart (shared.trans at_name.symm)
    omega

end Named

end Mapping

end Bugalizer.Store
