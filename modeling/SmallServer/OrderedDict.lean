import Mathlib.Data.List.AList
import Mathlib.Algebra.Order.BigOperators.Group.List
import Mathlib.Algebra.Order.Ring.Int
import Mathlib.Algebra.Ring.Int.Defs
import Mathlib.Tactic.Ring

/-!
# Ordered dictionaries

Association lists in insertion order. Mathlib's `AList` has lookup and removal;
its `insert` moves the key to the front, so assignment is defined here. `total`
sums a weight over the values, which is what byte counters over a table are
compared with.
-/

namespace SmallServer

set_option autoImplicit false

abbrev OrderedDict (Key Value : Type) := AList fun _ : Key => Value

namespace OrderedDict

variable {Key Value : Type} [DecidableEq Key]

section Assignment

theorem kreplace_cons_eq {entry : Sigma fun _ : Key => Value} (value : Value)
    (entries : List (Sigma fun _ : Key => Value)) :
    List.kreplace entry.1 value (entry :: entries) = ⟨entry.1, value⟩ :: entries :=
  List.lookmap_cons_some _ entries (if_pos rfl)

theorem kreplace_cons_ne {key : Key} {entry : Sigma fun _ : Key => Value} (value : Value)
    (entries : List (Sigma fun _ : Key => Value)) (different : key ≠ entry.1) :
    List.kreplace key value (entry :: entries) = entry :: List.kreplace key value entries :=
  List.lookmap_cons_none _ entries (if_neg different)

theorem lookup_kreplace (key : Key) (value : Value) (entries : List (Sigma fun _ : Key => Value))
    (present : key ∈ entries.keys) :
    List.dlookup key (List.kreplace key value entries) = some value := by
  induction entries with
  | nil => cases present
  | cons entry entries induction =>
      by_cases same : key = entry.1
      · subst same
        rw [kreplace_cons_eq, List.dlookup_cons_eq]
      · have later : key ∈ entries.keys := (List.mem_cons.mp present).resolve_left same
        rw [kreplace_cons_ne value entries same, List.dlookup_cons_ne _ _ same, induction later]

theorem lookup_kreplace_ne {key other : Key} (value : Value)
    (entries : List (Sigma fun _ : Key => Value)) (different : other ≠ key) :
    List.dlookup other (List.kreplace key value entries) = List.dlookup other entries := by
  induction entries with
  | nil => rfl
  | cons entry entries induction =>
      by_cases same : key = entry.1
      · subst same
        rw [kreplace_cons_eq, List.dlookup_cons_ne _ _ different]
        exact List.dlookup_cons_ne entries ⟨entry.1, value⟩ different
      · rw [kreplace_cons_ne value entries same]
        by_cases here : other = entry.1
        · subst here
          rw [List.dlookup_cons_eq, List.dlookup_cons_eq]
        · rw [List.dlookup_cons_ne _ _ here, List.dlookup_cons_ne _ _ here, induction]

/-- `dict[key] = value`: a known key keeps its place, a new one goes last. -/
def set (dict : OrderedDict Key Value) (key : Key) (value : Value) : OrderedDict Key Value :=
  if present : key ∈ dict then dict.replace key value
  else {
    entries := dict.entries ++ [⟨key, value⟩]
    nodupKeys := by
      rw [List.NodupKeys, List.keys_append]
      refine List.nodup_append.mpr ⟨dict.nodupKeys, List.nodup_singleton key, ?_⟩
      intro name member other last
      rw [List.mem_singleton.mp last]
      rintro rfl
      exact present member }

theorem mem_set {dict : OrderedDict Key Value} {key other : Key} {value : Value} :
    other ∈ dict.set key value ↔ other = key ∨ other ∈ dict := by
  unfold set
  split
  · rename_i present
    rw [AList.mem_replace]
    constructor
    · exact Or.inr
    · rintro (rfl | member)
      · exact present
      · exact member
  · rw [AList.mem_mk, List.keys_append, List.mem_append]
    change other ∈ dict.keys ∨ other ∈ [key] ↔ _
    rw [List.mem_singleton, AList.mem_keys]
    exact or_comm

@[simp] theorem lookup_set (dict : OrderedDict Key Value) (key : Key) (value : Value) :
    (dict.set key value).lookup key = some value := by
  unfold set
  split
  · rename_i present
    exact lookup_kreplace key value dict.entries present
  · rename_i absent
    have missing : List.dlookup key dict.entries = none := List.dlookup_eq_none.mpr absent
    rw [AList.lookup, List.dlookup_append, missing, List.dlookup_cons_eq]
    rfl

theorem lookup_set_ne (dict : OrderedDict Key Value) {key other : Key} (value : Value)
    (different : other ≠ key) : (dict.set key value).lookup other = dict.lookup other := by
  unfold set
  split
  · exact lookup_kreplace_ne value dict.entries different
  · have last : List.dlookup other [(⟨key, value⟩ : Sigma fun _ : Key => Value)] = none := by
      rw [List.dlookup_cons_ne _ _ different, List.dlookup_nil]
    rw [AList.lookup, List.dlookup_append, last, Option.or_none]
    rfl

theorem lookup_set_eq (dict : OrderedDict Key Value) (key other : Key) (value : Value) :
    (dict.set key value).lookup other =
      if other = key then some value else dict.lookup other := by
  split
  · rename_i same
    rw [same, lookup_set]
  · rename_i different
    rw [lookup_set_ne dict value different]

theorem lookup_erase_eq (dict : OrderedDict Key Value) (key other : Key) :
    (dict.erase key).lookup other = if other = key then none else dict.lookup other := by
  split
  · rename_i same
    rw [same, AList.lookup_erase]
  · rename_i different
    rw [AList.lookup_erase_ne different]

theorem mem_of_lookup {dict : OrderedDict Key Value} {key : Key} {value : Value}
    (found : dict.lookup key = some value) : key ∈ dict := by
  rw [← AList.lookup_isSome, found]
  rfl

theorem dlookup_filter (keep : Value → Bool) (entries : List (Sigma fun _ : Key => Value))
    (distinct : entries.NodupKeys) (key : Key) :
    (entries.filter fun entry => keep entry.2).dlookup key = (entries.dlookup key).filter keep := by
  induction entries with
  | nil => rfl
  | cons entry entries induction =>
      have once := List.nodupKeys_cons.mp distinct
      rw [List.filter_cons]
      by_cases same : key = entry.1
      · subst same
        rw [List.dlookup_cons_eq]
        by_cases kept : keep entry.2 = true
        · rw [if_pos kept, List.dlookup_cons_eq, Option.filter_some, if_pos kept]
        · rw [if_neg kept, Option.filter_some, if_neg kept, induction once.2,
            List.dlookup_eq_none.mpr once.1]
          rfl
      · rw [List.dlookup_cons_ne _ _ same, ← induction once.2]
        by_cases kept : keep entry.2 = true
        · rw [if_pos kept, List.dlookup_cons_ne _ _ same]
        · rw [if_neg kept]

/-- A dictionary whose lookups are a function of another one's lookups has its values. -/
theorem values_perm {Other : Type} (dict : OrderedDict Key Value) (other : OrderedDict Key Other)
    (value : Value → Option Other) (same : ∀ key, other.lookup key = (dict.lookup key).bind value) :
    (other.entries.map Sigma.snd).Perm ((dict.entries.map Sigma.snd).filterMap value) := by
  let entryOf (entry : Sigma fun _ : Key => Value) : Option (Sigma fun _ : Key => Other) :=
    (value entry.2).map (Sigma.mk entry.1)
  have keyOf : ∀ {entry result}, entryOf entry = some result → result.1 = entry.1 := by
    intro entry result made
    obtain ⟨_, _, rfl⟩ := Option.map_eq_some_iff.mp made
    rfl
  have distinct : (dict.entries.filterMap entryOf).NodupKeys := by
    rw [List.nodupKeys_iff_pairwise]
    refine dict.nodupKeys.pairwise_ne.filterMap entryOf ?_
    intro entry later different result made resultLater madeLater
    rw [keyOf made, keyOf madeLater]
    exact different
  have entries : other.entries.Perm (dict.entries.filterMap entryOf) := by
    refine (List.perm_ext_iff_of_nodup other.nodupKeys.nodup distinct.nodup).mpr ?_
    rintro ⟨key, result⟩
    rw [← List.mem_dlookup_iff other.nodupKeys, List.mem_filterMap]
    change other.lookup key = some result ↔ _
    rw [same, Option.bind_eq_some_iff]
    constructor
    · rintro ⟨entry, found, made⟩
      refine ⟨⟨key, entry⟩, List.of_mem_dlookup found, ?_⟩
      exact Option.map_eq_some_iff.mpr ⟨result, made, rfl⟩
    · rintro ⟨⟨name, entry⟩, member, made⟩
      obtain ⟨_, isResult, same⟩ := Option.map_eq_some_iff.mp made
      cases same
      exact ⟨entry, List.mem_dlookup dict.nodupKeys member, isResult⟩
  refine (entries.map Sigma.snd).trans (List.Perm.of_eq ?_)
  rw [List.map_filterMap, List.filterMap_map]
  refine List.filterMap_congr fun entry _ => ?_
  change ((value entry.2).map (Sigma.mk entry.1)).map
    (fun result : Sigma fun _ : Key => Other => result.2) = value entry.2
  cases value entry.2 <;> rfl

end Assignment

section Totals

variable (weight : Value → Int)

def total (dict : OrderedDict Key Value) : Int :=
  (dict.entries.map fun entry => weight entry.2).sum

omit [DecidableEq Key] in
@[simp] theorem total_empty : total weight (∅ : OrderedDict Key Value) = 0 := rfl

theorem total_erase (dict : OrderedDict Key Value) (key : Key) :
    total weight (dict.erase key) = total weight dict - ((dict.lookup key).elim 0 weight) := by
  have general : ∀ entries : List (Sigma fun _ : Key => Value),
      ((List.kerase key entries).map fun entry => weight entry.2).sum =
        (entries.map fun entry => weight entry.2).sum -
          ((List.dlookup key entries).elim 0 weight) := by
    intro entries
    induction entries with
    | nil => rfl
    | cons entry entries induction =>
        by_cases same : key = entry.1
        · obtain ⟨name, value⟩ := entry
          cases same
          rw [List.kerase_cons_eq rfl, List.dlookup_cons_eq, List.map_cons, List.sum_cons]
          simp
        · rw [List.kerase_cons_ne same, List.dlookup_cons_ne _ _ same, List.map_cons,
            List.map_cons, List.sum_cons, List.sum_cons, induction]
          ring
  exact general dict.entries

theorem total_set (dict : OrderedDict Key Value) (key : Key) (value : Value) :
    total weight (dict.set key value) =
      total weight dict - ((dict.lookup key).elim 0 weight) + weight value := by
  unfold set
  split
  · rename_i present
    have general : ∀ entries : List (Sigma fun _ : Key => Value), key ∈ entries.keys →
        ((List.kreplace key value entries).map fun entry => weight entry.2).sum =
          (entries.map fun entry => weight entry.2).sum -
            ((List.dlookup key entries).elim 0 weight) + weight value := by
      intro entries inside
      induction entries with
      | nil => cases inside
      | cons entry entries induction =>
          by_cases same : key = entry.1
          · subst same
            rw [kreplace_cons_eq, List.dlookup_cons_eq, List.map_cons, List.map_cons,
              List.sum_cons, List.sum_cons, Option.elim_some]
            ring
          · rw [kreplace_cons_ne value entries same, List.dlookup_cons_ne _ _ same, List.map_cons,
              List.map_cons, List.sum_cons, List.sum_cons,
              induction ((List.mem_cons.mp inside).resolve_left same)]
            ring
    exact general dict.entries present
  · rename_i absent
    rw [AList.lookup_eq_none.mpr absent]
    simp [total]

theorem total_nonneg {dict : OrderedDict Key Value}
    (nonneg : ∀ key value, dict.lookup key = some value → 0 ≤ weight value) :
    0 ≤ total weight dict := by
  apply List.sum_nonneg
  intro number member
  obtain ⟨entry, inside, rfl⟩ := List.mem_map.mp member
  exact nonneg entry.1 entry.2 (AList.mem_lookup_iff.mpr inside)

omit [DecidableEq Key] in
theorem total_one (dict : OrderedDict Key Value) :
    total (fun _ => 1) dict = dict.entries.length := by
  rw [total, List.map_const', List.sum_replicate, nsmul_one]

theorem length_set (dict : OrderedDict Key Value) (key : Key) (value : Value) :
    ((dict.set key value).entries.length : Int) =
      dict.entries.length + (if key ∈ dict then 0 else 1) := by
  rw [← total_one, ← total_one, total_set]
  by_cases present : key ∈ dict
  · obtain ⟨found, lookup⟩ := Option.isSome_iff_exists.mp (AList.lookup_isSome.mpr present)
    rw [lookup, Option.elim_some, if_pos present]
    omega
  · rw [AList.lookup_eq_none.mpr present, Option.elim_none, if_neg present]
    omega

theorem length_erase_le (dict : OrderedDict Key Value) (key : Key) :
    (dict.erase key).entries.length ≤ dict.entries.length :=
  (List.kerase_sublist key dict.entries).length_le

end Totals

end OrderedDict

end SmallServer
