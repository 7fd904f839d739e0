import Airspaces.Collection.Query
import Mathlib.Data.List.Dedup
import Mathlib.Algebra.BigOperators.Group.List.Lemmas
import Mathlib.Algebra.Order.Ring.Nat
/-! Groups of a collection. Every key that occurs has one group, which holds the values of that
key in their order, so that the sizes of the groups add up to the size of the collection. -/
namespace Airspaces.Collection

variable {β κ : Type} [DecidableEq κ]

theorem nodup_eraseDups (keys : List κ) : keys.eraseDups.Nodup := by
  match keys with
  | [] => exact List.nodup_nil
  | k :: rest =>
    rw [List.eraseDups_cons, List.nodup_cons]
    exact ⟨by simp, nodup_eraseDups (rest.filter fun other => !other == k)⟩
termination_by keys.length
decreasing_by exact Nat.lt_succ_of_le (List.length_filter_le _ _)

/-- Keys come in the order in which they are first seen. -/
theorem eraseDups_ordered (keys : List κ) :
    keys.eraseDups.Pairwise fun first second => keys.idxOf first < keys.idxOf second := by
  induction keys using List.reverseRecOn with
  | nil => exact List.Pairwise.nil
  | append_singleton keys k ih =>
    have kept : keys.eraseDups.Pairwise fun first second =>
        (keys ++ [k]).idxOf first < (keys ++ [k]).idxOf second := by
      refine ih.imp_of_mem fun {first second} left right ordered => ?_
      rwa [List.idxOf_append_of_mem (List.mem_eraseDups.mp left),
        List.idxOf_append_of_mem (List.mem_eraseDups.mp right)]
    rw [List.eraseDups_append]
    by_cases seen : k ∈ keys
    · have nothing : [k].removeAll keys = [] := by simp [List.removeAll, seen]
      rw [nothing, List.eraseDups_nil, List.append_nil]
      exact kept
    · have last : [k].removeAll keys = [k] := by simp [List.removeAll, seen]
      rw [last, List.pairwise_append]
      refine ⟨kept, List.pairwise_singleton _ _, ?_⟩
      intro first left second right
      have member := List.mem_eraseDups.mp left
      rw [List.mem_singleton.mp right, List.idxOf_append_of_mem member,
        List.idxOf_append_of_notMem seen]
      exact Nat.lt_add_right _ (List.idxOf_lt_length_of_mem member)

/-- A group for each key, in the order of the keys. -/
def groupsOf (keys : List κ) (group : κ → List β) : List (κ × List β) :=
  keys.map fun k => (k, group k)

section
variable {keys : List κ} {k : κ} {x : β} {group group' : κ → List β}

/-- A value whose key has a group comes last in it, and no other group changes. -/
theorem addToGroup_of_mem (distinct : keys.Nodup) (seen : k ∈ keys)
    (own : group' k = group k ++ [x]) (others : ∀ k', k' ≠ k → group' k' = group k') :
    addToGroup k x (groupsOf keys group) = groupsOf keys group' := by
  induction keys with
  | nil => cases seen
  | cons first rest ih =>
    obtain ⟨single, distinct_rest⟩ := List.nodup_cons.mp distinct
    by_cases here : first = k
    · subst here
      have kept : groupsOf rest group = groupsOf rest group' := by
        apply List.map_congr_left
        intro k' member
        rw [others k' (ne_of_mem_of_not_mem member single)]
      unfold groupsOf at kept ⊢
      rw [List.map_cons, addToGroup, if_pos (beq_self_eq_true first), ← own, kept, List.map_cons]
    · have later : k ∈ rest := (List.mem_cons.mp seen).resolve_left (Ne.symm here)
      have added := ih distinct_rest later
      unfold groupsOf at added ⊢
      rw [List.map_cons, addToGroup, if_neg (mt beq_iff_eq.mp here), added, ← others first here,
        List.map_cons]

/-- A value whose key is new gets a group of its own. -/
theorem addToGroup_of_notMem (fresh : k ∉ keys) (own : group' k = [x])
    (others : ∀ k', k' ≠ k → group' k' = group k') :
    addToGroup k x (groupsOf keys group) = groupsOf (keys ++ [k]) group' := by
  induction keys with
  | nil =>
    rw [List.nil_append, groupsOf, groupsOf, List.map_nil, addToGroup, List.map_singleton, own]
  | cons first rest ih =>
    have here : first ≠ k := fun same => fresh (same ▸ List.mem_cons_self)
    have added := ih (mt (List.mem_cons_of_mem first) fresh)
    unfold groupsOf at added ⊢
    rw [List.map_cons, addToGroup, if_neg (mt beq_iff_eq.mp here), added, ← others first here,
      List.cons_append, List.map_cons]

end

/-- After any values there is a group for each key that was seen, and it holds all values of its
key. -/
theorem foldl_addToGroup (key : β → κ) (values : List β) :
    values.foldl (fun groups x => addToGroup (key x) x groups) [] =
      groupsOf (values.map key).eraseDups fun k => values.filter (key · == k) := by
  -- A group grows at its end, so it is the last value that is taken off.
  induction values using List.reverseRecOn with
  | nil => rfl
  | append_singleton values x ih =>
    have own : (values ++ [x]).filter (key · == key x) =
        values.filter (key · == key x) ++ [x] := by simp
    have others : ∀ k, k ≠ key x →
        (values ++ [x]).filter (key · == k) = values.filter (key · == k) := by
      intro k other
      simp [Ne.symm other]
    rw [List.foldl_append, ih, List.foldl_cons, List.foldl_nil, List.map_append,
      List.eraseDups_append]
    by_cases seen : key x ∈ values.map key
    · have nothing : ([x].map key).removeAll (values.map key) = [] := by
        simpa [List.removeAll] using seen
      rw [nothing, List.eraseDups_nil, List.append_nil]
      exact addToGroup_of_mem (nodup_eraseDups _) (List.mem_eraseDups.mpr seen) own others
    · have last : ([x].map key).removeAll (values.map key) = [key x] := by
        simpa [List.removeAll] using seen
      have none_before : values.filter (key · == key x) = [] := by simpa using seen
      rw [none_before, List.nil_append] at own
      rw [last]
      exact addToGroup_of_notMem (mt List.mem_eraseDups.mp seen) own others

/-- A group holds all values of its key. -/
theorem groupBy_eq (key : β → κ) (c : Collection β) :
    c.groupBy key =
      (c.toList.map key).eraseDups.map fun k => (k, c.toList.filter (key · == k)) :=
  foldl_addToGroup key c.toList

theorem groupBy_keys (key : β → κ) (c : Collection β) :
    (c.groupBy key).map (·.1) = (c.toList.map key).eraseDups := by
  rw [groupBy_eq, List.map_map]
  exact List.map_id _

theorem mem_groupBy {key : β → κ} {c : Collection β} {k : κ} {group : List β} :
    (k, group) ∈ c.groupBy key ↔ k ∈ c.toList.map key ∧ group = c.toList.filter (key · == k) := by
  rw [groupBy_eq, List.mem_map]
  constructor
  · rintro ⟨k, occurs, ⟨⟩⟩
    exact ⟨List.mem_eraseDups.mp occurs, rfl⟩
  · rintro ⟨occurs, rfl⟩
    exact ⟨k, List.mem_eraseDups.mpr occurs, rfl⟩

/-- The sizes of the groups add up. -/
theorem groupBy_sizes (key : β → κ) (c : Collection β) :
    ((c.groupBy key).map (·.2.length)).sum = c.toList.length := by
  have size (k : κ) : (c.toList.filter (key · == k)).length = (c.toList.map key).count k := by
    rw [← List.countP_eq_length_filter, List.count, List.countP_map]
    rfl
  -- Both lists have every key once, so that their order does not matter to a sum.
  have same : (c.toList.map key).eraseDups.Perm (c.toList.map key).dedup := by
    rw [List.perm_ext_iff_of_nodup (nodup_eraseDups _) (List.nodup_dedup _)]
    simp
  rw [groupBy_eq, List.map_map]
  calc ((c.toList.map key).eraseDups.map fun k => (c.toList.filter (key · == k)).length).sum
      = ((c.toList.map key).eraseDups.map fun k => (c.toList.map key).count k).sum := by
        simp only [size]
    _ = ((c.toList.map key).dedup.map fun k => (c.toList.map key).count k).sum :=
        (same.map _).sum_eq
    _ = c.toList.length := by
        rw [List.sum_map_count_dedup_eq_length, List.length_map]

end Airspaces.Collection
