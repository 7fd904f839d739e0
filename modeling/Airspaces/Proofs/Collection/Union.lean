import Airspaces.Collection.Basic
import Mathlib.Data.List.Nodup
/-! Unions of collections. What a union holds is told by the numbers of its items alone: each number
comes once, where it is first seen, so that equal values of different numbers stay apart. -/
namespace Airspaces.Collection

variable {β : Type}

/-- The items without those that repeat an earlier one. -/
def unrepeated : List (Item β) → List (Item β)
  | [] => []
  | item :: rest => item :: (unrepeated rest).filter (·.id != item.id)

theorem firstSeen_eq (seen : Std.HashSet Nat) (items : List (Item β)) :
    firstSeen seen items = (unrepeated items).filter fun item => !seen.contains item.id := by
  induction items generalizing seen with
  | nil => rfl
  | cons item rest ih =>
    unfold firstSeen unrepeated
    rw [List.filter_cons, List.filter_filter]
    cases known : seen.contains item.id with
    | true =>
      rw [if_pos rfl, ih, if_neg (by simp)]
      apply List.filter_congr
      intro other _
      -- An item of the same number is known as well.
      by_cases same : other.id = item.id <;> simp [same, known]
    | false =>
      rw [if_neg (by simp), ih, if_pos (by simp)]
      refine congrArg _ (List.filter_congr fun other _ => ?_)
      rw [Std.HashSet.contains_insert, Bool.not_or, Bool.and_comm, bne, BEq.comm]

theorem union_items (c d : Collection β) : (c.union d).items = unrepeated (c.items ++ d.items) := by
  rw [union, firstSeen_eq]
  exact List.filter_eq_self.mpr fun _ _ => by simp

theorem unrepeated_ids {items : List (Item β)} {id : Nat} :
    id ∈ (unrepeated items).map Item.id ↔ id ∈ items.map Item.id := by
  induction items with
  | nil => rfl
  | cons item rest ih =>
    simp only [List.mem_map] at ih
    simp only [unrepeated, List.map_cons, List.mem_cons, List.mem_map, List.mem_filter, bne_iff_ne]
    constructor
    · rintro (rfl | ⟨other, ⟨member, -⟩, rfl⟩)
      · exact .inl rfl
      · exact .inr (ih.mp ⟨other, member, rfl⟩)
    · rintro (rfl | later)
      · exact .inl rfl
      · obtain ⟨other, member, rfl⟩ := ih.mpr later
        by_cases same : other.id = item.id
        · exact .inl same
        · exact .inr ⟨other, ⟨member, same⟩, rfl⟩

theorem unrepeated_nodup (items : List (Item β)) : ((unrepeated items).map Item.id).Nodup := by
  induction items with
  | nil => exact List.nodup_nil
  | cons item rest ih =>
    rw [unrepeated, List.map_cons, List.nodup_cons]
    refine ⟨?_, (List.filter_sublist.map Item.id).nodup ih⟩
    intro repeats
    obtain ⟨other, member, same⟩ := List.mem_map.mp repeats
    exact bne_iff_ne.mp (List.mem_filter.mp member).2 same

theorem unrepeated_of_nodup {items : List (Item β)} (once : (items.map Item.id).Nodup) :
    unrepeated items = items := by
  induction items with
  | nil => rfl
  | cons item rest ih =>
    rw [List.map_cons, List.nodup_cons] at once
    rw [unrepeated, ih once.2]
    refine congrArg _ (List.filter_eq_self.mpr fun other member => bne_iff_ne.mpr ?_)
    exact fun same => once.1 (same ▸ List.mem_map_of_mem member)

/-- After some items, only those are left that they do not have. -/
theorem unrepeated_append (xs ys : List (Item β)) :
    unrepeated (xs ++ ys) =
      unrepeated xs ++ (unrepeated ys).filter fun item => !(xs.map Item.id).contains item.id := by
  induction xs with
  | nil => exact (List.filter_eq_self.mpr fun _ _ => rfl).symm
  | cons x rest ih =>
    rw [List.cons_append, unrepeated, unrepeated, ih, List.filter_append, List.filter_filter,
      List.cons_append]
    refine congrArg (fun later => x :: (_ ++ later)) (List.filter_congr fun other _ => ?_)
    rw [List.map_cons, List.contains_cons, Bool.not_or]
    rfl

/-- Items that repeat others may be left out before. -/
theorem unrepeated_unrepeated_append (xs ys : List (Item β)) :
    unrepeated (unrepeated xs ++ ys) = unrepeated (xs ++ ys) := by
  rw [unrepeated_append, unrepeated_append, unrepeated_of_nodup (unrepeated_nodup xs)]
  refine congrArg _ (List.filter_congr fun item _ => congrArg _ ?_)
  rw [Bool.eq_iff_iff, List.contains_iff_mem, List.contains_iff_mem, unrepeated_ids]

theorem unrepeated_append_unrepeated (xs ys : List (Item β)) :
    unrepeated (xs ++ unrepeated ys) = unrepeated (xs ++ ys) := by
  rw [unrepeated_append, unrepeated_append, unrepeated_of_nodup (unrepeated_nodup ys)]

/-- No item comes twice. -/
def Distinct (c : Collection β) : Prop := (c.items.map Item.id).Nodup

theorem union_distinct (c d : Collection β) : (c.union d).Distinct := by
  rw [Distinct, union_items]
  exact unrepeated_nodup _

theorem union_assoc (c d e : Collection β) : (c.union d).union e = c.union (d.union e) := by
  have items : ((c.union d).union e).items = (c.union (d.union e)).items := by
    simp only [union_items, unrepeated_unrepeated_append, unrepeated_append_unrepeated,
      List.append_assoc]
  exact congrArg mk items

/-- A union with itself is the collection itself, as long as no item comes twice. -/
theorem union_self_iff {c : Collection β} : c.union c = c ↔ c.Distinct := by
  constructor
  · intro same
    rw [← same]
    exact union_distinct c c
  · intro once
    have items : (c.union c).items = c.items := by
      have nothing : c.items.filter (fun item => !(c.items.map Item.id).contains item.id) = [] := by
        refine List.filter_eq_nil_iff.mpr fun item member => ?_
        simpa using ⟨item, member, rfl⟩
      rw [union_items, unrepeated_append, unrepeated_of_nodup once, nothing, List.append_nil]
    exact congrArg mk items

theorem ofList_distinct (values : List β) : (ofList values).Distinct := by
  have numbers : (ofList values).items.map Item.id = List.range' 0 values.length := by
    rw [ofList, List.map_map]
    exact List.zipIdx_map_snd 0 values
  rw [Distinct, numbers]
  exact List.nodup_range'

theorem Distinct.filter {c : Collection β} (once : c.Distinct) (p : β → Bool) :
    (c.filter p).Distinct :=
  (List.filter_sublist.map Item.id).nodup once

/-- Neither does it in a collection of some of the items, in whatever order. -/
theorem Distinct.of_subperm {c d : Collection β} (once : d.Distinct)
    (part : c.items.Subperm d.items) : c.Distinct := by
  obtain ⟨items, same, kept⟩ := part
  exact ((same.map Item.id).nodup_iff).mp ((kept.map Item.id).nodup once)

theorem Distinct.eq_of_id {c : Collection β} (once : c.Distinct) {x y : Item β} (left : x ∈ c.items)
    (right : y ∈ c.items) (same : x.id = y.id) : x = y :=
  List.inj_on_of_nodup_map once left right same

/-- A union of two parts of a collection is the first one and then what the other one has more. -/
theorem Distinct.filter_union_filter {c : Collection β} (once : c.Distinct) (p q : β → Bool) :
    ((c.filter p).union (c.filter q)).items =
      (c.filter p).items ++ (c.filter q).items.filter fun item => !p item.value := by
  rw [union_items, unrepeated_append, unrepeated_of_nodup (once.filter p),
    unrepeated_of_nodup (once.filter q)]
  refine congrArg _ (List.filter_congr fun item member => congrArg _ ?_)
  have listed : item ∈ c.items := (List.mem_filter.mp member).1
  rw [Bool.eq_iff_iff, List.contains_iff_mem, List.mem_map]
  constructor
  · rintro ⟨other, found, same⟩
    obtain ⟨listed', holds⟩ := List.mem_filter.mp found
    exact once.eq_of_id listed' listed same ▸ holds
  · exact fun holds => ⟨item, List.mem_filter.mpr ⟨listed, holds⟩, rfl⟩

/-- It holds the items of both parts, each once. -/
theorem Distinct.filter_union_perm {c : Collection β} (once : c.Distinct) (p q : β → Bool) :
    ((c.filter p).union (c.filter q)).items.Perm (c.filter fun x => p x || q x).items := by
  rw [List.perm_ext_iff_of_nodup (List.Nodup.of_map _ (union_distinct _ _))
    (List.Nodup.of_map _ (once.filter _)), once.filter_union_filter]
  intro item
  simp only [Collection.filter, List.mem_append, List.mem_filter]
  cases p item.value <;> simp

end Airspaces.Collection
