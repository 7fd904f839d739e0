import Airspaces.Database
import Airspaces.Proofs.Collection.Groups
import Airspaces.Proofs.Collection.Union
/-! Queries by class. The groups of a collection, its airspaces of some classes and the unions of
these all come from one partition of it. -/
namespace Airspaces

variable {α : Type} [Scalar α]

namespace AirspaceClass

theorem ofName?_name (k : AirspaceClass) : ofName? k.name = some k := by cases k <;> decide

theorem name_injective {k k' : AirspaceClass} (same : k.name = k'.name) : k = k' := by
  have found := congrArg ofName? same
  rw [ofName?_name, ofName?_name] at found
  exact Option.some.inj found

end AirspaceClass

namespace Collection

/-- The names of the classes of all airspaces, one after the other. -/
def classNames (c : Collection (Airspace α)) : List String :=
  c.toList.map fun a => a.airspaceClass.name

/-- The groups of a collection are its airspaces of each class that occurs. -/
structure Grouped (c : Collection (Airspace α)) (groups : List (String × List (Airspace α))) :
    Prop where
  keys : ∀ name, name ∈ groups.map (·.1) ↔ ∃ a ∈ c.toList, a.airspaceClass.name = name
  /-- The keys differ, and they stand in the order in which their classes are first seen. -/
  ordered : (groups.map (·.1)).Pairwise fun first second =>
    c.classNames.idxOf first < c.classNames.idxOf second
  members : ∀ k group, (AirspaceClass.name k, group) ∈ groups ↔
    (∃ a ∈ c.toList, a.airspaceClass = k) ∧ group = (c.byClass [k]).toList
  single : ∀ item ∈ c.items, ∃! entry, entry ∈ groups ∧
    ∃ k, entry = (AirspaceClass.name k, (c.byClass [k]).toList) ∧ item ∈ (c.byClass [k]).items
  sizes : (groups.map (·.2.length)).sum = c.count

/-- The airspaces of one class or another, as the union of both queries lists them. -/
structure Joined (c : Collection (Airspace α)) (wanted more : List AirspaceClass)
    (both : Collection (Airspace α)) : Prop where
  listed : both.items = (c.byClass wanted).items ++
    (c.byClass more).items.filter fun item => !wanted.contains item.value.airspaceClass
  items : both.items.Perm (c.byClass (wanted ∪ more)).items
  distinct : both.Distinct
  /-- Two airspaces stay two, also where their values are equal. -/
  twins : ∀ x ∈ c.items, ∀ y ∈ c.items, x.id ≠ y.id → x.value.airspaceClass ∈ wanted ∪ more →
    y.value.airspaceClass ∈ wanted ∪ more → [x, y].Subperm both.items

theorem toList_filter {β : Type} (p : β → Bool) (c : Collection β) :
    (c.filter p).toList = c.toList.filter p := by
  rw [filter, toList, toList, List.filter_map]
  rfl

theorem mem_byClass {wanted : List AirspaceClass} {c : Collection (Airspace α)}
    {item : Item (Airspace α)} :
    item ∈ (c.byClass wanted).items ↔ item ∈ c.items ∧ item.value.airspaceClass ∈ wanted := by
  rw [byClass, filter, List.mem_filter, List.contains_iff_mem]

/-- The airspaces of a class are those of its name. -/
theorem toList_byClass_singleton (k : AirspaceClass) (c : Collection (Airspace α)) :
    (c.byClass [k]).toList = c.toList.filter (·.airspaceClass.name == k.name) := by
  rw [byClass, toList_filter]
  refine List.filter_congr fun a _ => ?_
  rw [Bool.eq_iff_iff, List.contains_iff_mem, List.mem_singleton, beq_iff_eq]
  exact ⟨congrArg _, AirspaceClass.name_injective⟩

theorem mem_groupByClass {c : Collection (Airspace α)} {k : AirspaceClass}
    {group : List (Airspace α)} :
    (k.name, group) ∈ c.groupByClass ↔
      (∃ a ∈ c.toList, a.airspaceClass = k) ∧ group = (c.byClass [k]).toList := by
  rw [groupByClass, mem_groupBy, toList_byClass_singleton, List.mem_map]
  refine and_congr_left fun _ => exists_congr fun a => and_congr_right fun _ => ?_
  exact ⟨AirspaceClass.name_injective, congrArg _⟩

theorem groupByClass_grouped (c : Collection (Airspace α)) : c.Grouped c.groupByClass where
  keys name := by
    rw [groupByClass, groupBy_keys, List.mem_eraseDups, List.mem_map]
  ordered := by
    rw [groupByClass, groupBy_keys]
    exact eraseDups_ordered _
  members _ _ := mem_groupByClass
  single item member := by
    have listed : item.value ∈ c.toList := List.mem_map_of_mem member
    refine ⟨(item.value.airspaceClass.name, (c.byClass [item.value.airspaceClass]).toList),
      ⟨mem_groupByClass.mpr ⟨⟨item.value, listed, rfl⟩, rfl⟩, item.value.airspaceClass, rfl,
        mem_byClass.mpr ⟨member, List.mem_singleton_self _⟩⟩, ?_⟩
    rintro _ ⟨-, k, rfl, found⟩
    have same : item.value.airspaceClass = k := List.mem_singleton.mp (mem_byClass.mp found).2
    rw [same]
  sizes := by
    rw [groupByClass, groupBy_sizes, toList, List.length_map, count]

theorem Distinct.byClass_union {c : Collection (Airspace α)} (once : c.Distinct)
    (wanted more : List AirspaceClass) :
    c.Joined wanted more ((c.byClass wanted).union (c.byClass more)) := by
  have perm : ((c.byClass wanted).union (c.byClass more)).items.Perm
      (c.byClass (wanted ∪ more)).items := by
    have either : (c.byClass (wanted ∪ more)) =
        c.filter fun a => wanted.contains a.airspaceClass || more.contains a.airspaceClass := by
      refine congrArg (c.filter ·) (funext fun a => ?_)
      rw [Bool.eq_iff_iff, Bool.or_eq_true, List.contains_iff_mem, List.contains_iff_mem,
        List.contains_iff_mem, List.mem_union_iff]
    rw [either]
    exact once.filter_union_perm _ _
  refine {
    listed := once.filter_union_filter _ _
    items := perm
    distinct := union_distinct _ _
    twins := ?_ }
  intro x left y right differ one other
  refine List.subperm_of_subset ?_ ?_
  · have apart : x ≠ y := fun same => differ (congrArg Item.id same)
    simpa using apart
  · intro item member
    rw [perm.mem_iff]
    obtain rfl | rfl := List.mem_pair.mp member
    · exact mem_byClass.mpr ⟨left, one⟩
    · exact mem_byClass.mpr ⟨right, other⟩

end Collection

/-- The queries by class of a database agree with each other: its groups, its airspaces of some
classes and the unions of these. Collections of its airspaces are joined as sets are. -/
theorem Database.class_queries_agree (d : Database α) :
    d.collection.Grouped d.collection.groupByClass ∧
      (∀ wanted more, d.collection.Joined wanted more
        ((d.collection.byClass wanted).union (d.collection.byClass more))) ∧
      (∀ c : Collection (Airspace α), c.union c = c ↔ c.Distinct) ∧
      (∀ c : Collection (Airspace α), c.items.Subperm d.collection.items → c.Distinct) ∧
      ∀ c c' c'' : Collection (Airspace α), (c.union c').union c'' = c.union (c'.union c'') := by
  have once : d.collection.Distinct := Collection.ofList_distinct d.airspaces
  exact ⟨Collection.groupByClass_grouped _, once.byClass_union,
    fun _ => Collection.union_self_iff, fun _ => once.of_subperm, Collection.union_assoc⟩

theorem Database.class_queries_agree_of_twins :
    let danger : Airspace Rat :=
      { name := "ED-D 44".toList, airspaceClass := .danger, shape := .polygon [] }
    let restricted : Airspace Rat :=
      { name := "ED-R 31".toList, airspaceClass := .restricted, shape := .polygon [] }
    let c := Database.collection ⟨[danger, restricted, danger]⟩
    let both := (c.byClass [.restricted]).union (c.byClass [.danger])
    both.items = [⟨1, restricted⟩, ⟨0, danger⟩, ⟨2, danger⟩] ∧
      [⟨2, danger⟩, ⟨0, danger⟩].Subperm both.items ∧ c.union c = c := by
  intro danger restricted c both
  obtain ⟨-, joined, self, parts, -⟩ := class_queries_agree ⟨[danger, restricted, danger]⟩
  have union := joined [.restricted] [.danger]
  have first : ⟨0, danger⟩ ∈ c.items := List.mem_cons_self
  have last : ⟨2, danger⟩ ∈ c.items :=
    List.mem_cons_of_mem _ (List.mem_cons_of_mem _ List.mem_cons_self)
  exact ⟨union.listed, union.twins _ last _ first (by decide) (by decide) (by decide),
    (self c).mpr (parts c (List.Subperm.refl _))⟩

end Airspaces
