/-! Days of the week on which an airspace is active. Monday is day 0 and Sunday day 6. -/
namespace Airspaces

/-- A set of days, kept in increasing order. -/
structure Activity where
  days : List Int
  increasing : days.Pairwise (· < ·)
  deriving DecidableEq

namespace Activity

/-- The day put into its place; a day that is there stays once. -/
def insertDay (day : Int) : List Int → List Int
  | [] => [day]
  | d :: rest =>
    if day < d then day :: d :: rest
    else if day = d then d :: rest
    else d :: insertDay day rest

theorem mem_insertDay {x day : Int} {days : List Int} :
    x ∈ insertDay day days ↔ x = day ∨ x ∈ days := by
  induction days with
  | nil => simp [insertDay]
  | cons d rest ih =>
    unfold insertDay
    split
    · simp
    split
    · rename_i same
      subst same
      simp
    · simp only [List.mem_cons, ih]
      constructor
      · rintro (h | h | h) <;> simp [h]
      · rintro (h | h | h) <;> simp [h]

theorem insertDay_increasing (day : Int) {days : List Int} (h : days.Pairwise (· < ·)) :
    (insertDay day days).Pairwise (· < ·) := by
  induction days with
  | nil => simp [insertDay]
  | cons d rest ih =>
    have ⟨least, tail⟩ := List.pairwise_cons.1 h
    unfold insertDay
    split
    · rename_i before
      refine List.pairwise_cons.2 ⟨fun x member => ?_, h⟩
      rcases List.mem_cons.1 member with rfl | member
      · exact before
      · exact Int.lt_trans before (least x member)
    split
    · exact h
    · refine List.pairwise_cons.2 ⟨fun x member => ?_, ih tail⟩
      rcases mem_insertDay.1 member with rfl | member
      · omega
      · exact least x member

def insert (day : Int) (a : Activity) : Activity :=
  ⟨insertDay day a.days, insertDay_increasing day a.increasing⟩

def ofDays (days : List Int) : Activity := days.foldr insert ⟨[], .nil⟩

def everyday : Activity := ⟨[0, 1, 2, 3, 4, 5, 6], by decide⟩

def weekdays : Activity := ⟨[0, 1, 2, 3, 4], by decide⟩

def weekend : Activity := ⟨[5, 6], by decide⟩

instance : Inhabited Activity := ⟨everyday⟩

def isActive (a : Activity) (day : Int) : Bool := a.days.contains day

/-- The usual sets have a word of their own; others are listed. -/
def text (a : Activity) : String :=
  if a = everyday then "everyday"
  else if a = weekdays then "weekday"
  else if a = weekend then "weekend"
  else ",".intercalate (a.days.map toString)

end Activity

end Airspaces
