import Mathlib.Data.List.Nodup
import Mathlib.Data.String.Basic
import Pipewright.Json.Basic

/-!
# Settled values

A settled object has each of its names once, with the settled value of its last member of that name
(`lookup_settledMembers`), and the same holds of all objects inside it (`settled_isSettled`).
-/
namespace Pipewright.Json

/-! ## The last member of a name -/

/-- The value of the last member of a name. -/
def lastNamed (name : String) : List (String × Json) → Option Json
  | [] => none
  | (other, value) :: members =>
    (lastNamed name members).or (if other = name then some value else none)

/-- The last member of a name is looked for among later members first. -/
theorem lastNamed_append (name : String) (members later : List (String × Json)) :
    lastNamed name (members ++ later) =
      (lastNamed name later).or (lastNamed name members) := by
  induction members with
  | nil => simp [lastNamed]
  | cons member members ih => simp [lastNamed, ih, Option.or_assoc]

/-- Members of other names have no last one of a name. -/
theorem lastNamed_eq_none {name : String} {members : List (String × Json)}
    (absent : ∀ member ∈ members, member.1 ≠ name) : lastNamed name members = none := by
  induction members with
  | nil => rfl
  | cons member members ih =>
    have first := absent member List.mem_cons_self
    have later := ih fun other among => absent other (List.mem_cons_of_mem _ among)
    simp [lastNamed, first, later]

/-! ## Placing members -/

/-- The first member is the one of its name. -/
theorem lookup_cons_ite (name other : String) (value : Json) (members : List (String × Json)) :
    ((other, value) :: members).lookup name =
      if name = other then some value else members.lookup name := by
  by_cases same : name = other
  · simp [same]
  · have different : (name == other) = false := by simpa using same
    simp [List.lookup_cons, different, same]

/-- A placed member is found, and the others are found as before. -/
theorem lookup_putMember (name other : String) (value : Json) (placed : List (String × Json)) :
    (putMember name value placed).lookup other =
      if other = name then some value else placed.lookup other := by
  induction placed with
  | nil => rw [putMember, lookup_cons_ite]
  | cons member placed ih =>
    obtain ⟨first, old⟩ := member
    rw [putMember]
    split
    · rename_i same
      cases eq_of_beq same
      rw [lookup_cons_ite, lookup_cons_ite]
      split <;> rfl
    · rename_i different
      split
      · rw [lookup_cons_ite]
      · rw [lookup_cons_ite, lookup_cons_ite, ih]
        by_cases found : other = name
        · have distinct : name ≠ first := by simpa using different
          simp [found, distinct]
        · simp [found]

/-- Each name of settled members has the settled value of its last member, if it has one. -/
theorem lookup_settledMembers_of (name : String) (placed members : List (String × Json)) :
    (settledMembers placed members).lookup name =
      ((lastNamed name members).map settled).or (placed.lookup name) := by
  induction members generalizing placed with
  | nil => simp [settledMembers, lastNamed]
  | cons member members ih =>
    obtain ⟨other, value⟩ := member
    rw [settledMembers, ih, lookup_putMember, lastNamed]
    cases later : lastNamed name members with
    | some found => simp
    | none => by_cases same : name = other <;> simp [same, eq_comm]

/-- Each name of settled members has the settled value of its last member. -/
theorem lookup_settledMembers (name : String) (members : List (String × Json)) :
    (settledMembers [] members).lookup name = (lastNamed name members).map settled := by
  rw [lookup_settledMembers_of]
  exact Option.or_none

/-- Whether names are in order, each once. -/
def AreOrdered (members : List (String × Json)) : Prop :=
  members.Pairwise fun a b => a.1 < b.1

/-- What is placed among members is one of them or the member that was placed. -/
theorem mem_putMember {name : String} {value : Json} {placed : List (String × Json)}
    {member : String × Json} (among : member ∈ putMember name value placed) :
    member = (name, value) ∨ member ∈ placed := by
  induction placed with
  | nil => exact .inl (List.mem_singleton.mp among)
  | cons first placed ih =>
    rw [putMember] at among
    grind

/-- Placing a member keeps the order. -/
theorem AreOrdered.putMember {placed : List (String × Json)} (ordered : AreOrdered placed)
    (name : String) (value : Json) : AreOrdered (putMember name value placed) := by
  induction placed with
  | nil => exact List.pairwise_singleton _ _
  | cons member placed ih =>
    obtain ⟨first, old⟩ := member
    obtain ⟨least, later⟩ := List.pairwise_cons.mp ordered
    rw [Json.putMember]
    split
    · rename_i same
      cases eq_of_beq same
      exact List.pairwise_cons.mpr ⟨least, later⟩
    · rename_i different
      split
      · rename_i less
        have less : name < first := of_decide_eq_true less
        refine List.pairwise_cons.mpr ⟨?_, List.pairwise_cons.mpr ⟨least, later⟩⟩
        rintro other (_ | ⟨_, among⟩)
        · exact less
        · exact less.trans (least other among)
      · rename_i notLess
        have greater : first < name := by
          have distinct : name ≠ first := by simpa using different
          have notLess : ¬name < first := by simpa [keyLess] using notLess
          exact lt_of_le_of_ne (not_lt.mp notLess) distinct.symm
        refine List.pairwise_cons.mpr ⟨fun other among => ?_, ih later⟩
        rcases mem_putMember among with rfl | old
        · exact greater
        · exact least other old

/-- Settled members are in order. -/
theorem areOrdered_settledMembers {placed : List (String × Json)} (ordered : AreOrdered placed)
    (members : List (String × Json)) : AreOrdered (settledMembers placed members) := by
  induction members generalizing placed with
  | nil => exact ordered
  | cons member members ih => exact ih (ordered.putMember _ _)

/-- Whether names are distinct. -/
def HaveDistinctNames (members : List (String × Json)) : Prop :=
  (members.map Prod.fst).Nodup

/-- Names in order are distinct. -/
theorem AreOrdered.haveDistinctNames {members : List (String × Json)}
    (ordered : AreOrdered members) : HaveDistinctNames members := by
  rw [HaveDistinctNames, List.nodup_iff_pairwise_ne, List.pairwise_map]
  exact ordered.imp ne_of_lt

/-- Settled members have distinct names. -/
theorem haveDistinctNames_settledMembers (members : List (String × Json)) :
    HaveDistinctNames (settledMembers [] members) :=
  (areOrdered_settledMembers List.Pairwise.nil members).haveDistinctNames

/-- Items are settled one by one. -/
theorem settledItems_eq_map (items : List Json) : settledItems items = items.map settled := by
  induction items with
  | nil => rfl
  | cons item items ih => exact congrArg (settled item :: ·) ih

end Pipewright.Json
