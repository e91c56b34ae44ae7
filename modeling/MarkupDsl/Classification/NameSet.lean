/-!
# Sets of names

A finite set of names is held as its increasing list, so that equal sets are equal values.
-/

namespace MarkupDsl

/-- Put a name at its place in an increasing list, unless it is there already. -/
def insertName (name : String) : List String → List String
  | [] => [name]
  | first :: rest =>
    if name < first then name :: first :: rest
    else if name = first then first :: rest
    else first :: insertName name rest

theorem mem_insertName {name other : String} {names : List String} :
    other ∈ insertName name names ↔ other = name ∨ other ∈ names := by
  induction names with
  | nil => simp [insertName]
  | cons first rest ih =>
    unfold insertName
    split
    · simp
    · split
      · next h => subst h; simp
      · simp only [List.mem_cons, ih]
        constructor
        · rintro (h | h | h)
          · exact Or.inr (Or.inl h)
          · exact Or.inl h
          · exact Or.inr (Or.inr h)
        · rintro (h | h | h)
          · exact Or.inr (Or.inl h)
          · exact Or.inl h
          · exact Or.inr (Or.inr h)

theorem pairwise_insertName {name : String} {names : List String}
    (sorted : names.Pairwise (· < ·)) : (insertName name names).Pairwise (· < ·) := by
  induction names with
  | nil => simp [insertName]
  | cons first rest ih =>
    rw [List.pairwise_cons] at sorted
    unfold insertName
    split
    · next h =>
      refine List.pairwise_cons.2 ⟨?_, List.pairwise_cons.2 sorted⟩
      intro other member
      rcases List.mem_cons.1 member with rfl | member
      · exact h
      · exact String.lt_trans h (sorted.1 other member)
    · next notBelow =>
      split
      · exact List.pairwise_cons.2 sorted
      · next different =>
        refine List.pairwise_cons.2 ⟨?_, ih sorted.2⟩
        intro other member
        rcases mem_insertName.1 member with rfl | member
        · rcases String.le_total first other with le | le
          · rcases Decidable.em (first < other) with below | notBelow'
            · exact below
            · exact absurd (String.le_antisymm (String.not_lt.1 notBelow') le) different
          · rcases Decidable.em (other < first) with below | notAbove
            · exact absurd below notBelow
            · exact absurd (String.le_antisymm le (String.not_lt.1 notAbove)) different
        · exact sorted.1 other member

structure NameSet where
  toList : List String
  sorted : toList.Pairwise (· < ·)
  deriving DecidableEq

namespace NameSet

def empty : NameSet := ⟨[], List.Pairwise.nil⟩

instance : EmptyCollection NameSet := ⟨empty⟩

instance : Inhabited NameSet := ⟨empty⟩

def insert (name : String) (names : NameSet) : NameSet :=
  ⟨insertName name names.toList, pairwise_insertName names.sorted⟩

def ofList (names : List String) : NameSet := names.foldr insert empty

def contains (names : NameSet) (name : String) : Bool := names.toList.contains name

instance : Membership String NameSet := ⟨fun names name => name ∈ names.toList⟩

instance (name : String) (names : NameSet) : Decidable (name ∈ names) :=
  inferInstanceAs (Decidable (name ∈ names.toList))

@[simp] theorem mem_ofList {name : String} {names : List String} :
    name ∈ ofList names ↔ name ∈ names := by
  induction names with
  | nil => simp [ofList, empty, Membership.mem]
  | cons first rest ih =>
    change name ∈ insertName first (ofList rest).toList ↔ _
    rw [mem_insertName, List.mem_cons]
    exact or_congr Iff.rfl ih

end NameSet

end MarkupDsl
