import MarkupDsl.Proofs.Classification.Payload
import MarkupDsl.Proofs.Spelling.Family
import Mathlib.Data.List.Nodup

/-!
# Claimants of a name

Several families may have one name.  All their beginnings are beginnings of the name, so among them
the order of texts is the order of lengths, and different ones spell the name differently.  Hence the
spelling of a name outlives the ordering of the families exactly when the first family that claims
the name is the one with the shortest beginning.
-/

namespace MarkupDsl

/-! ## Beginnings of one text -/

namespace Text

theorem le_of_begins {first second : String} (begins : first.toList <+: second.toList) :
    first ≤ second :=
  String.not_lt.1 begins.le

theorem le_iff_length_le {first second : String} {cs : List Char} (firstBegins : first.toList <+: cs)
    (secondBegins : second.toList <+: cs) : first ≤ second ↔ first.length ≤ second.length := by
  rw [← String.length_toList, ← String.length_toList]
  constructor
  · intro le
    refine Nat.le_of_not_lt fun shorter => ?_
    -- the shorter of two beginnings begins the longer one, and so comes first
    have begins := List.prefix_of_prefix_length_le secondBegins firstBegins (Nat.le_of_lt shorter)
    rw [String.le_antisymm le (le_of_begins begins)] at shorter
    exact Nat.lt_irrefl _ shorter
  · intro shorter
    exact le_of_begins (List.prefix_of_prefix_length_le firstBegins secondBegins shorter)

end Text

theorem Validation.dot_notMem_of_hasModuleForm {name : List Char} (form : hasModuleForm name = true) :
    '.' ∉ name :=
  fun member => absurd (isModuleChar_of_hasModuleForm form member) (by decide)

namespace Spelling

open Text

/-! ## Claimants -/

def claimantsAmong (namespaces : List (String × Namespace)) (name : List Char) :
    List (String × Namespace) :=
  namespaces.filter fun entry => (memberOf? entry.1 entry.2 name).isSome

/-- The families that claim a name: those that have it and, if there are none, the aliased ones that
have it after `data-`. -/
def claimants (tables : Tables) (name : String) : List (String × Namespace) :=
  match claimantsAmong tables.namespaces name.toList, removeStart? dataStart name.toList with
  | [], some bare => claimantsAmong (tables.namespaces.filter fun entry => entry.2.dataAlias) bare
  | direct, _ => direct

/-- Whether the first of some families is the one with the shortest beginning. -/
def ShortestFirst (families : List (String × Namespace)) : Prop :=
  ∀ first ∈ families.head?, ∀ other ∈ families, first.1.length ≤ other.1.length

section

variable {namespaces ordered : List (String × Namespace)} {name : List Char}
  {entry other : String × Namespace}

theorem mem_claimantsAmong_iff :
    entry ∈ claimantsAmong namespaces name ↔
      entry ∈ namespaces ∧ ∃ spelled, memberOf? entry.1 entry.2 name = some spelled := by
  rw [claimantsAmong, List.mem_filter, Option.isSome_iff_exists]

theorem prefix_of_mem_claimantsAmong (claims : entry ∈ claimantsAmong namespaces name) :
    entry.1.toList <+: name := by
  obtain ⟨_, spelled, found⟩ := mem_claimantsAmong_iff.1 claims
  obtain ⟨bare, written, _⟩ := memberOf?_eq_some_iff.1 found
  exact ⟨bare, written.symm⟩

theorem claimantsAmong_perm (same : ordered.Perm namespaces) (name : List Char) :
    (claimantsAmong ordered name).Perm (claimantsAmong namespaces name) :=
  same.filter _

theorem member?_eq_head? (namespaces : List (String × Namespace)) (name : List Char) :
    member? namespaces name =
      (claimantsAmong namespaces name).head?.bind fun entry => memberOf? entry.1 entry.2 name := by
  induction namespaces with
  | nil => rfl
  | cons first rest ih =>
      unfold member? claimantsAmong at ih ⊢
      rw [List.findSome?_cons, List.filter_cons]
      cases found : memberOf? first.1 first.2 name with
      | none => exact ih
      | some spelled => exact found.symm

theorem isSome_member?_iff : (member? namespaces name).isSome ↔ claimantsAmong namespaces name ≠ [] := by
  rw [member?_eq_head?]
  cases same : claimantsAmong namespaces name with
  | nil => simp
  | cons first rest =>
      have claims : first ∈ claimantsAmong namespaces name := same ▸ List.mem_cons_self
      obtain ⟨_, spelled, found⟩ := mem_claimantsAmong_iff.1 claims
      simp [found]

/-! ## Spellings of claimants -/

/-- Different claimants spell a name differently: what is left of the name has another length. -/
theorem eq_of_memberOf?_eq (wellFormed : AreWellFormed namespaces) {spelled : String}
    (present : entry ∈ namespaces) (alsoPresent : other ∈ namespaces)
    (found : memberOf? entry.1 entry.2 name = some spelled)
    (alsoFound : memberOf? other.1 other.2 name = some spelled) : entry = other := by
  obtain ⟨bare, written, _, spelling⟩ := memberOf?_eq_some_iff.1 found
  obtain ⟨otherBare, alsoWritten, _, otherSpelling⟩ := memberOf?_eq_some_iff.1 alsoFound
  have free {entry : String × Namespace} (present : entry ∈ namespaces) :
      '.' ∉ entry.2.moduleName.toList :=
    Validation.dot_notMem_of_hasModuleForm (wellFormed.members entry present).module
  -- no module has a dot in its name, so both spellings have their first dot behind the module
  have same : entry.2.moduleName.toList ++ '.' :: underscored bare =
      other.2.moduleName.toList ++ '.' :: underscored otherBare := by
    have texts := congrArg String.toList (spelling.symm.trans otherSpelling)
    simpa [String.toList_append, List.append_assoc] using texts
  have lengths : bare.length = otherBare.length := by
    have bares := congrArg List.length (append_mark_inj (free present) (free alsoPresent) same).2
    rwa [underscored, underscored, List.length_map, List.length_map] at bares
  -- what is left of the name is as long, hence the beginnings are the same
  have starts := (List.append_inj' (written.symm.trans alsoWritten) lengths).1
  exact List.inj_on_of_nodup_map wellFormed.distinct present alsoPresent (String.toList_inj.1 starts)

theorem shortestFirst_of_pairwise
    (sorted : ordered.Pairwise fun first second => first.1 ≤ second.1) :
    ShortestFirst (claimantsAmong ordered name) := by
  intro first head other claims
  have begins := prefix_of_mem_claimantsAmong (List.mem_of_mem_head? head)
  refine (le_iff_length_le begins (prefix_of_mem_claimantsAmong claims)).1 ?_
  have sorted := sorted.filter fun entry => (memberOf? entry.1 entry.2 name).isSome
  change (claimantsAmong ordered name).Pairwise _ at sorted
  cases same : claimantsAmong ordered name with
  | nil =>
      rw [same] at claims
      cases claims
  | cons least rest =>
      rw [same] at head claims sorted
      cases head
      rcases List.mem_cons.1 claims with rfl | later
      · exact String.le_refl _
      · exact (List.pairwise_cons.1 sorted).1 other later

/-- There is only one claimant with the shortest beginning. -/
theorem eq_of_shortestFirst (wellFormed : AreWellFormed namespaces)
    (claims : entry ∈ claimantsAmong namespaces name)
    (alsoClaims : other ∈ claimantsAmong namespaces name)
    (lengths : entry.1.length = other.1.length) : entry = other := by
  have begins := prefix_of_mem_claimantsAmong claims
  have alsoBegins := prefix_of_mem_claimantsAmong alsoClaims
  have starts : entry.1 = other.1 :=
    String.le_antisymm ((le_iff_length_le begins alsoBegins).2 (Nat.le_of_eq lengths))
      ((le_iff_length_le alsoBegins begins).2 (Nat.le_of_eq lengths.symm))
  exact List.inj_on_of_nodup_map wellFormed.distinct (mem_claimantsAmong_iff.1 claims).1
    (mem_claimantsAmong_iff.1 alsoClaims).1 starts

/--
Ordered families spell a name as the families do exactly when the first claimant is the one with the
shortest beginning.
-/
theorem member?_ordered_iff (wellFormed : AreWellFormed namespaces) (same : ordered.Perm namespaces)
    (sorted : ordered.Pairwise fun first second => first.1 ≤ second.1) (name : List Char) :
    member? ordered name = member? namespaces name ↔
      ShortestFirst (claimantsAmong namespaces name) := by
  have rearranged : (claimantsAmong ordered name).Perm (claimantsAmong namespaces name) :=
    claimantsAmong_perm same name
  have shortest : ShortestFirst (claimantsAmong ordered name) := shortestFirst_of_pairwise sorted
  rw [member?_eq_head?, member?_eq_head?]
  cases claims : claimantsAmong namespaces name with
  | nil =>
      rw [claims, List.perm_nil] at rearranged
      rw [rearranged]
      exact ⟨by rintro _ _ ⟨⟩, fun _ => rfl⟩
  | cons first rest =>
      cases sortedClaims : claimantsAmong ordered name with
      | nil =>
          rw [claims, sortedClaims] at rearranged
          cases List.nil_perm.1 rearranged
      | cons least others =>
          have firstClaims : first ∈ claimantsAmong namespaces name := claims ▸ List.mem_cons_self
          have leastClaims : least ∈ claimantsAmong namespaces name :=
            rearranged.subset (sortedClaims ▸ List.mem_cons_self)
          have leastOf : ∀ other ∈ claimantsAmong namespaces name,
              least.1.length ≤ other.1.length := fun other member =>
            shortest least (sortedClaims ▸ rfl) other (rearranged.symm.subset member)
          rw [List.head?_cons, List.head?_cons, Option.bind_some, Option.bind_some]
          constructor
          · -- one spelling has one claimant, so the first of the families is also the least
            intro equal
            obtain ⟨present, spelled, found⟩ := mem_claimantsAmong_iff.1 firstClaims
            have leastPresent := (mem_claimantsAmong_iff.1 leastClaims).1
            cases eq_of_memberOf?_eq wellFormed leastPresent present (equal.trans found) found
            rintro _ ⟨⟩ other member
            exact leastOf other (claims ▸ member)
          · intro firstShortest
            have lengths : least.1.length = first.1.length :=
              Nat.le_antisymm (leastOf first firstClaims)
                (firstShortest first rfl least (claims ▸ leastClaims))
            rw [eq_of_shortestFirst wellFormed leastClaims firstClaims lengths]

end

/-! ## Ordered tables -/

section

variable {tables : Tables} {name : String}

theorem claimants_of_direct (direct : claimantsAmong tables.namespaces name.toList ≠ []) :
    claimants tables name = claimantsAmong tables.namespaces name.toList := by
  unfold claimants
  split
  · next absent _ => exact absurd absent direct
  · rfl

theorem claimants_of_absent (absent : claimantsAmong tables.namespaces name.toList = []) :
    claimants tables name = match removeStart? dataStart name.toList with
      | none => []
      | some bare =>
        claimantsAmong (tables.namespaces.filter fun entry => entry.2.dataAlias) bare := by
  unfold claimants
  rw [absent]
  cases removeStart? dataStart name.toList <;> rfl

theorem namespaced?_of_direct (direct : claimantsAmong tables.namespaces name.toList ≠ []) :
    namespaced? tables name = member? tables.namespaces name.toList := by
  obtain ⟨spelled, found⟩ := Option.isSome_iff_exists.1 (isSome_member?_iff.2 direct)
  rw [namespaced?, found]
  rfl

theorem namespaced?_of_absent (absent : claimantsAmong tables.namespaces name.toList = []) :
    namespaced? tables name = aliasMember? tables.namespaces name.toList := by
  have missing : member? tables.namespaces name.toList = none := by
    rw [member?_eq_head?, absent]
    rfl
  rw [namespaced?, missing]
  rfl

theorem isSome_namespaced?_iff : (namespaced? tables name).isSome ↔ claimants tables name ≠ [] := by
  by_cases absent : claimantsAmong tables.namespaces name.toList = []
  · rw [namespaced?_of_absent absent, claimants_of_absent absent, aliasMember?]
    cases removeStart? dataStart name.toList with
    | none => simp
    | some bare => exact isSome_member?_iff
  · rw [namespaced?_of_direct absent, claimants_of_direct absent]
    exact isSome_member?_iff

theorem claimants_ordered_perm (tables : Tables) (name : String) :
    (claimants tables.ordered name).Perm (claimants tables name) := by
  have same : tables.ordered.namespaces.Perm tables.namespaces := sortEntries_perm _
  have direct := claimantsAmong_perm same name.toList
  by_cases absent : claimantsAmong tables.namespaces name.toList = []
  · rw [absent, List.perm_nil] at direct
    rw [claimants_of_absent absent, claimants_of_absent direct]
    cases removeStart? dataStart name.toList with
    | none => exact .refl _
    | some bare => exact claimantsAmong_perm (same.filter _) bare
  · have present : claimantsAmong tables.ordered.namespaces name.toList ≠ [] := fun empty =>
      absent (List.nil_perm.1 (empty ▸ direct))
    rw [claimants_of_direct absent, claimants_of_direct present]
    exact direct

/-- Ordered tables spell a name as a member of the same family exactly when its first claimant is the
one with the shortest beginning. -/
theorem namespaced?_ordered_iff (wellFormed : tables.WellFormed) (name : String) :
    namespaced? tables.ordered name = namespaced? tables name ↔
      ShortestFirst (claimants tables name) := by
  have same : tables.ordered.namespaces.Perm tables.namespaces := sortEntries_perm _
  have sorted := pairwise_sortEntries tables.namespaces
  have direct := claimantsAmong_perm same name.toList
  by_cases absent : claimantsAmong tables.namespaces name.toList = []
  · rw [absent, List.perm_nil] at direct
    rw [namespaced?_of_absent absent, namespaced?_of_absent direct, claimants_of_absent absent,
      aliasMember?, aliasMember?]
    cases removeStart? dataStart name.toList with
    | none => exact ⟨by rintro _ _ ⟨⟩, fun _ => rfl⟩
    | some bare =>
        exact member?_ordered_iff (wellFormed.namespaces.filter _) (same.filter _) (sorted.filter _)
          bare
  · have present : claimantsAmong tables.ordered.namespaces name.toList ≠ [] := fun empty =>
      absent (List.nil_perm.1 (empty ▸ direct))
    rw [namespaced?_of_direct absent, namespaced?_of_direct present, claimants_of_direct absent]
    exact member?_ordered_iff wellFormed.namespaces same sorted name.toList

theorem hyphen_mem_of_claimants (wellFormed : tables.WellFormed)
    (claimed : claimants tables name ≠ []) : '-' ∈ name.toList := by
  by_cases absent : claimantsAmong tables.namespaces name.toList = []
  · rw [claimants_of_absent absent] at claimed
    cases begun : removeStart? dataStart name.toList with
    | none =>
        rw [begun] at claimed
        exact absurd rfl claimed
    | some bare =>
        rw [removeStart?_eq_some_iff.1 begun]
        exact List.mem_append_left bare (by decide)
  · obtain ⟨entry, claims⟩ := List.exists_mem_of_ne_nil _ absent
    have hyphen := wellFormed.namespaces.hyphen_mem (mem_claimantsAmong_iff.1 claims).1
    exact (prefix_of_mem_claimantsAmong claims).subset hyphen

theorem attributeName_of_notMem (plain : name ∉ tables.suffixNames) :
    attributeName tables name = (namespaced? tables name).getD
      (if tables.hyphenFallback ∧ '-' ∈ name.toList then
        "string_attr " ++ Literal.encodeString name
      else name) := by
  rw [attributeName, if_neg plain]
  cases namespaced? tables name <;> rfl

/--
Ordered tables spell a name as the tables do exactly when its first claimant is the one with the
shortest beginning.
-/
theorem attributeName_ordered_iff (wellFormed : tables.WellFormed) (name : String) :
    attributeName tables.ordered name = attributeName tables name ↔
      ShortestFirst (claimants tables name) := by
  by_cases suffixed : name ∈ tables.suffixNames
  · -- a name that takes a suffix has no hyphen, so no family claims it
    have unclaimed : claimants tables name = [] := Decidable.byContradiction fun claimed =>
      wellFormed.hyphenFree name suffixed (hyphen_mem_of_claimants wellFormed claimed)
    rw [unclaimed, attributeName, attributeName, if_pos suffixed, if_pos]
    · exact ⟨by rintro _ _ ⟨⟩, fun _ => rfl⟩
    · exact suffixed
  · rw [← namespaced?_ordered_iff wellFormed, attributeName_of_notMem suffixed,
      attributeName_of_notMem (show name ∉ tables.ordered.suffixNames from suffixed)]
    have same := claimants_ordered_perm tables name
    have alike : (namespaced? tables.ordered name).isSome ↔ (namespaced? tables name).isSome := by
      rw [isSome_namespaced?_iff, isSome_namespaced?_iff]
      exact not_congr ⟨fun empty => List.nil_perm.1 (empty ▸ same),
        fun empty => List.perm_nil.1 (empty ▸ same)⟩
    cases ordered : namespaced? tables.ordered name with
    | none =>
        rw [ordered] at alike
        have missing := Option.not_isSome_iff_eq_none.1 fun found => nomatch alike.2 found
        rw [missing]
        exact ⟨fun _ => rfl, fun _ => rfl⟩
    | some spelled =>
        rw [ordered] at alike
        obtain ⟨other, found⟩ := Option.isSome_iff_exists.1 (alike.1 rfl)
        rw [found, Option.getD_some, Option.getD_some, Option.some_inj]

end

end Spelling

end MarkupDsl
