import MarkupDsl.Proofs.Classification.Presets
import MarkupDsl.Proofs.Spelling.Claimants

/-!
# Families that are apart

Families are apart if the beginning of none begins the beginning of another one.  Then a name is
spelled as a member of whatever family has it, and the order of the families does not matter.  If
moreover no beginning starts with `data-`, the two spellings of a member lead to its own family: the
plain one always, and the one after `data-` exactly when the family has the alias.
-/

namespace MarkupDsl.Spelling

open Text

/-- Whether the beginning of no family begins the beginning of another one. -/
def AreApart (families : List (String × Namespace)) : Prop :=
  ∀ first ∈ families, ∀ second ∈ families, first.1.toList <+: second.1.toList → first.1 = second.1

instance (families : List (String × Namespace)) : Decidable (AreApart families) :=
  inferInstanceAs (Decidable (∀ first ∈ families, ∀ second ∈ families, _ → _))

/-! ## Members -/

section

variable {families ordered : List (String × Namespace)} {entry other : String × Namespace}
  {name : List Char} {spelled : String}

theorem AreApart.mono (apart : AreApart families) (among : ordered ⊆ families) :
    AreApart ordered :=
  fun first present second alsoPresent => apart first (among present) second (among alsoPresent)

/-- Of families that are apart, only one has a beginning of a given name. -/
theorem AreApart.eq_of_prefix (apart : AreApart families) (wellFormed : AreWellFormed families)
    (present : entry ∈ families) (alsoPresent : other ∈ families)
    (begins : entry.1.toList <+: name) (alsoBegins : other.1.toList <+: name) : entry = other := by
  have starts : entry.1 = other.1 := by
    rcases List.prefix_or_prefix_of_prefix begins alsoBegins with shorter | longer
    · exact apart entry present other alsoPresent shorter
    · exact (apart other alsoPresent entry present longer).symm
  exact List.inj_on_of_nodup_map wellFormed.distinct present alsoPresent starts

theorem AreApart.member?_eq_some_iff (apart : AreApart families)
    (wellFormed : AreWellFormed families) :
    member? families name = some spelled ↔
      ∃ entry ∈ families, memberOf? entry.1 entry.2 name = some spelled := by
  constructor
  · exact exists_memberOf?_of_member?
  · rintro ⟨entry, present, found⟩
    have claims : entry ∈ claimantsAmong families name :=
      mem_claimantsAmong_iff.2 ⟨present, spelled, found⟩
    obtain ⟨first, own⟩ := Option.isSome_iff_exists.1
      (isSome_member?_iff.2 (List.ne_nil_of_mem claims))
    obtain ⟨other, alsoPresent, alsoFound⟩ := exists_memberOf?_of_member? own
    have alsoClaims : other ∈ claimantsAmong families name :=
      mem_claimantsAmong_iff.2 ⟨alsoPresent, first, alsoFound⟩
    have same := apart.eq_of_prefix wellFormed present alsoPresent
      (prefix_of_mem_claimantsAmong claims) (prefix_of_mem_claimantsAmong alsoClaims)
    rw [own, ← alsoFound, ← same, found]

/-- The order of families that are apart does not matter. -/
theorem AreApart.member?_perm (apart : AreApart families) (wellFormed : AreWellFormed families)
    (same : ordered.Perm families) (name : List Char) :
    member? ordered name = member? families name := by
  apply Option.ext
  intro spelled
  rw [(apart.mono same.subset).member?_eq_some_iff (wellFormed.perm same),
    apart.member?_eq_some_iff wellFormed]
  simp only [same.mem_iff]

theorem AreApart.aliasMember?_perm (apart : AreApart families) (wellFormed : AreWellFormed families)
    (same : ordered.Perm families) (name : List Char) :
    aliasMember? ordered name = aliasMember? families name := by
  have aliased := (apart.mono (List.filter_subset_self _)).member?_perm
    (wellFormed.filter fun entry => entry.2.dataAlias) (same.filter _)
  unfold aliasMember?
  simp only [aliased]

/-! ## Names after `data-` -/

/-- A name that begins like no family is a member of none. -/
theorem member?_eq_none (foreign : ∀ entry ∈ families, ¬ entry.1.toList <+: name) :
    member? families name = none := by
  rw [Option.eq_none_iff_forall_ne_some]
  intro spelled found
  obtain ⟨entry, present, member⟩ := exists_memberOf?_of_member? found
  obtain ⟨bare, written, _⟩ := memberOf?_eq_some_iff.1 member
  exact foreign entry present ⟨bare, written.symm⟩

/-- A name after `data-` begins with no shorter text that has a hyphen. -/
theorem dataStart_prefix_of_hyphen {begun : List Char} (hyphen : '-' ∈ begun)
    (begins : begun <+: dataStart ++ name) : dataStart <+: begun := by
  rcases List.prefix_or_prefix_of_prefix begins (List.prefix_append dataStart name) with
    shorter | longer
  · have last : dataStart = ['d', 'a', 't', 'a'] ++ ['-'] := rfl
    rw [last, List.prefix_concat_iff] at shorter
    rcases shorter with whole | cut
    · rw [whole]
      exact List.prefix_refl _
    · exact absurd (cut.subset hyphen) (by decide)
  · exact longer

/-- If no beginning starts with `data-`, no family has a name that does. -/
theorem member?_dataStart_append (wellFormed : AreWellFormed families)
    (free : ∀ entry ∈ families, ¬ dataStart <+: entry.1.toList) (name : List Char) :
    member? families (dataStart ++ name) = none :=
  member?_eq_none fun entry present begins =>
    free entry present (dataStart_prefix_of_hyphen (wellFormed.hyphen_mem present) begins)

end

/-! ## The two spellings of a member -/

section

variable {tables : Tables} {start bare : String} {family : Namespace}

/-- A text that begins with no capital letter does not begin with a module. -/
theorem not_moduleName_prefix (validated : tables.IsValidated) {entry : String × Namespace}
    (present : entry ∈ tables.namespaces) {c : Char} (small : c.isUpper = false) (cs : List Char) :
    ¬ entry.2.moduleName.toList <+: c :: cs := by
  obtain ⟨first, rest, ending, same, capital, _⟩ :=
    Validation.hasModuleForm_eq_true_iff.1 (validated.hasModuleForm present)
  intro begins
  rw [same] at begins
  rw [(List.cons_prefix_cons.1 begins).1, small] at capital
  cases capital

theorem attributeName_of_hyphen (wellFormed : tables.WellFormed) {name : String}
    (hyphen : '-' ∈ name.toList) :
    attributeName tables name = (namespaced? tables name).getD
      (if tables.hyphenFallback then "string_attr " ++ Literal.encodeString name else name) := by
  rw [attributeName_of_notMem fun suffixed => wellFormed.hyphenFree name suffixed hyphen]
  simp only [hyphen, and_true]

theorem namespaced?_append (wellFormed : tables.WellFormed) (apart : AreApart tables.namespaces)
    (present : (start, family) ∈ tables.namespaces) (own : bare ∈ family.names) :
    namespaced? tables (start ++ bare) =
      some (family.moduleName ++ "." ++ String.ofList (underscored bare.toList)) := by
  rw [namespaced?, (apart.member?_eq_some_iff wellFormed.namespaces).2
    ⟨_, present, memberOf?_append own⟩]
  rfl

/-- A name after `data-` is looked for among the aliased families only. -/
theorem namespaced?_data_append (wellFormed : tables.WellFormed)
    (free : ∀ entry ∈ tables.namespaces, ¬ dataStart <+: entry.1.toList) (name : String) :
    namespaced? tables ("data-" ++ name) =
      member? (tables.namespaces.filter fun entry => entry.2.dataAlias) name.toList := by
  rw [namespaced?, aliasMember?, toList_data_append,
    member?_dataStart_append wellFormed.namespaces free, removeStart?_append]
  rfl

/-- A member of a family without the alias is no member of any family after `data-`. -/
theorem namespaced?_data_append_of_unaliased (wellFormed : tables.WellFormed)
    (apart : AreApart tables.namespaces)
    (free : ∀ entry ∈ tables.namespaces, ¬ dataStart <+: entry.1.toList)
    (present : (start, family) ∈ tables.namespaces) (unaliased : family.dataAlias = false) :
    namespaced? tables ("data-" ++ (start ++ bare)) = none := by
  rw [namespaced?_data_append wellFormed free]
  refine member?_eq_none ?_
  intro entry kept begins
  obtain ⟨alsoPresent, aliased⟩ := List.mem_filter.1 kept
  have own : start.toList <+: (start ++ bare).toList := by
    rw [String.toList_append]
    exact List.prefix_append _ _
  have same := apart.eq_of_prefix wellFormed.namespaces alsoPresent present begins own
  rw [same, unaliased] at aliased
  cases aliased

/-- A member of a family with the alias is spelled with its own module after `data-` as well. -/
theorem namespaced?_data_append_of_aliased (wellFormed : tables.WellFormed)
    (apart : AreApart tables.namespaces)
    (free : ∀ entry ∈ tables.namespaces, ¬ dataStart <+: entry.1.toList)
    (present : (start, family) ∈ tables.namespaces) (aliased : family.dataAlias = true)
    (own : bare ∈ family.names) :
    namespaced? tables ("data-" ++ (start ++ bare)) =
      some (family.moduleName ++ "." ++ String.ofList (underscored bare.toList)) := by
  rw [namespaced?_data_append wellFormed free]
  have kept : (start, family) ∈ tables.namespaces.filter fun entry => entry.2.dataAlias :=
    List.mem_filter.2 ⟨present, aliased⟩
  exact ((apart.mono (List.filter_subset_self _)).member?_eq_some_iff
    (wellFormed.namespaces.filter _)).2 ⟨_, kept, memberOf?_append own⟩

end

/--
Both spellings of an aliased attribute agree.  If the families of validated tables are apart and no
beginning starts with `data-`, a name of a family is spelled with the module of that family after its
beginning, and just so after `data-` and its beginning if the family has the alias.  Without the alias
the name after `data-` is a string attribute or stays as it is, and it does not begin with a module.
-/
theorem attributeName_both_spellings {tables : Tables} (validated : tables.IsValidated)
    (apart : AreApart tables.namespaces)
    (free : ∀ entry ∈ tables.namespaces, ¬ dataStart <+: entry.1.toList) {start : String}
    {family : Namespace} (present : (start, family) ∈ tables.namespaces) {bare : String}
    (own : bare ∈ family.names) :
    attributeName tables (start ++ bare) =
        family.moduleName ++ "." ++ String.ofList (underscored bare.toList) ∧
      (family.dataAlias = true → attributeName tables ("data-" ++ (start ++ bare)) =
        family.moduleName ++ "." ++ String.ofList (underscored bare.toList)) ∧
      (family.dataAlias = false →
        attributeName tables ("data-" ++ (start ++ bare)) =
            (if tables.hyphenFallback then
              "string_attr " ++ Literal.encodeString ("data-" ++ (start ++ bare))
            else "data-" ++ (start ++ bare)) ∧
          ∀ entry ∈ tables.namespaces, ¬ entry.2.moduleName.toList <+:
            (attributeName tables ("data-" ++ (start ++ bare))).toList) := by
  have wellFormed := validated.wellFormed
  have hyphen : '-' ∈ (start ++ bare).toList := by
    rw [String.toList_append]
    exact List.mem_append_left _ (wellFormed.namespaces.hyphen_mem present)
  have alsoHyphen : '-' ∈ ("data-" ++ (start ++ bare)).toList := by
    rw [toList_data_append]
    exact List.mem_append_right _ hyphen
  rw [attributeName_of_hyphen wellFormed hyphen, attributeName_of_hyphen wellFormed alsoHyphen]
  refine ⟨?_, ?_, ?_⟩
  · rw [namespaced?_append wellFormed apart present own]
    rfl
  · intro aliased
    rw [namespaced?_data_append_of_aliased wellFormed apart free present aliased own]
    rfl
  · intro unaliased
    rw [namespaced?_data_append_of_unaliased wellFormed apart free present unaliased,
      Option.getD_none]
    refine ⟨rfl, ?_⟩
    intro entry member
    split
    · rw [String.toList_append]
      exact not_moduleName_prefix validated member (c := 's') rfl _
    · rw [toList_data_append]
      exact not_moduleName_prefix validated member (c := 'd') rfl _

/-- In the extended preset the htmx names have both spellings, the ARIA names only one. -/
theorem attributeName_both_spellings_extended :
    (Preset.extended.tables.IsValidated ∧ AreApart Preset.extended.tables.namespaces ∧
      ∀ entry ∈ Preset.extended.tables.namespaces, ¬ dataStart <+: entry.1.toList) ∧
    (("hx-", Preset.htmx) ∈ Preset.extended.tables.namespaces ∧
      "history-elt" ∈ Preset.htmx.names ∧
      attributeName Preset.extended.tables "hx-history-elt" = "Hx.history_elt" ∧
      attributeName Preset.extended.tables "data-hx-history-elt" = "Hx.history_elt") ∧
    ("aria-", Preset.aria) ∈ Preset.extended.tables.namespaces ∧ "label" ∈ Preset.aria.names ∧
      attributeName Preset.extended.tables "aria-label" = "Aria.label" ∧
      attributeName Preset.extended.tables "data-aria-label" =
        "string_attr \"data-aria-label\"" := by
  have validated := Preset.isValidated_tables .extended
  have apart : AreApart Preset.extended.tables.namespaces := by decide
  have free : ∀ entry ∈ Preset.extended.tables.namespaces, ¬ dataStart <+: entry.1.toList := by
    decide
  have htmx : ("hx-", Preset.htmx) ∈ Preset.extended.tables.namespaces := by simp [Preset.tables]
  have aria : ("aria-", Preset.aria) ∈ Preset.extended.tables.namespaces := by simp [Preset.tables]
  have history : "history-elt" ∈ Preset.htmx.names := NameSet.mem_ofList.2 (by decide)
  have label : "label" ∈ Preset.aria.names := NameSet.mem_ofList.2 (by decide)
  have aliased := attributeName_both_spellings validated apart free htmx history
  have plain := attributeName_both_spellings validated apart free aria label
  exact ⟨⟨validated, apart, free⟩, ⟨htmx, history, aliased.1, aliased.2.1 rfl⟩, aria, label,
    plain.1, (plain.2.2 rfl).1⟩

/-! ## Rearranged families -/

section

variable {tables : Tables} {families : List (String × Namespace)}

/-- Tables whose families are apart spell every name alike in whatever order they are tried. -/
theorem namespaced?_perm (wellFormed : tables.WellFormed) (apart : AreApart tables.namespaces)
    (same : families.Perm tables.namespaces) (name : String) :
    namespaced? { tables with namespaces := families } name = namespaced? tables name := by
  rw [namespaced?, namespaced?, apart.member?_perm wellFormed.namespaces same,
    apart.aliasMember?_perm wellFormed.namespaces same]

theorem attributeName_perm (wellFormed : tables.WellFormed) (apart : AreApart tables.namespaces)
    (same : families.Perm tables.namespaces) (name : String) :
    attributeName { tables with namespaces := families } name = attributeName tables name := by
  rw [attributeName, attributeName, namespaced?_perm wellFormed apart same]

end

end MarkupDsl.Spelling
