import Mathlib.Data.List.Nodup
import ScoringRules.Json

/-!
# Layouts of documents

A layout tells where the records of a document are, what their members are called, and which of them
may be left out. It is all that is needed to say in which ways a document can be edited without
changing what it means.

- `Layout` is the shape of the documents of a type
- `Edit` is one edit of a document of a layout, at any depth
- `Json.GivenOnce.of_perm` and the lemmas next to it keep fields from being given twice
- `Edit.lookups` follows the members of a record through an edit
-/

namespace ScoringRules

/-- A member of a record. -/
structure Member (L : Type) where
  name : String
  layout : L
  /-- Whether a document says the same as leaving the member out. -/
  IsDefault : Json → Prop

/-- What documents of a type are made up of, as far as edits go. -/
inductive Layout where
  /-- Documents without inner documents. -/
  | scalar
  | list (item : Layout)
  /-- Documents that may be null instead. -/
  | nullable (content : Layout)
  | record (members : List (Member Layout))
  /-- Objects with one member, which is named for the case. -/
  | choice (cases : List (String × Layout))

/-- One edit of a document: in a record, members are put in another order, a member of another name
is added, or a member that says no more than its default is left out; or else, an inner document is
edited. -/
inductive Edit : Layout → Json → Json → Prop
  | reorder {members : List (Member Layout)} {given given' : List (String × Json)}
      (order : given.Perm given') : Edit (.record members) (.object given) (.object given')
  | add {members : List (Member Layout)} {before after : List (String × Json)} {name : String}
      {value : Json} (unknown : ∀ member ∈ members, member.name ≠ name) :
      Edit (.record members) (.object (before ++ after))
        (.object (before ++ (name, value) :: after))
  | drop {members : List (Member Layout)} {member : Member Layout}
      {before after : List (String × Json)} {value : Json} (known : member ∈ members)
      (isDefault : member.IsDefault value) :
      Edit (.record members) (.object (before ++ (member.name, value) :: after))
        (.object (before ++ after))
  | member {members : List (Member Layout)} {member : Member Layout}
      {before after : List (String × Json)} {value value' : Json} (known : member ∈ members)
      (inner : Edit member.layout value value') :
      Edit (.record members) (.object (before ++ (member.name, value) :: after))
        (.object (before ++ (member.name, value') :: after))
  | item {item : Layout} {before after : List Json} {value value' : Json}
      (inner : Edit item value value') :
      Edit (.list item) (.array (before ++ value :: after)) (.array (before ++ value' :: after))
  | content {content : Layout} {value value' : Json} (inner : Edit content value value') :
      Edit (.nullable content) value value'
  | case {cases : List (String × Layout)} {name : String} {content : Layout} {value value' : Json}
      (known : (name, content) ∈ cases) (inner : Edit content value value') :
      Edit (.choice cases) (.object [(name, value)]) (.object [(name, value')])

namespace Edit

variable {json json' : Json}

/-- Null cannot be edited, and no edit leads to it. -/
theorem ne_null {layout : Layout} (edit : Edit layout json json') :
    json ≠ .null ∧ json' ≠ .null := by
  induction edit with
  | content _ ih => exact ih
  | _ => exact ⟨nofun, nofun⟩

/-- An edit of a list edits one of its items. -/
theorem exists_item {item : Layout} (edit : Edit (.list item) json json') :
    ∃ before value value' after, Edit item value value' ∧
      json = .array (before ++ value :: after) ∧ json' = .array (before ++ value' :: after) := by
  cases edit with
  | item inner => exact ⟨_, _, _, _, inner, rfl, rfl⟩

/-- An edit of a choice edits the content of its case. -/
theorem exists_case {cases : List (String × Layout)} (edit : Edit (.choice cases) json json') :
    ∃ name content value value', (name, content) ∈ cases ∧ Edit content value value' ∧
      json = .object [(name, value)] ∧ json' = .object [(name, value')] := by
  cases edit with
  | case known inner => exact ⟨_, _, _, _, known, inner, rfl, rfl⟩

/-- An edit of a document that may be null edits its content. -/
theorem of_nullable {content : Layout} (edit : Edit (.nullable content) json json') :
    Edit content json json' := by
  cases edit with
  | content inner => exact inner

end Edit

section Lookups

variable {name other : String} {value : Json} {before after : List (String × Json)}

/-- A member is found behind those of its name that come before it. -/
theorem lookup_insert_self : (before ++ (name, value) :: after).lookup name =
    (before.lookup name).or (some value) := by
  rw [List.lookup_append, List.lookup_cons_self]

/-- A member does not matter to the search for another name. -/
theorem lookup_insert_of_ne (ne : name ≠ other) :
    (before ++ (other, value) :: after).lookup name = (before ++ after).lookup name := by
  rw [List.lookup_append, List.lookup_append, List.lookup_cons, beq_false_of_ne ne]

/-- A name that is not there is not found. -/
theorem lookup_eq_none_of_not_mem {given : List (String × Json)}
    (missing : name ∉ given.map Prod.fst) : given.lookup name = none := by
  rw [List.lookup_eq_none_iff]
  intro entry member
  rw [bne_iff_ne]
  rintro rfl
  exact missing (List.mem_map_of_mem member)

/-- A first member of another name is passed over. -/
theorem lookup_cons_of_ne {key : String} {given : List (String × Json)} (ne : name ≠ key) :
    ((key, value) :: given).lookup name = given.lookup name :=
  @lookup_insert_of_ne name key value [] given ne

/-- A name that occurs only once is looked up in any order. -/
theorem lookup_eq_of_perm {given given' : List (String × Json)}
    (single : (given.map Prod.fst).count name ≤ 1) (order : given.Perm given') :
    given'.lookup name = given.lookup name := by
  induction order with
  | nil => rfl
  | @cons entry rest rest' _ ih =>
      obtain ⟨key, value⟩ := entry
      by_cases same : name = key
      · rw [same, List.lookup_cons_self, List.lookup_cons_self]
      · rw [List.map_cons, List.count_cons_of_ne (Ne.symm same)] at single
        rw [lookup_cons_of_ne same, lookup_cons_of_ne same, ih single]
  | swap first second rest =>
      obtain ⟨key, value⟩ := first
      obtain ⟨key', value'⟩ := second
      by_cases same : name = key
      · subst same
        have other : name ≠ key' := by
          rintro rfl
          rw [List.map_cons, List.map_cons, List.count_cons_self, List.count_cons_self] at single
          omega
        rw [List.lookup_cons_self, lookup_cons_of_ne other, List.lookup_cons_self]
      · rw [lookup_cons_of_ne same]
        by_cases same' : name = key'
        · rw [same', List.lookup_cons_self, List.lookup_cons_self]
        · rw [lookup_cons_of_ne same', lookup_cons_of_ne same', lookup_cons_of_ne same]
  | trans first _ ih ih' =>
      rw [ih' (by rwa [← (first.map Prod.fst).count_eq]), ih single]

end Lookups

/-- What an edit may do to a member of a record, by what it is before and after. -/
inductive Member.Edited (member : Member Layout) : Option Json → Option Json → Prop
  | same {given : Option Json} : Edited member given given
  | inside {value value' : Json} (edit : Edit member.layout value value') :
      Edited member (some value) (some value')
  | dropped {value : Json} (isDefault : member.IsDefault value) : Edited member (some value) none

namespace Member.Edited

variable {member : Member Layout}

/-- A member that is found as before is the same. -/
theorem of_eq {given given' : Option Json} (same : given' = given) :
    member.Edited given given' := by
  rw [same]
  exact .same

/-- What comes first under a name hides an edit behind it. -/
theorem behind {value : Json} {given given' : Option Json}
    (edited : member.Edited (some value) given') :
    member.Edited (given.or (some value)) (given.or given') := by
  cases given with
  | none => exact edited
  | some first => exact .same

end Member.Edited

namespace Json.GivenOnce

variable {fields : List String} {name : String} {value value' : Json}
  {given given' before after : List (String × Json)}

/-- A field that is given once occurs at most once. -/
theorem count_le_one (once : GivenOnce fields given) (known : name ∈ fields) :
    (given.map Prod.fst).count name ≤ 1 := by
  have counted := List.nodup_iff_count_le_one.mp once name
  rwa [List.count_filter (by rwa [decide_eq_true_eq])] at counted

/-- In another order, each field is still given once. -/
theorem of_perm (once : GivenOnce fields given) (order : given.Perm given') :
    GivenOnce fields given' :=
  ((order.map Prod.fst).filter _).nodup_iff.mp once

/-- With a member left out, each field is still given once. -/
theorem of_insert (once : GivenOnce fields (before ++ (name, value) :: after)) :
    GivenOnce fields (before ++ after) := by
  have shorter : (before ++ after).Sublist (before ++ (name, value) :: after) :=
    (List.sublist_cons_self _ _).append_left before
  exact List.Nodup.sublist ((shorter.map Prod.fst).filter _) once

/-- A member that is no field does not count. -/
theorem insert_of_not_mem (once : GivenOnce fields (before ++ after)) (unknown : name ∉ fields) :
    GivenOnce fields (before ++ (name, value) :: after) := by
  rw [GivenOnce, List.map_append, List.filter_append] at once ⊢
  rwa [List.map_cons, List.filter_cons_of_neg (by rwa [decide_eq_true_eq])]

/-- What is said for a member does not count. -/
theorem with_value (once : GivenOnce fields (before ++ (name, value) :: after)) :
    GivenOnce fields (before ++ (name, value') :: after) := by
  rw [GivenOnce, List.map_append, List.map_cons] at once ⊢
  exact once

/-- A field that is given once is not given again. -/
theorem not_mem_after (once : GivenOnce fields (before ++ (name, value) :: after))
    (known : name ∈ fields) : name ∉ after.map Prod.fst := by
  have counted := once.count_le_one known
  rw [List.map_append, List.map_cons, List.count_append, List.count_cons_self] at counted
  rw [← List.count_eq_zero]
  omega

end Json.GivenOnce

/-- An edit of a record in which no field is given twice gives none twice, and leaves each member as
it is, edits it, or leaves it out where that makes no difference. -/
theorem Edit.lookups {members : List (Member Layout)} {json json' : Json}
    (distinct : (members.map Member.name).Nodup) (edit : Edit (.record members) json json') :
    ∃ given given', json = .object given ∧ json' = .object given' ∧
      (Json.GivenOnce (members.map Member.name) given →
        Json.GivenOnce (members.map Member.name) given' ∧ ∀ member ∈ members,
          member.Edited (given.lookup member.name) (given'.lookup member.name)) := by
  have named (member : Member Layout) (known : member ∈ members) :
      member.name ∈ members.map Member.name := List.mem_map_of_mem known
  cases edit with
  | reorder order =>
      refine ⟨_, _, rfl, rfl, fun once => ⟨once.of_perm order, fun member known => .of_eq ?_⟩⟩
      exact lookup_eq_of_perm (once.count_le_one (named member known)) order
  | add unknown =>
      refine ⟨_, _, rfl, rfl, fun once =>
        ⟨once.insert_of_not_mem ?_, fun member known => .of_eq ?_⟩⟩
      · rintro known
        obtain ⟨member, known, same⟩ := List.mem_map.mp known
        exact unknown member known same
      · exact lookup_insert_of_ne (unknown member known)
  | @drop _ member before after value known isDefault =>
      refine ⟨_, _, rfl, rfl, fun once => ⟨once.of_insert, fun other known' => ?_⟩⟩
      by_cases same : other.name = member.name
      · obtain rfl := List.inj_on_of_nodup_map distinct known' known same
        rw [lookup_insert_self, List.lookup_append,
          lookup_eq_none_of_not_mem (once.not_mem_after (named other known'))]
        exact .behind (.dropped isDefault)
      · rw [lookup_insert_of_ne same]
        exact .same
  | @member _ member before after value value' known inner =>
      refine ⟨_, _, rfl, rfl, fun once => ⟨once.with_value, fun other known' => ?_⟩⟩
      by_cases same : other.name = member.name
      · obtain rfl := List.inj_on_of_nodup_map distinct known' known same
        rw [lookup_insert_self, lookup_insert_self]
        exact .behind (.inside inner)
      · rw [lookup_insert_of_ne same, lookup_insert_of_ne same]
        exact .same

end ScoringRules
