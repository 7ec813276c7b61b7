import Mathlib.Logic.Relation
import ScoringRules.Proofs.Document.Layout

/-!
# Documents that edits do not change

A type's documents are read back as the values that they were written from, and an edit of a
document that is read does not change what is read from it. Lists, records and choices pass this on
from their parts: whatever an edit does to a member of a record, the same value is read for it.

- `HasLayout` gives a type the layout of its documents, `LawfulDocument` is the law of reading them
- `LawfulDocument.of_record` and `LawfulDocument.of_choice` pass the law on
- `ReadBack` is what the law comes to over any number of edits
-/

namespace ScoringRules

open Json

/-- A type whose documents have a layout. -/
class HasLayout (α : Type) where
  layout : Layout

/-- The member for a field that has to be given. -/
def Member.required (name : String) (α : Type) [HasLayout α] : Member Layout where
  name := name
  layout := HasLayout.layout α
  IsDefault _ := False

/-- The member for a field that takes a default when it is left out. -/
def Member.optional {α : Type} [Codec α] [HasLayout α] (name : String) (absent : α) :
    Member Layout where
  name := name
  layout := HasLayout.layout α
  IsDefault json := Codec.decode? json = some absent

/-- Whether the documents of a type are read back, and an edit does not change what is read. -/
class LawfulDocument (α : Type) [Codec α] [HasLayout α] : Prop where
  decode_encode : ∀ value : α, Codec.decode? (Codec.encode value) = some value
  decode_edit : ∀ {json json' : Json} {value : α}, Edit (HasLayout.layout α) json json' →
    Codec.decode? json = some value → Codec.decode? json' = some value

/-- Whether the documents of a type are read back, also after any number of edits. -/
def ReadBack (α : Type) [Codec α] [HasLayout α] : Prop :=
  ∀ value : α, Codec.decode? (Codec.encode value) = some value ∧
    ∀ json, Relation.ReflTransGen (Edit (HasLayout.layout α)) (Codec.encode value) json →
      Codec.decode? json = some value

/-- Under the law, any number of edits leaves what is read. -/
theorem ReadBack.of_lawful {α : Type} [Codec α] [HasLayout α] [LawfulDocument α] : ReadBack α := by
  intro value
  refine ⟨LawfulDocument.decode_encode value, fun json edits => ?_⟩
  induction edits with
  | refl => exact LawfulDocument.decode_encode value
  | tail _ edit ih => exact LawfulDocument.decode_edit edit ih

section Reading

variable {α : Type} [Codec α] [HasLayout α] [LawfulDocument α]
  {members members' : List (String × Json)} {name key : String}

/-- A required field is read from the first member of its name. -/
@[simp]
theorem required?_cons_self (value : α) :
    required? ((name, Codec.encode value) :: members) name = some value := by
  rw [required?, List.lookup_cons_self]
  exact LawfulDocument.decode_encode value

omit [HasLayout α] [LawfulDocument α] in
/-- A member of another name is passed over by a required field. -/
@[simp]
theorem required?_cons_of_ne {value : Json} (ne : name ≠ key) :
    required? ((key, value) :: members) name = (required? members name : Option α) := by
  rw [required?, required?, lookup_cons_of_ne ne]

/-- An optional field is read from the first member of its name. -/
@[simp]
theorem optional?_cons_self (value absent : α) :
    optional? ((name, Codec.encode value) :: members) name absent = some value := by
  rw [optional?, List.lookup_cons_self]
  exact LawfulDocument.decode_encode value

omit [HasLayout α] [LawfulDocument α] in
/-- A member of another name is passed over by an optional field. -/
@[simp]
theorem optional?_cons_of_ne {value : Json} {absent : α} (ne : name ≠ key) :
    optional? ((key, value) :: members) name absent = optional? members name absent := by
  rw [optional?, optional?, lookup_cons_of_ne ne]

omit [Codec α] [HasLayout α] [LawfulDocument α] in
/-- A chain of readings that succeeds also succeeds, with the same result, where each of its links
keeps what it reads. -/
theorem bind_keeps {β : Type} {first first' : Option β} {next next' : β → Option α} {result : α}
    (given : first >>= next = some result)
    (kept : ∀ {value}, first = some value → first' = some value)
    (later : ∀ value, next value = some result → next' value = some result) :
    first' >>= next' = some result := by
  obtain ⟨value, found, rest⟩ := Option.bind_eq_some_iff.mp given
  exact Option.bind_eq_some_iff.mpr ⟨value, kept found, later value rest⟩

omit [Codec α] [HasLayout α] [LawfulDocument α] in
/-- What is read is kept when it is read for a case. -/
theorem map_keeps {β : Type} {first first' : Option β} {result : α} (wrap : β → α)
    (given : wrap <$> first = some result)
    (kept : ∀ {value}, first = some value → first' = some value) :
    wrap <$> first' = some result := by
  obtain ⟨value, found, wrapped⟩ := Option.map_eq_some_iff.mp given
  exact Option.map_eq_some_iff.mpr ⟨value, kept found, wrapped⟩

/-- A required field keeps what is read for it. -/
theorem required?_edited {value : α}
    (edited : (Member.required name α).Edited (members.lookup name) (members'.lookup name))
    (given : required? members name = some value) : required? members' name = some value := by
  rw [required?] at given ⊢
  generalize members.lookup name = found at edited given
  generalize members'.lookup name = found' at edited ⊢
  cases edited with
  | same => exact given
  | inside edit => exact LawfulDocument.decode_edit edit given
  | dropped isDefault => exact isDefault.elim

/-- An optional field keeps what is read for it. -/
theorem optional?_edited {absent value : α}
    (edited : (Member.optional name absent).Edited (members.lookup name) (members'.lookup name))
    (given : optional? members name absent = some value) :
    optional? members' name absent = some value := by
  rw [optional?] at given ⊢
  generalize members.lookup name = found at edited given
  generalize members'.lookup name = found' at edited ⊢
  cases edited with
  | same => exact given
  | inside edit => exact LawfulDocument.decode_edit edit given
  | dropped isDefault => exact isDefault.symm.trans given

end Reading

namespace LawfulDocument

/-- The law for records, whose fields are read from the members one by one. -/
theorem of_record {α : Type} [Codec α] [HasLayout α] {members : List (Member Layout)}
    {write : α → List (String × Json)} {read : List (String × Json) → Option α}
    (laid : HasLayout.layout α = .record members)
    (distinct : (members.map Member.name).Nodup)
    (encodes : ∀ value : α, Codec.encode value = .object (write value))
    (named : ∀ value, (write value).map Prod.fst = members.map Member.name)
    (decodes : ∀ json, Codec.decode? json = (json.record? (members.map Member.name)).bind read)
    (reads : ∀ value, read (write value) = some value)
    (keeps : ∀ (given given' : List (String × Json)) (value : α),
      (∀ member ∈ members, member.Edited (given.lookup member.name) (given'.lookup member.name)) →
        read given = some value → read given' = some value) : LawfulDocument α where
  decode_encode value := by
    have once : GivenOnce (members.map Member.name) (write value) := by
      rw [GivenOnce, named]
      exact distinct.filter _
    rw [encodes, decodes, record?, if_pos once]
    exact reads value
  decode_edit {_ _ value} edit given := by
    rw [laid] at edit
    obtain ⟨before, after, rfl, rfl, follows⟩ := edit.lookups distinct
    rw [decodes, record?] at given ⊢
    split at given
    · rename_i once
      obtain ⟨onceAfter, edited⟩ := follows once
      rw [if_pos onceAfter]
      exact keeps before after value edited given
    · cases given

/-- The law for choices, by what is read for the content of each case. -/
theorem of_choice {α : Type} [Codec α] [HasLayout α] {cases : List (String × Layout)}
    (laid : HasLayout.layout α = .choice cases)
    (decode_encode : ∀ value : α, Codec.decode? (Codec.encode value) = some value)
    (keeps : ∀ {name : String} {content : Layout} {json json' : Json} {value : α},
      (name, content) ∈ cases → Edit content json json' →
        Codec.decode? (.object [(name, json)]) = some value →
          Codec.decode? (.object [(name, json')]) = some value) : LawfulDocument α where
  decode_encode := decode_encode
  decode_edit edit := by
    rw [laid] at edit
    obtain ⟨name, content, value, value', known, inner, rfl, rfl⟩ := edit.exists_case
    exact keeps known inner

/-- The law for documents without inner documents, which no edit can touch. -/
theorem of_scalar {α : Type} [Codec α] [HasLayout α] (laid : HasLayout.layout α = .scalar)
    (decode_encode : ∀ value : α, Codec.decode? (Codec.encode value) = some value) :
    LawfulDocument α where
  decode_encode := decode_encode
  decode_edit edit := by
    rw [laid] at edit
    cases edit

end LawfulDocument

section Basic

instance : HasLayout Bool := ⟨.scalar⟩

instance : HasLayout String := ⟨.scalar⟩

instance : HasLayout Int32 := ⟨.scalar⟩

instance : HasLayout UInt64 := ⟨.scalar⟩

instance : LawfulDocument Bool := .of_scalar rfl fun _ => rfl

instance : LawfulDocument String := .of_scalar rfl fun _ => rfl

instance : LawfulDocument Int32 := .of_scalar rfl fun value => by
  change (if (Int32.ofInt value.toInt).toInt = value.toInt then _ else _) = _
  rw [Int32.ofInt_toInt, if_pos rfl]

instance : LawfulDocument UInt64 := .of_scalar rfl fun value => by
  change (if ((UInt64.ofNat (value.toNat : Int).toNat).toNat : Int) = (value.toNat : Int)
    then _ else _) = _
  rw [Int.toNat_natCast, UInt64.ofNat_toNat, if_pos rfl]

variable {α : Type} [Codec α] [HasLayout α] [LawfulDocument α]

instance : HasLayout (List α) := ⟨.list (HasLayout.layout α)⟩

instance : HasLayout (Option α) := ⟨.nullable (HasLayout.layout α)⟩

instance : LawfulDocument (List α) where
  decode_encode values := by
    change (values.map Codec.encode).mapM Codec.decode? = some values
    induction values with
    | nil => rfl
    | cons value rest ih =>
        rw [List.map_cons, List.mapM_cons, ih, LawfulDocument.decode_encode]
        rfl
  decode_edit {_ _ values} edit given := by
    obtain ⟨before, json, json', after, inner, rfl, rfl⟩ := edit.exists_item
    change (before ++ json :: after).mapM Codec.decode? = some values at given
    change (before ++ json' :: after).mapM Codec.decode? = some values
    rw [List.mapM_append, List.mapM_cons] at given ⊢
    cases found : (Codec.decode? json : Option α) with
    | none => simp [found] at given
    | some value => rwa [LawfulDocument.decode_edit inner found, ← found]

omit [HasLayout α] [LawfulDocument α] in
/-- What is not null is read as a value that is present. -/
theorem decode?_of_ne_null {json : Json} (given : json ≠ .null) :
    (Codec.decode? json : Option (Option α)) = some <$> Codec.decode? json := by
  cases json with
  | null => exact absurd rfl given
  | _ => rfl

/-- The law for values that may be absent, if those that are present are not written as null. -/
theorem LawfulDocument.of_option (given : ∀ value : α, Codec.encode value ≠ .null) :
    LawfulDocument (Option α) where
  decode_encode value := by
    cases value with
    | none => rfl
    | some value =>
        change Codec.decode? (Codec.encode value) = some (some value)
        rw [decode?_of_ne_null (given value), LawfulDocument.decode_encode]
        rfl
  decode_edit edit given := by
    have inner := edit.of_nullable
    rw [decode?_of_ne_null inner.ne_null.1] at given
    obtain ⟨value, found, rfl⟩ := Option.map_eq_some_iff.mp given
    rw [decode?_of_ne_null inner.ne_null.2, LawfulDocument.decode_edit inner found]
    rfl

end Basic

end ScoringRules
