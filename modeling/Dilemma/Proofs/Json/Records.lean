import Dilemma.Proofs.Json.Bounds
import Dilemma.Proofs.Json.Notation

/-! # Parts of values

What holds of a value holds of its items and of the values under its keys. Lists are read
item by item, and a field is always one of the values that the record was made of. -/

namespace Dilemma.Json

variable {numbers : NumberReader} {json : Json} {items : List Json} {members : List (String × Json)}

/-! ## Items and members -/

theorem areBounded_iff : AreBounded items ↔ ∀ item ∈ items, item.IsBounded := by
  induction items with
  | nil => simp [AreBounded]
  | cons item items induction => rw [AreBounded, induction, List.forall_mem_cons]

theorem membersBounded_iff :
    MembersBounded members ↔ ∀ member ∈ members, member.2.IsBounded := by
  induction members with
  | nil => simp [MembersBounded]
  | cons member members induction => rw [MembersBounded, induction, List.forall_mem_cons]

theorem areWritable_iff :
    AreWritable numbers items ↔ ∀ item ∈ items, item.IsWritable numbers := by
  induction items with
  | nil => simp [AreWritable]
  | cons item items induction => rw [AreWritable, induction, List.forall_mem_cons]

theorem membersWritable_iff :
    MembersWritable numbers members ↔ ∀ member ∈ members, member.2.IsWritable numbers := by
  induction members with
  | nil => simp [MembersWritable]
  | cons member members induction => rw [MembersWritable, induction, List.forall_mem_cons]

theorem nestingOfItems_le_iff {bound : Nat} :
    nestingOfItems items ≤ bound ↔ ∀ item ∈ items, item.nesting ≤ bound := by
  induction items with
  | nil => simp [nestingOfItems]
  | cons item items induction =>
      rw [nestingOfItems, max_le_iff, induction, List.forall_mem_cons]

mutual

theorem isReadable_of_isWritable : ∀ {json : Json} (_ : json.IsWritable numbers),
    json.isReadable = true
  | .null, _ | .boolean _, _ | .integer _, _ | .text _, _ => rfl
  | .real _, writable => NumberReader.Denotes.isFinite writable
  | .array _, writable => areReadable_of_areWritable writable
  | .object _, writable => membersReadable_of_membersWritable writable

theorem areReadable_of_areWritable : ∀ {items : List Json} (_ : AreWritable numbers items),
    areReadable items = true
  | [], _ => rfl
  | _ :: _, writable => Bool.and_eq_true_iff.mpr
      ⟨isReadable_of_isWritable writable.1, areReadable_of_areWritable writable.2⟩

theorem membersReadable_of_membersWritable : ∀ {members : List (String × Json)}
    (_ : MembersWritable numbers members), membersReadable members = true
  | [], _ => rfl
  | _ :: _, writable => Bool.and_eq_true_iff.mpr
      ⟨isReadable_of_isWritable writable.1, membersReadable_of_membersWritable writable.2⟩

end

/-! ## Lists -/

section Lists

variable {α : Type} {read : Json → Option α} {write : α → Json} {values : List α}

/-- What is written has to come back only if it is in the list. -/
theorem mapM_map {β : Type} {read : β → Option α} {write : α → β}
    (back : ∀ value ∈ values, read (write value) = some value) :
    (values.map write).mapM read = some values := by
  induction values with
  | nil => rfl
  | cons value values induction =>
      rcases List.forall_mem_cons.mp back with ⟨first, others⟩
      rw [List.map_cons, List.mapM_cons, first, induction others]
      rfl

theorem list?_map (back : ∀ value ∈ values, read (write value) = some value) :
    (array (values.map write)).list? read = some values :=
  mapM_map back

theorem exists_of_mem_mapM {value : α} (all : items.mapM read = some values)
    (member : value ∈ values) : ∃ item ∈ items, read item = some value := by
  induction items generalizing values with
  | nil =>
      cases all
      cases member
  | cons item items induction =>
      simp only [List.mapM_cons, Option.bind_eq_bind, Option.bind_eq_some_iff] at all
      rcases all with ⟨first, firstRead, others, othersRead, equal⟩
      cases equal
      rcases List.mem_cons.mp member with rfl | later
      · exact ⟨item, List.mem_cons_self .., firstRead⟩
      · rcases induction othersRead later with ⟨other, among, otherRead⟩
        exact ⟨other, List.mem_cons_of_mem _ among, otherRead⟩

theorem items_of_list? (all : json.list? read = some values) :
    ∃ items, json = array items ∧ ∀ value ∈ values, ∃ item ∈ items, read item = some value := by
  simp only [list?, Option.bind_eq_bind, Option.bind_eq_some_iff] at all
  rcases all with ⟨items, view, all⟩
  cases json <;> cases view
  exact ⟨items, rfl, fun value => exists_of_mem_mapM all⟩

end Lists

/-! ## Fields -/

theorem isBounded_of_fields? {names : List String} {fields : List (Option Json)} {value : Json}
    (bounded : json.IsBounded) (found : json.fields? names = some fields)
    (member : some value ∈ fields) : value.IsBounded := by
  cases json with
  | array items =>
      rw [fields?] at found
      split at found <;> cases found
      rcases List.mem_append.mp member with given | missing
      · rcases List.mem_map.mp given with ⟨item, among, equal⟩
        cases equal
        exact areBounded_iff.mp bounded _ among
      · cases List.eq_of_mem_replicate missing
  | object members =>
      rw [fields?] at found
      split at found <;> cases found
      rcases List.mem_map.mp member with ⟨name, -, first⟩
      rcases List.mem_map.mp (List.mem_of_head? first) with ⟨named, among, rfl⟩
      exact membersBounded_iff.mp bounded named (List.mem_of_mem_filter among)
  | _ => cases found

theorem isBounded_of_alternative? {name : String} {contents : Json} (bounded : json.IsBounded)
    (found : json.alternative? = some (name, contents)) : contents.IsBounded := by
  unfold alternative? at found
  split at found <;> cases found
  exact bounded.1

end Dilemma.Json
