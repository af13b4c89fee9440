import QueryTree.Json.Basic

/-! # Objects in the order of their keys

An object that is put in order has each key once, every key before the larger ones, and under each
key what the key leads to before. -/

namespace QueryTree.Json

def IsObject : Json → Prop
  | .object _ => True
  | _ => False

/-- Every key is smaller than the keys behind it. -/
def InOrder (members : List (String × Json)) : Prop :=
  members.Pairwise fun member later => member.1 < later.1

theorem mem_of_member? {key : String} {item : Json} {members : List (String × Json)}
    (h : (object members).member? key = some item) : (key, item) ∈ members := by
  rw [member?] at h
  induction members with
  | nil => cases h
  | cons member rest ih =>
    rw [Entries.find?] at h
    split at h
    · next heq =>
      cases h
      rw [← heq]
      exact List.mem_cons_self
    · exact List.mem_cons_of_mem _ (ih h)

theorem InOrder.nodup_keys {members : List (String × Json)} (h : InOrder members) :
    (Entries.keys members).Nodup := by
  refine List.pairwise_map.2 (h.imp fun {member later} hlt heq => ?_)
  rw [heq] at hlt
  exact String.lt_irrefl _ hlt

variable {key : String} {value : Json} {members : List (String × Json)}

theorem mem_insertSorted {member : String × Json} (h : member ∈ insertSorted key value members) :
    member = (key, value) ∨ member ∈ members := by
  induction members with
  | nil => exact .inl (List.mem_singleton.1 h)
  | cons first rest ih =>
    rw [insertSorted] at h
    split at h
    · exact List.mem_cons.1 h
    · split at h
      · exact (List.mem_cons.1 h).imp_right (List.mem_cons_of_mem _)
      · rcases List.mem_cons.1 h with rfl | hrest
        · exact .inr List.mem_cons_self
        · exact (ih hrest).imp_right (List.mem_cons_of_mem _)

theorem InOrder.insertSorted (h : InOrder members) : InOrder (insertSorted key value members) := by
  induction members with
  | nil => exact List.pairwise_singleton ..
  | cons first rest ih =>
    obtain ⟨hfirst, hrest⟩ := List.pairwise_cons.1 h
    rw [Json.insertSorted]
    split
    · next hlt =>
      refine List.pairwise_cons.2 ⟨fun later hlater => ?_, h⟩
      rcases List.mem_cons.1 hlater with rfl | hlater
      · exact hlt
      · exact String.lt_trans hlt (hfirst later hlater)
    · split
      · next heq =>
        subst heq
        exact List.pairwise_cons.2 ⟨hfirst, hrest⟩
      · next hnlt hne =>
        have hlt : first.1 < key := by
          rcases Std.lt_trichotomy first.1 key with hlt | heq | hgt
          · exact hlt
          · exact absurd heq.symm hne
          · exact absurd hgt hnlt
        refine List.pairwise_cons.2 ⟨fun later hlater => ?_, ih hrest⟩
        rcases mem_insertSorted hlater with rfl | hlater
        · exact hlt
        · exact hfirst later hlater

theorem find?_insertSorted (name : String) :
    Entries.find? name (insertSorted key value members) =
      if key = name then some value else Entries.find? name members := by
  induction members with
  | nil => rfl
  | cons first rest ih =>
    rw [insertSorted]
    split
    · rfl
    · split
      · next heq =>
        rw [Entries.find?, Entries.find?, ← heq]
        split <;> rfl
      · next hne =>
        rw [Entries.find?, Entries.find?, ih]
        by_cases hname : first.1 = name
        · have hkey : key ≠ name := fun heq => hne (heq.trans hname.symm)
          rw [if_pos hname, if_neg hkey, if_pos hname]
        · rw [if_neg hname, if_neg hname]

theorem inOrder_sortedMembers (members : List (String × Json)) :
    InOrder (sortedMembers members) := by
  induction members with
  | nil => exact .nil
  | cons member rest ih => exact ih.insertSorted

theorem find?_sortedMembers (name : String) (members : List (String × Json)) :
    Entries.find? name (sortedMembers members) = (Entries.find? name members).map sorted := by
  induction members with
  | nil => rfl
  | cons member rest ih =>
    rw [sortedMembers, find?_insertSorted, Entries.find?, ih]
    split <;> rfl

theorem member?_sorted (name : String) (value : Json) :
    value.sorted.member? name = (value.member? name).map sorted := by
  cases value with
  | object members => exact find?_sortedMembers ..
  | null | boolean | number | text | array => rfl

theorem forall_member?_sorted {p : Json → Prop} :
    (∀ item, value.sorted.member? key = some item → p item) ↔
      ∀ item, value.member? key = some item → p item.sorted := by
  simp [member?_sorted]

theorem exists_member?_sorted {p : Json → Prop} :
    (∃ item, value.sorted.member? key = some item ∧ p item) ↔
      ∃ item, value.member? key = some item ∧ p item.sorted := by
  rw [member?_sorted]
  cases value.member? key <;> simp

theorem sorted_eq_text_iff {text : String} : value.sorted = .text text ↔ value = .text text := by
  cases value <;> simp [sorted]

end QueryTree.Json
