import Mathlib.Data.String.Basic
import SqlTemplate.Dict

/-! # Dictionaries in order

With its keys in order a dictionary has each of them once, so that what stands in it is what a look-up finds.
-/

namespace SqlTemplate.Dict

variable {α : Type} {d : Dict α}

def Sorted (d : Dict α) : Prop := d.Pairwise fun a b => a.1 < b.1

theorem mem_insert {key : String} {value : α} {entry : String × α} (h : entry ∈ insert key value d) :
    entry = (key, value) ∨ entry ∈ d := by
  induction d with
  | nil => exact .inl (by simpa [insert] using h)
  | cons other d ih =>
    obtain ⟨k, v⟩ := other
    rw [insert] at h
    split at h
    · exact (List.mem_cons.1 h).imp_right (List.mem_cons_of_mem _)
    · split at h
      · exact List.mem_cons.1 h
      · rcases List.mem_cons.1 h with rfl | h
        · exact .inr List.mem_cons_self
        · exact (ih h).imp_right (List.mem_cons_of_mem _)

theorem Sorted.insert (h : Sorted d) (key : String) (value : α) : Sorted (insert key value d) := by
  induction d with
  | nil => exact List.pairwise_singleton _ _
  | cons other d ih =>
    obtain ⟨k, v⟩ := other
    obtain ⟨hk, hd⟩ := List.pairwise_cons.1 h
    rw [Dict.insert]
    split_ifs with heq hlt
    · subst heq
      exact List.pairwise_cons.2 ⟨hk, hd⟩
    · refine List.pairwise_cons.2 ⟨List.forall_mem_cons.2 ⟨hlt, fun entry he => ?_⟩, h⟩
      exact lt_trans hlt (hk entry he)
    · refine List.pairwise_cons.2 ⟨fun entry he => ?_, ih hd⟩
      rcases mem_insert he with rfl | he
      · exact lt_of_le_of_ne (not_lt.1 hlt) (Ne.symm heq)
      · exact hk entry he

theorem Sorted.erase (h : Sorted d) (key : String) : Sorted (erase d key) := List.Pairwise.filter _ h

theorem Sorted.get?_of_mem (h : Sorted d) {key : String} {value : α} (hmem : (key, value) ∈ d) :
    get? d key = some value := by
  induction d with
  | nil => cases hmem
  | cons other d ih =>
    obtain ⟨k, v⟩ := other
    obtain ⟨hk, hd⟩ := List.pairwise_cons.1 h
    rw [get?_cons]
    rcases List.mem_cons.1 hmem with heq | hmem
    · cases heq
      rw [if_pos rfl]
    · rw [if_neg (ne_of_gt (hk _ hmem)), ih hd hmem]

theorem mem_of_get? {key : String} {value : α} (h : get? d key = some value) : (key, value) ∈ d := by
  induction d with
  | nil => cases h
  | cons other d ih =>
    obtain ⟨k, v⟩ := other
    rw [get?_cons] at h
    split_ifs at h with hk
    · cases h
      rw [hk]
      exact List.mem_cons_self
    · exact List.mem_cons_of_mem _ (ih h)

/-- With its keys in order a dictionary is told by its look-ups. -/
theorem Sorted.ext {d' : Dict α} (h : Sorted d) (h' : Sorted d') (hget : ∀ key, get? d key = get? d' key) : d = d' := by
  have hmem (entry : String × α) : entry ∈ d ↔ entry ∈ d' :=
    ⟨fun hd => mem_of_get? ((hget _).symm.trans (h.get?_of_mem hd)), fun hd => mem_of_get? ((hget _).trans (h'.get?_of_mem hd))⟩
  have hperm : d.Perm d' := by
    refine (List.perm_ext_iff_of_nodup ?_ ?_).2 hmem
    · exact h.imp fun hlt heq => ne_of_lt hlt (congrArg Prod.fst heq)
    · exact h'.imp fun hlt heq => ne_of_lt hlt (congrArg Prod.fst heq)
  exact hperm.eq_of_pairwise (fun a b _ _ hab hba => absurd (lt_trans hab hba) (lt_irrefl _)) h h'

end SqlTemplate.Dict
