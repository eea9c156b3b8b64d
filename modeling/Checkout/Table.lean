/-!
# Tables

Values under keys.  A key has the value that was last inserted under it, unless it was erased since.
-/

set_option autoImplicit false

namespace Checkout

structure Table (κ α : Type) where
  rows : List (κ × α)
deriving DecidableEq

namespace Table

variable {κ α : Type} [DecidableEq κ]

def empty : Table κ α := ⟨[]⟩

def get? (table : Table κ α) (key : κ) : Option α :=
  (table.rows.find? fun row => row.1 == key).map Prod.snd

def erase (table : Table κ α) (key : κ) : Table κ α :=
  ⟨table.rows.filter fun row => row.1 != key⟩

def insert (table : Table κ α) (key : κ) (value : α) : Table κ α :=
  ⟨(key, value) :: (table.erase key).rows⟩

omit [DecidableEq κ] in
theorem find?_filter_of_imp {rows : List (κ × α)} {keep wanted : κ × α → Bool}
    (implied : ∀ row, wanted row = true → keep row = true) :
    (rows.filter keep).find? wanted = rows.find? wanted := by
  induction rows with
  | nil => rfl
  | cons row rest ih =>
    by_cases isWanted : wanted row = true
    · simp [implied row isWanted, isWanted]
    · by_cases isKept : keep row = true <;> simp [isKept, isWanted, ih]

@[simp]
theorem get?_erase_self (table : Table κ α) (key : κ) : (table.erase key).get? key = none := by
  simp [get?, erase, List.find?_eq_none]

theorem get?_erase_of_ne (table : Table κ α) {key other : κ} (different : other ≠ key) :
    (table.erase key).get? other = table.get? other := by
  unfold get? erase
  rw [find?_filter_of_imp]
  intro row isWanted
  simp only [beq_iff_eq] at isWanted
  simp [isWanted, different]

end Table

end Checkout
