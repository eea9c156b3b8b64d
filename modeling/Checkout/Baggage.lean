import Checkout.Text.Fields

/-!
# Baggage

The correlation entries that travel with a trace: a map from keys to values, kept in the order
of its keys.  A header carries it as `key=value` members between commas.
-/

set_option autoImplicit false

namespace Checkout

/-- Entries in strictly increasing order of their keys. -/
structure Baggage where
  entries : List (String × String)
  ordered : entries.Pairwise fun left right => left.1 < right.1
deriving DecidableEq

namespace Baggage

/-- Puts an entry into its place, replacing an entry with the same key. -/
def put (key value : String) : List (String × String) → List (String × String)
  | [] => [(key, value)]
  | entry :: rest =>
    if key < entry.1 then (key, value) :: entry :: rest
    else if key = entry.1 then (key, value) :: rest
    else entry :: put key value rest

theorem mem_put {key value : String} {entry : String × String}
    {entries : List (String × String)} (member : entry ∈ put key value entries) :
    entry = (key, value) ∨ entry ∈ entries := by
  induction entries with
  | nil => simpa [put] using member
  | cons first rest ih =>
    rw [put] at member
    split at member
    · simpa using member
    · split at member
      · rcases List.mem_cons.1 member with same | inRest
        · exact .inl same
        · exact .inr (List.mem_cons_of_mem _ inRest)
      · rcases List.mem_cons.1 member with same | inRest
        · exact .inr (same ▸ List.mem_cons_self)
        · rcases ih inRest with same | inRest
          · exact .inl same
          · exact .inr (List.mem_cons_of_mem _ inRest)

theorem ordered_put (key value : String) {entries : List (String × String)}
    (ordered : entries.Pairwise fun left right => left.1 < right.1) :
    (put key value entries).Pairwise fun left right => left.1 < right.1 := by
  induction entries with
  | nil => simp [put]
  | cons first rest ih =>
    obtain ⟨below, orderedRest⟩ := List.pairwise_cons.1 ordered
    rw [put]
    split
    · rename_i less
      refine List.pairwise_cons.2 ⟨fun entry member => ?_, ordered⟩
      rcases List.mem_cons.1 member with same | inRest
      · exact same ▸ less
      · exact String.lt_trans less (below entry inRest)
    · rename_i notLess
      split
      · rename_i same
        refine List.pairwise_cons.2 ⟨fun entry member => ?_, orderedRest⟩
        exact same ▸ below entry member
      · rename_i different
        refine List.pairwise_cons.2 ⟨fun entry member => ?_, ih orderedRest⟩
        rcases mem_put member with same | inRest
        · subst same
          exact Std.lt_of_le_of_ne (String.not_lt.1 notLess) (Ne.symm different)
        · exact below entry inRest

def empty : Baggage := ⟨[], .nil⟩

def insert (baggage : Baggage) (key value : String) : Baggage :=
  ⟨put key value baggage.entries, ordered_put key value baggage.ordered⟩

/-- The entry that one member of a header names.  Properties after a semicolon are dropped, and
blanks around the key and the value do not count. -/
def ofMember? (member : List Char) : Option (String × String) :=
  match Text.splitOnce? '=' (member.takeWhile (· != ';')) with
  | none => none
  | some (rawKey, rawValue) =>
    let key := Text.trimList rawKey
    if key.isEmpty then none
    else some (String.ofList key, String.ofList (Text.trimList rawValue))

/-- The baggage that a header names; of several members with one key the last counts. -/
def ofHeader (value : String) : Baggage :=
  ((Text.fields ',' value.toList).filterMap ofMember?).foldl
    (fun baggage (key, value) => baggage.insert key value) empty

def header (baggage : Baggage) : String :=
  ",".intercalate (baggage.entries.map fun (key, value) => key ++ "=" ++ value)

end Baggage

end Checkout
