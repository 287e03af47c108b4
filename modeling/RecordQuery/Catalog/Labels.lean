import RecordQuery.Wire.Basic

/-!
Labels: texts under keys, of which no two are the same, in the order of the keys.
-/

namespace RecordQuery

/-- Texts under keys, in the order of the keys. -/
structure Labels where
  entries : List (String × String)
  sorted : entries.Pairwise fun a b => a.1 < b.1

namespace Labels

/-- No labels. -/
def empty : Labels := ⟨[], .nil⟩

/-- Puts a text under a key, in place of the one that is there. -/
def insertEntry (key value : String) : List (String × String) → List (String × String)
  | [] => [(key, value)]
  | (k, v) :: entries =>
    if key < k then (key, value) :: (k, v) :: entries
    else if k < key then (k, v) :: insertEntry key value entries
    else (key, value) :: entries

theorem mem_insertEntry {key value : String} {entries : List (String × String)}
    {e : String × String} (h : e ∈ insertEntry key value entries) :
    e = (key, value) ∨ e ∈ entries := by
  induction entries with
  | nil => simpa [insertEntry] using h
  | cons head tail ih =>
    obtain ⟨k, v⟩ := head
    unfold insertEntry at h
    split at h
    · simpa using h
    · split at h
      · rcases List.mem_cons.1 h with rfl | h
        · simp
        · exact (ih h).imp_right (List.mem_cons_of_mem _)
      · rcases List.mem_cons.1 h with rfl | h
        · simp
        · simp [h]

theorem pairwise_insertEntry (key value : String) {entries : List (String × String)}
    (h : entries.Pairwise fun a b => a.1 < b.1) :
    (insertEntry key value entries).Pairwise fun a b => a.1 < b.1 := by
  induction entries with
  | nil => simp [insertEntry]
  | cons head tail ih =>
    obtain ⟨k, v⟩ := head
    obtain ⟨hk, htail⟩ := List.pairwise_cons.1 h
    unfold insertEntry
    split
    · next hlt =>
      refine List.pairwise_cons.2 ⟨fun e he => ?_, h⟩
      rcases List.mem_cons.1 he with rfl | he
      · exact hlt
      · exact String.lt_trans hlt (hk e he)
    · next hge =>
      split
      · next hgt =>
        refine List.pairwise_cons.2 ⟨fun e he => ?_, ih htail⟩
        rcases mem_insertEntry he with rfl | he
        · exact hgt
        · exact hk e he
      · next hle =>
        obtain rfl : key = k := String.le_antisymm hle hge
        exact List.pairwise_cons.2 ⟨hk, htail⟩

/-- Puts a text under a key, in place of the one that is there. -/
def insert (l : Labels) (key value : String) : Labels :=
  ⟨insertEntry key value l.entries, pairwise_insertEntry key value l.sorted⟩

/-- The labels of a list of keys and texts; of two texts under one key the later one counts. -/
def ofList (entries : List (String × String)) : Labels :=
  entries.foldl (fun l e => l.insert e.1 e.2) empty

def toWire (l : Labels) : Wire := .object (l.entries.map fun e => (e.1, .text e.2))

/-- A label from a member of an object. -/
def entryOfWire? : String × Wire → Option (String × String)
  | (key, .text s) => some (key, s)
  | _ => none

/-- Reads labels from an object of texts. -/
def ofWire? : Wire → Option Labels
  | .object members => (members.mapM entryOfWire?).map ofList
  | _ => none

end Labels

end RecordQuery
