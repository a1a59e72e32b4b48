/-! Tables that remember insertion order. The position of a key is that of its first insertion and
its value that of its last. -/

namespace ChenDiagram

/-- Entries in the order in which their keys first appeared. -/
structure Table (κ α : Type) where
  entries : List (κ × α)
deriving DecidableEq, Repr

namespace Table
variable {κ α : Type}

def empty : Table κ α := ⟨[]⟩

instance : EmptyCollection (Table κ α) := ⟨empty⟩
instance : Inhabited (Table κ α) := ⟨empty⟩

def keys (t : Table κ α) : List κ := t.entries.map Prod.fst

def values (t : Table κ α) : List α := t.entries.map Prod.snd

def size (t : Table κ α) : Nat := t.entries.length

variable [DecidableEq κ]

/-- A known key keeps its place and takes the new value; a new key goes last. -/
def insertEntry (key : κ) (value : α) : List (κ × α) → List (κ × α)
  | [] => [(key, value)]
  | e :: es => if e.1 = key then (key, value) :: es else e :: insertEntry key value es

def insert (t : Table κ α) (key : κ) (value : α) : Table κ α :=
  ⟨insertEntry key value t.entries⟩

/-- Inserts entries one after another. -/
def insertAll (t : Table κ α) (entries : List (κ × α)) : Table κ α :=
  entries.foldl (fun t e => t.insert e.1 e.2) t

def ofEntries (entries : List (κ × α)) : Table κ α := empty.insertAll entries

def get? (t : Table κ α) (key : κ) : Option α :=
  (t.entries.find? (·.1 = key)).map Prod.snd

/-- Equality that forgets the order: as many entries on either side, and each key of one leads to
the same value in the other. -/
def sameEntries [DecidableEq α] (s t : Table κ α) : Bool :=
  s.size = t.size && s.entries.all fun e => t.get? e.1 = some e.2

theorem map_fst_insertEntry (key : κ) (value : α) (es : List (κ × α)) :
    (insertEntry key value es).map Prod.fst =
      if key ∈ es.map Prod.fst then es.map Prod.fst else es.map Prod.fst ++ [key] := by
  induction es with
  | nil => simp [insertEntry]
  | cons e es ih =>
    by_cases h : e.1 = key
    · simp [insertEntry, h]
    · have h' : key ≠ e.1 := fun he => h he.symm
      simp only [insertEntry, if_neg h, List.map_cons, ih, List.mem_cons, h', false_or]
      split <;> rfl

/-- A key keeps the place of its first insertion. -/
theorem keys_insert (t : Table κ α) (key : κ) (value : α) :
    (t.insert key value).keys = if key ∈ t.keys then t.keys else t.keys ++ [key] :=
  map_fst_insertEntry key value t.entries

/-- A key has the value of its last insertion. -/
theorem get?_insert (t : Table κ α) (key other : κ) (value : α) :
    (t.insert key value).get? other = if other = key then some value else t.get? other := by
  obtain ⟨es⟩ := t
  simp only [insert, get?]
  induction es with
  | nil => by_cases h : other = key <;> simp [insertEntry, h, eq_comm]
  | cons e es ih =>
    by_cases he : e.1 = key
    · by_cases h : other = key
      · simp [insertEntry, he, h]
      · have h' : ¬ key = other := fun hk => h hk.symm
        simp [insertEntry, he, h, h']
    · by_cases ho : e.1 = other
      · have : ¬ other = key := fun hk => he (ho.trans hk)
        simp [insertEntry, ho, this]
      · simpa [insertEntry, he, ho] using ih

end Table
end ChenDiagram
