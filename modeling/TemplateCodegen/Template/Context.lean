/-!
# Render contexts

The values that placeholders stand for. A context keeps its entries in the order of their first
insertion and holds every name once; inserting under a known name replaces the value in its place.
-/

namespace TemplateCodegen

/-- A value that a placeholder can stand for. -/
inductive Value where
  /-- Text, shown as it is. -/
  | text (content : String)
  /-- A flag. -/
  | bool (flag : Bool)
  /-- A sequence, over which a section repeats. -/
  | list (items : List Value)
  /-- Named values, in order. -/
  | map (entries : List (String × Value))
deriving Repr

namespace Value

mutual
/-- Whether two values are equal. -/
def beq : Value → Value → Bool
  | .text one, .text other => one == other
  | .bool one, .bool other => one == other
  | .list one, .list other => beqItems one other
  | .map one, .map other => beqEntries one other
  | _, _ => false

/-- Whether two sequences of values are equal. -/
def beqItems : List Value → List Value → Bool
  | [], [] => true
  | one :: ones, other :: others => beq one other && beqItems ones others
  | _, _ => false

/-- Whether two sequences of named values are equal. -/
def beqEntries : List (String × Value) → List (String × Value) → Bool
  | [], [] => true
  | (name, one) :: ones, (name', other) :: others =>
    name == name' && beq one other && beqEntries ones others
  | _, _ => false
end

instance : BEq Value := ⟨beq⟩

/-- Whether a section of the value is rendered at all. -/
def isTruthy : Value → Bool
  | .text content => content != ""
  | .bool flag => flag
  | .list items => !items.isEmpty
  | .map _ => true

/-- The content of a text. -/
def text? : Value → Option String
  | .text content => some content
  | _ => none

mutual
/-- The test of equality decides equality. -/
theorem beq_eq_true_iff : ∀ one other : Value, beq one other = true ↔ one = other
  | .text one, .text other => by simp [beq]
  | .bool one, .bool other => by simp [beq]
  | .list one, .list other => by simp [beq, beqItems_eq_true_iff one other]
  | .map one, .map other => by simp [beq, beqEntries_eq_true_iff one other]
  | .text _, .bool _ | .text _, .list _ | .text _, .map _ => by simp [beq]
  | .bool _, .text _ | .bool _, .list _ | .bool _, .map _ => by simp [beq]
  | .list _, .text _ | .list _, .bool _ | .list _, .map _ => by simp [beq]
  | .map _, .text _ | .map _, .bool _ | .map _, .list _ => by simp [beq]

/-- The test of equality of sequences decides equality. -/
theorem beqItems_eq_true_iff :
    ∀ ones others : List Value, beqItems ones others = true ↔ ones = others
  | [], [] => by simp [beqItems]
  | [], _ :: _ => by simp [beqItems]
  | _ :: _, [] => by simp [beqItems]
  | one :: ones, other :: others => by
    simp [beqItems, beq_eq_true_iff one other, beqItems_eq_true_iff ones others]

/-- The test of equality of named values decides equality. -/
theorem beqEntries_eq_true_iff :
    ∀ ones others : List (String × Value), beqEntries ones others = true ↔ ones = others
  | [], [] => by simp [beqEntries]
  | [], _ :: _ => by simp [beqEntries]
  | _ :: _, [] => by simp [beqEntries]
  | (name, one) :: ones, (name', other) :: others => by
    simp [beqEntries, beq_eq_true_iff one other, beqEntries_eq_true_iff ones others]
end

/-- Equality of values is decided by the recursive test. -/
instance : LawfulBEq Value where
  eq_of_beq {one other} h := (beq_eq_true_iff one other).1 h
  rfl {one} := (beq_eq_true_iff one one).2 rfl

instance : DecidableEq Value := fun one other =>
  decidable_of_iff _ (beq_eq_true_iff one other)

end Value

/-- Named values in the order of their first insertion. -/
structure Context where
  /-- The entries; a name occurs at most once when they were inserted. -/
  entries : List (String × Value)
deriving DecidableEq, Repr

namespace Context

/-- The context without entries. -/
def empty : Context := ⟨[]⟩

/-- Put a value under a name: in the place of the entry that has the name, else at the end. -/
def insertEntry (name : String) (value : Value) : List (String × Value) → List (String × Value)
  | [] => [(name, value)]
  | (existing, old) :: rest =>
    if existing = name then (existing, value) :: rest
    else (existing, old) :: insertEntry name value rest

/-- Insert a value; a known name keeps its place and takes the new value. -/
def insert (context : Context) (name : String) (value : Value) : Context :=
  ⟨insertEntry name value context.entries⟩

/-- Insert a text. -/
def insertText (context : Context) (name text : String) : Context :=
  context.insert name (.text text)

/-- Insert one named value after the other. -/
def ofList (entries : List (String × Value)) : Context :=
  entries.foldl (fun context entry => context.insert entry.1 entry.2) empty

/-- The value under a name. -/
def get? (context : Context) (name : String) : Option Value := context.entries.lookup name

/-- The text under a name. -/
def getText? (context : Context) (name : String) : Option String :=
  (context.get? name).bind Value.text?

/-- Whether a name has a value. -/
def contains (context : Context) (name : String) : Bool := (context.get? name).isSome

/-- The number of entries. -/
def size (context : Context) : Nat := context.entries.length

/-- Whether there is no entry. -/
def isEmpty (context : Context) : Bool := context.entries.isEmpty

/-- The value that was inserted is found again. -/
theorem lookup_insertEntry_self (name : String) (value : Value) (entries : List (String × Value)) :
    (insertEntry name value entries).lookup name = some value := by
  induction entries with
  | nil => simp [insertEntry]
  | cons entry rest ih =>
    obtain ⟨existing, old⟩ := entry
    by_cases h : existing = name
    · simp [insertEntry, h]
    · have hne : (name == existing) = false := by simpa using fun heq => h heq.symm
      simp [insertEntry, h, List.lookup_cons, hne, ih]

/-- Insertion leaves the values of the other names alone. -/
theorem lookup_insertEntry_of_ne {name other : String} (h : other ≠ name) (value : Value)
    (entries : List (String × Value)) :
    (insertEntry name value entries).lookup other = entries.lookup other := by
  have hne : (other == name) = false := by simpa using h
  induction entries with
  | nil => simp [insertEntry, List.lookup_cons, hne]
  | cons entry rest ih =>
    obtain ⟨existing, old⟩ := entry
    by_cases hname : existing = name
    · subst hname
      simp [insertEntry, List.lookup_cons, hne]
    · simp [insertEntry, hname, List.lookup_cons, ih]

/-- A value that was inserted is found again. -/
theorem get?_insert_self (context : Context) (name : String) (value : Value) :
    (context.insert name value).get? name = some value :=
  lookup_insertEntry_self name value context.entries

/-- Inserting a value leaves the values of the other names alone. -/
theorem get?_insert_of_ne (context : Context) {name other : String} (value : Value)
    (h : other ≠ name) : (context.insert name value).get? other = context.get? other :=
  lookup_insertEntry_of_ne h value context.entries

/-- Inserting a text puts it under its name and leaves the values of the other names alone. -/
theorem get?_insertText (context : Context) (name text other : String) :
    (context.insertText name text).get? other =
      if other = name then some (.text text) else context.get? other := by
  split
  · rename_i h
    subst h
    exact get?_insert_self context _ _
  · rename_i h
    exact get?_insert_of_ne context _ h

/-- Insertion keeps the names in their order and adds a new one at the end. -/
theorem map_fst_insertEntry (name : String) (value : Value) (entries : List (String × Value)) :
    (insertEntry name value entries).map Prod.fst =
      if name ∈ entries.map Prod.fst then entries.map Prod.fst
      else entries.map Prod.fst ++ [name] := by
  induction entries with
  | nil => simp [insertEntry]
  | cons entry rest ih =>
    obtain ⟨existing, old⟩ := entry
    by_cases h : existing = name
    · simp [insertEntry, h]
    · have h' : ¬ name = existing := fun heq => h heq.symm
      by_cases hmem : name ∈ rest.map Prod.fst
      · have hmem' : name ∈ existing :: rest.map Prod.fst := List.mem_cons_of_mem existing hmem
        simp only [insertEntry, if_neg h, List.map_cons, ih, if_pos hmem, if_pos hmem']
      · have hmem' : name ∉ existing :: rest.map Prod.fst := by simp [h', hmem]
        simp only [insertEntry, if_neg h, List.map_cons, ih, if_neg hmem, if_neg hmem',
          List.cons_append]

end Context

end TemplateCodegen
