import Mathlib.Data.Finset.Card
import TemplateCodegen.Proofs.Template.Entries

/-!
# Contexts in the order of insertion

A context is made by inserting one value after the other. A name gets its place when it is first
inserted and keeps it from then on, whatever else is inserted; its value is the last one that was
inserted under it. Main statement: this holds of every context that is made by insertions
(`IsMadeOf.isInsertionOrdered`).
-/

namespace TemplateCodegen.Context

/-- The context has been made by inserting these entries one after the other, beginning with the
empty context. -/
inductive IsMadeOf : Context → List (String × Value) → Prop where
  /-- Nothing has been inserted yet. -/
  | empty : IsMadeOf .empty []
  /-- The entries have been collected from a list. -/
  | collect (entries : List (String × Value)) : IsMadeOf (.ofList entries) entries
  /-- One more value has been inserted. -/
  | insert {context : Context} {inserted : List (String × Value)} (h : IsMadeOf context inserted)
      (name : String) (value : Value) :
      IsMadeOf (context.insert name value) (inserted ++ [(name, value)])

/-- The names of the entries, in their order. -/
def names (context : Context) : List String := context.entries.map Prod.fst

/-- The names of a context are those that were inserted, each once, in the order of their first
insertion. -/
structure OrdersNames (context : Context) (inserted : List String) : Prop where
  /-- The names are distinct. -/
  nodup : context.names.Nodup
  /-- They are those that were inserted. -/
  mem_iff (name : String) : name ∈ context.names ↔ name ∈ inserted
  /-- Of two names the one in front was inserted first. -/
  ordered : context.names.Pairwise fun one other => inserted.idxOf one < inserted.idxOf other

/-- What a context has of the entries that were inserted, and what one more insertion leaves. -/
structure IsInsertionOrdered (context : Context) (inserted : List (String × Value)) : Prop
    extends OrdersNames context (inserted.map Prod.fst) where
  /-- Under a name there is the value that was inserted last. -/
  get?_iff (name : String) (value : Value) :
    context.get? name = some value ↔ IsLast name value inserted
  /-- Under other names there is nothing. -/
  get?_none_iff (name : String) : context.get? name = none ↔ name ∉ inserted.map Prod.fst
  /-- There are as many entries as different names. -/
  size_eq : context.size = (inserted.map Prod.fst).toFinset.card
  /-- One more insertion leaves what is under the other names. -/
  others (name : String) (value : Value) (other : String) (h : other ≠ name) :
    (context.insert name value).get? other = context.get? other
  /-- It leaves every entry in its place, and its value too if it has another name. -/
  places (name : String) (value : Value) (place : Nat) (entry : String × Value)
    (h : context.entries[place]? = some entry) :
    (context.insert name value).entries[place]? =
      some (entry.1, if entry.1 = name then value else entry.2)

/-! ### Places -/

/-- One more insertion leaves the names, and puts a new one behind them. -/
theorem names_insert (context : Context) (name : String) (value : Value) :
    (context.insert name value).names =
      if name ∈ context.names then context.names else context.names ++ [name] :=
  map_fst_insertEntry name value context.entries

/-- Where names are distinct, insertion leaves every entry in its place. -/
theorem getElem?_insertEntry {entries : List (String × Value)}
    (hnodup : (entries.map Prod.fst).Nodup) (name : String) (value : Value) {place : Nat}
    {entry : String × Value} (h : entries[place]? = some entry) :
    (insertEntry name value entries)[place]? =
      some (entry.1, if entry.1 = name then value else entry.2) := by
  induction entries generalizing place with
  | nil => cases h
  | cons first rest ih =>
    obtain ⟨existing, old⟩ := first
    obtain ⟨hfresh, hrest⟩ := List.nodup_cons.1 hnodup
    by_cases hname : existing = name
    · rw [insertEntry, if_pos hname]
      cases place with
      | zero =>
        obtain rfl := Option.some.inj h
        exact congrArg (fun value => some (existing, value)) (if_pos hname).symm
      | succ place =>
        -- the name is in no other place
        have hrest : rest[place]? = some entry := h
        have hmem : entry.1 ∈ rest.map Prod.fst :=
          List.mem_map_of_mem (List.mem_of_getElem? hrest)
        have hother : entry.1 ≠ name := by
          intro heq
          rw [heq, ← hname] at hmem
          exact hfresh hmem
        rw [if_neg hother]
        exact hrest
    · rw [insertEntry, if_neg hname]
      cases place with
      | zero =>
        obtain rfl := Option.some.inj h
        exact congrArg (fun value => some (existing, value)) (if_neg hname).symm
      | succ place => exact ih hrest h

/-- One more insertion keeps the order of names. -/
theorem OrdersNames.insert {context : Context} {inserted : List String}
    (h : context.OrdersNames inserted) (name : String) (value : Value) :
    (context.insert name value).OrdersNames (inserted ++ [name]) := by
  have hfront : ∀ one ∈ context.names, (inserted ++ [name]).idxOf one = inserted.idxOf one :=
    fun one hone => List.idxOf_append_of_mem ((h.mem_iff one).1 hone)
  have hordered : context.names.Pairwise fun one other =>
      (inserted ++ [name]).idxOf one < (inserted ++ [name]).idxOf other := by
    refine h.ordered.imp_of_mem fun {one other} hone hother hlt => ?_
    rw [hfront one hone, hfront other hother]
    exact hlt
  by_cases hname : name ∈ context.names
  · have hnames : (context.insert name value).names = context.names := by
      rw [names_insert, if_pos hname]
    refine ⟨hnames ▸ h.nodup, fun other => ?_, hnames ▸ hordered⟩
    rw [hnames, h.mem_iff, List.mem_append, List.mem_singleton]
    refine ⟨.inl, fun hother => hother.elim id ?_⟩
    rintro rfl
    exact (h.mem_iff other).1 hname
  · have hnames : (context.insert name value).names = context.names ++ [name] := by
      rw [names_insert, if_neg hname]
    have hnew : (inserted ++ [name]).idxOf name = inserted.length := by
      rw [List.idxOf_append_of_notMem fun hmem => hname ((h.mem_iff name).2 hmem),
        List.idxOf_cons_self, Nat.add_zero]
    refine ⟨?_, fun other => ?_, ?_⟩
    · rw [hnames]
      exact List.nodup_append.2 ⟨h.nodup, List.nodup_singleton name, fun one hone other hother =>
        fun heq => hname (List.mem_singleton.1 hother ▸ heq ▸ hone)⟩
    · rw [hnames, List.mem_append, List.mem_append, h.mem_iff]
    · rw [hnames]
      refine List.pairwise_append.2
        ⟨hordered, List.pairwise_singleton _ _, fun one hone last hlast => ?_⟩
      rw [List.mem_singleton.1 hlast, hnew, hfront one hone]
      exact List.idxOf_lt_length_iff.2 ((h.mem_iff one).1 hone)

/-! ### Runs of insertions -/

/-- A context that is made by insertions is collected from what was inserted. -/
theorem IsMadeOf.eq_ofList {context : Context} {inserted : List (String × Value)}
    (h : context.IsMadeOf inserted) : context = ofList inserted := by
  induction h with
  | empty => rfl
  | collect entries => rfl
  | insert hmade name value ih => rw [ofList_concat, ih]

/-- Collected entries are in the order of their first insertion. -/
theorem ordersNames_ofList (entries : List (String × Value)) :
    (ofList entries).OrdersNames (entries.map Prod.fst) := by
  induction entries using List.reverseRecOn with
  | nil => exact ⟨List.nodup_nil, fun name => Iff.rfl, List.Pairwise.nil⟩
  | append_singleton entries entry ih =>
    obtain ⟨name, value⟩ := entry
    rw [ofList_concat, List.map_append]
    exact ih.insert name value

/-- A context that is made by insertions has each name once, in the order of the first insertions,
with the value that was inserted last, and one more insertion changes no other value and no place.
-/
theorem IsMadeOf.isInsertionOrdered {context : Context} {inserted : List (String × Value)}
    (h : context.IsMadeOf inserted) : context.IsInsertionOrdered inserted := by
  obtain rfl := h.eq_ofList
  have hnames := ordersNames_ofList inserted
  refine ⟨hnames, fun name value => get?_ofList_eq_some_iff, fun name => ?_, ?_,
    fun name value other hother => get?_insert_of_ne _ value hother,
    fun name value place entry hentry => getElem?_insertEntry hnames.nodup name value hentry⟩
  · rw [← hnames.mem_iff, get?, List.lookup_eq_none_iff, names, List.mem_map]
    constructor
    · rintro hnone ⟨entry, hentry, rfl⟩
      exact absurd (hnone entry hentry) (by simp)
    · intro hnone entry hentry
      exact bne_iff_ne.2 fun heq => hnone ⟨entry, hentry, heq.symm⟩
  · have hset : (ofList inserted).names.toFinset = (inserted.map Prod.fst).toFinset := by
      ext name
      rw [List.mem_toFinset, List.mem_toFinset, hnames.mem_iff]
    rw [← hset, List.toFinset_card_of_nodup hnames.nodup, names, List.length_map, size]

/-- Two entries, the first of which gets another value before a third one is inserted. -/
theorem address_isInsertionOrdered :
    let context := ((ofList [("Street", .text "Elm"), ("City", .text "Bonn")]).insert "Street"
      (.text "Oak")).insertText "Zip" "53111"
    let inserted := [("Street", Value.text "Elm"), ("City", .text "Bonn"), ("Street", .text "Oak"),
      ("Zip", .text "53111")]
    context.IsMadeOf inserted ∧ context.IsInsertionOrdered inserted ∧
      context.names = ["Street", "City", "Zip"] ∧ context.get? "Street" = some (.text "Oak") := by
  intro context inserted
  have hmade : context.IsMadeOf inserted := ((IsMadeOf.collect _).insert _ _).insert _ _
  have hordered := hmade.isInsertionOrdered
  exact ⟨hmade, hordered, rfl, (hordered.get?_iff _ _).2
    ⟨[("Street", .text "Elm"), ("City", .text "Bonn")], [("Zip", .text "53111")], rfl, by simp⟩⟩

end TemplateCodegen.Context
