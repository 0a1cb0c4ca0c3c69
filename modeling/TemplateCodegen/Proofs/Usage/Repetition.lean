import TemplateCodegen.Usage.Multiplicity
import TemplateCodegen.Proofs.Places

/-!
# Forbidden repetitions

Usages are compared with those kept so far, by the classes of their attributes and of their targets;
the names of type arguments make no difference. Whatever has been dropped coincides with a usage that
was kept, so it is as well to compare with all usages in front. Main statement: a usage is dropped
exactly when its generator is applied only once and a usage in front coincides with it, each dropped
usage is reported, and from what is kept nothing is dropped (`enforceMultiplicity_enforces`).
-/

namespace TemplateCodegen

/-! ### Coinciding usages -/

/-- The targets are one: a member of one class, one class, or the assembly. -/
inductive UsageTarget.IsSame : UsageTarget → UsageTarget → Prop where
  /-- Members of one name in one class. -/
  | onMember {owner owner' : ClassIdentifier} (h : owner.isSameClass owner' = true)
      (member : String) : IsSame (.onMember owner member) (.onMember owner' member)
  /-- One class. -/
  | onClass {owner owner' : ClassIdentifier} (h : owner.isSameClass owner' = true) :
      IsSame (.onClass owner) (.onClass owner')
  /-- The assembly. -/
  | onAssembly : IsSame .onAssembly .onAssembly

/-- The test of equality of targets tells whether they are one. -/
theorem UsageTarget.beq_iff_isSame {one other : UsageTarget} :
    (one == other) = true ↔ one.IsSame other := by
  change instBEqUsageTarget.beq one other = true ↔ _
  constructor
  · intro h
    cases one with
    | onMember owner member =>
      cases other with
      | onMember owner' member' =>
        simp only [instBEqUsageTarget.beq, Bool.and_eq_true, beq_iff_eq] at h
        obtain ⟨howner, rfl⟩ := h
        exact .onMember howner member
      | onClass owner' => cases h
      | onAssembly => cases h
    | onClass owner =>
      cases other with
      | onMember owner' member' => cases h
      | onClass owner' => exact .onClass h
      | onAssembly => cases h
    | onAssembly =>
      cases other with
      | onMember owner' member' => cases h
      | onClass owner' => cases h
      | onAssembly => exact .onAssembly
  · intro h
    cases h with
    | onMember howner member =>
      simp only [instBEqUsageTarget.beq, Bool.and_eq_true, beq_iff_eq]
      exact ⟨howner, trivial⟩
    | onClass howner => exact howner
    | onAssembly => rfl

/-- Every target is one with itself. -/
theorem UsageTarget.IsSame.refl (target : UsageTarget) : target.IsSame target := by
  cases target with
  | onMember owner member => exact .onMember owner.isSameClass_refl member
  | onClass owner => exact .onClass owner.isSameClass_refl
  | onAssembly => exact .onAssembly

/-- Targets that are one with a target are one. -/
theorem UsageTarget.IsSame.trans {one two three : UsageTarget} (h : one.IsSame two)
    (h' : two.IsSame three) : one.IsSame three := by
  cases h with
  | onMember howner member =>
    cases h' with
    | onMember howner' => exact .onMember (ClassIdentifier.isSameClass_trans howner howner') member
  | onClass howner =>
    cases h' with
    | onClass howner' => exact .onClass (ClassIdentifier.isSameClass_trans howner howner')
  | onAssembly => exact h'

namespace BoundUsage

/-- The usages apply generators of one attribute class to one target. -/
structure Coincides (one other : BoundUsage) : Prop where
  /-- The attribute classes are the same. -/
  attributeClass :
    one.definition.attributeClass.isSameClass other.definition.attributeClass = true
  /-- The targets are one. -/
  target : one.target.IsSame other.target

/-- Every usage coincides with itself. -/
theorem Coincides.refl (usage : BoundUsage) : usage.Coincides usage :=
  ⟨ClassIdentifier.isSameClass_refl _, .refl _⟩

/-- Usages that coincide with a usage coincide. -/
theorem Coincides.trans {one two three : BoundUsage} (h : one.Coincides two)
    (h' : two.Coincides three) : one.Coincides three :=
  ⟨ClassIdentifier.isSameClass_trans h.attributeClass h'.attributeClass, h.target.trans h'.target⟩

/-- A usage is forbidden behind those kept when its generator is applied only once and one of them
coincides with it. -/
theorem isForbiddenRepeat_iff {kept : List BoundUsage} {usage : BoundUsage} :
    usage.isForbiddenRepeat kept = true ↔
      usage.definition.allowMultiple = false ∧ ∃ earlier ∈ kept, earlier.Coincides usage := by
  unfold isForbiddenRepeat
  rw [Bool.and_eq_true, Bool.not_eq_true', List.any_eq_true]
  refine and_congr_right fun _ => exists_congr fun earlier => and_congr_right fun _ => ?_
  rw [Bool.and_eq_true, UsageTarget.beq_iff_isSame]
  exact ⟨fun h => ⟨h.1, h.2⟩, fun h => ⟨h.attributeClass, h.target⟩⟩

/-- The error about a usage that is dropped. -/
def repeatError (usage : BoundUsage) : Diagnostic where
  code := .multipleNotAllowed
  severity := .error
  message := "'" ++ usage.definition.attributeClass.fullName ++ "' may be applied to " ++
    usage.target.shown ++ " only once"
  location := usage.location
  snippet := none

end BoundUsage

/-! ### Dropped usages -/

/-- The generator of the usage at a place is applied only once to a target, and a usage in front
coincides with it. -/
def ForbiddenAt (usages : List BoundUsage) (place : Nat) : Prop :=
  ∃ usage, usages[place]? = some usage ∧ usage.definition.allowMultiple = false ∧
    ∃ earlier ∈ usages.take place, earlier.Coincides usage

/-- The usage at a place may stay. -/
def AllowedAt (usages : List BoundUsage) (place : Nat) : Prop :=
  place < usages.length ∧ ¬ ForbiddenAt usages place

/-- The diagnostic is the error about the usage at a place. -/
def ReportedAt (usages : List BoundUsage) (place : Nat) (diagnostic : Diagnostic) : Prop :=
  ∃ usage, usages[place]? = some usage ∧ diagnostic = usage.repeatError

/-- Among the usages kept there is one for each of those gone through, and no other. -/
structure Represents (kept earlier : List BoundUsage) : Prop where
  /-- Nothing else is kept. -/
  mem : ∀ usage ∈ kept, usage ∈ earlier
  /-- Each usage coincides with one that is kept. -/
  exists_coincides : ∀ usage ∈ earlier, ∃ one ∈ kept, one.Coincides usage

namespace Represents

variable {kept earlier : List BoundUsage} {usage : BoundUsage}

/-- A usage that is kept stands for itself. -/
theorem keep (h : Represents kept earlier) (usage : BoundUsage) :
    Represents (kept ++ [usage]) (earlier ++ [usage]) where
  mem one hone := by
    rcases List.mem_append.1 hone with hone | hone
    · exact List.mem_append_left _ (h.mem one hone)
    · exact List.mem_append_right _ hone
  exists_coincides one hone := by
    rcases List.mem_append.1 hone with hone | hone
    · obtain ⟨other, hother, hcoincides⟩ := h.exists_coincides one hone
      exact ⟨other, List.mem_append_left _ hother, hcoincides⟩
    · exact ⟨one, List.mem_append_right _ hone, .refl one⟩

/-- A usage that is dropped coincides with one that is kept. -/
theorem drop (h : Represents kept earlier) (hforbidden : usage.isForbiddenRepeat kept = true) :
    Represents kept (earlier ++ [usage]) where
  mem one hone := List.mem_append_left _ (h.mem one hone)
  exists_coincides one hone := by
    rcases List.mem_append.1 hone with hone | hone
    · exact h.exists_coincides one hone
    · obtain rfl := List.mem_singleton.1 hone
      exact (BoundUsage.isForbiddenRepeat_iff.1 hforbidden).2

/-- It is as well to compare with what is kept as with everything in front. -/
theorem isForbiddenRepeat_iff_forbiddenAt (h : Represents kept earlier)
    (rest : List BoundUsage) :
    usage.isForbiddenRepeat kept = true ↔
      ForbiddenAt (earlier ++ usage :: rest) earlier.length := by
  rw [BoundUsage.isForbiddenRepeat_iff]
  unfold ForbiddenAt
  rw [getElem?_length_append_cons, List.take_left]
  constructor
  · rintro ⟨honce, one, hone, hcoincides⟩
    exact ⟨usage, rfl, honce, one, h.mem one hone, hcoincides⟩
  · rintro ⟨found, hfound, honce, one, hone, hcoincides⟩
    obtain rfl := Option.some.inj hfound
    obtain ⟨other, hother, hsame⟩ := h.exists_coincides one hone
    exact ⟨honce, other, hother, hsame.trans hcoincides⟩

end Represents

/-! ### A pass -/

/-- A forbidden usage is reported, and the pass goes on without it. -/
theorem enforceFrom_of_forbidden {kept : List BoundUsage} {usage : BoundUsage}
    (h : usage.isForbiddenRepeat kept = true) (rest : List BoundUsage) :
    enforceFrom kept (usage :: rest) =
      ⟨(enforceFrom kept rest).value,
        usage.repeatError :: (enforceFrom kept rest).diagnostics⟩ := by
  rw [enforceFrom, if_pos h]
  rfl

/-- Any other usage is kept. -/
theorem enforceFrom_of_allowed {kept : List BoundUsage} {usage : BoundUsage}
    (h : usage.isForbiddenRepeat kept = false) (rest : List BoundUsage) :
    enforceFrom kept (usage :: rest) = enforceFrom (kept ++ [usage]) rest := by
  rw [enforceFrom, if_neg (by rw [h]; exact Bool.false_ne_true)]

/-- Behind what it has kept, a pass keeps the usages of the places that are not forbidden, and it
reports those of the others. -/
theorem enforceFrom_lists {kept earlier : List BoundUsage} (h : Represents kept earlier)
    (rest : List BoundUsage) :
    ∃ later, (enforceFrom kept rest).value = some (kept ++ later) ∧ later.Sublist rest ∧
      ListsAt (fun place => earlier.length ≤ place ∧ AllowedAt (earlier ++ rest) place)
        (fun place usage => (earlier ++ rest)[place]? = some usage) later ∧
      ListsAt (fun place => earlier.length ≤ place ∧ ForbiddenAt (earlier ++ rest) place)
        (ReportedAt (earlier ++ rest)) (enforceFrom kept rest).diagnostics := by
  induction rest generalizing kept earlier with
  | nil =>
    refine ⟨[], by rw [enforceFrom, List.append_nil], List.Sublist.refl [], ?_, ?_⟩
    · refine listsAt_nil ?_
      rintro place ⟨hle, hlt, -⟩
      rw [List.append_nil] at hlt
      omega
    · refine listsAt_nil ?_
      rintro place ⟨hle, usage, husage, -⟩
      rw [List.append_nil, List.getElem?_eq_none hle] at husage
      cases husage
  | cons usage rest ih =>
    have hplace := getElem?_length_append_cons earlier usage rest
    have hiff : usage.isForbiddenRepeat kept = true ↔
        ForbiddenAt (earlier ++ usage :: rest) earlier.length :=
      h.isForbiddenRepeat_iff_forbiddenAt rest
    cases hforbidden : usage.isForbiddenRepeat kept with
    | true =>
      have hdropped := hiff.1 hforbidden
      obtain ⟨later, hvalue, hsublist, hkept, hreported⟩ := ih (h.drop hforbidden)
      rw [List.length_append, List.length_singleton, ← List.append_cons] at hkept hreported
      rw [enforceFrom_of_forbidden hforbidden]
      exact ⟨later, hvalue, hsublist.cons usage, hkept.pass fun hallowed => hallowed.2 hdropped,
        hreported.take hdropped ⟨usage, hplace, rfl⟩⟩
    | false =>
      have hstays : ¬ ForbiddenAt (earlier ++ usage :: rest) earlier.length := by
        rw [← hiff, hforbidden]
        exact Bool.false_ne_true
      have hlt : earlier.length < (earlier ++ usage :: rest).length := by
        rw [List.length_append, List.length_cons]
        omega
      obtain ⟨later, hvalue, hsublist, hkept, hreported⟩ := ih (h.keep usage)
      rw [List.length_append, List.length_singleton, ← List.append_cons] at hkept hreported
      rw [← List.append_cons] at hvalue
      rw [enforceFrom_of_allowed hforbidden]
      exact ⟨usage :: later, hvalue, hsublist.cons_cons usage, hkept.take ⟨hlt, hstays⟩ hplace,
        hreported.pass hstays⟩

/-- A usage of a generator that is applied only once coincides with none in front of it. -/
def AreApart (usages : List BoundUsage) : Prop :=
  usages.Pairwise fun one other =>
    other.definition.allowMultiple = false → ¬ one.Coincides other

/-- A usage that is kept stays apart from those in front. -/
theorem AreApart.keep {kept : List BoundUsage} (h : AreApart kept) {usage : BoundUsage}
    (hallowed : usage.isForbiddenRepeat kept = false) : AreApart (kept ++ [usage]) := by
  refine List.pairwise_append.2 ⟨h, List.pairwise_singleton _ usage, ?_⟩
  intro one hone other hother honce hcoincides
  obtain rfl := List.mem_singleton.1 hother
  have hforbidden := BoundUsage.isForbiddenRepeat_iff.2 ⟨honce, one, hone, hcoincides⟩
  rw [hallowed] at hforbidden
  exact Bool.false_ne_true hforbidden

/-- A pass keeps usages that are apart. -/
theorem AreApart.enforceFrom {kept all : List BoundUsage} (h : AreApart kept)
    {rest : List BoundUsage} (hvalue : (enforceFrom kept rest).value = some all) :
    AreApart all := by
  induction rest generalizing kept with
  | nil =>
    obtain rfl := Option.some.inj hvalue
    exact h
  | cons usage rest ih =>
    cases hforbidden : usage.isForbiddenRepeat kept with
    | true =>
      rw [enforceFrom_of_forbidden hforbidden] at hvalue
      exact ih h hvalue
    | false =>
      rw [enforceFrom_of_allowed hforbidden] at hvalue
      exact ih (h.keep hforbidden) hvalue

/-- From usages that are apart a pass drops none. -/
theorem AreApart.enforceFrom_eq {kept rest : List BoundUsage} (h : AreApart (kept ++ rest)) :
    TemplateCodegen.enforceFrom kept rest = ⟨some (kept ++ rest), []⟩ := by
  induction rest generalizing kept with
  | nil => rw [TemplateCodegen.enforceFrom, List.append_nil]
  | cons usage rest ih =>
    have hapart := (List.pairwise_append.1 h).2.2
    have hallowed : usage.isForbiddenRepeat kept = false := by
      rw [Bool.eq_false_iff]
      intro hforbidden
      obtain ⟨honce, one, hone, hcoincides⟩ := BoundUsage.isForbiddenRepeat_iff.1 hforbidden
      exact hapart one hone usage List.mem_cons_self honce hcoincides
    rw [List.append_cons] at h
    rw [enforceFrom_of_allowed hallowed, ih h, ← List.append_cons]

/-! ### Enforcing -/

/-- What is kept of usages, and what is reported. -/
structure EnforcesOnce (usages kept : List BoundUsage) (diagnostics : List Diagnostic) :
    Prop where
  /-- Kept are, in order, the usages that are not forbidden behind all in front of them. -/
  stay : ListsAt (AllowedAt usages) (fun place usage => usages[place]? = some usage) kept
  /-- There is one error for each of the others, in order. -/
  reported : ListsAt (ForbiddenAt usages) (ReportedAt usages) diagnostics
  /-- What is kept is a subsequence. -/
  sublist : kept.Sublist usages
  /-- No usage that is kept of a generator that is applied only once coincides with one in front. -/
  apart : AreApart kept
  /-- Nothing is dropped from what was kept, and nothing is reported. -/
  idempotent : enforceMultiplicity kept = ⟨some kept, []⟩

/-- The usages of an attribute class agree on whether it may be applied several times. -/
def AgreeOnRepeats (usages : List BoundUsage) : Prop :=
  ∀ one ∈ usages, ∀ other ∈ usages,
    one.definition.attributeClass.isSameClass other.definition.attributeClass = true →
      one.definition.allowMultiple = other.definition.allowMultiple

/-- Of usages that coincide the first is kept, and the others as well when the generator may be
applied several times; each of the others is reported. Where the usages of an attribute class agree
on that, usages that are kept coincide for a generator that allows it only. -/
theorem enforceMultiplicity_enforces (usages : List BoundUsage) :
    ∃ kept, (enforceMultiplicity usages).value = some kept ∧
      EnforcesOnce usages kept (enforceMultiplicity usages).diagnostics ∧
      (AgreeOnRepeats usages → kept.Pairwise fun one other => one.Coincides other →
        one.definition.allowMultiple = true ∧ other.definition.allowMultiple = true) := by
  have hnothing : Represents [] [] :=
    ⟨fun _ h => absurd h List.not_mem_nil, fun _ h => absurd h List.not_mem_nil⟩
  obtain ⟨kept, hvalue, hsublist, hkept, hreported⟩ := enforceFrom_lists hnothing usages
  rw [List.nil_append] at hvalue
  have hapart : AreApart kept := AreApart.enforceFrom List.Pairwise.nil hvalue
  refine ⟨kept, hvalue, ?_, fun hagree => ?_⟩
  · exact
      { stay := hkept.of_zero
        reported := hreported.of_zero
        sublist := hsublist
        apart := hapart
        idempotent := AreApart.enforceFrom_eq hapart }
  · refine hapart.imp_of_mem fun {one other} hone hother honce hcoincides => ?_
    have hflag := hagree one (hsublist.subset hone) other (hsublist.subset hother)
      hcoincides.attributeClass
    cases hother' : other.definition.allowMultiple with
    | true => exact ⟨hflag.trans hother', rfl⟩
    | false => exact absurd hcoincides (honce hother')

/-- A usage of a stamp on a member. -/
def stamped (name : String) (allowMultiple : Bool) (owner member location : String) :
    BoundUsage where
  definition :=
    { identifier := ⟨"Gen", name ++ "Generator"⟩
      attributeClass := ⟨"Stencil", name ++ "Attribute"⟩
      kind := .onField
      allowMultiple := allowMultiple
      required := []
      optional := []
      generic := []
      templates := {}
      location := none }
  target := .onMember ⟨"Shop", owner⟩ member
  context := .empty
  location := some location

/-- Two stamps, of which one may be applied several times. -/
def stamps : List BoundUsage :=
  [stamped "Seal" false "Cart<int>" "total" "1", stamped "Seal" false "Cart<string>" "total" "2",
   stamped "Seal" false "Cart<int>" "count" "3", stamped "Tag" true "Cart<int>" "total" "4",
   stamped "Tag" true "Cart<int>" "total" "5", stamped "Seal" false "Cart<T>" "total" "6"]

/-- The second and the last one repeat the first, whatever the type argument is called. -/
theorem enforceMultiplicity_enforces_stamps :
    AgreeOnRepeats stamps ∧ ∃ kept, (enforceMultiplicity stamps).value = some kept ∧
      EnforcesOnce stamps kept (enforceMultiplicity stamps).diagnostics ∧
      (kept.Pairwise fun one other => one.Coincides other →
        one.definition.allowMultiple = true ∧ other.definition.allowMultiple = true) ∧
      kept.map BoundUsage.location = [some "1", some "3", some "4", some "5"] ∧
      (enforceMultiplicity stamps).diagnostics.map Diagnostic.location = [some "2", some "6"] := by
  have hagree : AgreeOnRepeats stamps := by
    unfold AgreeOnRepeats
    decide +kernel
  obtain ⟨kept, hvalue, henforces, hpairwise⟩ := enforceMultiplicity_enforces stamps
  refine ⟨hagree, kept, hvalue, henforces, hpairwise hagree, ?_, by decide +kernel⟩
  have hlocations : (enforceMultiplicity stamps).value.map (List.map BoundUsage.location) =
      some [some "1", some "3", some "4", some "5"] := by decide +kernel
  rw [hvalue] at hlocations
  exact Option.some.inj hlocations

end TemplateCodegen
