import TemplateCodegen.Text.Blank
import TemplateCodegen.Text.FileKey

/-!
# Class identifiers

A class identifier is a namespace and a class name; the class name may end in a list of generic
arguments in angle brackets. Identity looks at the number of those arguments and not at their text,
so `Cache<K, V>` and `Cache<string, int>` name the same class. Two readings of the argument list
stand here: the strict one that returns the arguments or refuses an unbalanced list, and the lenient
count on which identity rests.
-/

namespace TemplateCodegen

/-- Why a text is not a class identifier. -/
inductive IdentifierError where
  /-- The text, or its part behind the last separating dot, is empty. -/
  | empty
  /-- The angle brackets of the class name do not form one balanced list at its end. -/
  | unbalancedGenerics (name : String)
deriving DecidableEq, Repr

/-- The text shown for an identifier error. -/
def IdentifierError.message : IdentifierError → String
  | .empty => "class name is empty"
  | .unbalancedGenerics name => "unbalanced generic argument list in '" ++ name ++ "'"

/-- A class name qualified by a namespace; the global namespace is the empty text. -/
structure ClassIdentifier where
  /-- The dotted namespace. -/
  namespaceName : String
  /-- The class name with its generic argument list, if it has one. -/
  className : String
deriving Repr

namespace ClassIdentifier

/-- The nesting depth behind one more character: `<` opens a level and `>` closes one. The depth is
signed, so that a stray `>` is remembered. -/
def depthAfter (depth : Int) (c : Char) : Int :=
  if c = '<' then depth + 1 else if c = '>' then depth - 1 else depth

/-- Cut a text at its last dot of nesting depth zero, if there is one. -/
def splitAtLastDot (depth : Int) : List Char → Option (List Char × List Char)
  | [] => none
  | c :: rest =>
    match splitAtLastDot (depthAfter depth c) rest with
    | some (before, after) => some (c :: before, after)
    | none => if c = '.' ∧ depth = 0 then some ([], rest) else none

/-- The text in front of the first `<`. -/
def baseOf (name : List Char) : List Char := name.takeWhile (· != '<')

/-- The text from the first `<` on. -/
def suffixOf (name : List Char) : List Char := name.dropWhile (· != '<')

/-- Cut the inside of an argument list at its commas of depth zero. Refused when a `>` closes more
than was opened or when something stays open at the end. -/
def splitArguments : Nat → List Char → Option (List (List Char))
  | 0, [] => some [[]]
  | _ + 1, [] => none
  | depth, c :: rest =>
    if c = '<' then extendFirst c (splitArguments (depth + 1) rest)
    else if c = '>' then
      match depth with
      | 0 => none
      | outer + 1 => extendFirst c (splitArguments outer rest)
    else if c = ',' ∧ depth = 0 then (splitArguments 0 rest).map ([] :: ·)
    else extendFirst c (splitArguments depth rest)
where
  /-- Put one character in front of the first piece. -/
  extendFirst (c : Char) : Option (List (List Char)) → Option (List (List Char))
    | some (piece :: more) => some ((c :: piece) :: more)
    | some [] => some [[c]]
    | none => none

/-- The arguments of a class name, untrimmed; `none` when its list is not balanced. -/
def rawArguments? (name : List Char) : Option (List (List Char)) :=
  match suffixOf name with
  | [] => some []
  | _ :: tail =>
    if tail.getLast? = some '>' then splitArguments 0 tail.dropLast else none

/-- The commas of a text at nesting depth one. -/
def countCommas (depth : Int) : List Char → Nat
  | [] => 0
  | c :: rest =>
    (if c = ',' ∧ depth = 1 then 1 else 0) + countCommas (depthAfter depth c) rest

/-- The number of generic arguments, counted without asking for balance. -/
def arityOf (name : List Char) : Nat :=
  match suffixOf name with
  | [] => 0
  | suffix => countCommas 0 suffix + 1

/-- The class name without its generic argument list. -/
def nameWithoutGenerics (identifier : ClassIdentifier) : String :=
  String.ofList (baseOf identifier.className.toList)

/-- The generic argument list with its brackets, or the empty text. -/
def genericSuffix (identifier : ClassIdentifier) : String :=
  String.ofList (suffixOf identifier.className.toList)

/-- The generic arguments, trimmed, cut at the commas outside nested lists. -/
def genericArguments (identifier : ClassIdentifier) : Except IdentifierError (List String) :=
  match rawArguments? identifier.className.toList with
  | some arguments => .ok (arguments.map fun argument => String.ofList (Text.trim argument))
  | none => .error (.unbalancedGenerics identifier.className)

/-- The number of generic arguments, counted leniently. -/
def genericArity (identifier : ClassIdentifier) : Nat :=
  arityOf identifier.className.toList

/-- The namespace, a dot and the class name; the class name alone in the global namespace. -/
def fullName (identifier : ClassIdentifier) : String :=
  if identifier.namespaceName = "" then identifier.className
  else identifier.namespaceName ++ "." ++ identifier.className

/-- Two identifiers name the same class when the namespace, the base name and the number of generic
arguments agree. -/
def isSameClass (one other : ClassIdentifier) : Bool :=
  one.namespaceName == other.namespaceName &&
    one.nameWithoutGenerics == other.nameWithoutGenerics &&
    one.genericArity == other.genericArity

/-- Identity of classes is the equality of identifiers. -/
instance : BEq ClassIdentifier := ⟨isSameClass⟩

/-- The same class name in another namespace. -/
def inNamespace (identifier : ClassIdentifier) (namespaceName : String) : ClassIdentifier :=
  ⟨namespaceName, identifier.className⟩

/-- The full name as a file key. -/
def escapedFileKey (identifier : ClassIdentifier) : String :=
  Text.escapeFileKey identifier.fullName

/-- Read a dotted name. The namespace is everything in front of the last dot outside the generic
argument list; blanks at the two ends are dropped. -/
def parse (text : String) : Except IdentifierError ClassIdentifier :=
  let trimmed := Text.trim text.toList
  let (namespaceName, className) := (splitAtLastDot 0 trimmed).getD ([], trimmed)
  if className = [] then .error .empty
  else
    let identifier : ClassIdentifier := ⟨String.ofList namespaceName, String.ofList className⟩
    match identifier.genericArguments with
    | .ok _ => .ok identifier
    | .error error => .error error

/-- The base name and the generic list together are the class name. -/
theorem nameWithoutGenerics_append_genericSuffix (identifier : ClassIdentifier) :
    identifier.nameWithoutGenerics ++ identifier.genericSuffix = identifier.className := by
  unfold nameWithoutGenerics genericSuffix baseOf suffixOf
  rw [← String.ofList_append, List.takeWhile_append_dropWhile, String.ofList_toList]

/-- The two parts of a cut text, with the dot between them, are the text. -/
theorem splitAtLastDot_append {depth : Int} {cs before after : List Char}
    (h : splitAtLastDot depth cs = some (before, after)) : before ++ '.' :: after = cs := by
  induction cs generalizing depth before with
  | nil => simp [splitAtLastDot] at h
  | cons c rest ih =>
    unfold splitAtLastDot at h
    split at h
    · rename_i before' after' hrest
      obtain ⟨rfl, rfl⟩ : c :: before' = before ∧ after' = after := by simpa using h
      simp [ih hrest]
    · split at h
      · rename_i hdot
        obtain ⟨rfl, rfl⟩ : [] = before ∧ rest = after := by simpa using h
        simp [hdot.1]
      · simp at h

/-- Sameness of classes is reflexive. -/
theorem isSameClass_refl (identifier : ClassIdentifier) :
    identifier.isSameClass identifier = true := by
  simp [isSameClass]

/-- Sameness of classes is symmetric. -/
theorem isSameClass_symm {one other : ClassIdentifier} (h : one.isSameClass other = true) :
    other.isSameClass one = true := by
  simp only [isSameClass, Bool.and_eq_true, beq_iff_eq] at h ⊢
  exact ⟨⟨h.1.1.symm, h.1.2.symm⟩, h.2.symm⟩

/-- Sameness of classes is transitive. -/
theorem isSameClass_trans {one two three : ClassIdentifier} (h₁ : one.isSameClass two = true)
    (h₂ : two.isSameClass three = true) : one.isSameClass three = true := by
  simp only [isSameClass, Bool.and_eq_true, beq_iff_eq] at h₁ h₂ ⊢
  exact ⟨⟨h₁.1.1.trans h₂.1.1, h₁.1.2.trans h₂.1.2⟩, h₁.2.trans h₂.2⟩

variable {identifier one other written rewritten : ClassIdentifier}

/-- Identifiers are the same when their namespaces and their class names are. -/
theorem eq_of_names (hspace : one.namespaceName = other.namespaceName)
    (hclass : one.className = other.className) : one = other := by
  cases one
  cases other
  cases hspace
  cases hclass
  rfl

/-- Identifiers that count as equal name the same class. -/
theorem isSameClass_of_beq (h : (one == other) = true) : one.isSameClass other = true := h

/-- The namespaces of a class are the same. -/
theorem namespaceName_eq_of_isSameClass (h : one.isSameClass other = true) :
    one.namespaceName = other.namespaceName := by
  simp only [isSameClass, Bool.and_eq_true, beq_iff_eq] at h
  exact h.1.1

/-- Names of one class have equally many arguments. -/
theorem genericArity_eq_of_isSameClass (h : one.isSameClass other = true) :
    one.genericArity = other.genericArity := by
  simp only [isSameClass, Bool.and_eq_true, beq_iff_eq] at h
  exact h.2

/-- Sameness is asked of the classes and not of the texts. -/
theorem isSameClass_congr (h : one.isSameClass other = true)
    (hwritten : written.isSameClass rewritten = true) :
    one.isSameClass written = other.isSameClass rewritten := by
  rw [Bool.eq_iff_iff]
  constructor
  · intro hone
    exact isSameClass_trans (isSameClass_symm h) (isSameClass_trans hone hwritten)
  · intro hother
    exact isSameClass_trans h (isSameClass_trans hother (isSameClass_symm hwritten))

/-- A class without generic arguments has its base name as its name. -/
theorem className_eq_of_genericArity (h : identifier.genericArity = 0) :
    identifier.className = identifier.nameWithoutGenerics := by
  have hsuffix : suffixOf identifier.className.toList = [] := by
    unfold genericArity arityOf at h
    split at h
    · assumption
    · omega
  have hwhole := identifier.nameWithoutGenerics_append_genericSuffix
  rw [genericSuffix, hsuffix] at hwhole
  rw [← hwhole]
  exact String.append_empty

/-- Identifiers of a class without generic arguments are the same. -/
theorem eq_of_isSameClass_of_genericArity (h : one.isSameClass other = true)
    (harity : one.genericArity = 0) : one = other := by
  have harity' : other.genericArity = 0 := (genericArity_eq_of_isSameClass h).symm.trans harity
  simp only [isSameClass, Bool.and_eq_true, beq_iff_eq] at h
  refine eq_of_names h.1.1 ?_
  rw [className_eq_of_genericArity harity, className_eq_of_genericArity harity', h.1.2]

end ClassIdentifier

end TemplateCodegen
