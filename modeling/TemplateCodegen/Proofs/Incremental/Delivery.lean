import TemplateCodegen.Proofs.Incremental.Session
import TemplateCodegen.Proofs.Incremental.Turnover

/-!
# Delivery at an output

A session seen from one of its outputs: besides the graph it holds every pending value that the host
has obtained there, by looking or by taking, and the one that was committed last. Commits may come
in any order and may be of values that have long been replaced. The invariant `Sound` says what the
version of an obtained value means: it is not newer than the stage, and while it is the version of
the stage the value is the one that the stage holds. Main statement: nothing is lost and nothing is
delivered twice (`Delivery.Reachable.delivers_once`).
-/

namespace TemplateCodegen.Incremental

variable {β : Type} [Payload β]

/-- The pending value was obtained while the stage still held earlier values. -/
def Pending.IsOlder {kind : Kind β} (one other : Pending kind) : Prop :=
  one.version < other.version

/-- The pending value is not newer than a slot, and under the same version it is its value. -/
def Pending.Fits {kind : Kind β} (pending : Pending kind) (slot : Slot kind.Val) : Prop :=
  pending.version ≤ slot.version ∧
    (pending.version = slot.version → slot.values.head? = some pending.value)

/-- A pending value that fits a slot fits what the slot turns into. -/
theorem Pending.Fits.turn {kind : Kind β} {pending : Pending kind} {slot slot' : Slot kind.Val}
    (h : pending.Fits slot) (hturns : slot.Turns slot') : pending.Fits slot' := by
  rcases hturns with rfl | ⟨hlt, _⟩
  · exact h
  · have hle := h.1
    exact ⟨by omega, fun heq => by omega⟩

/-- A session with what the host has obtained from an output and committed there. -/
structure Delivery {kind : Kind β} (input : Single kind) (output : Output kind) where
  /-- The session. -/
  session : Session β
  /-- The pending values obtained from the output, the latest first. -/
  obtained : List (Pending kind) := []
  /-- The pending value committed last at the output. -/
  committed : Option (Pending kind) := none

namespace Delivery

variable [DecidableEq β] {kind : Kind β} {input : Single kind} {output : Output kind}

/-- The values that the stage in front of the output holds. -/
def values? (delivery : Delivery input output) : Option (List kind.Val) :=
  delivery.session.graph.peek? input.asValues

/-- The host looks at the output and obtains what is pending, if anything is. -/
def look (delivery : Delivery input output) : Delivery input output :=
  { delivery with
    obtained := (delivery.session.graph.pending? output).toList ++ delivery.obtained }

/-- The host takes what is pending, if anything is: it is obtained and committed at once. -/
def take (delivery : Delivery input output) : Delivery input output :=
  { session := { delivery.session with graph := (delivery.session.graph.take output).1 }
    obtained := (delivery.session.graph.pending? output).toList ++ delivery.obtained
    committed := (delivery.session.graph.pending? output).or delivery.committed }

/-- The host commits a pending value. -/
def commit (delivery : Delivery input output) (pending : Pending kind) :
    Delivery input output :=
  { delivery with
    session := { delivery.session with graph := delivery.session.graph.commit output pending }
    committed := some pending }

/-- One operation of the host. At the output only values that were obtained there are committed;
other outputs are used at will, and stages may still be added. -/
inductive Step (delivery : Delivery input output) : Delivery input output → Prop where
  | build {next : Session β} (h : delivery.session.Step next)
    (hkept : delivery.session.graph.nodes <+: next.graph.nodes) :
    Step delivery { delivery with session := next }
  | setSource {found : Kind β} {source : Source found}
    (h : ⟨found, source⟩ ∈ delivery.session.sources) (values : List found.Val) :
    Step delivery { delivery with
      session := { delivery.session with
        graph := (delivery.session.graph.setSource source values).1
        supplied := delivery.session.supplied.set source.id found values } }
  | setSingle {found : Kind β} {source : SingleSource found}
    (h : ⟨found, source⟩ ∈ delivery.session.singleSources) (value : found.Val) :
    Step delivery { delivery with
      session := { delivery.session with
        graph := (delivery.session.graph.setSingle source value).1
        supplied := delivery.session.supplied.set source.id found [value] } }
  | run (signal : Signal) :
    Step delivery { delivery with
      session := { delivery.session with graph := (delivery.session.graph.run signal).1 } }
  | takeElsewhere {found : Kind β} {other : Output found}
    (h : ⟨found, other⟩ ∈ delivery.session.outputs) (hother : other.id ≠ output.id) :
    Step delivery { delivery with
      session := { delivery.session with graph := (delivery.session.graph.take other).1 } }
  | commitElsewhere {found : Kind β} {other : Output found}
    (h : ⟨found, other⟩ ∈ delivery.session.outputs) (hother : other.id ≠ output.id)
    (pending : Pending found) :
    Step delivery { delivery with
      session := { delivery.session with
        graph := delivery.session.graph.commit other pending } }
  | look : Step delivery delivery.look
  | take : Step delivery delivery.take
  | commit {pending : Pending kind} (h : pending ∈ delivery.obtained) :
    Step delivery (delivery.commit pending)

/-- The histories of an output, from its creation in any session on. -/
inductive Reachable : Delivery input output → Prop where
  | created {session : Session β} (h : session.Reachable) (hinput : ⟨kind, input⟩ ∈ session.singles)
    (houtput : ((StageGraph.output input).run session.graph).1 = output) :
    Reachable { session := session.addOutput (StageGraph.output input) }
  | step {delivery next : Delivery input output} (h : Reachable delivery)
    (hstep : delivery.Step next) : Reachable next

/-- A history goes on while the values of the stage stand and no pending value is committed that is
older than a certain one. -/
inductive Rests (pending : Pending kind) (start : Delivery input output) :
    Delivery input output → Prop where
  | start : Rests pending start start
  | step {delivery next : Delivery input output} (h : Rests pending start delivery)
    (hstep : delivery.Step next) (hvalues : next.values? = delivery.values?)
    (hcommitted : ∀ latest, next.committed = some latest → ¬ latest.IsOlder pending) :
    Rests pending start next

/-! ## What an operation does -/

/-- Handles stay issued. -/
theorem issued {session next : Session β} (hstep : session.Step next) :
    session.singles ⊆ next.singles ∧ session.outputs ⊆ next.outputs := by
  have hcons : ∀ {α : Type} {item : α} {items : List α}, items ⊆ item :: items :=
    fun {_ item items} => List.subset_cons_self item items
  cases hstep with
  | sourceValue | mapSingle | combineSingle | collect | concat =>
    exact ⟨hcons, List.Subset.refl _⟩
  | output => exact ⟨List.Subset.refl _, hcons⟩
  | source | singleSource | sourceValues | asValues | map | tryMap | flatMap | filter | combine
  | setSource | setSingle | setParallel | run | take | commit =>
    exact ⟨List.Subset.refl _, List.Subset.refl _⟩

/-- An operation of the host that is not one at the output: the node of the output stands, and the
slot in front of it turns. -/
structure Spares (delivery : Delivery input output) (next : Session β) : Prop where
  /-- It is an operation of the host. -/
  step : delivery.session.Step next
  /-- The node of the output stands. -/
  node : ∀ node : OutputNode kind,
    delivery.session.graph.nodes[output.id]? = some (.output kind node) →
      next.graph.nodes[output.id]? = some (.output kind node)
  /-- The slot in front of the output turns. -/
  slot : ∀ slot, slot? kind delivery.session.graph.nodes input.id = some slot →
    ∃ slot', slot? kind next.graph.nodes input.id = some slot' ∧ slot.Turns slot'

variable {delivery next : Delivery input output}

/-- Every operation spares the output or is one at the output. -/
theorem Step.spares_or (hstep : delivery.Step next) :
    (∃ session, delivery.Spares session ∧ next = { delivery with session := session }) ∨
      next = delivery.look ∨ next = delivery.take ∨
        ∃ pending ∈ delivery.obtained, next = delivery.commit pending := by
  cases hstep with
  | look => exact .inr (.inl rfl)
  | take => exact .inr (.inr (.inl rfl))
  | commit hpending => exact .inr (.inr (.inr ⟨_, hpending, rfl⟩))
  | build hbuild hkept =>
    refine .inl ⟨_, ⟨hbuild, fun node hnode => ?_, fun slot hslot => ?_⟩, rfl⟩
    · obtain ⟨added, hadded⟩ := hkept
      obtain ⟨hid, _⟩ := List.getElem?_eq_some_iff.mp hnode
      rw [← hadded, List.getElem?_append_left hid]
      exact hnode
    · exact ⟨slot, StageGraph.slot?_of_prefix hkept hslot, .inl rfl⟩
  | setSource hsource values =>
    exact .inl ⟨_, ⟨.setSource hsource values,
      fun node hnode => StageGraph.output_setValues hnode _ _ values,
      fun slot hslot => StageGraph.turns_setValues hslot _ _ values⟩, rfl⟩
  | setSingle hsource value =>
    exact .inl ⟨_, ⟨.setSingle hsource value,
      fun node hnode => StageGraph.output_setValues hnode _ _ [value],
      fun slot hslot => StageGraph.turns_setValues hslot _ _ [value]⟩, rfl⟩
  | run signal =>
    exact .inl ⟨_, ⟨.run signal, fun node hnode => StageGraph.output_run hnode signal,
      fun slot hslot => StageGraph.turns_run hslot signal⟩, rfl⟩
  | takeElsewhere hissued hother =>
    refine .inl ⟨_, ⟨.take hissued, fun node hnode => StageGraph.output_take hnode hother,
      fun slot hslot => ⟨slot, ?_, .inl rfl⟩⟩, rfl⟩
    exact (delivery.session.graph.slot?_take _ kind input.id).trans hslot
  | commitElsewhere hissued hother pending =>
    refine .inl ⟨_, ⟨.commit hissued pending,
      fun node hnode => StageGraph.output_commit hnode hother pending,
      fun slot hslot => ⟨slot, ?_, .inl rfl⟩⟩, rfl⟩
    exact (delivery.session.graph.slot?_commit _ pending kind input.id).trans hslot

/-! ## The invariant -/

/-- The invariant of a history. -/
structure Sound (delivery : Delivery input output) : Prop where
  /-- The session keeps its invariant. -/
  session : delivery.session.Sound
  /-- The stage in front of the output is one of exactly one value. -/
  input_mem : ⟨kind, input⟩ ∈ delivery.session.singles
  /-- The handle of the output has been issued. -/
  output_mem : ⟨kind, output⟩ ∈ delivery.session.outputs
  /-- The output reads the stage and is marked with the version committed last. -/
  node : ∃ node : OutputNode kind,
    delivery.session.graph.nodes[output.id]? = some (.output kind node) ∧
      node.source = input.id ∧ node.taken = delivery.committed.map Pending.version
  /-- The values obtained fit the stage. -/
  fits : ∀ pending ∈ delivery.obtained, ∀ slot,
    slot? kind delivery.session.graph.nodes input.id = some slot → pending.Fits slot
  /-- What was committed had been obtained. -/
  committed_mem : ∀ pending, delivery.committed = some pending → pending ∈ delivery.obtained

namespace Sound

/-- The stage in front of the output has a slot. -/
theorem exists_slot (h : delivery.Sound) :
    ∃ slot, slot? kind delivery.session.graph.nodes input.id = some slot :=
  exists_slot?_of_kind? (h.session.single_kind h.input_mem)

/-- What is pending at the output: the value of the stage, while its version is not the one that was
committed last. -/
theorem pending?_eq (h : delivery.Sound) {slot : Slot kind.Val}
    (hslot : slot? kind delivery.session.graph.nodes input.id = some slot) :
    delivery.session.graph.pending? output =
      if delivery.session.graph.isComplete = true ∧
          delivery.committed.map Pending.version ≠ some slot.version then
        slot.values.head?.map fun value => ⟨slot.version, value⟩
      else none := by
  obtain ⟨node, hnode, hsource, htaken⟩ := h.node
  rw [← hsource] at hslot
  by_cases hcomplete : delivery.session.graph.isComplete = true
  · rw [StageGraph.pending?_eq hnode hslot hcomplete, htaken]
    by_cases hversion : delivery.committed.map Pending.version = some slot.version
    · simp [hversion]
    · simp [hcomplete, hversion]
  · rw [StageGraph.pending?_of_not_complete output (eq_false_of_ne_true hcomplete)]
    simp [hcomplete]

/-- What is pending fits the stage. -/
theorem fits_of_pending? (h : delivery.Sound) {pending : Pending kind}
    (hpending : pending ∈ (delivery.session.graph.pending? output).toList) {slot : Slot kind.Val}
    (hslot : slot? kind delivery.session.graph.nodes input.id = some slot) :
    pending.version = slot.version ∧ pending.Fits slot := by
  rw [Option.mem_toList, h.pending?_eq hslot] at hpending
  split at hpending
  · obtain ⟨value, hvalue, rfl⟩ := Option.map_eq_some_iff.mp hpending
    exact ⟨rfl, Nat.le_refl _, fun _ => hvalue⟩
  · cases hpending

/-- A created output keeps the invariant: nothing has been obtained there. -/
theorem created {session : Session β} (h : session.Sound) (hinput : ⟨kind, input⟩ ∈ session.singles)
    (houtput : ((StageGraph.output input).run session.graph).1 = output) :
    Sound ({ session := session.addOutput (StageGraph.output input) } :
      Delivery input output) where
  session := h.addOutput hinput
  input_mem := hinput
  output_mem := by
    rw [← houtput]
    exact List.mem_cons_self
  node := by
    rw [← houtput]
    exact ⟨{ source := input.id }, List.getElem?_concat_length, rfl, rfl⟩
  fits _ hpending := by cases hpending
  committed_mem _ hpending := by cases hpending

/-- An operation that spares the output keeps the invariant. -/
theorem spared (h : delivery.Sound) (hfaithful : (Admission.all : Admission β).IsFaithful)
    {session : Session β} (hspares : delivery.Spares session) :
    Sound ({ delivery with session := session } : Delivery input output) where
  session := h.session.step hfaithful hspares.step
  input_mem := (issued hspares.step).1 h.input_mem
  output_mem := (issued hspares.step).2 h.output_mem
  node := by
    obtain ⟨node, hnode, hmark⟩ := h.node
    exact ⟨node, hspares.node node hnode, hmark⟩
  fits pending hpending slot' hslot' := by
    obtain ⟨slot, hslot⟩ := h.exists_slot
    obtain ⟨after, hafter, hturns⟩ := hspares.slot slot hslot
    obtain rfl : slot' = after := Option.some.inj (hslot'.symm.trans hafter)
    exact (h.fits pending hpending slot hslot).turn hturns
  committed_mem := h.committed_mem

/-- Looking keeps the invariant. -/
theorem look (h : delivery.Sound) : delivery.look.Sound where
  session := h.session
  input_mem := h.input_mem
  output_mem := h.output_mem
  node := h.node
  fits pending hpending slot hslot := by
    rcases List.mem_append.mp hpending with hfirst | hrest
    · exact (h.fits_of_pending? hfirst hslot).2
    · exact h.fits pending hrest slot hslot
  committed_mem pending hpending := List.mem_append_right _ (h.committed_mem pending hpending)

/-- A commit of a value that was obtained keeps the invariant. -/
theorem commit (h : delivery.Sound) (hfaithful : (Admission.all : Admission β).IsFaithful)
    {pending : Pending kind} (hpending : pending ∈ delivery.obtained) :
    (delivery.commit pending).Sound where
  session := h.session.step hfaithful (.commit h.output_mem pending)
  input_mem := h.input_mem
  output_mem := h.output_mem
  node := by
    obtain ⟨node, hnode, hsource, _⟩ := h.node
    obtain ⟨next, hnext, hkept, hmark⟩ := StageGraph.output_commit_self hnode pending
    exact ⟨next, hnext, hkept.trans hsource, hmark⟩
  fits found hfound slot hslot :=
    h.fits found hfound slot
      ((StageGraph.slot?_commit _ output pending kind input.id).symm.trans hslot)
  committed_mem found hfound := by
    cases hfound
    exact hpending

/-- Taking is looking, and committing what was seen. -/
theorem take_cases (delivery : Delivery input output) :
    (delivery.session.graph.pending? output = none ∧ delivery.take = delivery) ∨
      ∃ pending, delivery.session.graph.pending? output = some pending ∧
        pending ∈ delivery.look.obtained ∧ delivery.take = delivery.look.commit pending := by
  rcases delivery.session.graph.take_cases output with ⟨pending, hpending, h⟩ | ⟨hnone, h⟩
  · refine .inr ⟨pending, hpending, ?_, ?_⟩
    · rw [Delivery.look, hpending]
      exact List.mem_cons_self
    · rw [Delivery.take, Delivery.commit, Delivery.look, h, hpending]
      rfl
  · refine .inl ⟨hnone, ?_⟩
    rw [Delivery.take, h, hnone]
    rfl

/-- Every operation keeps the invariant. -/
theorem step (h : delivery.Sound) (hfaithful : (Admission.all : Admission β).IsFaithful)
    (hstep : delivery.Step next) : next.Sound := by
  rcases hstep.spares_or with ⟨session, hspares, rfl⟩ | rfl | rfl | ⟨pending, hpending, rfl⟩
  · exact h.spared hfaithful hspares
  · exact h.look
  · rcases take_cases delivery with ⟨_, htake⟩ | ⟨pending, _, hpending, htake⟩
    · rwa [htake]
    · rw [htake]
      exact h.look.commit hfaithful hpending
  · exact h.commit hfaithful hpending

end Sound

/-- Every history keeps the invariant. -/
theorem Reachable.sound (hfaithful : (Admission.all : Admission β).IsFaithful)
    (h : delivery.Reachable) : delivery.Sound := by
  induction h with
  | created hsession hinput houtput => exact .created (hsession.sound hfaithful) hinput houtput
  | step _ hstep ih => exact ih.step hfaithful hstep

/-! ## Nothing is lost -/

/-- Behind a complete run the stage in front of the output holds exactly one value. -/
theorem Sound.exists_value (h : delivery.Sound)
    (hfaithful : (Admission.all : Admission β).IsFaithful) {signal : Signal} {summary : Summary}
    (hok : (delivery.session.graph.run signal).2.2 = .ok summary) :
    ∃ value, (delivery.session.graph.run signal).1.get? input = some value := by
  obtain ⟨node, hnode, hsource, _⟩ := h.node
  have hplace : delivery.session.graph.stages[output.id]? = some (.output kind input.id) := by
    rw [StageGraph.stages, List.getElem?_map, hnode, ← hsource]
    rfl
  have hwanted : Wanted delivery.session.graph.stages input.id :=
    .input (.output hplace rfl) hplace List.mem_cons_self
  obtain ⟨value, hvalue⟩ :=
    h.session.singles delivery.session.supplied h.session.fills _ h.input_mem
  have hholds := h.session.settled.run_ok_batch? hfaithful h.session.supplied hok hwanted
  exact ⟨value, StageGraph.get?_eq_some (hholds.trans hvalue)⟩

/-- Where nothing is pending at the output of a completed graph whose stage holds a value, the value
is the one that was committed last. -/
theorem Sound.exists_committed (h : delivery.Sound)
    (hcomplete : delivery.session.graph.isComplete = true) {value : kind.Val}
    (hvalue : delivery.session.graph.get? input = some value)
    (hpending : delivery.session.graph.pending? output = none) :
    ∃ pending, delivery.committed = some pending ∧ pending.value = value := by
  obtain ⟨slot, hslot⟩ := h.exists_slot
  have hhead : slot.values.head? = some value := by
    rw [StageGraph.get?, hslot] at hvalue
    exact hvalue
  rw [h.pending?_eq hslot, hhead] at hpending
  have hmark : delivery.committed.map Pending.version = some slot.version := by
    by_contra hother
    rw [if_pos ⟨hcomplete, hother⟩] at hpending
    cases hpending
  obtain ⟨pending, hcommitted, hversion⟩ := Option.map_eq_some_iff.mp hmark
  have hfits := h.fits pending (h.committed_mem pending hcommitted) slot hslot
  exact ⟨pending, hcommitted, Option.some.inj ((hfits.2 hversion).symm.trans hhead)⟩

/-! ## Nothing is delivered twice -/

/-- A pending value has been delivered: the value committed last and it have the version of the
stage. -/
def IsDelivered (delivery : Delivery input output) (pending : Pending kind) : Prop :=
  ∃ slot latest, slot? kind delivery.session.graph.nodes input.id = some slot ∧
    delivery.committed = some latest ∧ latest.version = slot.version ∧
      pending.version = slot.version

/-- Behind a delivery nothing is pending. -/
theorem IsDelivered.pending?_eq {pending : Pending kind} (h : delivery.IsDelivered pending)
    (hsound : delivery.Sound) : delivery.session.graph.pending? output = none := by
  obtain ⟨slot, latest, hslot, hcommitted, hversion, _⟩ := h
  rw [hsound.pending?_eq hslot, hcommitted, Option.map_some, hversion]
  exact if_neg fun hboth => hboth.2 rfl

/-- A value is delivered when it is committed while it is pending. -/
theorem Sound.isDelivered (h : delivery.Sound) {pending : Pending kind}
    (hpending : delivery.session.graph.pending? output = some pending)
    (hstep : delivery.Step next) (hcommitted : next.committed = some pending) :
    next.IsDelivered pending := by
  obtain ⟨slot, hslot⟩ := h.exists_slot
  have hversion := (h.fits_of_pending? (Option.mem_toList.mpr hpending) hslot).1
  have hcommit : ∀ other : Delivery input output, other.session = delivery.session →
      (other.commit pending).IsDelivered pending := by
    intro other hother
    refine ⟨slot, pending, ?_, rfl, hversion, hversion⟩
    rw [Delivery.commit, hother, StageGraph.slot?_commit]
    exact hslot
  -- What was committed before cannot be pending.
  have hbefore : delivery.committed ≠ some pending := by
    intro hlatest
    rw [h.pending?_eq hslot, hlatest, Option.map_some, hversion] at hpending
    simp at hpending
  rcases hstep.spares_or with ⟨session, _, rfl⟩ | rfl | rfl | ⟨other, _, rfl⟩
  · exact absurd hcommitted hbefore
  · exact absurd hcommitted hbefore
  · rcases Sound.take_cases delivery with ⟨hnone, _⟩ | ⟨found, hfound, _, htake⟩
    · rw [hnone] at hpending
      cases hpending
    · obtain rfl : found = pending := Option.some.inj (hfound.symm.trans hpending)
      rw [htake]
      exact hcommit delivery.look rfl
  · obtain rfl : other = pending := Option.some.inj hcommitted
    exact hcommit delivery rfl

/-- A delivered value stays so while the values of the stage stand and nothing older is committed.
-/
theorem IsDelivered.step {pending : Pending kind} (h : delivery.IsDelivered pending)
    (hsound : delivery.Sound)
    (hself : ∀ (b : β) (value : Payload.Carrier b), Payload.beq b value value)
    (hstep : delivery.Step next) (hvalues : next.values? = delivery.values?)
    (hcommitted : ∀ latest, next.committed = some latest → ¬ latest.IsOlder pending) :
    next.IsDelivered pending := by
  have hnone := h.pending?_eq hsound
  obtain ⟨slot, latest, hslot, hlatest, hversion, hpending⟩ := h
  rcases hstep.spares_or with ⟨session, hspares, rfl⟩ | rfl | rfl | ⟨other, hother, rfl⟩
  · obtain ⟨slot', hslot', hturns⟩ := hspares.slot slot hslot
    have hstand : slot'.values = slot.values := by
      unfold Delivery.values? StageGraph.peek? at hvalues
      rw [show (input.asValues).id = input.id from rfl, hslot, hslot'] at hvalues
      exact Option.some.inj hvalues
    obtain rfl := hturns.eq_of_values (Kind.beq_self_values hself slot.values) hstand
    exact ⟨slot', latest, hslot', hlatest, hversion, hpending⟩
  · exact ⟨slot, latest, hslot, hlatest, hversion, hpending⟩
  · rcases Sound.take_cases delivery with ⟨_, htake⟩ | ⟨found, hfound, _⟩
    · rw [htake]
      exact ⟨slot, latest, hslot, hlatest, hversion, hpending⟩
    · rw [hnone] at hfound
      cases hfound
  · have hfits := hsound.fits other hother slot hslot
    have hnew : ¬ other.version < pending.version := hcommitted other rfl
    have hle := hfits.1
    refine ⟨slot, other, ?_, rfl, by omega, hpending⟩
    rw [Delivery.commit, StageGraph.slot?_commit]
    exact hslot

/-- The invariant and the delivery are kept as long as a history rests. -/
theorem Rests.isDelivered {pending : Pending kind} {later : Delivery input output}
    (h : delivery.Rests pending later) (hdelivered : delivery.IsDelivered pending)
    (hsound : delivery.Sound) (hfaithful : (Admission.all : Admission β).IsFaithful)
    (hself : ∀ (b : β) (value : Payload.Carrier b), Payload.beq b value value) :
    later.Sound ∧ later.IsDelivered pending := by
  induction h with
  | start => exact ⟨hsound, hdelivered⟩
  | step _ hstep hvalues hcommitted ih =>
    obtain ⟨hsound', hdelivered'⟩ := ih
    exact ⟨hsound'.step hfaithful hstep,
      hdelivered'.step hsound' hself hstep hvalues hcommitted⟩

/-- Where equality is told by its test, nothing is lost and nothing is delivered twice. Whenever
nothing is pending right behind a complete run, the stage holds the value that was committed last;
and once a value has been committed while it was pending, nothing is pending and nothing can be
taken until the values of the stage change or an older value is committed. -/
theorem Reachable.delivers_once
    (hequal : ∀ (b : β) (one other : Payload.Carrier b),
      Payload.beq b one other = true ↔ one = other)
    (h : delivery.Reachable) :
    (∀ signal summary, (delivery.session.graph.run signal).2.2 = .ok summary →
      (delivery.session.graph.run signal).1.pending? output = none →
        ∃ pending, delivery.committed = some pending ∧
          (delivery.session.graph.run signal).1.get? input = some pending.value) ∧
    ∀ pending delivered later, delivery.session.graph.pending? output = some pending →
      delivery.Step delivered → delivered.committed = some pending →
        delivered.Rests pending later →
          later.session.graph.pending? output = none ∧
            (later.session.graph.take output).2 = none := by
  have hfaithful : (Admission.all : Admission β).IsFaithful :=
    fun b one other _ _ hbeq => (hequal b one other).mp hbeq
  have hself : ∀ (b : β) (value : Payload.Carrier b), Payload.beq b value value :=
    fun b value => (hequal b value value).mpr rfl
  have hsound := h.sound hfaithful
  refine ⟨fun signal summary hok hnone => ?_,
    fun pending delivered later hpending hstep hcommitted hrests => ?_⟩
  · have hrun := hsound.step hfaithful (.run signal)
    obtain ⟨value, hvalue⟩ := hsound.exists_value hfaithful hok
    have hcomplete : (delivery.session.graph.run signal).1.isComplete = true := by
      change (delivery.session.graph.run signal).2.2.isOk = true
      rw [hok]
      rfl
    obtain ⟨pending, hcommitted, hlast⟩ := hrun.exists_committed hcomplete hvalue hnone
    exact ⟨pending, hcommitted, hlast ▸ hvalue⟩
  · have hdelivered := hsound.isDelivered hpending hstep hcommitted
    obtain ⟨hlater, hstill⟩ :=
      hrests.isDelivered hdelivered (hsound.step hfaithful hstep) hfaithful hself
    have hnone := hstill.pending?_eq hlater
    refine ⟨hnone, ?_⟩
    rw [StageGraph.take, hnone]

/-! ## An output of gathered numbers -/

section Gathering

open Session

/-- A source of numbers, each of them increased and all of them gathered. -/
def gathering : Session Plain :=
  let session := ({} : Session Plain).addSource Plain.numbers
  let session := { session with values := ⟨Plain.numbers, ⟨0⟩⟩ :: session.values }
  let session := session.addValues
    (StageGraph.map Plain.numbers (⟨0⟩ : Values Plain.numbers) Plain.increase)
  session.addSingle (StageGraph.collect (⟨1⟩ : Values Plain.numbers))

/-- The output of the gathered numbers behind the first run with a few numbers. -/
def counted :
    Delivery (⟨2⟩ : Single (.list Plain.numbers)) (⟨3⟩ : Output (.list Plain.numbers)) :=
  let session := gathering.addOutput (StageGraph.output (⟨2⟩ : Single (.list Plain.numbers)))
  let graph := (session.graph.setSource (⟨0⟩ : Source Plain.numbers) Plain.few).1
  { session := { session with
      graph := (graph.run .quiet).1
      supplied := session.supplied.set 0 Plain.numbers Plain.few } }

/-- What is pending there. -/
def gathered : Pending (.list Plain.numbers) := ⟨1, ([2, 3] : List Nat)⟩

/-- The output of the gathered numbers has a history. -/
theorem counted_reachable : counted.Reachable := by
  have hempty : ({} : Session Plain).Reachable := .empty
  have hsource := hempty.step (.source Plain.numbers)
  have hvalues := hsource.step (.sourceValues List.mem_cons_self)
  have hmap := hvalues.step (.map Plain.numbers List.mem_cons_self Plain.increase)
  have hcollect := hmap.step (.collect List.mem_cons_self)
  have hcreated : Reachable
      ({ session := gathering.addOutput (StageGraph.output ⟨2⟩) } :
        Delivery (⟨2⟩ : Single (.list Plain.numbers)) (⟨3⟩ : Output (.list Plain.numbers))) :=
    .created hcollect List.mem_cons_self rfl
  exact (hcreated.step (.setSource List.mem_cons_self Plain.few)).step (.run .quiet)

/-- The gathered numbers are delivered once: they are what was committed last, and behind a second
run nothing is pending. -/
theorem counted_delivers_once :
    (∀ (b : Plain) (one other : Payload.Carrier b),
      Payload.beq b one other = true ↔ one = other) ∧
    counted.Reachable ∧ counted.session.graph.pending? ⟨3⟩ = some gathered ∧
    (∃ pending, counted.take.committed = some pending ∧
      (counted.take.session.graph.run .quiet).1.get?
        (⟨2⟩ : Single (.list Plain.numbers)) = some pending.value) ∧
    ((counted.take.session.graph.run .quiet).1.take
      (⟨3⟩ : Output (.list Plain.numbers))).2 = none := by
  have hpending : counted.session.graph.pending? ⟨3⟩ = some gathered := rfl
  have hcommitted : counted.take.committed = some gathered := rfl
  have hstart : counted.take.Rests gathered counted.take := .start
  have hrests := hstart.step (.run .quiet) rfl fun latest hlatest => by
    obtain rfl := Option.some.inj (hcommitted.symm.trans hlatest)
    exact Nat.lt_irrefl 1
  have hlost := (counted_reachable.step .take).delivers_once Plain.beq_eq_true_iff
  have htwice := counted_reachable.delivers_once Plain.beq_eq_true_iff
  have hnone := htwice.2 _ _ _ hpending .take hcommitted hrests
  exact ⟨Plain.beq_eq_true_iff, counted_reachable, hpending, hlost.1 .quiet _ rfl hnone.1, hnone.2⟩

end Gathering

end Delivery

end TemplateCodegen.Incremental
