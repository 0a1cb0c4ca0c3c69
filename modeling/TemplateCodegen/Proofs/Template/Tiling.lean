import TemplateCodegen.Template.Piece
import Mathlib.Data.List.Basic
import Mathlib.Data.String.Basic

/-!
# Spans that follow each other

Spans tile a range of bytes when each of them begins where the one before it ends and none is empty.
A text of which spans tile the bytes is made up of what stands at them. Main statements: every byte
of a tiled range lies in one of the spans (`Tiles.exists_covers`), and what begins where another one
ends is the next one (`Tiles.eq_next`).
-/

namespace TemplateCodegen

/-- A byte lies in a span. -/
def Span.Covers (span : Span) (byte : Nat) : Prop :=
  span.start ≤ byte ∧ byte < span.stop

namespace Template

/-- The bytes of two texts are counted one behind the other. -/
@[simp]
theorem byteLength_append (one other : List Char) :
    byteLength (one ++ other) = byteLength one + byteLength other := by
  induction one with
  | nil => exact (Nat.zero_add _).symm
  | cons c rest ih =>
    simp only [List.cons_append, byteLength, ih]
    omega

/-- The number of bytes is the size of the text in its UTF-8 form. -/
theorem byteLength_toList (text : String) : byteLength text.toList = text.utf8ByteSize := by
  have hlen (cs : List Char) : byteLength cs = String.utf8Len cs := by
    induction cs with
    | nil => rfl
    | cons c rest ih =>
      simp only [byteLength, String.utf8Len_cons, ih]
      omega
  rw [hlen, ← String.utf8ByteSize_ofList, String.ofList_toList]

/-- A text that is not empty has a byte. -/
theorem byteLength_pos {cs : List Char} (h : cs ≠ []) : 0 < byteLength cs := by
  cases cs with
  | nil => exact absurd rfl h
  | cons c rest =>
    have hpos := c.utf8Size_pos
    simp only [byteLength]
    omega

/-- Of two beginnings of a text, the one with fewer bytes begins the other. -/
theorem isPrefix_of_byteLength_le {one other cs : List Char} (hone : one <+: cs)
    (hother : other <+: cs) (hle : byteLength one ≤ byteLength other) : one <+: other := by
  rcases List.prefix_or_prefix_of_prefix hone hother with h | ⟨more, rfl⟩
  · exact h
  · have hmore : more = [] := by
      by_contra hne
      have hpos := byteLength_pos hne
      rw [byteLength_append] at hle
      omega
    simp [hmore]

/-- The spans cover a range of bytes, one behind the other, without gaps and without overlaps, and
none of them is empty. -/
def Tiles : (start stop : Nat) → List Span → Prop
  | start, stop, [] => start = stop
  | start, stop, span :: rest =>
    span.start = start ∧ span.start < span.stop ∧ Tiles span.stop stop rest

namespace Tiles

variable {start stop byte : Nat} {front behind spans : List Span} {span : Span}

/-- A tiled range ends no earlier than it begins. -/
theorem le (h : Tiles start stop spans) : start ≤ stop := by
  induction spans generalizing start with
  | nil => exact h.le
  | cons span rest ih =>
    obtain ⟨rfl, hlt, hrest⟩ := h
    exact (hlt.trans_le (ih hrest)).le

/-- A tiling splits at every span. -/
theorem split (h : Tiles start stop (front ++ span :: behind)) :
    Tiles start span.start front ∧ span.start < span.stop ∧ Tiles span.stop stop behind := by
  induction front generalizing start with
  | nil => exact ⟨h.1.symm, h.2⟩
  | cons first rest ih =>
    obtain ⟨hfirst, hlt, hrest⟩ := h
    have ⟨hfront, hspan⟩ := ih hrest
    exact ⟨⟨hfirst, hlt, hfront⟩, hspan⟩

/-- A span of a tiling stays in the range. -/
theorem bounds (h : Tiles start stop spans) (hspan : span ∈ spans) :
    start ≤ span.start ∧ span.start < span.stop ∧ span.stop ≤ stop := by
  obtain ⟨front, behind, rfl⟩ := List.append_of_mem hspan
  obtain ⟨hfront, hlt, hbehind⟩ := h.split
  exact ⟨hfront.le, hlt, hbehind.le⟩

/-- Every byte of a tiled range lies in one of the spans. -/
theorem exists_covers (h : Tiles start stop spans) (hstart : start ≤ byte) (hstop : byte < stop) :
    ∃ span ∈ spans, span.Covers byte := by
  induction spans generalizing start with
  | nil =>
    have heq : start = stop := h
    omega
  | cons span rest ih =>
    obtain ⟨rfl, -, hrest⟩ := h
    by_cases hbyte : byte < span.stop
    · exact ⟨span, List.mem_cons_self, hstart, hbyte⟩
    · obtain ⟨found, hfound, hcovers⟩ := ih hrest (Nat.le_of_not_lt hbyte)
      exact ⟨found, List.mem_cons_of_mem _ hfound, hcovers⟩

/-- What begins where another one ends is the next one. -/
theorem eq_next {α : Type} {place : α → Span} {one other : α} {before after : List α}
    (h : Tiles start stop ((before ++ one :: after).map place))
    (hother : other ∈ before ++ one :: after)
    (htouch : (place other).start = (place one).stop) : ∃ rest, after = other :: rest := by
  rw [List.map_append, List.map_cons] at h
  obtain ⟨hbefore, hlt, hafter⟩ := h.split
  rw [List.mem_append, List.mem_cons] at hother
  rcases hother with hmem | rfl | hmem
  · have hbounds := hbefore.bounds (List.mem_map_of_mem hmem)
    omega
  · omega
  · cases after with
    | nil => exact absurd hmem List.not_mem_nil
    | cons next rest =>
      obtain ⟨hnext, hnext', hrest⟩ := hafter
      rcases List.mem_cons.1 hmem with rfl | hmem
      · exact ⟨rest, rfl⟩
      · have hbounds := hrest.bounds (List.mem_map_of_mem hmem)
        omega

end Tiles

end Template

end TemplateCodegen
