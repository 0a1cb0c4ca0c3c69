import TemplateCodegen.Proofs.Template.Scanning
import TemplateCodegen.Proofs.Template.Shape
import TemplateCodegen.Proofs.Template.Tiling

/-!
# Reading a text into pieces loses nothing

Pieces and faults of a text, put in order, are its tokens, one for each stretch. Their spans tile
the bytes of the text. A literal token is what stands at its span; a token of another kind is a
whole tag, from the first two opening braces outside earlier tags. Main statement: every text has
such tokens, a tag gives the piece that its shape asks for or else one fault, and the tokens are
those of the longest matches, which exist at every place (`tokenize_exact`).
-/

namespace TemplateCodegen.Template

/-- What is read from a stretch of text: a piece, or a fault. -/
inductive Token where
  | piece (piece : Piece)
  | fault (fault : Fault)
deriving DecidableEq, Repr

namespace Token

/-- Where the token stands. -/
def span : Token → Span
  | .piece read => read.span
  | .fault found => found.span

/-- The piece, when it is one. -/
def piece? : Token → Option Piece
  | .piece read => some read
  | .fault _ => none

/-- The fault, when it is one. -/
def fault? : Token → Option Fault
  | .piece _ => none
  | .fault found => some found

/-- The token is literal text. -/
def IsText (token : Token) : Prop :=
  ∃ content, token = .piece ⟨.text content, token.span⟩

end Token

/-- Two adjoining opening braces stand at a byte of the text. -/
def OpensAt (source : String) (byte : Nat) : Prop :=
  ∃ before after, source.toList = before ++ '{' :: '{' :: after ∧ byteLength before = byte

/-- The text has the content at the span. -/
def Occupies (source : String) (span : Span) (content : List Char) : Prop :=
  ∃ before after, source.toList = before ++ content ++ after ∧
    byteLength before = span.start ∧ byteLength (before ++ content) = span.stop

/-- A tag that begins with two opening braces and this text behind them: it goes on up to the first
closing brace, or to the end of the text, and then over at most two closing braces. -/
def tagAt (after : List Char) : List Char :=
  ['{', '{'] ++ after.takeWhile (· ≠ '}') ++
    ((after.dropWhile (· ≠ '}')).takeWhile (· = '}')).take 2

/-- At the span stands a whole tag. -/
def IsTagSpan (source : String) (span : Span) (tag : List Char) : Prop :=
  ∃ before after, source.toList = before ++ '{' :: '{' :: after ∧ byteLength before = span.start ∧
    tag = tagAt after ∧ byteLength (before ++ tag) = span.stop

/-- What a tag gives. -/
structure Gives (tag : List Char) (token : Token) : Prop where
  /-- It gives a piece of a kind exactly when it has the shape for that kind. -/
  piece (kind : PieceKind) : token = .piece ⟨kind, token.span⟩ ↔ IsTag kind tag
  /-- Otherwise it gives a fault: it names nothing, or it is malformed. -/
  fault (hshape : ∀ kind, ¬ IsTag kind tag) : ∃ cause, token = .fault ⟨cause, token.span⟩ ∧
    (cause.code = .emptyIdentifier ∨ cause.code = .malformedTag)

/-- Pieces and faults are an exact reading of the text: they are these tokens. -/
structure Reads (source : String) (found : Tokens) (tokens : List Token) : Prop where
  /-- The pieces are those among the tokens, in order. -/
  pieces : tokens.filterMap Token.piece? = found.pieces
  /-- The faults are those among the tokens, in order. -/
  faults : tokens.filterMap Token.fault? = found.faults
  /-- The spans tile the bytes of the text. -/
  tiles : Tiles 0 source.utf8ByteSize (tokens.map Token.span)
  /-- Literal text is not empty, it is what stands at its span, and no tag begins in it. -/
  text (content : String) (span : Span) (hpiece : ⟨.text content, span⟩ ∈ found.pieces) :
    content ≠ "" ∧ Occupies source span content.toList ∧ ¬ ['{', '{'] <:+: content.toList
  /-- No literal text touches another one. -/
  apart (one other : Piece) (hone : one ∈ found.pieces) (hother : other ∈ found.pieces)
    (htext : ∃ content, one.kind = .text content) (htext' : ∃ content, other.kind = .text content) :
    one.span.stop ≠ other.span.start
  /-- Any other token is a whole tag at the leftmost two opening braces that no earlier tag covers,
  and it is what that tag gives. -/
  tags (front behind : List Token) (token : Token) (hsplit : tokens = front ++ token :: behind)
    (htag : ¬ token.IsText) :
    ∃ tag, IsTagSpan source token.span tag ∧ Gives tag token ∧
      ∀ byte, OpensAt source byte →
        (∀ earlier ∈ front, ¬ earlier.IsText → ¬ earlier.span.Covers byte) →
        token.span.start ≤ byte

/-! ### Stretches -/

/-- The literal beginning ends in front of every two adjoining opening braces. -/
theorem cutLiteral_isPrefix {cs before after : List Char}
    (hcs : cs = before ++ '{' :: '{' :: after) : (cutLiteral cs).1 <+: before := by
  fun_induction cutLiteral cs generalizing before with
  | case1 => exact List.nil_prefix
  | case2 => exact List.nil_prefix
  | case3 c rest hnext ih =>
    cases before with
    | nil =>
      obtain ⟨rfl, hrest⟩ := List.cons.inj hcs
      exact absurd hrest (hnext after rfl)
    | cons d before =>
      obtain ⟨rfl, hrest⟩ := List.cons.inj hcs
      exact List.cons_prefix_cons.2 ⟨rfl, ih hrest⟩

/-- Behind the literal beginning the text ends, or a tag begins. -/
theorem cutLiteral_snd (cs : List Char) :
    (cutLiteral cs).2 = [] ∨ ∃ after, (cutLiteral cs).2 = '{' :: '{' :: after := by
  fun_induction cutLiteral cs with
  | case1 => exact .inl rfl
  | case2 rest => exact .inr ⟨rest, rfl⟩
  | case3 c rest _ ih => exact ih

/-- A first stretch that is literal is the literal beginning of the text. -/
theorem stretches_eq_literal {cs content : List Char} {rest : List Stretch}
    (h : stretches cs = .literal content :: rest) :
    content ≠ [] ∧ content = (cutLiteral cs).1 ∧ rest = stretches (cutLiteral cs).2 := by
  fun_cases stretches cs with
  | case1 => simp [stretches] at h
  | case2 => simp [stretches] at h
  | case3 c more hnext =>
    rw [cutLiteral.eq_3 c more hnext]
    rw [stretches.eq_3 c more hnext] at h
    obtain ⟨hcontent, hrest⟩ := List.cons.inj h
    obtain rfl := Stretch.literal.inj hcontent
    exact ⟨List.cons_ne_nil _ _, rfl, hrest.symm⟩

/-- A first stretch that is a tag is the tag at the beginning of the text. -/
theorem stretches_eq_tag {cs content : List Char} {rest : List Stretch}
    (h : stretches cs = .tag content :: rest) :
    ∃ after, cs = '{' :: '{' :: after ∧ content = tagAt after ∧
      rest = stretches (cutTag after).2 := by
  fun_cases stretches cs with
  | case1 => simp [stretches] at h
  | case2 after =>
    rw [stretches.eq_2] at h
    obtain ⟨hcontent, hrest⟩ := List.cons.inj h
    obtain rfl := Stretch.tag.inj hcontent
    refine ⟨after, rfl, ?_, hrest.symm⟩
    rw [cutTag_fst]
    rfl
  | case3 c more hnext =>
    rw [stretches.eq_3 c more hnext] at h
    cases h

/-- A stretch has characters. -/
theorem content_ne_nil {cs : List Char} {stretch : Stretch} {rest : List Stretch}
    (h : stretches cs = stretch :: rest) : stretch.content ≠ [] := by
  cases stretch with
  | literal content => exact (stretches_eq_literal h).1
  | tag content =>
    obtain ⟨after, -, rfl, -⟩ := stretches_eq_tag h
    exact List.cons_ne_nil _ _

/-- The text behind some of the stretches has the others as its stretches. -/
theorem stretches_behind {cs : List Char} {front behind : List Stretch}
    (h : stretches cs = front ++ behind) :
    stretches (behind.flatMap Stretch.content) = behind := by
  induction front generalizing cs with
  | nil =>
    rw [List.nil_append] at h
    rw [← h, flatMap_stretches]
  | cons stretch front ih =>
    cases stretch with
    | literal content => exact ih (stretches_eq_literal h).2.2.symm
    | tag content =>
      obtain ⟨after, -, -, hrest⟩ := stretches_eq_tag h
      exact ih hrest.symm

/-- No two literal stretches follow each other. -/
theorem stretches_ne_literal_literal {cs one other : List Char} {rest : List Stretch} :
    stretches cs ≠ .literal one :: .literal other :: rest := by
  intro h
  have hrest := (stretches_eq_literal h).2.2
  rcases cutLiteral_snd cs with hnil | ⟨after, hafter⟩
  · rw [hnil, stretches] at hrest
    exact List.cons_ne_nil _ _ hrest
  · rw [hafter, stretches] at hrest
    cases hrest

/-- A literal stretch ends in front of every two adjoining opening braces behind it. -/
theorem literal_isPrefix {cs content before after : List Char} {rest : List Stretch}
    (h : stretches cs = .literal content :: rest) (hcs : cs = before ++ '{' :: '{' :: after) :
    content <+: before := by
  rw [(stretches_eq_literal h).2.1]
  exact cutLiteral_isPrefix hcs

/-- No tag begins in a literal stretch. -/
theorem literal_not_infix {cs content : List Char} {rest : List Stretch}
    (h : stretches cs = .literal content :: rest) : ¬ ['{', '{'] <:+: content := by
  rintro ⟨before, after, hcontent⟩
  have hcs : cs = before ++ '{' :: '{' :: (after ++ rest.flatMap Stretch.content) := by
    rw [← flatMap_stretches cs, h, List.flatMap_cons]
    simp [Stretch.content, ← hcontent]
  have hle := (literal_isPrefix h hcs).length_le
  rw [← hcontent, List.length_append, List.length_append, List.length_cons] at hle
  omega

/-! ### Tokens of stretches -/

/-- The token of a stretch that begins at a byte. -/
def readToken (start : Nat) (stretch : Stretch) : Token :=
  let span : Span := ⟨start, start + byteLength stretch.content⟩
  match stretch with
  | .literal content => .piece ⟨.text (String.ofList content), span⟩
  | .tag content =>
    match readTag content with
    | .ok kind => .piece ⟨kind, span⟩
    | .error cause => .fault ⟨cause, span⟩

/-- The tokens of stretches, the first of which begins at a byte. -/
def readTokens (start : Nat) : List Stretch → List Token
  | [] => []
  | stretch :: rest =>
    readToken start stretch :: readTokens (start + byteLength stretch.content) rest

/-- A tag that can be read gives its piece. -/
theorem readToken_of_ok {start : Nat} {tag : List Char} {kind : PieceKind}
    (h : readTag tag = .ok kind) :
    readToken start (.tag tag) = .piece ⟨kind, ⟨start, start + byteLength tag⟩⟩ := by
  simp only [readToken, h, Stretch.content]

/-- A tag that cannot be read gives its fault. -/
theorem readToken_of_error {start : Nat} {tag : List Char} {cause : FaultCause}
    (h : readTag tag = .error cause) :
    readToken start (.tag tag) = .fault ⟨cause, ⟨start, start + byteLength tag⟩⟩ := by
  simp only [readToken, h, Stretch.content]

/-- A token has the place of its stretch. -/
theorem readToken_span (start : Nat) (stretch : Stretch) :
    (readToken start stretch).span = ⟨start, start + byteLength stretch.content⟩ := by
  cases stretch with
  | literal content => rfl
  | tag content =>
    cases hread : readTag content with
    | ok kind => rw [readToken_of_ok hread]; rfl
    | error cause => rw [readToken_of_error hread]; rfl

/-- Pieces and faults of stretches are those among their tokens. -/
theorem readStretches_eq (start : Nat) (all : List Stretch) :
    readStretches start all =
      ⟨(readTokens start all).filterMap Token.piece?,
        (readTokens start all).filterMap Token.fault?⟩ := by
  induction all generalizing start with
  | nil => rfl
  | cons stretch rest ih =>
    cases stretch with
    | literal content =>
      simp only [readStretches, ih]
      rfl
    | tag content =>
      cases hread : readTag content with
      | ok kind =>
        simp only [readStretches, readTokens, hread, ih, readToken_of_ok hread]
        rfl
      | error cause =>
        simp only [readStretches, readTokens, hread, ih, readToken_of_error hread]
        rfl

/-- Stretches that are not empty give tokens that tile their bytes. -/
theorem tiles_readTokens {start : Nat} {all : List Stretch}
    (hall : ∀ stretch ∈ all, stretch.content ≠ []) :
    Tiles start (start + byteLength (all.flatMap Stretch.content))
      ((readTokens start all).map Token.span) := by
  induction all generalizing start with
  | nil => rfl
  | cons stretch rest ih =>
    have hpos := byteLength_pos (hall stretch List.mem_cons_self)
    have hrest : ∀ stretch ∈ rest, stretch.content ≠ [] :=
      fun stretch h => hall stretch (List.mem_cons_of_mem _ h)
    rw [List.flatMap_cons, byteLength_append, ← Nat.add_assoc]
    simp only [readTokens, List.map_cons, Tiles, readToken_span]
    exact ⟨trivial, by omega, ih hrest⟩

/-- Where tokens split, their stretches do. -/
theorem readTokens_eq_append {start : Nat} {all : List Stretch} {front behind : List Token}
    {token : Token} (h : readTokens start all = front ++ token :: behind) :
    ∃ before stretch after, all = before ++ stretch :: after ∧
      token = readToken (start + byteLength (before.flatMap Stretch.content)) stretch ∧
      behind = readTokens token.span.stop after := by
  induction front generalizing start all with
  | nil =>
    cases all with
    | nil => exact nomatch h
    | cons stretch rest =>
      obtain ⟨rfl, rfl⟩ := List.cons.inj h
      exact ⟨[], stretch, rest, rfl, rfl, by rw [readToken_span]⟩
  | cons first front ih =>
    cases all with
    | nil => exact nomatch h
    | cons stretch rest =>
      obtain ⟨before, found, after, rfl, htoken, hbehind⟩ := ih (List.cons.inj h).2
      refine ⟨stretch :: before, found, after, rfl, ?_, hbehind⟩
      rw [htoken, List.flatMap_cons, byteLength_append, Nat.add_assoc]

/-- A tag that is read is no literal text. -/
theorem IsTag.ne_text {kind : PieceKind} {tag : List Char} (h : IsTag kind tag)
    (content : String) : kind ≠ .text content := by
  cases h with
  | intro hmark =>
    cases hmark <;> exact nofun

/-! ### Tokens of a text -/

/-- The tokens of a text. -/
def tokensOf (source : String) : List Token :=
  readTokens 0 (stretches source.toList)

/-- A token of a text was read from the first stretch of what is left at its place. -/
theorem exists_stretch {source : String} {front behind : List Token} {token : Token}
    (h : tokensOf source = front ++ token :: behind) :
    ∃ before cs stretch after, source.toList = before ++ cs ∧ stretches cs = stretch :: after ∧
      token = readToken (byteLength before) stretch ∧
      behind = readTokens token.span.stop after := by
  obtain ⟨before, stretch, after, hall, htoken, hbehind⟩ := readTokens_eq_append h
  have hsource := flatMap_stretches source.toList
  rw [hall, List.flatMap_append] at hsource
  rw [Nat.zero_add] at htoken
  exact ⟨_, _, stretch, after, hsource.symm, stretches_behind hall, htoken, hbehind⟩

/-- Literal text is read from literal stretches only. -/
theorem exists_literal {cs : List Char} {stretch : Stretch} {after : List Stretch} {start : Nat}
    (hstretch : stretches cs = stretch :: after) (htext : (readToken start stretch).IsText) :
    ∃ content, stretch = .literal content := by
  cases stretch with
  | literal content => exact ⟨content, rfl⟩
  | tag content =>
    obtain ⟨rest, -, rfl, -⟩ := stretches_eq_tag hstretch
    obtain ⟨text, htext⟩ := htext
    cases hread : readTag (tagAt rest) with
    | ok kind =>
      rw [readToken_of_ok hread] at htext
      have hkind : kind = .text text := congrArg Piece.kind (Token.piece.inj htext)
      exact absurd hkind ((readTag_eq_ok_iff.1 hread).ne_text text)
    | error cause =>
      rw [readToken_of_error hread] at htext
      exact nomatch htext

/-- The tokens of a text tile its bytes. -/
theorem tiles_tokensOf (source : String) :
    Tiles 0 source.utf8ByteSize ((tokensOf source).map Token.span) := by
  have hne : ∀ stretch ∈ stretches source.toList, stretch.content ≠ [] := by
    intro stretch hmem
    obtain ⟨front, behind, hsplit⟩ := List.append_of_mem hmem
    exact content_ne_nil (stretches_behind hsplit)
  have htiles : Tiles 0 (0 + byteLength ((stretches source.toList).flatMap Stretch.content))
      ((tokensOf source).map Token.span) := tiles_readTokens hne
  rw [flatMap_stretches, Nat.zero_add, byteLength_toList] at htiles
  exact htiles

/-- Literal text covers no byte at which two opening braces stand. -/
theorem not_covers_of_opensAt {source : String} {token : Token} {byte : Nat}
    (hmem : token ∈ tokensOf source) (htext : token.IsText) (hopens : OpensAt source byte) :
    ¬ token.span.Covers byte := by
  obtain ⟨front, behind, hsplit⟩ := List.append_of_mem hmem
  obtain ⟨before, cs, stretch, rest, hsource, hstretch, rfl, -⟩ := exists_stretch hsplit
  obtain ⟨content, rfl⟩ := exists_literal hstretch htext
  obtain ⟨ahead, after, hahead, rfl⟩ := hopens
  rw [readToken_span]
  rintro ⟨hstart, hstop⟩
  -- the braces stand in what is left at the token, and the literal text ends in front of them
  have hprefix : before <+: ahead :=
    isPrefix_of_byteLength_le ⟨_, hsource.symm⟩ ⟨_, hahead.symm⟩ hstart
  obtain ⟨between, rfl⟩ := hprefix
  have hcs : cs = between ++ '{' :: '{' :: after := by
    rw [hsource, List.append_assoc] at hahead
    exact List.append_cancel_left hahead
  obtain ⟨more, rfl⟩ := literal_isPrefix hstretch hcs
  simp only [byteLength_append, Stretch.content] at hstop
  omega

/-- Literal text is not empty, it is what stands at its span, and no tag begins in it. -/
theorem text_of_mem {source content : String} {span : Span}
    (hmem : .piece ⟨.text content, span⟩ ∈ tokensOf source) :
    content ≠ "" ∧ Occupies source span content.toList ∧ ¬ ['{', '{'] <:+: content.toList := by
  obtain ⟨front, behind, hsplit⟩ := List.append_of_mem hmem
  obtain ⟨before, cs, stretch, rest, hsource, hstretch, htoken, -⟩ := exists_stretch hsplit
  have htext : (readToken (byteLength before) stretch).IsText := by
    rw [← htoken]
    exact ⟨content, rfl⟩
  obtain ⟨chars, rfl⟩ := exists_literal hstretch htext
  obtain ⟨hcontent, rfl⟩ := Piece.mk.inj (Token.piece.inj htoken)
  obtain rfl := PieceKind.text.inj hcontent
  have hcs : cs = chars ++ rest.flatMap Stretch.content := by
    rw [← flatMap_stretches cs, hstretch]
    rfl
  rw [String.toList_ofList]
  refine ⟨?_, ⟨before, rest.flatMap Stretch.content, ?_, rfl, byteLength_append _ _⟩,
    literal_not_infix hstretch⟩
  · intro hempty
    have hnil := congrArg String.toList hempty
    rw [String.toList_ofList] at hnil
    exact content_ne_nil hstretch hnil
  · rw [hsource, hcs, List.append_assoc]

/-- No literal text touches another one. -/
theorem not_touches {source : String} {one other : Token} (hone : one ∈ tokensOf source)
    (hother : other ∈ tokensOf source) (htext : one.IsText) (htext' : other.IsText) :
    one.span.stop ≠ other.span.start := by
  intro htouch
  obtain ⟨front, behind, hsplit⟩ := List.append_of_mem hone
  have htiles := tiles_tokensOf source
  rw [hsplit] at htiles hother
  obtain ⟨more, rfl⟩ := htiles.eq_next hother htouch.symm
  obtain ⟨before, cs, stretch, after, -, hstretch, rfl, hbehind⟩ := exists_stretch hsplit
  obtain ⟨content, rfl⟩ := exists_literal hstretch htext
  cases after with
  | nil => exact nomatch hbehind
  | cons next after =>
    obtain ⟨rfl, -⟩ := List.cons.inj hbehind
    have hfirst : stretches cs = [.literal content] ++ next :: after := hstretch
    have hnext : stretches ((next :: after).flatMap Stretch.content) = next :: after :=
      stretches_behind hfirst
    obtain ⟨content', rfl⟩ := exists_literal hnext htext'
    exact stretches_ne_literal_literal hstretch

/-- What a tag gives. -/
theorem gives_readToken (start : Nat) (rest : List Char) :
    Gives (tagAt rest) (readToken start (.tag (tagAt rest))) := by
  have hread : ∀ kind, readTag (tagAt rest) = .ok kind ↔ IsTag kind (tagAt rest) :=
    fun kind => readTag_eq_ok_iff
  cases htag : readTag (tagAt rest) with
  | ok found =>
    rw [readToken_of_ok htag]
    simp only [htag, Except.ok.injEq] at hread
    refine ⟨fun kind => ?_, fun hshape => absurd ((hread found).1 rfl) (hshape found)⟩
    rw [← hread kind]
    constructor
    · exact fun h => congrArg Piece.kind (Token.piece.inj h)
    · rintro rfl
      rfl
  | error cause =>
    rw [readToken_of_error htag]
    simp only [htag, reduceCtorEq, false_iff] at hread
    refine ⟨fun kind => ⟨nofun, fun h => absurd h (hread kind)⟩, fun _ => ⟨cause, rfl, ?_⟩⟩
    exact code_of_readTag_eq_error htag

/-- A token other than literal text is a whole tag, at the leftmost two opening braces that no
earlier tag covers. -/
theorem tag_of_split {source : String} {front behind : List Token} {token : Token}
    (hsplit : tokensOf source = front ++ token :: behind) (htag : ¬ token.IsText) :
    ∃ tag, IsTagSpan source token.span tag ∧ Gives tag token ∧
      ∀ byte, OpensAt source byte →
        (∀ earlier ∈ front, ¬ earlier.IsText → ¬ earlier.span.Covers byte) →
        token.span.start ≤ byte := by
  obtain ⟨before, cs, stretch, rest, hsource, hstretch, htoken, -⟩ := exists_stretch hsplit
  cases stretch with
  | literal content =>
    subst htoken
    exact absurd ⟨_, rfl⟩ htag
  | tag content =>
    obtain ⟨after, rfl, rfl, -⟩ := stretches_eq_tag hstretch
    refine ⟨tagAt after, ⟨before, after, hsource, ?_, rfl, ?_⟩, ?_, ?_⟩
    · rw [htoken, readToken_span]
    · rw [htoken, readToken_span, byteLength_append]
      rfl
    · rw [htoken]
      exact gives_readToken _ after
    · intro byte hopens hfree
      by_contra hlt
      -- the byte lies in an earlier token, which is neither a tag nor literal text
      have htiles := tiles_tokensOf source
      rw [hsplit, List.map_append, List.map_cons] at htiles
      obtain ⟨span, hspan, hcovers⟩ :=
        htiles.split.1.exists_covers (Nat.zero_le byte) (Nat.lt_of_not_le hlt)
      obtain ⟨earlier, hearlier, rfl⟩ := List.mem_map.1 hspan
      have hmem : earlier ∈ tokensOf source := by
        rw [hsplit]
        exact List.mem_append_left _ hearlier
      by_cases htext : earlier.IsText
      · exact not_covers_of_opensAt hmem htext hopens hcovers
      · exact hfree earlier hearlier htext hcovers

/-- Pieces and faults of a text are those among its tokens. -/
theorem tokenize_eq (source : String) :
    tokenize source =
      ⟨(tokensOf source).filterMap Token.piece?, (tokensOf source).filterMap Token.fault?⟩ :=
  readStretches_eq 0 (stretches source.toList)

/-- Every piece of a text is one of its tokens. -/
theorem piece_mem_tokensOf {source : String} {piece : Piece}
    (h : piece ∈ (tokenize source).pieces) : .piece piece ∈ tokensOf source := by
  rw [tokenize_eq] at h
  obtain ⟨token, htoken, hread⟩ := List.mem_filterMap.1 h
  cases token with
  | piece read =>
    obtain rfl := Option.some.inj hread
    exact htoken
  | fault found => cases hread

/-- The tokens of a text are an exact reading of it. -/
theorem reads_tokensOf (source : String) : Reads source (tokenize source) (tokensOf source) where
  pieces := by rw [tokenize_eq]
  faults := by rw [tokenize_eq]
  tiles := tiles_tokensOf source
  text content span hpiece := text_of_mem (piece_mem_tokensOf hpiece)
  apart one other hone hother := by
    rintro ⟨content, hkind⟩ ⟨content', hkind'⟩
    have htext : Token.IsText (.piece one) := ⟨content, by rw [← hkind]; rfl⟩
    have htext' : Token.IsText (.piece other) := ⟨content', by rw [← hkind']; rfl⟩
    exact not_touches (piece_mem_tokensOf hone) (piece_mem_tokensOf hother) htext htext'
  tags front behind token hsplit htag := tag_of_split hsplit htag

/-- Every text is read exactly, and as its longest matches are: it has one scan, in which a rule
matches at every place, and its pieces and faults are those of the lexemes of that scan. -/
theorem tokenize_exact (source : String) :
    (∃ tokens, Reads source (tokenize source) tokens) ∧
      ∃ lexemes, (∀ other, Scans source.toList other ↔ other = lexemes) ∧
        (∀ lexeme ∈ lexemes, lexeme.rule ≠ none) ∧
        tokenize source = readStretches 0 (joinRuns lexemes) := by
  refine ⟨⟨tokensOf source, reads_tokensOf source⟩, ?_⟩
  obtain ⟨lexemes, hscans, hmatched, hjoin⟩ := exists_scans source.toList
  refine ⟨lexemes, fun other => ⟨fun h => h.unique hscans, ?_⟩, hmatched, ?_⟩
  · rintro rfl
    exact hscans
  · rw [hjoin]
    rfl

end TemplateCodegen.Template
