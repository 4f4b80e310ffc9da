import Criteria.Path.Reader
import Criteria.Proofs.Writing.Lexemes
import Mathlib.Data.List.Forall2
import Mathlib.Data.List.TakeWhile

/-!
# The grammar of paths

The reader of paths cuts a text at the points outside of brackets, and for this it keeps account of
brackets and quotes along the whole text. What it accepts can be said without any of that: cut the
text at **all** of its points and take the white space off the pieces, then every piece of which
something is left has to be a **spelling** of a segment (`Criteria.Segment.Spells`), and the path
consists of these segments (`Criteria.Path.read_eq_ok_iff`).

The two ways of cutting differ where there are points in brackets, or brackets and quotes that are
not closed. But no spelling holds a point, and behind a spelling everything is closed that was
opened in it. So if the pieces of one of the two ways can be read, then the other way gives the same
pieces (`Criteria.Path.pieces_eq_splitOn`).
-/

namespace Criteria

/-! ### The characters of keys -/

/-- A character that no key holds differs from those of a key. -/
theorem ne_of_isKeyChar {c d : Char} (hc : isKeyChar c = true) (hd : isKeyChar d = false) :
    c ≠ d := by
  rintro rfl
  rw [hc] at hd
  exact absurd hd (by simp)

/-- Characters of keys are no blanks. -/
theorem isBlank_of_isKeyChar {c : Char} (h : isKeyChar c = true) : isBlank c = false := by
  refine Bool.eq_false_iff.mpr fun hb => ?_
  have hunder : c ≠ '_' := ne_of_isBlank hb rfl
  have hminus : c ≠ '-' := ne_of_isBlank hb rfl
  simp [isKeyChar, isAlphanumeric_of_isBlank hb, hunder, hminus] at h

/-- A digit may stand in a key. -/
theorem isKeyChar_of_isDigit {c : Char} (h : isDigit c = true) : isKeyChar c = true := by
  simp [isKeyChar, isAlphanumeric, isNumber_of_isDigit h]

/-! ### Spellings of segments -/

/-- The ways to write what stands in brackets: a key in quotes, or the digits of a position. -/
inductive Index.Spells : Index → List Char → Prop
  | key {field : List Char} (hne : field ≠ []) (h : ∀ c ∈ field, isKeyChar c = true) :
      Spells (.key (String.ofList field)) ('"' :: (field ++ ['"']))
  | position {digits : List Char} (hne : digits ≠ []) (h : ∀ c ∈ digits, isDigit c = true)
      (hb : digitsValue digits < 0x10000000000000000) :
      Spells (.position (digitsValue digits)) digits

/-- **The ways to write a segment**: a key, or a key that may be empty with an index in brackets
behind it. There may be white space around the index, and nowhere else. -/
inductive Segment.Spells : Segment → List Char → Prop
  | key {key : List Char} (hne : key ≠ []) (h : ∀ c ∈ key, isKeyChar c = true) :
      Spells ⟨String.ofList key, none⟩ key
  | index {key before word after : List Char} {index : Index}
      (h : ∀ c ∈ key, isKeyChar c = true) (hb : IsBlanks before) (ha : IsBlanks after)
      (hi : index.Spells word) :
      Spells ⟨String.ofList key, some index⟩
        (key ++ '[' :: (before ++ (word ++ (after ++ [']']))))

section Spells

variable {word : List Char} {index : Index} {s : Segment} {c : Char}

/-- What stands in brackets is made of key characters and quotes. -/
theorem Index.Spells.mem (h : index.Spells word) (hc : c ∈ word) :
    isKeyChar c = true ∨ c = '"' := by
  cases h with
  | key _ hf =>
    rcases List.mem_cons.mp hc with rfl | hc
    · exact .inr rfl
    · rcases List.mem_append.mp hc with hc | hc
      · exact .inl (hf c hc)
      · exact .inr (List.mem_singleton.mp hc)
  | position _ hd _ => exact .inl (isKeyChar_of_isDigit (hd c hc))

/-- Only characters of keys and quotes stand in an index. -/
theorem Index.Spells.notMem (h : index.Spells word) (hk : isKeyChar c = false) (hq : c ≠ '"') :
    c ∉ word := by
  intro hc
  rcases h.mem hc with hkey | rfl
  · exact ne_of_isKeyChar hkey hk rfl
  · exact hq rfl

/-- There are no blanks in an index. -/
theorem Index.Spells.isBlank_of_mem (h : index.Spells word) :
    ∀ c ∈ word, isBlank c = false := by
  intro c hc
  rcases h.mem hc with hkey | rfl
  · exact isBlank_of_isKeyChar hkey
  · rfl

/-- The characters of a spelling other than brackets. -/
theorem Segment.Spells.mem (h : s.Spells word) (hc : c ∈ word) :
    isKeyChar c = true ∨ isBlank c = true ∨ c ∈ ['"', '[', ']'] := by
  cases h with
  | key _ hk => exact .inl (hk c hc)
  | index hk hb ha hi =>
    simp only [List.mem_append, List.mem_cons, List.not_mem_nil, or_false] at hc ⊢
    rcases hc with hc | rfl | hc | hc | hc | rfl
    · exact .inl (hk c hc)
    · exact .inr (.inr (.inr (.inl rfl)))
    · exact .inr (.inl (hb c hc))
    · exact (hi.mem hc).imp_right fun hq => .inr (.inl hq)
    · exact .inr (.inl (ha c hc))
    · exact .inr (.inr (.inr (.inr rfl)))

end Spells

/-! ### White space at the ends -/

/-- Blanks are passed over to the end. -/
theorem IsBlanks.dropWhile {blanks : List Char} (h : IsBlanks blanks) :
    blanks.dropWhile isBlank = [] :=
  List.dropWhile_eq_nil_iff.mpr h

/-- White space around characters other than white space is taken off, and nothing more. -/
theorem trimBlank_append {before word after : List Char} (hb : IsBlanks before)
    (ha : IsBlanks after) (hw : ∀ c ∈ word, isBlank c = false) :
    trimBlank (before ++ (word ++ after)) = word := by
  have hdrop : ∀ cs ds : List Char, (∀ c ∈ cs, isBlank c = false) → cs ≠ [] →
      (cs ++ ds).dropWhile isBlank = cs ++ ds := by
    intro cs ds hcs hne
    cases cs with
    | nil => exact absurd rfl hne
    | cons c cs => rw [List.cons_append, List.dropWhile_cons, hcs c List.mem_cons_self]; rfl
  rw [trimBlank, List.dropWhile_append_of_pos hb]
  cases word with
  | nil => rw [List.nil_append, ha.dropWhile]; rfl
  | cons c word =>
    have hreverse : ∀ d ∈ (c :: word).reverse, isBlank d = false :=
      fun d hd => hw d (List.mem_reverse.mp hd)
    have hafter : ∀ d ∈ after.reverse, isBlank d = true := fun d hd => ha d (List.mem_reverse.mp hd)
    have hend := hdrop _ [] hreverse (by simp)
    rw [List.append_nil] at hend
    rw [hdrop _ after hw (by simp), List.reverse_append, List.dropWhile_append_of_pos hafter, hend,
      List.reverse_reverse]

/-- Where there are no blanks, nothing is trimmed. -/
theorem trimBlank_eq_self {cs : List Char} (h : ∀ c ∈ cs, isBlank c = false) :
    trimBlank cs = cs := by
  have htrim := trimBlank_append .nil .nil h
  rwa [List.append_nil, List.nil_append] at htrim

/-- What is taken off the two ends of a text is white space. -/
theorem exists_trimBlank (cs : List Char) :
    ∃ before after, IsBlanks before ∧ IsBlanks after ∧ cs = before ++ (trimBlank cs ++ after) := by
  refine ⟨cs.takeWhile isBlank, ((cs.dropWhile isBlank).reverse.takeWhile isBlank).reverse,
    fun c hc => List.mem_takeWhile_imp hc,
    fun c hc => List.mem_takeWhile_imp (List.mem_reverse.mp hc), ?_⟩
  rw [trimBlank, ← List.reverse_append, List.takeWhile_append_dropWhile, List.reverse_reverse,
    List.takeWhile_append_dropWhile]

/-! ### Reading a segment -/

namespace Segment

variable {piece word : List Char}

/-- **Which texts are read as a key in quotes.** -/
theorem readQuoted_eq_ok_iff {index : Index} :
    readQuoted piece word = .ok index ↔
      ∃ field, word = field ++ ['"'] ∧ field ≠ [] ∧ (∀ c ∈ field, isKeyChar c = true) ∧
        index = .key (String.ofList field) := by
  rw [readQuoted]
  constructor
  · intro h
    split at h
    · rename_i hlast
      obtain ⟨field, rfl⟩ := List.getLast?_eq_some_iff.mp hlast
      simp only [List.dropLast_concat] at h
      split at h
      · cases h
      · rename_i hfield
        simp only [Bool.or_eq_true, List.isEmpty_iff, Bool.not_eq_true', not_or,
          Bool.not_eq_false] at hfield
        exact ⟨field, rfl, hfield.1, List.all_eq_true.mp hfield.2, (Except.ok.inj h).symm⟩
    · cases h
  · rintro ⟨field, rfl, hne, hf, rfl⟩
    rw [if_pos List.getLast?_concat, List.dropLast_concat]
    simp [hne, List.all_eq_true.mpr hf]

/-- **Which texts are read as a position.** -/
theorem readPosition_eq_ok_iff {index : Index} :
    readPosition word = .ok index ↔
      word ≠ [] ∧ (∀ c ∈ word, isDigit c = true) ∧ digitsValue word < positionBound ∧
        index = .position (digitsValue word) := by
  rw [readPosition]
  constructor
  · intro h
    split at h
    · rename_i hdigits
      simp only [Bool.and_eq_true, Bool.not_eq_true', List.isEmpty_eq_false_iff] at hdigits
      split at h
      · rename_i hbound
        exact ⟨hdigits.1, List.all_eq_true.mp hdigits.2, hbound, (Except.ok.inj h).symm⟩
      · cases h
    · cases h
  · rintro ⟨hne, hd, hb, rfl⟩
    simp [hne, List.all_eq_true.mpr hd, hb]

/-- **What is read between brackets is what is spelled there.** -/
theorem readIndex_eq_ok_iff {index : Index} :
    readIndex piece word = .ok index ↔ index.Spells word := by
  constructor
  · intro h
    cases word with
    | nil => exact absurd rfl (readPosition_eq_ok_iff.mp h).1
    | cons c rest =>
      rw [readIndex] at h
      split at h
      · rename_i hc
        obtain ⟨field, rfl, hne, hf, rfl⟩ := readQuoted_eq_ok_iff.mp h
        rw [hc]
        exact .key hne hf
      · obtain ⟨hne, hd, hb, rfl⟩ := readPosition_eq_ok_iff.mp h
        exact .position hne hd hb
  · intro h
    cases h with
    | key hne hf => exact readQuoted_eq_ok_iff.mpr ⟨_, rfl, hne, hf, rfl⟩
    | position hne hd hb =>
      cases word with
      | nil => exact absurd rfl hne
      | cons c rest =>
        -- a digit is no quote
        have hquote : c ≠ '"' :=
          ne_of_isKeyChar (isKeyChar_of_isDigit (hd c List.mem_cons_self)) rfl
        rw [readIndex, if_neg hquote]
        exact readPosition_eq_ok_iff.mpr ⟨hne, hd, hb, rfl⟩

/-- All characters of a key pass the check of the reader. -/
theorem find?_eq_none_iff {key : List Char} :
    key.find? (fun c => !isKeyChar c) = none ↔ ∀ c ∈ key, isKeyChar c = true := by
  rw [List.find?_eq_none]
  simp

/-- Keys have no brackets. -/
theorem bne_bracket_of_isKeyChar {key : List Char} (h : ∀ c ∈ key, isKeyChar c = true) :
    ∀ c ∈ key, (c != '[') = true :=
  fun c hc => bne_iff_ne.mpr (ne_of_isKeyChar (h c hc) rfl)

/-- A segment is read from what it is written as. -/
theorem read_of_spells {s : Segment} (h : s.Spells piece) : Segment.read piece = .ok s := by
  cases h with
  | key _ hk =>
    have hopen := bne_bracket_of_isKeyChar hk
    have htake := List.takeWhile_eq_self_iff.mpr hopen
    have hdrop := List.dropWhile_eq_nil_iff.mpr hopen
    simp only [Segment.read, htake, hdrop, find?_eq_none_iff.mpr hk]
  | @index key before word after index hk hb ha hi =>
    have hopen := bne_bracket_of_isKeyChar hk
    have htake : (key ++ '[' :: (before ++ (word ++ (after ++ [']'])))).takeWhile (· != '[') =
        key := by
      rw [List.takeWhile_append_of_pos hopen]
      simp
    have hdrop : (key ++ '[' :: (before ++ (word ++ (after ++ [']'])))).dropWhile (· != '[') =
        '[' :: (before ++ (word ++ after) ++ [']']) := by
      rw [List.dropWhile_append_of_pos hopen]
      simp
    simp only [Segment.read, htake, hdrop, find?_eq_none_iff.mpr hk]
    rw [if_pos List.getLast?_concat, List.dropLast_concat,
      trimBlank_append hb ha hi.isBlank_of_mem, readIndex_eq_ok_iff.mpr hi]
    rfl

/-- A segment that is read is written as what it was read from. -/
theorem spells_of_read (hne : piece ≠ []) {s : Segment} (h : Segment.read piece = .ok s) :
    s.Spells piece := by
  have hpiece := List.takeWhile_append_dropWhile (p := (· != '[')) (l := piece)
  rw [Segment.read] at h
  split at h
  · cases h
  · rename_i hkey
    have hk := find?_eq_none_iff.mp hkey
    split at h
    · rename_i hdrop
      obtain rfl := Except.ok.inj h
      rw [hdrop, List.append_nil] at hpiece
      rw [hpiece] at hk ⊢
      exact .key hne hk
    · rename_i c rest hdrop
      -- the key stops at an opening bracket
      obtain rfl : c = '[' := by
        have hstop := List.head?_dropWhile_not (· != '[') piece
        rw [hdrop] at hstop
        simpa using hstop
      split at h
      · rename_i hlast
        obtain ⟨inner, rfl⟩ := List.getLast?_eq_some_iff.mp hlast
        rw [List.dropLast_concat] at h
        cases hindex : readIndex piece (trimBlank inner) with
        | error e => rw [hindex] at h; cases h
        | ok index =>
          rw [hindex] at h
          obtain rfl := Except.ok.inj h
          obtain ⟨before, after, hb, ha, hinner⟩ := exists_trimBlank inner
          have hspells := Spells.index hk hb ha (readIndex_eq_ok_iff.mp hindex)
          have hrest : before ++ (trimBlank inner ++ (after ++ [']'])) = inner ++ [']'] := by
            rw [← List.append_assoc (trimBlank inner), ← List.append_assoc before, ← hinner]
          rwa [hrest, ← hdrop, hpiece] at hspells
      · cases h

/-- **A piece is read as a segment exactly if it spells the segment.** -/
theorem read_eq_ok_iff (hne : piece ≠ []) {s : Segment} :
    Segment.read piece = .ok s ↔ s.Spells piece :=
  ⟨spells_of_read hne, read_of_spells⟩

end Segment

/-! ### Pieces that can be read -/

namespace Path

/-- A piece can be read if it is white space, or a spelling of a segment with white space around
it. -/
def IsPiece (piece : List Char) : Prop :=
  trimBlank piece = [] ∨ ∃ s : Segment, s.Spells (trimBlank piece)

section IsPiece

variable {piece : List Char}

/-- No piece that can be read holds a point. -/
theorem IsPiece.point_notMem (h : IsPiece piece) : '.' ∉ piece := by
  obtain ⟨before, after, hb, ha, hpiece⟩ := exists_trimBlank piece
  have hblank : ∀ {blanks : List Char}, IsBlanks blanks → '.' ∉ blanks :=
    fun hs hm => ne_of_isBlank (hs '.' hm) rfl rfl
  have hword : '.' ∉ trimBlank piece := by
    rcases h with h | ⟨s, h⟩
    · simp [h]
    · intro hm
      rcases h.mem hm with hk | hs | hbracket
      · exact ne_of_isKeyChar hk rfl rfl
      · exact ne_of_isBlank hs rfl rfl
      · exact absurd hbracket (by decide)
  rw [hpiece, List.mem_append, List.mem_append, not_or, not_or]
  exact ⟨hblank hb, hword, hblank ha⟩

/-- Characters that are neither quotes nor brackets leave the nesting as it is. -/
theorem foldl_after_of_forall {cs : List Char} (h : ∀ c ∈ cs, c ∉ ['"', '[', ']'])
    (n : Nesting) : cs.foldl Nesting.after n = n := by
  induction cs with
  | nil => rfl
  | cons c cs ih =>
    have hc := h c List.mem_cons_self
    simp only [List.mem_cons, List.not_mem_nil, or_false, not_or] at hc
    have hafter : n.after c = n := by simp [Nesting.after, hc]
    rw [List.foldl_cons, hafter]
    exact ih fun d hd => h d (List.mem_cons_of_mem _ hd)

/-- Blanks open and close nothing. -/
theorem foldl_after_blanks {blanks : List Char} (h : IsBlanks blanks) (n : Nesting) :
    blanks.foldl Nesting.after n = n := by
  refine foldl_after_of_forall (fun c hc hm => ?_) n
  simp only [List.mem_cons, List.not_mem_nil, or_false] at hm
  rcases hm with rfl | rfl | rfl <;> exact ne_of_isBlank (h _ hc) rfl rfl

/-- Keys open and close nothing. -/
theorem foldl_after_key {key : List Char} (h : ∀ c ∈ key, isKeyChar c = true) (n : Nesting) :
    key.foldl Nesting.after n = n := by
  refine foldl_after_of_forall (fun c hc hm => ?_) n
  simp only [List.mem_cons, List.not_mem_nil, or_false] at hm
  rcases hm with rfl | rfl | rfl <;> exact ne_of_isKeyChar (h _ hc) rfl rfl

/-- Behind what is spelled in brackets its quotes are closed. -/
theorem foldl_after_index {index : Index} {word : List Char} (h : index.Spells word) :
    word.foldl Nesting.after ⟨1, false⟩ = ⟨1, false⟩ := by
  cases h with
  | @key field _ hf =>
    -- the first quote has been passed, and the last one is the way back
    change (field ++ ['"']).foldl Nesting.after ⟨1, true⟩ = _
    rw [List.foldl_append, foldl_after_key hf]
    rfl
  | position _ hd _ => exact foldl_after_key (fun c hc => isKeyChar_of_isDigit (hd c hc)) _

/-- **Behind a piece that can be read, brackets and quotes are closed.** -/
theorem IsPiece.foldl_after (h : IsPiece piece) :
    piece.foldl Nesting.after ⟨0, false⟩ = ⟨0, false⟩ := by
  obtain ⟨before, after, hb, ha, hpiece⟩ := exists_trimBlank piece
  have hword : (trimBlank piece).foldl Nesting.after ⟨0, false⟩ = ⟨0, false⟩ := by
    rcases h with h | ⟨s, h⟩
    · rw [h]
      rfl
    · generalize trimBlank piece = word at h
      cases h with
      | key _ hk => exact foldl_after_key hk _
      | @index key before word after index hk hb ha hi =>
        rw [List.foldl_append, foldl_after_key hk]
        change (before ++ (word ++ (after ++ [']']))).foldl Nesting.after ⟨1, false⟩ = _
        rw [List.foldl_append, foldl_after_blanks hb, List.foldl_append, foldl_after_index hi,
          List.foldl_append, foldl_after_blanks ha]
        rfl
  rw [hpiece, List.foldl_append, foldl_after_blanks hb, List.foldl_append, hword,
    foldl_after_blanks ha]

end IsPiece

/-! ### Reading pieces -/

/-- What is left of some pieces without the white space at their ends, where something is left. -/
def trimmed (pieces : List (List Char)) : List (List Char) :=
  (pieces.map trimBlank).filter (!·.isEmpty)

/-- A piece of blanks is left out. -/
theorem trimmed_cons_of_nil {piece : List Char} (h : trimBlank piece = [])
    (rest : List (List Char)) : trimmed (piece :: rest) = trimmed rest := by
  simp [trimmed, h]

/-- Any other piece stays without the blanks around it. -/
theorem trimmed_cons_of_ne_nil {piece : List Char} (h : trimBlank piece ≠ [])
    (rest : List (List Char)) : trimmed (piece :: rest) = trimBlank piece :: trimmed rest := by
  simp [trimmed, h]

/-- **Pieces are read as a path exactly if what is left of them spells its segments, one by
one.** -/
theorem readPieces_eq_ok_iff {pieces : List (List Char)} {path : Path} :
    readPieces pieces = .ok path ↔ List.Forall₂ Segment.Spells path (trimmed pieces) := by
  induction pieces generalizing path with
  | nil =>
    rw [readPieces, trimmed, List.map_nil, List.filter_nil, List.forall₂_nil_right_iff]
    exact ⟨fun h => (Except.ok.inj h).symm, fun h => congrArg Except.ok h.symm⟩
  | cons piece rest ih =>
    by_cases hnil : trimBlank piece = []
    · rw [readPieces, trimmed_cons_of_nil hnil, ← ih]
      simp [hnil]
    · rw [trimmed_cons_of_ne_nil hnil, List.forall₂_cons_right_iff]
      have hempty : (trimBlank piece).isEmpty = false := List.isEmpty_eq_false_iff.mpr hnil
      simp only [readPieces, hempty]
      constructor
      · intro h
        cases hread : Segment.read (trimBlank piece) with
        | error e => rw [hread] at h; cases h
        | ok s =>
          cases hrest : readPieces rest with
          | error e => rw [hread, hrest] at h; cases h
          | ok tail =>
            rw [hread, hrest] at h
            obtain rfl := Except.ok.inj h
            exact ⟨s, tail, (Segment.read_eq_ok_iff hnil).mp hread, ih.mp hrest, rfl⟩
      · rintro ⟨s, tail, hs, htail, rfl⟩
        rw [(Segment.read_eq_ok_iff hnil).mpr hs, ih.mpr htail]
        rfl

/-- What is related one by one has a partner each. -/
theorem exists_mem_of_forall₂ {α β : Type} {r : α → β → Prop} {as : List α} {bs : List β}
    (h : List.Forall₂ r as bs) : ∀ a ∈ as, ∃ b ∈ bs, r a b := by
  induction h with
  | nil => simp
  | @cons a b as bs hab _ ih =>
    refine List.forall_mem_cons.mpr ⟨⟨b, List.mem_cons_self, hab⟩, fun c hc => ?_⟩
    obtain ⟨d, hd, hcd⟩ := ih c hc
    exact ⟨d, List.mem_cons_of_mem _ hd, hcd⟩

/-- Pieces that are read are pieces of a path. -/
theorem isPiece_of_readPieces {pieces : List (List Char)} {path : Path}
    (h : readPieces pieces = .ok path) : ∀ piece ∈ pieces, IsPiece piece := by
  intro piece hm
  by_cases hnil : trimBlank piece = []
  · exact .inl hnil
  · have htrimmed : trimBlank piece ∈ trimmed pieces :=
      List.mem_filter.mpr ⟨List.mem_map_of_mem hm, by simpa using hnil⟩
    obtain ⟨s, -, hs⟩ := exists_mem_of_forall₂ (readPieces_eq_ok_iff.mp h).flip _ htrimmed
    exact .inr ⟨s, hs⟩

/-! ### Cutting at points -/

/-- Without a point in it, a text stays in one piece with what stands behind it. -/
theorem pieces_append {cs : List Char} (h : '.' ∉ cs) (n : Nesting) (rest : List Char) :
    pieces n (cs ++ rest) = (pieces (cs.foldl Nesting.after n) rest).modifyHead (cs ++ ·) := by
  induction cs generalizing n with
  | nil =>
    change pieces n rest = (pieces n rest).modifyHead id
    rw [List.modifyHead_id]
    rfl
  | cons c cs ih =>
    rw [List.mem_cons, not_or] at h
    have hc : ¬(decide (c = '.') && decide (n.depth = 0)) = true := by
      simp [Ne.symm h.1]
    rw [List.cons_append, pieces, if_neg hc, ih h.2, List.modifyHead_modifyHead]
    rfl

/-- There is always a piece. -/
theorem pieces_ne_nil (n : Nesting) (cs : List Char) : pieces n cs ≠ [] := by
  induction cs generalizing n with
  | nil => simp [pieces]
  | cons c cs ih =>
    rw [pieces]
    split
    · simp
    · simpa using ih (n.after c)

/-- The pieces of a text with points between them are the text. -/
theorem intercalate_pieces (n : Nesting) (cs : List Char) :
    ['.'].intercalate (pieces n cs) = cs := by
  induction cs generalizing n with
  | nil => rfl
  | cons c cs ih =>
    rw [pieces]
    split
    · rename_i hcut
      simp only [Bool.and_eq_true, decide_eq_true_eq] at hcut
      obtain ⟨piece, rest, hpieces⟩ := List.exists_cons_of_ne_nil (pieces_ne_nil n cs)
      rw [hpieces, List.intercalate_cons_cons, ← hpieces, ih, hcut.1]
      rfl
    · obtain ⟨piece, rest, hpieces⟩ := List.exists_cons_of_ne_nil (pieces_ne_nil (n.after c) cs)
      have hrest := ih (n.after c)
      rw [hpieces] at hrest ⊢
      cases rest with
      | nil => simpa using hrest
      | cons next rest =>
        rw [List.intercalate_cons_cons] at hrest
        rw [List.modifyHead_cons, List.intercalate_cons_cons, ← hrest]
        rfl

/-- **Pieces that can be read are cut out of the text that is made of them.** -/
theorem pieces_intercalate {ps : List (List Char)} (hne : ps ≠ []) (h : ∀ p ∈ ps, IsPiece p) :
    pieces ⟨0, false⟩ (['.'].intercalate ps) = ps := by
  induction ps with
  | nil => exact absurd rfl hne
  | cons p rest ih =>
    obtain ⟨hp, hrest⟩ := List.forall_mem_cons.mp h
    cases rest with
    | nil =>
      -- the last piece has nothing behind it, not even a point
      have hcut := pieces_append hp.point_notMem ⟨0, false⟩ []
      rw [List.append_nil, hp.foldl_after] at hcut
      rw [List.intercalate_singleton, hcut]
      simp [pieces]
    | cons q rest =>
      rw [List.intercalate_cons_cons, List.append_assoc, pieces_append hp.point_notMem,
        hp.foldl_after, List.cons_append, List.nil_append, pieces, if_pos (by decide),
        ih (by simp) hrest]
      simp

/-- **Both ways of cutting a text give the same pieces**, if the pieces of one of them can be
read. -/
theorem pieces_eq_splitOn {cs : List Char}
    (h : (∀ p ∈ pieces ⟨0, false⟩ cs, IsPiece p) ∨ ∀ p ∈ cs.splitOn '.', IsPiece p) :
    pieces ⟨0, false⟩ cs = cs.splitOn '.' := by
  rcases h with h | h
  · have hsplit := List.splitOn_intercalate '.' (fun p hp => (h p hp).point_notMem)
      (pieces_ne_nil ⟨0, false⟩ cs)
    rw [intercalate_pieces] at hsplit
    exact hsplit.symm
  · have hpieces := pieces_intercalate (List.splitOn_ne_nil '.' cs) h
    rwa [List.intercalate_splitOn] at hpieces

/-! ### Reading a whole text -/

section Read

variable {text : String} {path : Path}

/-- A text is read as a path if its pieces between dots are. -/
theorem read_eq_ok_iff_readPieces :
    Path.read text = .ok path ↔ readPieces (text.toList.splitOn '.') = .ok path := by
  have hread : Path.read text = .ok path ↔
      readPieces (pieces ⟨0, false⟩ text.toList) = .ok path := by
    rw [Path.read]
    cases readPieces (pieces ⟨0, false⟩ text.toList) <;> simp
  rw [hread]
  constructor
  · intro h
    rwa [← pieces_eq_splitOn (.inl (isPiece_of_readPieces h))]
  · intro h
    rwa [pieces_eq_splitOn (.inr (isPiece_of_readPieces h))]

/-- The pieces of a text at all of its points, trimmed, as far as something is left of them. -/
def words (text : String) : List (List Char) := trimmed (text.toList.splitOn '.')

/-- **A text is read as a path exactly if its words spell the segments of the path, one by one.** -/
theorem read_eq_ok_iff :
    Path.read text = .ok path ↔ List.Forall₂ Segment.Spells path (words text) :=
  read_eq_ok_iff_readPieces.trans readPieces_eq_ok_iff

/-- The words of two texts with a point between them are those of the two texts. -/
theorem words_append (s t : String) : words (s ++ "." ++ t) = words s ++ words t := by
  have htext : (s ++ "." ++ t).toList = s.toList ++ '.' :: t.toList := by simp
  rw [words, htext, List.splitOn_append_cons_self, trimmed, List.map_append, List.filter_append]
  rfl

/-- **Two paths with a point between them are read as one path.** -/
theorem read_append {s t : String} {p q : Path} (hs : Path.read s = .ok p)
    (ht : Path.read t = .ok q) : Path.read (s ++ "." ++ t) = .ok (p ++ q) := by
  rw [read_eq_ok_iff] at hs ht ⊢
  rw [words_append]
  exact List.rel_append hs ht

/-- A text that is no path is named in the error. -/
theorem path_eq_of_read_eq_error {e : PathError} (h : Path.read text = .error e) :
    e.path = text := by
  rw [Path.read] at h
  split at h
  · cases h
  · rw [← Except.error.inj h]

end Read

/-! ### Brackets -/

/-- What stands somewhere in a text, without a point in it, stands at the end of what is a piece if
the text ends there. -/
theorem exists_append_mem_splitOn {mid : List Char} (h : '.' ∉ mid) (front : List Char) :
    ∃ start, start ++ mid ∈ (front ++ mid).splitOn '.' := by
  induction front with
  | nil => exact ⟨[], by rw [List.nil_append, List.splitOn_eq_singleton h]; simp⟩
  | cons c front ih =>
    obtain ⟨start, hstart⟩ := ih
    rw [List.cons_append, List.splitOn_cons_eq_if_modifyHead]
    split
    · exact ⟨start, List.mem_cons_of_mem _ hstart⟩
    · generalize (front ++ mid).splitOn '.' = ps at hstart
      cases ps with
      | nil => cases hstart
      | cons p ps =>
        rcases List.mem_cons.mp hstart with rfl | hstart
        · exact ⟨c :: start, List.mem_cons_self⟩
        · exact ⟨start, List.mem_cons_of_mem _ hstart⟩

/-- Every place in a text stands in a piece, which goes on up to the next point. -/
theorem exists_mem_splitOn (front : List Char) {mid rest : List Char} (h : '.' ∉ mid)
    (hrest : rest = [] ∨ ∃ tail, rest = '.' :: tail) :
    ∃ start, start ++ mid ∈ (front ++ (mid ++ rest)).splitOn '.' := by
  obtain ⟨start, hstart⟩ := exists_append_mem_splitOn h front
  rcases hrest with rfl | ⟨tail, rfl⟩
  · exact ⟨start, by rwa [List.append_nil]⟩
  · refine ⟨start, ?_⟩
    rw [← List.append_assoc, List.splitOn_append_cons_self]
    exact List.mem_append_left _ hstart

/-- **A piece that can be read opens one bracket at most**, and closes it. -/
theorem IsPiece.bracket {start tail : List Char} (h : IsPiece (start ++ '[' :: tail)) :
    '[' ∉ tail ∧ ']' ∈ tail := by
  have hblank : ∀ {blanks : List Char}, IsBlanks blanks → '[' ∉ blanks :=
    fun hs hm => ne_of_isBlank (hs '[' hm) rfl rfl
  have hkey : ∀ {key : List Char}, (∀ c ∈ key, isKeyChar c = true) → '[' ∉ key :=
    fun hk hm => ne_of_isKeyChar (hk '[' hm) rfl rfl
  obtain ⟨before, after, hb, ha, hpiece⟩ := exists_trimBlank (start ++ '[' :: tail)
  have hmem : '[' ∈ before ++ (trimBlank (start ++ '[' :: tail) ++ after) := by
    rw [← hpiece]
    simp
  rw [List.mem_append, List.mem_append] at hmem
  have hword := (hmem.resolve_left (hblank hb)).resolve_right (hblank ha)
  rcases h with h | ⟨s, h⟩
  · rw [h] at hword
    cases hword
  · generalize trimBlank (start ++ '[' :: tail) = word at h hpiece hword
    cases h with
    | key _ hk => exact absurd hword (hkey hk)
    | @index key left word right index hk hl hr hi =>
      have hopen : '[' ∉ before ++ key := by
        rw [List.mem_append, not_or]
        exact ⟨hblank hb, hkey hk⟩
      have hrest : '[' ∉ left ++ (word ++ (right ++ ']' :: after)) := by
        simp only [List.mem_append, List.mem_cons, not_or]
        exact ⟨hblank hl, hi.notMem rfl (by decide), hblank hr, by decide, hblank ha⟩
      -- the one opening bracket of the piece is that of the spelling
      have hsame : start ++ '[' :: tail =
          (before ++ key) ++ '[' :: (left ++ (word ++ (right ++ ']' :: after))) := by
        rw [hpiece]
        simp
      obtain ⟨-, -, rfl⟩ := (List.append_cons_inj_of_notMem hopen hrest).mp hsame.symm
      exact ⟨hrest, by simp⟩

/-- **Between two opening brackets of a path there are a closing bracket and a point.** -/
theorem brackets_apart {text : String} {path : Path} (h : Path.read text = .ok path)
    {before inside after : List Char}
    (htext : text.toList = before ++ '[' :: (inside ++ '[' :: after)) :
    ']' ∈ inside ∧ '.' ∈ inside := by
  have hpieces := isPiece_of_readPieces (read_eq_ok_iff_readPieces.mp h)
  rw [htext] at hpieces
  -- what stands between the first bracket and the next point belongs to the piece of the bracket
  have htail : ∀ mid rest : List Char, inside ++ '[' :: after = mid ++ rest → '.' ∉ mid →
      (rest = [] ∨ ∃ tail, rest = '.' :: tail) → '[' ∉ mid ∧ ']' ∈ mid := by
    intro mid rest hmid hpoint hrest
    have hopen : '.' ∉ '[' :: mid := by
      rw [List.mem_cons, not_or]
      exact ⟨by decide, hpoint⟩
    obtain ⟨start, hstart⟩ := exists_mem_splitOn before hopen hrest
    rw [List.cons_append, ← hmid] at hstart
    exact (hpieces _ hstart).bracket
  have hpoint : '.' ∈ inside := by
    by_contra hnone
    by_cases hafter : '.' ∈ after
    · obtain ⟨mid, rest, rfl, hmid⟩ := List.eq_append_cons_of_mem hafter
      have hbracket := (htail (inside ++ '[' :: mid) ('.' :: rest) (by simp)
        (by simp [hnone, hmid]) (.inr ⟨rest, rfl⟩)).1
      exact hbracket (by simp)
    · have hbracket := (htail (inside ++ '[' :: after) [] (by simp)
        (by simp [hnone, hafter]) (.inl rfl)).1
      exact hbracket (by simp)
  obtain ⟨mid, rest, rfl, hmid⟩ := List.eq_append_cons_of_mem hpoint
  have hclose := (htail mid ('.' :: (rest ++ '[' :: after)) (by simp) hmid
    (.inr ⟨_, rfl⟩)).2
  exact ⟨List.mem_append_left _ hclose, hpoint⟩

end Path

/-! ### Paths are read exactly -/

/-- **Paths are read exactly by their grammar.** A text is read as a path if what stands between its
points, without white space around it and as far as there is anything left, spells the segments of
the path in their order; and only then. Keeping account of brackets and quotes makes no difference
to this. A bracket that is opened before the last one is closed, or behind another one without a
point between them, is always refused, and whatever is refused is named in the error. -/
theorem paths_are_read_exactly (text : String) :
    (∀ path, Path.read text = .ok path ↔
        List.Forall₂ Segment.Spells path (Path.words text)) ∧
      (∀ path, Path.read text = .ok path ↔
        Path.readPieces (text.toList.splitOn '.') = .ok path) ∧
      (∀ before inside after, text.toList = before ++ '[' :: (inside ++ '[' :: after) →
        ']' ∉ inside ∨ '.' ∉ inside → ∃ fault, Path.read text = .error ⟨text, fault⟩) ∧
      ∀ e, Path.read text = .error e → e.path = text := by
  refine ⟨fun _ => Path.read_eq_ok_iff, fun _ => Path.read_eq_ok_iff_readPieces,
    fun before inside after htext hinside => ?_, fun _ => Path.path_eq_of_read_eq_error⟩
  cases hread : Path.read text with
  | ok path =>
    obtain ⟨hclose, hpoint⟩ := Path.brackets_apart hread htext
    rcases hinside with hinside | hinside
    · exact absurd hclose hinside
    · exact absurd hpoint hinside
  | error e =>
    obtain rfl := Path.path_eq_of_read_eq_error hread
    exact ⟨e.fault, rfl⟩

/-- White space, a piece of which nothing is left and leading zeros are read; a bracket in the
brackets that are still open is refused, although there is a point before it. -/
theorem bracket_in_open_brackets_is_refused :
    Path.read " a[ \"k-1\" ]\t. .[007]" =
        .ok [⟨"a", some (.key "k-1")⟩, ⟨"", some (.position 7)⟩] ∧
      ∃ fault, Path.read "a[0].b[c.[1]]" = .error ⟨"a[0].b[c.[1]]", fault⟩ := by
  have hread : Path.read " a[ \"k-1\" ]\t. .[007]" =
      .ok [⟨"a", some (.key "k-1")⟩, ⟨"", some (.position 7)⟩] := by decide
  obtain ⟨-, -, hrefused, -⟩ := paths_are_read_exactly "a[0].b[c.[1]]"
  have htext : "a[0].b[c.[1]]".toList =
      "a[0].b".toList ++ '[' :: ("c.".toList ++ '[' :: "1]]".toList) := by decide
  exact ⟨hread, hrefused _ _ _ htext (.inl (by decide))⟩

end Criteria
