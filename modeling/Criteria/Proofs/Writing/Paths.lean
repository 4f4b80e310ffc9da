import Criteria.Proofs.Path.Grammar

/-!
# Writing paths down

The text of a path of well-formed segments is measured to its end by the lexer
(`Criteria.Lexeme.pathLength?_text`) and reads back as the path (`Criteria.Path.read_text`).

Both follow the characters of the segments (`Criteria.Segment.chars`): the key, and an index between
brackets. These lead the lexer out of all brackets again, and they are a spelling of the segment
(`Criteria.Segment.spells_chars`) without any white space that could be trimmed. Conversely, what
has a spelling is well-formed (`Criteria.Segment.Spells.isWellFormed`), and so is every path that is
read from a text.
-/

namespace Criteria

/-! ### The characters of a segment -/

/-- What stands behind the key of a segment. -/
def Index.chars : Option Index → List Char
  | none => []
  | some (.key field) => '[' :: ('"' :: (field.toList ++ ['"']) ++ [']'])
  | some (.position n) => '[' :: (Nat.toDigits 10 n ++ [']'])

/-- The characters of a segment. -/
def Segment.chars (s : Segment) : List Char := s.key.toList ++ Index.chars s.index

/-- The characters of a segment. -/
theorem Segment.toList_text (s : Segment) : s.text.toList = s.chars := by
  obtain ⟨key, index⟩ := s
  cases index with
  | none => simp [Segment.text, Segment.chars, Index.chars]
  | some index => cases index <;> simp [Segment.text, Segment.chars, Index.chars]

/-- The text of a path, segment by segment. -/
theorem Path.toList_text_cons (s t : Segment) (rest : Path) :
    (Path.text (s :: t :: rest)).toList = s.chars ++ '.' :: (Path.text (t :: rest)).toList := by
  simp [Path.text, String.intercalate_cons_cons, Segment.toList_text]

theorem Path.toList_text_singleton (s : Segment) : (Path.text [s]).toList = s.chars := by
  simp [Path.text, Segment.toList_text]

/-- Characters of keys may stand in paths. -/
theorem isPathChar_of_isKeyChar {c : Char} (h : isKeyChar c = true) :
    Lexeme.isPathChar c = true := by
  simp only [isKeyChar, Lexeme.isPathChar, isIdentifierChar, Bool.or_eq_true] at h ⊢
  exact .inl h

/-- The digits of a number are digits. -/
theorem isDigit_of_mem_toDigits {c : Char} {n : Nat} (h : c ∈ Nat.toDigits 10 n) :
    isDigit c = true := by
  have hc : c.isDigit = true := Nat.isDigit_of_mem_toDigits (by decide) (by decide) h
  simpa [isDigit, Char.isDigit, Char.le_def] using hc

theorem ne_of_isDigit {c d : Char} (hc : isDigit c = true) (hd : isDigit d = false) : c ≠ d := by
  rintro rfl
  rw [hc] at hd
  exact absurd hd (by simp)

/-! ### Measuring -/

namespace Lexeme

/-- Some characters **lead** the measuring of a path from one sort of place to another. -/
def Leads (cs : List Char) (p q : PathPlace) : Prop :=
  ∀ rest, pathLength? p (cs ++ rest) = (pathLength? q rest).map (· + cs.length)

namespace Leads

variable {cs ds : List Char} {p q r : PathPlace}

theorem nil (p : PathPlace) : Leads [] p p := by
  intro rest
  cases h : pathLength? p rest <;> simp [h]

/-- Characters lead on from where those before them have led. -/
theorem append (h : Leads cs p q) (h' : Leads ds q r) : Leads (cs ++ ds) p r := by
  intro rest
  rw [List.append_assoc, h, h', Option.map_map, List.length_append]
  refine congrArg (Option.map · _) (funext fun n => ?_)
  change n + ds.length + cs.length = n + (cs.length + ds.length)
  omega

theorem cons {c : Char} (h : Leads [c] p q) (h' : Leads cs q r) : Leads (c :: cs) p r :=
  h.append h'

theorem pathChar {c : Char} (h : isPathChar c = true) : Leads [c] .outside .outside := by
  intro rest
  simp [pathLength?, h]

theorem openBracket : Leads ['['] .outside .index := by
  intro rest
  have h : isPathChar '[' = false := rfl
  simp [pathLength?, h]

theorem closeBracket : Leads [']'] .index .outside := by
  intro rest
  simp [pathLength?]

theorem openQuote : Leads ['"'] .index .quotes := by
  intro rest
  simp [pathLength?]

theorem closeQuote : Leads ['"'] .quotes .index := by
  intro rest
  simp [pathLength?]

theorem indexChar {c : Char} (hq : c ≠ '"') (hb : c ≠ ']') : Leads [c] .index .index := by
  intro rest
  simp [pathLength?, hq, hb]

theorem quotedChar {c : Char} (hq : c ≠ '"') : Leads [c] .quotes .quotes := by
  intro rest
  simp [pathLength?, hq]

/-- Characters that all stay at a place lead nowhere else. -/
theorem of_forall (h : ∀ c ∈ cs, Leads [c] p p) : Leads cs p p := by
  induction cs with
  | nil => exact nil p
  | cons c cs ih =>
    exact (h c List.mem_cons_self).cons (ih fun d hd => h d (List.mem_cons_of_mem _ hd))

end Leads

/-- A segment that can be written leads out of its own brackets and quotes. -/
theorem leads_chars {s : Segment} (h : s.IsWellFormed) : Leads s.chars .outside .outside := by
  have hkey : Leads s.key.toList .outside .outside :=
    .of_forall fun c hc => .pathChar (isPathChar_of_isKeyChar (h.key c hc))
  refine hkey.append ?_
  cases hi : s.index with
  | none => exact .nil _
  | some index =>
    cases index with
    | key field =>
      have hfield : Leads field.toList .quotes .quotes := .of_forall fun c hc =>
        .quotedChar (ne_of_isKeyChar ((h.field field hi).2 c hc) rfl)
      exact .cons .openBracket
        (.append (.cons .openQuote (hfield.append .closeQuote)) .closeBracket)
    | position n =>
      have hdigits : Leads (Nat.toDigits 10 n) .index .index := .of_forall fun c hc =>
        .indexChar (ne_of_isDigit (isDigit_of_mem_toDigits hc) rfl)
          (ne_of_isDigit (isDigit_of_mem_toDigits hc) rfl)
      exact .cons .openBracket (hdigits.append .closeBracket)

/-- **A path that can be written leads out of all its brackets and quotes.** -/
theorem leads_text {path : Path} (h : ∀ s ∈ path, s.IsWellFormed) :
    Leads (Path.text path).toList .outside .outside := by
  induction path with
  | nil => exact .nil _
  | cons s rest ih =>
    have hs := leads_chars (h s List.mem_cons_self)
    have hrest := ih fun t ht => h t (List.mem_cons_of_mem _ ht)
    cases rest with
    | nil => rwa [Path.toList_text_singleton]
    | cons t rest =>
      rw [Path.toList_text_cons]
      exact hs.append (.cons (.pathChar rfl) hrest)

/-- **The text of a path is measured to its end**, when a blank or nothing stands behind it. -/
theorem pathLength?_text {path : Path} (h : ∀ s ∈ path, s.IsWellFormed) {rest : List Char}
    (hr : EndsWord rest) :
    pathLength? .outside ((Path.text path).toList ++ rest) =
      some (Path.text path).toList.length := by
  -- neither a blank nor the end goes on with a path
  have hend : pathLength? .outside rest = some 0 := by
    cases rest with
    | nil => rfl
    | cons c rest =>
      have hb : isBlank c = true := hr c rfl
      have hpath : isPathChar c = false := by
        have hminus : c ≠ '-' := ne_of_isBlank hb rfl
        have hpoint : c ≠ '.' := ne_of_isBlank hb rfl
        simp [isPathChar, isIdentifierChar_of_isBlank hb, hminus, hpoint]
      have hbracket : c ≠ '[' := ne_of_isBlank hb rfl
      simp [pathLength?, hpath, hbracket]
  rw [leads_text h, hend]
  simp

/-- **A variable is read from its path.** -/
theorem read_variable {path : Path} (h : ∀ s ∈ path, s.IsWellFormed) {rest : List Char}
    (hr : EndsWord rest) (position : Nat) :
    read position ('$' :: (Path.text path).toList ++ rest) =
      ⟨.ok (.reference (Path.text path)), ('$' :: (Path.text path).toList).length⟩ := by
  rw [List.cons_append, read_eq_ofChar rfl]
  change ofVariable position ((Path.text path).toList ++ rest) = _
  simp [ofVariable, pathLength?_text h hr]

end Lexeme

/-! ### Reading back -/

/-- The value of the digits of a number is the number. -/
theorem digitsValue_toDigits (n : Nat) : digitsValue (Nat.toDigits 10 n) = n := by
  have hvalue := Nat.ofDigitChars_ten_toDigits (n := n)
  rwa [Nat.ofDigitChars_eq_foldl] at hvalue

namespace Segment

variable {s : Segment}

/-- **The characters of a well-formed segment spell it.** -/
theorem spells_chars (h : s.IsWellFormed) : s.Spells s.chars := by
  obtain ⟨key, index⟩ := s
  have hkey : String.ofList key.toList = key := String.ofList_toList
  cases index with
  | none =>
    have hne : key.toList ≠ [] := h.nonempty.resolve_right (by simp)
    have hspells := Spells.key hne h.key
    rw [hkey] at hspells
    simpa [chars, Index.chars] using hspells
  | some index =>
    -- between the brackets there is the index alone
    have hspells : ∀ {word : List Char}, index.Spells word →
        Spells ⟨key, some index⟩ (key.toList ++ '[' :: (word ++ [']'])) := by
      intro word hword
      have hbrackets := Spells.index h.key .nil .nil hword
      rwa [hkey] at hbrackets
    cases index with
    | key field =>
      have hfield := h.field field rfl
      have hword := Index.Spells.key hfield.1 hfield.2
      rw [String.ofList_toList] at hword
      exact hspells hword
    | position n =>
      have hbound : digitsValue (Nat.toDigits 10 n) < 0x10000000000000000 := by
        rw [digitsValue_toDigits]
        exact h.position n rfl
      have hword := Index.Spells.position Nat.toDigits_ne_nil
        (fun c hc => isDigit_of_mem_toDigits hc) hbound
      rw [digitsValue_toDigits] at hword
      exact hspells hword

/-- **What can be spelled is well-formed.** -/
theorem Spells.isWellFormed {word : List Char} (h : s.Spells word) : s.IsWellFormed := by
  cases h with
  | key hne hk => exact ⟨by simpa using hk, by simp, by simp, .inl (by simpa using hne)⟩
  | index hk hb ha hi =>
    refine ⟨by simpa using hk, fun field hf => ?_, fun n hn => ?_, .inr (by simp)⟩
    · cases hi with
      | key hne hfield =>
        obtain rfl := Index.key.inj (Option.some.inj hf)
        exact ⟨by simpa using hne, by simpa using hfield⟩
      | position _ _ _ => cases hf
    · cases hi with
      | key _ _ => cases hn
      | position _ _ hbound =>
        obtain rfl := Index.position.inj (Option.some.inj hn)
        exact hbound

/-- There is no white space among the characters of a segment. -/
theorem isBlank_of_mem_chars (h : s.IsWellFormed) : ∀ c ∈ s.chars, isBlank c = false := by
  intro c hc
  rcases List.mem_append.mp hc with hc | hc
  · exact isBlank_of_isKeyChar (h.key c hc)
  · cases hi : s.index with
    | none =>
      rw [hi] at hc
      exact absurd hc (by simp [Index.chars])
    | some index =>
      rw [hi] at hc
      cases index with
      | key field =>
        simp only [Index.chars, List.mem_cons, List.mem_append, List.not_mem_nil, or_false] at hc
        rcases hc with rfl | (rfl | hc | rfl) | rfl
        · rfl
        · rfl
        · exact isBlank_of_isKeyChar ((h.field field hi).2 c hc)
        · rfl
        · rfl
      | position n =>
        simp only [Index.chars, List.mem_cons, List.mem_append, List.not_mem_nil, or_false] at hc
        rcases hc with rfl | hc | rfl
        · rfl
        · exact isBlank_of_isDigit (isDigit_of_mem_toDigits hc)
        · rfl

/-- A segment is written with one character at least. -/
theorem Spells.ne_nil {word : List Char} (h : s.Spells word) : word ≠ [] := by
  cases h with
  | key hne _ => exact hne
  | index => simp

end Segment

namespace Path

/-- The text of a path has the characters of its segments, with points between them. -/
theorem toList_text (path : Path) :
    (Path.text path).toList = ['.'].intercalate (path.map Segment.chars) := by
  induction path with
  | nil => rfl
  | cons s rest ih =>
    cases rest with
    | nil => simp [toList_text_singleton]
    | cons t rest => simp [toList_text_cons, ih, List.intercalate_cons_cons]

/-- **The words of the text of a path are those of its segments.** -/
theorem words_text {path : Path} (h : ∀ s ∈ path, s.IsWellFormed) :
    words (Path.text path) = path.map Segment.chars := by
  have hblank : ∀ cs ∈ path.map Segment.chars, trimBlank cs = cs := by
    intro cs hcs
    obtain ⟨s, hs, rfl⟩ := List.mem_map.mp hcs
    exact trimBlank_eq_self (Segment.isBlank_of_mem_chars (h s hs))
  have hspells : ∀ cs ∈ path.map Segment.chars, ∃ s : Segment, s.Spells cs := by
    intro cs hcs
    obtain ⟨s, hs, rfl⟩ := List.mem_map.mp hcs
    exact ⟨s, Segment.spells_chars (h s hs)⟩
  cases path with
  | nil => rfl
  | cons s rest =>
    have hpoint : ∀ cs ∈ (s :: rest).map Segment.chars, '.' ∉ cs := fun cs hcs =>
      IsPiece.point_notMem (.inr (by rw [hblank cs hcs]; exact hspells cs hcs))
    rw [words, toList_text, List.splitOn_intercalate '.' hpoint (by simp), trimmed,
      List.map_congr_left hblank, List.map_id', List.filter_eq_self]
    intro cs hcs
    obtain ⟨t, ht⟩ := hspells cs hcs
    simpa using ht.ne_nil

/-- **A path of well-formed segments reads back from its text.** -/
theorem read_text {path : Path} (h : ∀ s ∈ path, s.IsWellFormed) :
    Path.read (Path.text path) = .ok path := by
  rw [read_eq_ok_iff, words_text h, List.forall₂_map_right_iff, List.forall₂_same]
  exact fun s hs => Segment.spells_chars (h s hs)

/-- Every segment that is read is well-formed. -/
theorem isWellFormed_of_read {text : String} {path : Path} (h : Path.read text = .ok path) :
    ∀ s ∈ path, s.IsWellFormed := by
  intro s hs
  obtain ⟨word, -, hword⟩ := exists_mem_of_forall₂ (read_eq_ok_iff.mp h) s hs
  exact hword.isWellFormed

end Path

end Criteria
