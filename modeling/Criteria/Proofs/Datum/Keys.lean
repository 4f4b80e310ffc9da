import Criteria.Json.Reader
import Criteria.Proofs.Datum.Interchange
import Mathlib.Tactic.SplitIfs

/-!
# Keys of objects

Data and JSON values are made of lists of fields, and nothing in their types keeps the keys in
order. What makes them does: the reader of JSON texts sets every key in the fields that it has read
so far, and the conversions change values only. So **the keys of what a host hands over as a text
ascend, at any depth** (`Criteria.Json.keysAscend_of_readWithin?`,
`Criteria.Datum.keysAscend_ofJson`), and functions receive them in the same order
(`Criteria.Datum.KeysAscend.toDatum_ofDatum`).

The reader is followed along its two runs. The tokens of a text hold no objects at all, for scalars
are words (`Criteria.Json.Scan.KeysAscend`). A reading has ascending keys in all that it holds,
complete or not (`Criteria.Json.Reading.KeysAscend`), and each token keeps this.
-/

namespace Criteria

/-! ### Runs that may fail -/

/-- What each step of a run keeps, the run keeps. -/
theorem invariant_foldlM {α β : Type} {step : β → α → Option β} {P : β → Prop} {xs : List α}
    (hstep : ∀ x ∈ xs, ∀ s s', P s → step s x = some s' → P s') {s s' : β} (hs : P s)
    (h : xs.foldlM step s = some s') : P s' := by
  induction xs generalizing s with
  | nil => rwa [← Option.some.inj h]
  | cons x rest ih =>
    rw [List.foldlM_cons] at h
    obtain ⟨next, hnext, hrest⟩ := Option.bind_eq_some_iff.mp h
    exact ih (fun y hy => hstep y (List.mem_cons_of_mem x hy))
      (hstep x List.mem_cons_self s next hs hnext) hrest

/-! ### JSON values -/

namespace Json

/-- A JSON value in which **the keys of all objects ascend**, at any depth. -/
inductive KeysAscend : Json → Prop
  | null : KeysAscend .null
  | bool (b : Bool) : KeysAscend (.bool b)
  | integer (n : Int) : KeysAscend (.integer n)
  | float (x : Binary64) (finite : x.isFinite = true) : KeysAscend (.float x finite)
  | string (s : String) : KeysAscend (.string s)
  | array {items : List Json} (h : ∀ item ∈ items, KeysAscend item) : KeysAscend (.array items)
  | object {fields : List (String × Json)} (keys : Fields.KeysAscend fields)
      (values : ∀ field ∈ fields, KeysAscend field.2) : KeysAscend (.object fields)

/-! ### Tokens -/

/-- A token with **ascending keys** in its scalar. -/
def Token.KeysAscend : Token → Prop
  | .scalar j => j.KeysAscend
  | _ => True

section Scanning

variable {rounding : Rounding}

/-- A number is no object. -/
theorem keysAscend_of_number? {cs : List Char} {j : Json} (h : number? rounding cs = some j) :
    j.KeysAscend := by
  have hparts : ∀ {b : Bool} {n : Int} {x : Binary64},
      (if b = true then some (integer n)
        else if h : x.isFinite = true then some (float x h) else none) = some j → j.KeysAscend := by
    intro b n x hj
    split_ifs at hj <;> cases hj
    · exact .integer n
    · exact .float x ‹_›
  cases hread : Numeral.Written.read? cs with
  | none => simp [number?, hread] at h
  | some w =>
    simp only [number?, hread, Option.ite_none_left_eq_some] at h
    exact hparts h.2

/-- A word is no object. -/
theorem keysAscend_of_word? {cs : List Char} {j : Json} (h : word? rounding cs = some j) :
    j.KeysAscend := by
  rw [word?] at h
  split_ifs at h
  · exact Option.some.inj h ▸ .null
  · exact Option.some.inj h ▸ .bool true
  · exact Option.some.inj h ▸ .bool false
  · exact keysAscend_of_number? h

/-- A scan whose tokens have ascending keys. -/
def Scan.KeysAscend (scan : Scan) : Prop := ∀ t ∈ scan.tokens, t.KeysAscend

namespace Scan

/-- The first character of a token takes up a mark of punctuation at most. -/
theorem keysAscend_of_begin {tokens : List Token} {c : Char} {scan : Scan}
    (ht : ∀ t ∈ tokens, t.KeysAscend) (h : begin tokens c = some scan) : scan.KeysAscend := by
  have hmark : ∀ t : Token, t.KeysAscend → ∀ u ∈ t :: tokens, u.KeysAscend :=
    fun t hk => List.forall_mem_cons.mpr ⟨hk, ht⟩
  rw [begin] at h
  split_ifs at h <;> cases h
  all_goals first | exact ht | exact hmark _ trivial

/-- One more character keeps the keys of all tokens ascending. -/
theorem KeysAscend.step {scan scan' : Scan} {c : Char} (hk : scan.KeysAscend)
    (h : scan.step rounding c = some scan') : scan'.KeysAscend := by
  obtain ⟨tokens, mode⟩ := scan
  -- only the ends of a word and of a text take up a token; all else changes the mode
  cases mode with
  | between => exact keysAscend_of_begin hk h
  | word collected =>
    simp only [Scan.step] at h
    split at h
    · cases h
      exact hk
    · split at h
      · rename_i j hj
        have hword : Token.KeysAscend (.scalar j) := keysAscend_of_word? hj
        exact keysAscend_of_begin (List.forall_mem_cons.mpr ⟨hword, hk⟩) h
      · cases h
  | text collected =>
    simp only [Scan.step] at h
    split_ifs at h <;> cases h
    · exact List.forall_mem_cons.mpr ⟨trivial, hk⟩
    · exact hk
    · exact hk
  | escape collected =>
    simp only [Scan.step] at h
    split at h
    · cases h
      exact hk
    · obtain ⟨d, -, rfl⟩ := Option.map_eq_some_iff.mp h
      exact hk
  | hex collected high count code =>
    simp only [Scan.step] at h
    split at h
    · cases h
    · split at h
      · obtain ⟨mode, -, rfl⟩ := Option.map_eq_some_iff.mp h
        exact hk
      · cases h
        exact hk
  | lowSlash collected high =>
    simp only [Scan.step] at h
    split_ifs at h <;> cases h
    exact hk
  | lowMark collected high =>
    simp only [Scan.step] at h
    split_ifs at h <;> cases h
    exact hk

/-- The end of the text takes up the last word. -/
theorem KeysAscend.finish {scan : Scan} {tokens : List Token} (hk : scan.KeysAscend)
    (h : scan.finish rounding = some tokens) : ∀ t ∈ tokens, t.KeysAscend := by
  obtain ⟨before, mode⟩ := scan
  cases mode with
  | between =>
    cases h
    exact fun t ht => hk t (List.mem_reverse.mp ht)
  | word collected =>
    obtain ⟨j, hj, rfl⟩ := Option.map_eq_some_iff.mp h
    have hall : ∀ t ∈ Token.scalar j :: before, t.KeysAscend :=
      List.forall_mem_cons.mpr ⟨keysAscend_of_word? hj, hk⟩
    exact fun t ht => hall t (List.mem_reverse.mp ht)
  | text | escape | hex | lowSlash | lowMark => cases h

end Scan

/-- **The tokens of a text** have ascending keys. -/
theorem keysAscend_of_tokens? {cs : List Char} {tokens : List Token}
    (h : tokens? rounding cs = some tokens) : ∀ t ∈ tokens, t.KeysAscend := by
  obtain ⟨scan, hscan, hfinish⟩ := Option.bind_eq_some_iff.mp h
  have hstart : Scan.start.KeysAscend := List.forall_mem_nil Token.KeysAscend
  have hk : scan.KeysAscend := invariant_foldlM (fun c _ s s' hs => hs.step) hstart hscan
  exact hk.finish hfinish

end Scanning

/-! ### Readings -/

/-- A container with **ascending keys** in what has been read of it. -/
def Container.KeysAscend : Container → Prop
  | .array items => ∀ item ∈ items, item.KeysAscend
  | .object fields _ => Json.KeysAscend (.object fields)

/-- What may come next, with **ascending keys** in what has been read for it. -/
def Expected.KeysAscend : Expected → Prop
  | .keyOrEnd fields | .key fields | .colon fields _ => Json.KeysAscend (.object fields)
  | .nothing j => j.KeysAscend
  | .value | .itemOrEnd | .separator => True

/-- A reading with **ascending keys** in all that it holds. -/
structure Reading.KeysAscend (r : Reading) : Prop where
  stack : ∀ c ∈ r.stack, c.KeysAscend
  expected : r.expected.KeysAscend

namespace Reading

/-- A field that is set next to others with ascending keys. -/
theorem keysAscend_object_insert {fields : Fields Json} {j : Json}
    (hf : Json.KeysAscend (.object fields)) (key : String) (hj : j.KeysAscend) :
    Json.KeysAscend (.object (fields.insert key j)) := by
  cases hf with
  | object keys values =>
    refine .object (keys.insert key j) fun field hm => ?_
    rcases Fields.eq_or_mem_of_mem_insert hm with rfl | hm
    · exact hj
    · exact values field hm

/-- A complete value goes into the innermost container. -/
theorem keysAscend_close {stack : List Container} (hs : ∀ c ∈ stack, c.KeysAscend) {j : Json}
    (hj : j.KeysAscend) : (close stack j).KeysAscend := by
  cases stack with
  | nil => exact ⟨hs, hj⟩
  | cons c rest =>
    obtain ⟨hc, hrest⟩ := List.forall_mem_cons.mp hs
    cases c with
    | array items =>
      have hitems : Container.KeysAscend (.array (j :: items)) := List.forall_mem_cons.mpr ⟨hj, hc⟩
      exact ⟨List.forall_mem_cons.mpr ⟨hitems, hrest⟩, trivial⟩
    | object fields key =>
      exact ⟨List.forall_mem_cons.mpr ⟨keysAscend_object_insert hc key hj, hrest⟩, trivial⟩

/-- The fields of an object that has just begun. -/
theorem keysAscend_object_nil : Json.KeysAscend (.object []) :=
  .object Fields.keysAscend_nil (List.forall_mem_nil _)

/-- The first token of a value begins a container or is the whole value. -/
theorem keysAscend_of_open? {limit : Nat} {stack : List Container} {t : Token} {r : Reading}
    (hs : ∀ c ∈ stack, c.KeysAscend) (ht : t.KeysAscend) (h : open? limit stack t = some r) :
    r.KeysAscend := by
  cases t with
  | text s =>
    cases h
    exact keysAscend_close hs (.string s)
  | scalar j =>
    cases h
    exact keysAscend_close hs ht
  | beginArray =>
    rw [open?] at h
    split_ifs at h
    cases h
    have hempty : Container.KeysAscend (.array []) := List.forall_mem_nil Json.KeysAscend
    exact ⟨List.forall_mem_cons.mpr ⟨hempty, hs⟩, trivial⟩
  | beginObject =>
    rw [open?] at h
    split_ifs at h
    cases h
    exact ⟨hs, keysAscend_object_nil⟩
  | endArray | endObject | comma | colon => cases h

/-- **One more token keeps the keys ascending** in all that a reading holds. -/
theorem KeysAscend.step {limit : Nat} {r r' : Reading} {t : Token} (hr : r.KeysAscend)
    (ht : t.KeysAscend) (h : r.step limit t = some r') : r'.KeysAscend := by
  obtain ⟨stack, expected⟩ := r
  obtain ⟨hs, he⟩ := hr
  have hopen : open? limit stack t = some r' → r'.KeysAscend := keysAscend_of_open? hs ht
  cases expected with
  | value => exact hopen h
  | itemOrEnd =>
    cases t with
    | endArray =>
      cases h
      exact keysAscend_close (fun c hc => hs c (List.mem_of_mem_drop hc))
        (.array (List.forall_mem_nil Json.KeysAscend))
    | _ => exact hopen h
  | keyOrEnd fields =>
    cases t with
    | endObject =>
      cases h
      exact keysAscend_close hs he
    | text key =>
      cases h
      exact ⟨hs, he⟩
    | _ => cases h
  | key fields =>
    cases t with
    | text key =>
      cases h
      exact ⟨hs, he⟩
    | _ => cases h
  | colon fields key =>
    cases t with
    | colon =>
      cases h
      exact ⟨List.forall_mem_cons.mpr ⟨he, hs⟩, trivial⟩
    | _ => cases h
  | separator =>
    cases stack with
    | nil => cases t <;> cases h
    | cons c rest =>
      obtain ⟨hc, hrest⟩ := List.forall_mem_cons.mp hs
      cases c with
      | array items =>
        cases t with
        | comma =>
          cases h
          exact ⟨hs, trivial⟩
        | endArray =>
          cases h
          exact keysAscend_close hrest (.array fun item hm => hc item (List.mem_reverse.mp hm))
        | _ => cases h
      | object fields key =>
        cases t with
        | comma =>
          cases h
          exact ⟨hrest, hc⟩
        | endObject =>
          cases h
          exact keysAscend_close hrest hc
        | _ => cases h
  | nothing j => cases t <;> cases h

end Reading

/-- **The keys of what is read from a text ascend**, at any depth, whatever order the text has them
in and however often it repeats them. -/
theorem keysAscend_of_readWithin? {rounding : Rounding} {limit : Nat} {text : String} {j : Json}
    (h : readWithin? rounding limit text = some j) : j.KeysAscend := by
  obtain ⟨tokens, htokens, h⟩ := Option.bind_eq_some_iff.mp h
  obtain ⟨⟨stack, expected⟩, hrun, hresult⟩ := Option.bind_eq_some_iff.mp h
  have hkeys := keysAscend_of_tokens? htokens
  have hstart : Reading.start.KeysAscend := ⟨List.forall_mem_nil _, trivial⟩
  have hr := invariant_foldlM (fun t ht r r' hr => hr.step (hkeys t ht)) hstart hrun
  cases expected with
  | nothing j =>
    cases hresult
    exact hr.expected
  | _ => cases hresult

end Json

/-! ### Data -/

namespace Datum

/-- Data in which **the keys of all objects ascend**, at any depth. -/
inductive KeysAscend : Datum → Prop
  | nil : KeysAscend .nil
  | bool (b : Bool) : KeysAscend (.bool b)
  | integer (n : Int64) : KeysAscend (.integer n)
  | float (x : Binary64) : KeysAscend (.float x)
  | string (s : String) : KeysAscend (.string s)
  | array {items : List Datum} (h : ∀ item ∈ items, KeysAscend item) : KeysAscend (.array items)
  | object {fields : List (String × Datum)} (keys : Fields.KeysAscend fields)
      (values : ∀ field ∈ fields, KeysAscend field.2) : KeysAscend (.object fields)

/-- Data has the keys of the JSON value that it comes from. -/
theorem keysAscend_ofJson {j : Json} (h : j.KeysAscend) : (ofJson j).KeysAscend := by
  induction h with
  | null => exact .nil
  | bool b => exact .bool b
  | integer n =>
    rw [ofJson, ofJsonInteger]
    split
    · exact .integer _
    · exact .float _
  | float x => exact .float x
  | string s => exact .string s
  | array _ ih =>
    rw [ofJson, ofJsonItems_eq_map]
    exact .array (List.forall_mem_map.mpr ih)
  | object keys _ ih =>
    rw [ofJson, ofJsonFields_eq_map]
    exact .object (Fields.keysAscend_map_iff.mpr keys) (List.forall_mem_map.mpr ih)

/-- Other leaves keep the keys ascending, if they are data with ascending keys themselves. -/
theorem KeysAscend.mapLeaves {f : Datum → Datum} {d : Datum} (h : d.KeysAscend)
    (hf : ∀ d : Datum, d.KeysAscend → (f d).KeysAscend) : (d.mapLeaves f).KeysAscend := by
  induction h with
  | nil | bool | integer | float | string =>
    rw [Datum.mapLeaves]
    exact hf _ (by constructor)
  | array _ ih =>
    rw [Datum.mapLeaves]
    exact .array (List.forall_mem_map.mpr ih)
  | object keys _ ih =>
    rw [Datum.mapLeaves]
    exact .object (Fields.keysAscend_map_iff.mpr keys) (List.forall_mem_map.mpr ih)

/-- **Evaluation keeps the keys of data ascending**: what functions receive of it has the same keys
in the same order. -/
theorem KeysAscend.toDatum_ofDatum {d : Datum} (h : d.KeysAscend) :
    (Value.ofDatum d).toDatum.KeysAscend := by
  rw [Value.toDatum_ofDatum]
  refine h.mapLeaves fun leaf hleaf => ?_
  cases leaf with
  | integer n => exact .float _
  | _ => exact hleaf

end Datum

end Criteria
