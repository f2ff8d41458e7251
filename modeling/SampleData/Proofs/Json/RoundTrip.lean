import SampleData.Proofs.Entries
import SampleData.Proofs.Json.Grammar

/-! # What was printed is read back

The reader undoes both printers: of a value without doubles whose whole numbers have 64 bits it gives back the value with
the fields of its objects in ascending order. It does so for every text of the grammar, whatever gaps the text has
between its tokens and whatever blanks follow.
-/
namespace SampleData.Json

theorem skipBlank_of_not_blank {c : Char} (h : isBlank c = false) (cs : List Char) :
    skipBlank (c :: cs) = c :: cs := by
  simp [skipBlank, h]

theorem skipBlank_append {g : List Char} (hg : Blanks g) (cs : List Char) : skipBlank (g ++ cs) = skipBlank cs :=
  List.dropWhile_append_of_pos hg

theorem skipBlank_close {g : List Char} (hg : Blanks g) {c : Char} (h : isBlank c = false) (rest : List Char) :
    skipBlank (g ++ c :: rest) = c :: rest := by
  rw [skipBlank_append hg, skipBlank_of_not_blank h]

/-- A number ends at a gap or at what stands behind the gap. -/
theorem EndsNumber.append {g rest : List Char} (hg : Blanks g) (h : EndsNumber rest) : EndsNumber (g ++ rest) := by
  cases g with
  | nil => exact h
  | cons b g =>
    rintro d ⟨⟩
    have hb := (List.forall_mem_cons.mp hg).1
    simp only [isBlank, Bool.or_eq_true, decide_eq_true_eq] at hb
    rcases hb with ((rfl | rfl) | rfl) | rfl <;> decide

theorem endsNumber_close {g : List Char} (hg : Blanks g) {c : Char} (hc : c ∈ [',', ']', '}']) (rest : List Char) :
    EndsNumber (g ++ c :: rest) := by
  refine .append hg ?_
  rintro d ⟨⟩
  simp only [List.mem_cons, List.not_mem_nil, or_false] at hc
  rcases hc with rfl | rfl | rfl <;> decide

theorem readChars_of_isEscape {c : Char} {cs : List Char} (h : IsEscape c cs) (rest : List Char) :
    readChars (cs ++ rest) = (readChars rest).map fun (s, r) => (c :: s, r) := by
  cases h with
  | plain hq hb hc =>
    rw [List.singleton_append, readChars.eq_def]
    split
    · next heq => cases heq
    · next heq => exact absurd (List.cons.inj heq).1 hq
    · next heq => exact absurd (List.cons.inj heq).1 hb
    · next heq => exact absurd (List.cons.inj heq).1 hb
    · next heq =>
      obtain ⟨rfl, rfl⟩ := List.cons.inj heq
      rw [if_neg fun h => h.elim hb (not_lt.mpr hc)]
  | @short e _ h =>
    have hu : e ≠ 'u' := by
      rintro rfl
      cases h
    rw [List.cons_append, List.singleton_append, readChars.eq_def]
    split
    · next heq => cases heq
    · next heq => exact absurd (List.cons.inj heq).1 (by decide)
    · next heq => exact absurd (List.cons.inj (List.cons.inj heq).2).1 hu
    · next heq =>
      obtain ⟨rfl, rfl⟩ := List.cons.inj (List.cons.inj heq).2
      rw [h]
    · next hne heq =>
      obtain ⟨rfl, rfl⟩ := List.cons.inj heq
      exact absurd rfl (hne e rest rfl)
  | @unit _ _ _ _ n h hn =>
    have h1 : ¬ (0xd800 ≤ n ∧ n < 0xdc00) := by omega
    have h2 : ¬ (0xdc00 ≤ n ∧ n < 0xe000) := by omega
    simp only [List.cons_append, List.nil_append]
    rw [readChars]
    simp only [h, h1, h2, if_false]

/-- A string is read up to its closing quote. -/
theorem readChars_of_isBody {s cs : List Char} (h : IsBody s cs) (rest : List Char) :
    readChars (cs ++ '"' :: rest) = some (s, rest) := by
  induction h with
  | nil => simp [readChars]
  | cons hc _ ih => rw [List.append_assoc, readChars_of_isEscape hc, ih, Option.map_some]

mutual

/-- The value with the fields of every object in ascending order, of two with one key the later one. -/
def sorted : Json → Json
  | .list items => .list (sortedItems items)
  | .object fields => .ofFields (sortedFields fields)
  | v => v

def sortedItems : List Json → List Json
  | [] => []
  | v :: vs => sorted v :: sortedItems vs

def sortedFields : List (String × Json) → List (String × Json)
  | [] => []
  | (k, v) :: fs => (k, sorted v) :: sortedFields fs

end

mutual

/-- A value without doubles, with at most `depth` lists and objects inside one another and whole numbers of 64 bits. -/
def isExact (depth : ℕ) : Json → Bool
  | .null | .bool _ | .str _ => true
  | .int n => decide (IsWord n)
  | .real _ => false
  | .list items =>
    match depth with
    | 0 => false
    | depth + 1 => areExact depth items
  | .object fields =>
    match depth with
    | 0 => false
    | depth + 1 => haveExact depth fields

def areExact (depth : ℕ) : List Json → Bool
  | [] => true
  | v :: vs => isExact depth v && areExact depth vs

def haveExact (depth : ℕ) : List (String × Json) → Bool
  | [] => true
  | (_, v) :: fs => isExact depth v && haveExact depth fs

end

theorem not_isBlank_of_isDigit {c : Char} (h : Text.isDigit c = true) : isBlank c = false := by
  rw [Bool.eq_false_iff]
  intro hb
  simp only [isBlank, Bool.or_eq_true, decide_eq_true_eq] at hb
  rcases hb with ((rfl | rfl) | rfl) | rfl <;> cases h

/-- No text of a value starts with a blank or a closing bracket. -/
theorem Spells.eq_cons {depth : ℕ} {v : Json} {cs : List Char} (h : Spells Blanks v cs) (hv : isExact depth v = true) :
    ∃ c ds, cs = c :: ds ∧ isBlank c = false ∧ c ≠ ']' := by
  cases h with
  | null => exact ⟨_, _, rfl, rfl, by decide⟩
  | yes => exact ⟨_, _, rfl, rfl, by decide⟩
  | no => exact ⟨_, _, rfl, rfl, by decide⟩
  | int n =>
    obtain ⟨c, ds, hcs, rfl | hd⟩ := (isNumeral_toString n).eq_cons
    · exact ⟨_, _, hcs, rfl, by decide⟩
    · refine ⟨_, _, hcs, not_isBlank_of_isDigit hd, ?_⟩
      rintro rfl
      cases hd
  | real hx => simp [isExact] at hv
  | str hs =>
    cases hs
    exact ⟨_, _, rfl, rfl, by decide⟩
  | noItems => exact ⟨_, _, rfl, rfl, by decide⟩
  | list => exact ⟨_, _, rfl, rfl, by decide⟩
  | noFields => exact ⟨_, _, rfl, rfl, by decide⟩
  | object => exact ⟨_, _, rfl, rfl, by decide⟩

theorem eq_cons_of_items {depth : ℕ} {vs : List Json} {cs : List Char} (h : Separated Blanks (Spells Blanks) ']' vs cs)
    (hvs : areExact depth vs = true) : ∃ c ds, cs = c :: ds ∧ isBlank c = false ∧ c ≠ ']' := by
  cases h with
  | last hv =>
    obtain ⟨c, ds, rfl, hc⟩ := hv.eq_cons (Bool.and_eq_true_iff.mp hvs).1
    exact ⟨c, _, rfl, hc⟩
  | more hv =>
    obtain ⟨c, ds, rfl, hc⟩ := hv.eq_cons (Bool.and_eq_true_iff.mp hvs).1
    exact ⟨c, _, rfl, hc⟩

theorem eq_cons_of_fields {fs : List (String × Json)} {cs : List Char}
    (h : Separated Blanks (IsField Blanks (Spells Blanks)) '}' fs cs) : ∃ ds, cs = '"' :: ds := by
  have hfield : ∀ {f ks}, IsField Blanks (Spells Blanks) f ks → ∃ ds, ks = '"' :: ds := by
    rintro f ks ⟨⟨_⟩, _, _, _⟩
    exact ⟨_, rfl⟩
  cases h with
  | last hf =>
    obtain ⟨ds, rfl⟩ := hfield hf
    exact ⟨_, rfl⟩
  | more hf =>
    obtain ⟨ds, rfl⟩ := hfield hf
    exact ⟨_, rfl⟩

theorem readValue_number (fuel depth : ℕ) {c : Char} (hc : c = '-' ∨ Text.isDigit c = true) (cs : List Char) :
    readValue (fuel + 1) depth (c :: cs) = readNumber (c :: cs) := by
  have hother : ∀ d ∈ ['n', 't', 'f', '"', '[', '{'], c ≠ d := by
    rintro d hd rfl
    simp only [List.mem_cons, List.not_mem_nil, or_false] at hd
    rcases hd with rfl | rfl | rfl | rfl | rfl | rfl <;> simp [Text.isDigit] at hc
  have hblank : isBlank c = false := hc.elim (fun h => h ▸ rfl) not_isBlank_of_isDigit
  rw [readValue, skipBlank_of_not_blank hblank]
  split <;> first
    | rfl
    | next heq => exact absurd (List.cons.inj heq).1 (hother _ (by simp))

theorem readValue_gap {g : List Char} (hg : Blanks g) (fuel depth : ℕ) (cs : List Char) :
    readValue fuel depth (g ++ cs) = readValue fuel depth cs := by
  cases fuel with
  | zero => rfl
  | succ fuel => rw [readValue, readValue, skipBlank_append hg]

theorem readItems_gap {g : List Char} (hg : Blanks g) (fuel depth : ℕ) (cs : List Char) :
    readItems fuel depth (g ++ cs) = readItems fuel depth cs := by
  cases fuel with
  | zero => rfl
  | succ fuel => rw [readItems, readItems, readValue_gap hg]

theorem readMembers_gap {g : List Char} (hg : Blanks g) (fuel depth : ℕ) (fields : List (String × Json))
    (cs : List Char) : readMembers fuel depth fields (g ++ cs) = readMembers fuel depth fields cs := by
  cases fuel with
  | zero => rfl
  | succ fuel => rw [readMembers, readMembers, skipBlank_append hg]

/-- With so much fuel, what was written is read back, and reading stops where the written text ends. -/
structure ReadsBack (fuel : ℕ) : Prop where
  value : ∀ (depth : ℕ) (v : Json) (cs rest : List Char), isExact depth v = true → Spells Blanks v cs →
    2 * cs.length ≤ fuel → EndsNumber rest → readValue fuel depth (cs ++ rest) = some (sorted v, rest)
  items : ∀ (depth : ℕ) (vs : List Json) (cs rest : List Char), areExact depth vs = true →
    Separated Blanks (Spells Blanks) ']' vs cs → 2 * cs.length < fuel →
    readItems fuel depth (cs ++ rest) = some (sortedItems vs, rest)
  members : ∀ (depth : ℕ) (before fs : List (String × Json)) (cs rest : List Char), haveExact depth fs = true →
    Separated Blanks (IsField Blanks (Spells Blanks)) '}' fs cs → 2 * cs.length < fuel →
    readMembers fuel depth before (cs ++ rest) = some (insertAll before (sortedFields fs), rest)

variable {fuel : ℕ}

theorem ReadsBack.list_succ (h : ReadsBack fuel) (depth : ℕ) {vs : List Json} {g cs : List Char} (rest : List Char)
    (hvs : areExact depth vs = true) (hg : Blanks g) (hs : Separated Blanks (Spells Blanks) ']' vs cs)
    (hf : 2 * cs.length < fuel) :
    readValue (fuel + 1) (depth + 1) ('[' :: (g ++ (cs ++ rest))) = some (.list (sortedItems vs), rest) := by
  obtain ⟨c, ds, hcs, hb, hne⟩ := eq_cons_of_items hs hvs
  have hr := h.items depth vs cs rest hvs hs hf
  rw [readValue, skipBlank_of_not_blank rfl]
  simp only [skipBlank_append hg]
  rw [hcs, List.cons_append] at hr ⊢
  simp only [skipBlank_of_not_blank hb]
  split
  · next heq => exact absurd (List.cons.inj heq).1 hne
  · rw [hr]
    rfl

theorem ReadsBack.object_succ (h : ReadsBack fuel) (depth : ℕ) {fs : List (String × Json)} {g cs : List Char}
    (rest : List Char) (hfs : haveExact depth fs = true) (hg : Blanks g)
    (hs : Separated Blanks (IsField Blanks (Spells Blanks)) '}' fs cs) (hf : 2 * cs.length < fuel) :
    readValue (fuel + 1) (depth + 1) ('{' :: (g ++ (cs ++ rest))) = some (.ofFields (sortedFields fs), rest) := by
  obtain ⟨ds, hcs⟩ := eq_cons_of_fields hs
  have hr := h.members depth [] fs cs rest hfs hs hf
  rw [readValue, skipBlank_of_not_blank rfl]
  simp only [skipBlank_append hg]
  rw [hcs, List.cons_append] at hr ⊢
  simp only [skipBlank_of_not_blank (c := '"') rfl]
  split
  · next heq => exact absurd (List.cons.inj heq).1 (by decide)
  · rw [hr]
    rfl

/-- With one more unit of fuel a value is read back, if all that lies inside it is. -/
theorem ReadsBack.value_succ (h : ReadsBack fuel) (depth : ℕ) (v : Json) (cs rest : List Char)
    (hv : isExact depth v = true) (hs : Spells Blanks v cs) (hf : 2 * cs.length ≤ fuel + 1) (hr : EndsNumber rest) :
    readValue (fuel + 1) depth (cs ++ rest) = some (sorted v, rest) := by
  cases hs with
  | null => simp [readValue, skipBlank, isBlank, sorted]
  | yes => simp [readValue, skipBlank, isBlank, sorted]
  | no => simp [readValue, skipBlank, isBlank, sorted]
  | int n =>
    obtain ⟨c, ds, hcs, hc⟩ := (isNumeral_toString n).eq_cons
    have hread := readNumber_toString (of_decide_eq_true hv) hr
    rw [hcs, List.cons_append] at hread ⊢
    rw [readValue_number fuel depth hc, hread]
    rfl
  | real hx => cases hv
  | str hs =>
    obtain ⟨hbody⟩ := hs
    rw [List.cons_append, List.append_assoc, readValue, skipBlank_of_not_blank rfl]
    simp only [List.singleton_append, readChars_of_isBody hbody, Option.map_some, String.ofList_toList]
    rfl
  | noItems hg =>
    cases depth with
    | zero => cases hv
    | succ depth =>
      rw [List.cons_append, List.append_assoc, readValue, skipBlank_of_not_blank rfl]
      simp only [List.singleton_append, skipBlank_close hg (c := ']') rfl]
      rfl
  | list hg hs =>
    cases depth with
    | zero => cases hv
    | succ depth =>
      simp only [List.length_cons, List.length_append] at hf
      rw [List.cons_append, List.append_assoc, h.list_succ depth rest hv hg hs (by omega)]
      rfl
  | noFields hg =>
    cases depth with
    | zero => cases hv
    | succ depth =>
      rw [List.cons_append, List.append_assoc, readValue, skipBlank_of_not_blank rfl]
      simp only [List.singleton_append, skipBlank_close hg (c := '}') rfl]
      rfl
  | object hg hs =>
    cases depth with
    | zero => cases hv
    | succ depth =>
      simp only [List.length_cons, List.length_append] at hf
      rw [List.cons_append, List.append_assoc, h.object_succ depth rest hv hg hs (by omega)]
      rfl

theorem ReadsBack.items_succ (h : ReadsBack fuel) (depth : ℕ) (vs : List Json) (cs rest : List Char)
    (hvs : areExact depth vs = true) (hs : Separated Blanks (Spells Blanks) ']' vs cs) (hf : 2 * cs.length < fuel + 1) :
    readItems (fuel + 1) depth (cs ++ rest) = some (sortedItems vs, rest) := by
  cases hs with
  | @last v cs g hv hg =>
    obtain ⟨hw, _⟩ := Bool.and_eq_true_iff.mp hvs
    simp only [List.length_append] at hf
    simp only [List.append_assoc, List.singleton_append]
    rw [readItems, h.value _ _ _ _ hw hv (by omega) (endsNumber_close hg (by simp) rest)]
    simp only [skipBlank_close hg (c := ']') rfl]
    rfl
  | @more v w ws cs ds g g' hv hg hg' hs =>
    obtain ⟨hw, hws⟩ := Bool.and_eq_true_iff.mp hvs
    simp only [List.length_append, List.length_cons] at hf
    simp only [List.append_assoc, List.cons_append]
    rw [readItems, h.value _ _ _ _ hw hv (by omega) (endsNumber_close hg (by simp) _)]
    simp only [skipBlank_close hg (c := ',') rfl]
    rw [readItems_gap hg', h.items _ _ _ _ hws hs (by omega)]
    rfl

/-- One member is put in; reading ends at a bracket behind it and goes on behind a comma. -/
theorem ReadsBack.member (h : ReadsBack fuel) {depth : ℕ} {key : String} {v : Json} {cs : List Char}
    (hv : isExact depth v = true) (hs : IsField Blanks (Spells Blanks) (key, v) cs) (hf : 2 * cs.length ≤ fuel)
    {rest : List Char} (hr : EndsNumber rest) (before : List (String × Json)) (tail : List Char) :
    (skipBlank rest = '}' :: tail →
      readMembers (fuel + 1) depth before (cs ++ rest) = some (insertEntry key (sorted v) before, tail)) ∧
    (skipBlank rest = ',' :: tail → readMembers (fuel + 1) depth before (cs ++ rest) =
      readMembers fuel depth (insertEntry key (sorted v) before) tail) := by
  obtain ⟨hk, hg, hh, hspelled⟩ := hs
  obtain ⟨hbody⟩ := hk
  simp only [List.length_cons, List.length_append] at hf
  simp only [List.cons_append, List.append_assoc, List.nil_append]
  rw [readMembers, skipBlank_of_not_blank rfl]
  simp only [readChars_of_isBody hbody, skipBlank_close hg (c := ':') rfl, String.ofList_toList]
  have hvalue := h.value _ _ _ _ hv hspelled (by omega) hr
  constructor
  · intro htail
    simp only [readValue_gap hh, hvalue, htail]
  · intro htail
    simp only [readValue_gap hh, hvalue, htail]

/-- The members up to the closing bracket, put into those before them. -/
theorem ReadsBack.members_succ (h : ReadsBack fuel) (depth : ℕ) (before fs : List (String × Json)) (cs rest : List Char)
    (hfs : haveExact depth fs = true) (hs : Separated Blanks (IsField Blanks (Spells Blanks)) '}' fs cs)
    (hf : 2 * cs.length < fuel + 1) :
    readMembers (fuel + 1) depth before (cs ++ rest) = some (insertAll before (sortedFields fs), rest) := by
  cases hs with
  | @last f cs g hfield hg =>
    obtain ⟨hv, _⟩ := Bool.and_eq_true_iff.mp hfs
    simp only [List.length_append] at hf
    simp only [List.append_assoc, List.singleton_append]
    have hend := endsNumber_close hg (c := '}') (by simp) rest
    exact (h.member hv hfield (by omega) hend before rest).1 (skipBlank_close hg rfl rest)
  | @more f f' fs cs ds g g' hfield hg hg' hs =>
    obtain ⟨hv, hgs⟩ := Bool.and_eq_true_iff.mp hfs
    simp only [List.length_append, List.length_cons] at hf
    simp only [List.append_assoc, List.cons_append]
    have hend := endsNumber_close hg (c := ',') (by simp) (g' ++ (ds ++ rest))
    rw [(h.member hv hfield (by omega) hend before _).2 (skipBlank_close hg rfl _), readMembers_gap hg',
      h.members _ _ _ _ _ hgs hs (by omega)]
    rfl

/-- With fuel for its length, every text of the grammar is read back. -/
theorem readsBack (fuel : ℕ) : ReadsBack fuel := by
  induction fuel with
  | zero =>
    refine ⟨?_, ?_, ?_⟩
    · intro depth v cs rest hv hs hf hr
      obtain ⟨c, ds, rfl, _⟩ := hs.eq_cons hv
      rw [List.length_cons] at hf
      omega
    · intro depth vs cs rest hvs hs hf
      omega
    · intro depth before fs cs rest hfs hs hf
      omega
  | succ fuel ih => exact ⟨ih.value_succ, ih.items_succ, ih.members_succ⟩

/-- A text of the grammar is read as its value with the fields in ascending order, whatever blanks follow. -/
theorem read?_of_spells {v : Json} (h : isExact maxDepth v = true) {text : String} (hs : Spells Blanks v text.toList)
    (blanks : String) (hb : Blanks blanks.toList) : read? (text ++ blanks) = some (sorted v) := by
  have hend : EndsNumber [] := by rintro d ⟨⟩
  have hends : EndsNumber blanks.toList := by simpa using hend.append hb
  have hr := (readsBack (2 * (text ++ blanks).toList.length + 2)).value maxDepth v text.toList blanks.toList h hs (by
    rw [String.toList_append, List.length_append]
    omega) hends
  have hskip : skipBlank blanks.toList = [] := by simpa [skipBlank] using skipBlank_append hb []
  unfold read? readChars?
  rw [String.toList_append] at hr ⊢
  simp only [hr, hskip, if_true]

theorem read?_pretty {v : Json} (h : isExact maxDepth v = true) {blanks : String} (hb : Blanks blanks.toList) :
    read? (pretty v ++ blanks) = some (sorted v) := read?_of_spells h (spells_pretty v) blanks hb

end SampleData.Json
