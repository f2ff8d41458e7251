import SampleData.Proofs.DigitTexts

/-! # Groups of a text

A text is cut into groups from the left, and the sizes of the groups count bytes. A cut behind the end of the text or
inside a character would have no answer. Grouping asks first whether the text is ASCII and has as many bytes as the
sizes add up to; then every cut falls inside the rest of the text, so each group has its size and nothing is lost.
-/
namespace SampleData

/-- The cut parts have the sizes asked for and make up the whole text. -/
theorem cut_spec {sizes : List ℕ} {cs : List Char} (h : cs.length = sizes.foldr (· + ·) 0) :
    (cut sizes cs).flatten = cs ∧ (cut sizes cs).map List.length = sizes := by
  induction sizes generalizing cs with
  | nil => exact ⟨(List.eq_nil_of_length_eq_zero h).symm, rfl⟩
  | cons n sizes ih =>
    rw [List.foldr_cons] at h
    have hrest : (cs.drop n).length = sizes.foldr (· + ·) 0 := by
      rw [List.length_drop]
      omega
    obtain ⟨hflat, hlengths⟩ := ih hrest
    have hfirst : (cs.take n).length = n := by
      rw [List.length_take]
      omega
    constructor
    · rw [cut, List.flatten_cons, hflat, List.take_append_drop]
    · rw [cut, List.map_cons, hfirst, hlengths]

theorem length_flatten_eq_foldr {groups : List (List Char)} {sizes : List ℕ} (h : groups.map List.length = sizes) :
    groups.flatten.length = sizes.foldr (· + ·) 0 := by
  subst h
  induction groups with
  | nil => rfl
  | cons g groups ih => rw [List.flatten_cons, List.length_append, ih, List.map_cons, List.foldr_cons]

/-- There is only one way to part a text into groups of given sizes. -/
theorem eq_cut {sizes : List ℕ} {groups : List (List Char)} (h : groups.map List.length = sizes) :
    groups = cut sizes groups.flatten := by
  obtain ⟨hflat, hlengths⟩ := cut_spec (length_flatten_eq_foldr h)
  exact List.eq_iff_flatten_eq.mpr ⟨hflat.symm, h.trans hlengths.symm⟩

theorem utf8ByteSize_ofList_cons (c : Char) (cs : List Char) :
    (String.ofList (c :: cs)).utf8ByteSize = c.utf8Size + (String.ofList cs).utf8ByteSize := by
  have hs : String.ofList (c :: cs) = String.singleton c ++ String.ofList cs := by
    rw [String.singleton_eq_ofList, ← String.ofList_append]
    rfl
  rw [hs, String.utf8ByteSize_append, String.utf8ByteSize_singleton]

theorem Text.AreAscii.utf8ByteSize {cs : List Char} (h : AreAscii cs) :
    (String.ofList cs).utf8ByteSize = cs.length := by
  induction cs with
  | nil => rfl
  | cons c cs ih =>
    obtain ⟨hc, hcs⟩ := List.forall_mem_cons.mp h
    have hone : c.utf8Size = 1 := Char.utf8Size_eq_one_iff.mpr (UInt32.le_iff_toNat_le.mpr (Nat.le_of_lt_succ hc))
    rw [utf8ByteSize_ofList_cons, hone, ih hcs, List.length_cons, Nat.add_comm]

/-- A text parted behind so many bytes. There is no answer where the text has fewer, or a character goes on there. -/
def partAt? : ℕ → List Char → Option (List Char × List Char)
  | 0, cs => some ([], cs)
  | _ + 1, [] => none
  | n + 1, c :: cs =>
    if c.utf8Size ≤ n + 1 then (partAt? (n + 1 - c.utf8Size) cs).map fun parts => (c :: parts.1, parts.2) else none

theorem partAt?_append (head tail : List Char) :
    partAt? (String.ofList head).utf8ByteSize (head ++ tail) = some (head, tail) := by
  induction head with
  | nil => rw [String.ofList_nil, String.utf8ByteSize_empty, partAt?, List.nil_append]
  | cons c head ih =>
    obtain ⟨n, hn⟩ : ∃ n, c.utf8Size = n + 1 := Nat.exists_eq_succ_of_ne_zero (Nat.ne_of_gt c.utf8Size_pos)
    have hsize : (String.ofList (c :: head)).utf8ByteSize = n + (String.ofList head).utf8ByteSize + 1 := by
      rw [utf8ByteSize_ofList_cons, hn]
      omega
    have hrest : n + (String.ofList head).utf8ByteSize + 1 - (n + 1) = (String.ofList head).utf8ByteSize := by omega
    rw [hsize, List.cons_append, partAt?, if_pos (by omega), hn, hrest, ih]
    rfl

/-- `cut` with sizes that count bytes. -/
def cutBytes? : List ℕ → List Char → Option (List (List Char))
  | [], _ => some []
  | n :: sizes, cs =>
    match partAt? n cs with
    | some (head, rest) => (cutBytes? sizes rest).map (head :: ·)
    | none => none

/-- In an ASCII text that is long enough every cut falls inside the rest of the text. -/
theorem cutBytes?_eq {sizes : List ℕ} {cs : List Char} (ha : Text.AreAscii cs)
    (h : sizes.foldr (· + ·) 0 ≤ cs.length) : cutBytes? sizes cs = some (cut sizes cs) := by
  induction sizes generalizing cs with
  | nil => rfl
  | cons n sizes ih =>
    rw [List.foldr_cons] at h
    have hhead : Text.AreAscii (cs.take n) := fun c hc => ha c (List.mem_of_mem_take hc)
    have hsize : (String.ofList (cs.take n)).utf8ByteSize = n := by
      rw [hhead.utf8ByteSize, List.length_take]
      omega
    have hp : partAt? n cs = some (cs.take n, cs.drop n) := by
      have hp := partAt?_append (cs.take n) (cs.drop n)
      rwa [hsize, List.take_append_drop] at hp
    have hrest : cutBytes? sizes (cs.drop n) = some (cut sizes (cs.drop n)) := by
      refine ih (fun c hc => ha c (List.mem_of_mem_drop hc)) ?_
      rw [List.length_drop]
      omega
    simp only [cutBytes?, hp, hrest, Option.map_some, cut]

/-- `groupDigits` on bytes: there is no answer where one of the cuts has none. -/
def groupBytes? (number : String) (sizes : List ℕ) : Option (Except InputFault String) :=
  if number.toList.all (fun c => c.toNat < 128) ∧ number.utf8ByteSize = sizes.foldr (· + ·) 0 then
    (cutBytes? sizes number.toList).map fun groups => .ok (String.ofList ([' '].intercalate groups))
  else some (.error (.groupSizes number sizes))

variable {number : String} {sizes : List ℕ}

theorem all_ascii_iff {cs : List Char} : (cs.all fun c => decide (c.toNat < 128)) = true ↔ Text.AreAscii cs := by
  rw [List.all_eq_true]
  exact forall₂_congr fun c _ => decide_eq_true_iff

theorem utf8ByteSize_of_ascii (h : Text.AreAscii number.toList) : number.utf8ByteSize = number.length := by
  have hs := h.utf8ByteSize
  rwa [String.ofList_toList, String.length_toList] at hs

theorem groupDigits_of_ascii (ha : Text.AreAscii number.toList) (hl : number.toList.length = sizes.foldr (· + ·) 0) :
    groupDigits number sizes = .ok (String.ofList ([' '].intercalate (cut sizes number.toList))) :=
  if_pos ⟨all_ascii_iff.mpr ha, String.length_toList ▸ hl⟩

def FillsGroups (number : String) (sizes : List ℕ) : Prop :=
  Text.AreAscii number.toList ∧ number.utf8ByteSize = sizes.foldr (· + ·) 0

theorem fillsGroups_iff : FillsGroups number sizes ↔
    Text.AreAscii number.toList ∧ number.toList.length = sizes.foldr (· + ·) 0 := by
  refine and_congr_right fun ha => ?_
  rw [utf8ByteSize_of_ascii ha, String.length_toList]

theorem groupDigits_of_fillsGroups (h : FillsGroups number sizes) :
    groupDigits number sizes = .ok (String.ofList ([' '].intercalate (cut sizes number.toList))) :=
  groupDigits_of_ascii h.1 (fillsGroups_iff.mp h).2

theorem groupDigits_of_not_fillsGroups (h : ¬ FillsGroups number sizes) :
    groupDigits number sizes = .error (.groupSizes number sizes) := by
  refine if_neg fun hc => h (fillsGroups_iff.mpr ⟨all_ascii_iff.mp hc.1, ?_⟩)
  rw [String.length_toList]
  exact hc.2

/-- Where the bytes are counted out the text is ASCII, so no cut falls inside a character. -/
theorem groupBytes?_eq (number : String) (sizes : List ℕ) :
    groupBytes? number sizes = some (groupDigits number sizes) := by
  by_cases h : FillsGroups number sizes
  · have hc := cutBytes?_eq h.1 (fillsGroups_iff.mp h).2.ge
    rw [groupDigits_of_fillsGroups h]
    unfold groupBytes?
    rw [if_pos ⟨all_ascii_iff.mpr h.1, h.2⟩, hc]
    rfl
  · rw [groupDigits_of_not_fillsGroups h]
    exact if_neg fun hc => h ⟨all_ascii_iff.mp hc.1, hc.2⟩

structure Groups (number : String) (sizes : List ℕ) (parts : List String) (text : String) : Prop where
  sizes : parts.map String.length = sizes
  whole : String.join parts = number
  joined : " ".intercalate parts = text

theorem groups_cut (h : number.toList.length = sizes.foldr (· + ·) 0) :
    Groups number sizes ((cut sizes number.toList).map String.ofList)
      (String.ofList ([' '].intercalate (cut sizes number.toList))) := by
  obtain ⟨hflat, hlengths⟩ := cut_spec h
  have htexts : ((cut sizes number.toList).map String.ofList).map String.toList = cut sizes number.toList := by
    rw [List.map_map]
    exact List.map_id'' (fun _ => String.toList_ofList) _
  refine ⟨?_, ?_, ?_⟩
  · rw [List.map_map]
    refine Eq.trans (List.map_congr_left fun g _ => ?_) hlengths
    exact String.length_ofList
  · rw [← String.toList_inj, String.toList_join, List.flatMap_def, htexts, hflat]
  · rw [← String.toList_inj, String.toList_intercalate, htexts, String.toList_ofList, String.toList_ofList]

theorem Groups.text_eq {parts : List String} {text : String} (h : Groups number sizes parts text) :
    text = String.ofList ([' '].intercalate (cut sizes number.toList)) := by
  obtain ⟨hsizes, rfl, rfl⟩ := h
  have hlengths : (parts.map String.toList).map List.length = sizes := by
    rw [← hsizes, List.map_map]
    exact List.map_congr_left fun part _ => String.length_toList
  rw [← String.toList_inj, String.toList_intercalate, String.toList_ofList, String.toList_ofList, String.toList_join,
    List.flatMap_def, ← eq_cut hlengths]

/-- A text is grouped where it is ASCII and has as many bytes as the sizes add up to: it is parted into groups of
these sizes, and there is one blank between two groups. Any other text is refused. No cut is made outside the text or
inside a character. -/
theorem grouped_whole (number : String) (sizes : List ℕ) :
    ((∃ text, groupDigits number sizes = .ok text) ↔ FillsGroups number sizes) ∧
    (∀ text, groupDigits number sizes = .ok text ↔ FillsGroups number sizes ∧ ∃ parts, Groups number sizes parts text) ∧
    (∀ fault, groupDigits number sizes = .error fault ↔ ¬ FillsGroups number sizes ∧ fault = .groupSizes number sizes) ∧
    groupBytes? number sizes = some (groupDigits number sizes) := by
  refine ⟨?_, ?_, ?_, groupBytes?_eq number sizes⟩
  · by_cases h : FillsGroups number sizes
    · rw [groupDigits_of_fillsGroups h]
      exact ⟨fun _ => h, fun _ => ⟨_, rfl⟩⟩
    · rw [groupDigits_of_not_fillsGroups h]
      exact ⟨nofun, fun hf => absurd hf h⟩
  · intro text
    by_cases h : FillsGroups number sizes
    · rw [groupDigits_of_fillsGroups h, Except.ok.injEq, and_iff_right h]
      constructor
      · rintro rfl
        exact ⟨_, groups_cut (fillsGroups_iff.mp h).2⟩
      · rintro ⟨parts, hp⟩
        exact hp.text_eq.symm
    · rw [groupDigits_of_not_fillsGroups h]
      exact ⟨nofun, fun hf => absurd hf.1 h⟩
  · intro fault
    by_cases h : FillsGroups number sizes
    · rw [groupDigits_of_fillsGroups h]
      exact ⟨nofun, fun hf => absurd h hf.1⟩
    · rw [groupDigits_of_not_fillsGroups h, Except.error.injEq, and_iff_right h, eq_comm]

/-- Without the question for ASCII, a cut could fall inside a character. -/
example : cutBytes? [1, 1] ['é'] = none := by decide

end SampleData
